import SocialPromotion.Steps.Runs

/-!
# The control flow of an execution

* `Flow` lists how an execution gets from one call to the next without having written a
  row, and `Continues` how it goes on after it wrote one;
* `worker_change`: what a step does to one execution;
* `running_invariant`: the rule by which a property of the pending calls of all executions
  is proved, one goal for each of these ways.
-/

namespace SocialPromotion

open LTS PublishWorkerProcessor PublishingService

/-! ## Between two calls -/

/-- An execution goes on from `call` to a state, and no row was written. -/
inductive Flow (cfg : Config) : Call → State → Prop
  | ends {call : Call} (outcome : Outcome) : Flow cfg call (.ended outcome)
  | dies {call : Call} : Flow cfg call (.crashed call)
  /-- The first reconciliation confirms. -/
  | reconciled {claimed : ClaimedPublishJob} {key : RequestKey} (result : PublishResult) :
      Flow cfg (.reconcileFirst claimed key) (.running (.markReconciled claimed key result))
  /-- It does not, and the adapter may repeat the request. -/
  | repeats {claimed : ClaimedPublishJob} {key : RequestKey}
      (hRepeat : canSafelyRepeatRemoteRequest cfg claimed.job.platform = true) :
      Flow cfg (.reconcileFirst claimed key) (.running (.markRequest claimed key))
  /-- It does not, and the adapter may not. -/
  | defersFirst {claimed : ClaimedPublishJob} {key : RequestKey} (nextRetryAt : Option Time)
      (hRepeat : canSafelyRepeatRemoteRequest cfg claimed.job.platform = false) :
      Flow cfg (.reconcileFirst claimed key) (.running (.recordAmbiguous claimed
        (deferredJob claimed.job) (decide ((deferredJob claimed.job).retryCount ≤ 3)) nextRetryAt))
  | calls {claimed : ClaimedPublishJob} {job : SocialPublishJob} (n : Nat) :
      Flow cfg (.publish claimed job) (.running (.adapterPublish claimed job n))
  | succeeds {claimed : ClaimedPublishJob} {job : SocialPublishJob} {n : Nat}
      {result : PublishResult} (hRemote : result.remotePostId ≠ "") :
      Flow cfg (.adapterPublish claimed job n)
        (.running (.confirm claimed (confirmedBy result job) result))
  /-- The attempt on `job` fails, with an unknown outcome. -/
  | ambiguous {call : Call} {claimed : ClaimedPublishJob} {job : SocialPublishJob}
      {failure : PublishFailure}
      (hCall : call = .publish claimed job ∨ ∃ n, call = .adapterPublish claimed job n) :
      Flow cfg call (.running (.reconcileAfter claimed job (fail job failure.code failure.message)))
  /-- The attempt on `job` fails for certain. -/
  | fails {call : Call} {claimed : ClaimedPublishJob} {job failed : SocialPublishJob}
      {error : ThrownError} {failure : PublishFailure} (nextRetryAt : Option Time)
      (hCall : call = .publish claimed job ∨ ∃ n, call = .adapterPublish claimed job n)
      (hFailed : (∃ code message, failed = fail job code message) ∨
        failed = job ∧ ¬ (job.status = .remoteRequesting ∧ job.remoteRequestKey.isSome)) :
      Flow cfg call (.running (.saveFailed claimed failed error failure
        (shouldRetryPublish failure failed.retryCount) nextRetryAt))
  | reconciledAfter {claimed : ClaimedPublishJob} {job failed : SocialPublishJob}
      (result : PublishResult) : Flow cfg (.reconcileAfter claimed job failed)
        (.running (.confirm claimed (confirmedBy result job) result))
  | defersAfter {claimed : ClaimedPublishJob} {job failed : SocialPublishJob}
      (nextRetryAt : Option Time) : Flow cfg (.reconcileAfter claimed job failed)
        (.running (.recordAmbiguous claimed (deferredJob failed)
          (decide ((deferredJob failed).retryCount ≤ 3)) nextRetryAt))

section Flow

variable {cfg : Config} {claimed : ClaimedPublishJob} {job failed : SocialPublishJob}
  {key : RequestKey} {date : Time} {call : Call}

theorem defer_cases (claimed : ClaimedPublishJob) (job : SocialPublishJob) (date : Time) :
    deferAmbiguousRemoteOutcome claimed job date = .ended .raised ∨
      ∃ nextRetryAt, deferAmbiguousRemoteOutcome claimed job date =
        .running (.recordAmbiguous claimed (deferredJob job)
          (decide ((deferredJob job).retryCount ≤ 3)) nextRetryAt) := by
  unfold deferAmbiguousRemoteOutcome
  dsimp only
  split
  · exact Or.inr ⟨_, rfl⟩
  · exact Or.inl rfl

theorem flow_reconcileFirst (answer : Except ThrownError PublishReconciliation) :
    Flow cfg (.reconcileFirst claimed key) (afterReconcileFirst cfg claimed key date answer) := by
  have hDefers : Flow cfg (.reconcileFirst claimed key)
      (if canSafelyRepeatRemoteRequest cfg claimed.job.platform then
        .running (.markRequest claimed key)
      else deferAmbiguousRemoteOutcome claimed claimed.job date) := by
    split
    · rename_i hRepeat
      exact .repeats hRepeat
    · rename_i hRepeat
      rcases defer_cases claimed claimed.job date with hDefer | ⟨nextRetryAt, hDefer⟩
      · rw [hDefer]
        exact .ends _
      · rw [hDefer]
        exact .defersFirst nextRetryAt (Bool.eq_false_of_not_eq_true hRepeat)
  match answer with
  | .error _ => exact .ends _
  | .ok (.confirmed result) => exact .reconciled result
  | .ok .notFound => exact hDefers
  | .ok .unknown => exact hDefers
  | .ok .unsupported => exact hDefers

theorem flow_reconcileAfter (answer : Except ThrownError PublishReconciliation) :
    Flow cfg (.reconcileAfter claimed job failed)
      (afterReconcileAfter claimed job failed date answer) := by
  have hDefers : Flow cfg (.reconcileAfter claimed job failed)
      (deferAmbiguousRemoteOutcome claimed failed date) := by
    rcases defer_cases claimed failed date with hDefer | ⟨nextRetryAt, hDefer⟩
    · rw [hDefer]
      exact .ends _
    · rw [hDefer]
      exact .defersAfter nextRetryAt
  match answer with
  | .error _ => exact .ends _
  | .ok (.confirmed result) => exact .reconciledAfter result
  | .ok .notFound => exact hDefers
  | .ok .unknown => exact hDefers
  | .ok .unsupported => exact hDefers

/-- A failed attempt, from the execution that reports it. -/
theorem flow_failed {error : ThrownError} {failure : PublishFailure}
    (hCall : call = .publish claimed job ∨ ∃ n, call = .adapterPublish claimed job n)
    (hFailed : failed = fail job failure.code failure.message ∨ failure.ambiguous = false ∧
      ((∃ code message, failed = fail job code message) ∨
        failed = job ∧ ¬ (job.status = .remoteRequesting ∧ job.remoteRequestKey.isSome))) :
    Flow cfg call (afterPublish claimed job date (.failed failed error failure)) := by
  simp only [afterPublish]
  split
  · rename_i hAmbiguous
    rcases hFailed with rfl | ⟨hDefinite, -⟩
    · exact .ambiguous hCall
    · simp [hDefinite] at hAmbiguous
  · split
    · refine .fails _ hCall ?_
      rcases hFailed with hFailed | ⟨-, hFailed⟩
      · exact Or.inl ⟨_, _, hFailed⟩
      · exact hFailed
    · exact .ends _

theorem flow_failedWith {error : ThrownError}
    (hCall : call = .publish claimed job ∨ ∃ n, call = .adapterPublish claimed job n) :
    Flow cfg call (afterPublish claimed job date (failedWith job error)) :=
  flow_failed hCall (Or.inl rfl)

/-- An execution that settles without a provider call. -/
theorem flow_settled {execution : PublishExecution}
    (h : publishStart cfg claimed.post job = .settled execution) :
    Flow cfg (.publish claimed job) (afterPublish claimed job date execution) := by
  unfold publishStart at h
  dsimp only at h
  split at h
  · rename_i hStatus
    injection h with h
    subst h
    exact flow_failed (Or.inl rfl) (Or.inr ⟨rfl, Or.inr ⟨rfl, fun h => hStatus h.1⟩⟩)
  · split at h
    · rename_i hKey
      injection h with h
      subst h
      refine flow_failed (Or.inl rfl) (Or.inr ⟨rfl, Or.inr ⟨rfl, fun h => ?_⟩⟩)
      simp [hKey] at h
    · split at h
      · injection h with h
        subst h
        exact flow_failed (Or.inl rfl) (Or.inl rfl)
      · split at h
        · injection h with h
          subst h
          exact flow_failedWith (Or.inl rfl)
        · injection h

theorem flow_adapterReturned {n : Nat} (answer : Except ThrownError PublishResult) :
    Flow cfg (.adapterPublish claimed job n)
      (afterPublish claimed job date (publishFinish job answer)) := by
  unfold publishFinish
  split
  · exact flow_failedWith (Or.inr ⟨n, rfl⟩)
  · split
    · exact flow_failedWith (Or.inr ⟨n, rfl⟩)
    · rename_i hRemote
      exact .succeeds hRemote

end Flow

/-- An execution goes on from `call`, which wrote the row `new`. -/
inductive Continues (w : Worker) : Call → SocialPublishJob → State → Prop
  | ends {call : Call} {new : SocialPublishJob} (outcome : Outcome) :
      Continues w call new (.ended outcome)
  | recovers {new : SocialPublishJob} (post : Post) (hStatus : new.status = .remoteConfirmed)
      (hRemote : new.remotePostId.any fun id => id ≠ "") (hPublished : new.publishedAt.isSome) :
      Continues w .claimPublishJob new (.running (.saveRecovered ⟨post, new⟩))
  | reconciles {new : SocialPublishJob} {key : RequestKey} (post : Post)
      (hKey : new.remoteRequestKey = some key)
      (hOther : ¬ (new.status = .remoteConfirmed ∧ (new.remotePostId.any fun id => id ≠ "") ∧
        new.publishedAt.isSome)) :
      Continues w .claimPublishJob new (.running (.reconcileFirst ⟨post, new⟩ key))
  | requests {new : SocialPublishJob} (post : Post) (hKey : new.remoteRequestKey = none) :
      Continues w .claimPublishJob new
        (.running (.markRequest ⟨post, new⟩ (.socialPublish new.id)))
  | confirms {claimed : ClaimedPublishJob} {key : RequestKey} {result : PublishResult}
      {new : SocialPublishJob} : Continues w (.markReconciled claimed key result) new
        (.running (.confirm claimed (confirmedBy result new) result))
  | publishes {claimed : ClaimedPublishJob} {key : RequestKey} {new : SocialPublishJob} :
      Continues w (.markRequest claimed key) new (.running (.publish claimed new))
  | saves {claimed : ClaimedPublishJob} {job : SocialPublishJob} {result : PublishResult}
      {new : SocialPublishJob} : Continues w (.confirm claimed job result) new
        (.running (.savePublished claimed new result))

theorem isSome_nonEmpty {text : Option String} :
    (nonEmpty text).isSome = text.any fun t => t ≠ "" := by
  cases text with
  | none => rfl
  | some t =>
    by_cases h : t = ""
    · simp [nonEmpty, Option.filter, h]
    · simp [nonEmpty, Option.filter, h]

theorem continues_claim (w : Worker) (post : Post) (new : SocialPublishJob) :
    Continues w .claimPublishJob new (afterClaim (some ⟨post, new⟩)) := by
  unfold afterClaim
  dsimp only
  rw [isSome_nonEmpty]
  split
  · rename_i hRecovered
    exact .recovers post hRecovered.1 hRecovered.2.1 hRecovered.2.2
  · rename_i hOther
    split
    · rename_i key hKey
      exact .reconciles post hKey hOther
    · rename_i hKey
      exact .requests post hKey

theorem continues_matched {w : Worker} {now : Time} {db : Database} {call : Call}
    {old : SocialPublishJob} (hCond : call.condition w now db old = true) :
    Continues w call (call.set w now old) (call.matched w db (call.set w now old)) := by
  cases call with
  | claimPublishJob =>
    obtain ⟨post, hPost, -⟩ := exists_post_of_claimable hCond
    have hPost' : db.posts.lookup (Call.claimPublishJob.set w now old).postId = some post := hPost
    simp only [Call.matched, hPost', Option.map_some]
    exact continues_claim w _ _
  | markReconciled => exact .confirms
  | markRequest => exact .publishes
  | confirm => exact .saves
  | _ => exact .ends _

/-! ## One execution in one step -/

/-- What a step makes of execution `k`. -/
inductive WorkerChange (cfg : Config) (s : PublishingState) (e : Event) (s' : PublishingState)
    (k : Nat) : Worker → Prop
  | kept {w : Worker} (hWorker : s.workers[k]? = some w) : WorkerChange cfg s e s' k w
  | started {w : Worker} (hIndex : k = s.workers.length)
      (hState : w.state = .running .claimPublishJob)
      (hJob : s.startedJob e = some w.publishJobId) : WorkerChange cfg s e s' k w
  | flowed {w : Worker} {call : Call} {state : State} (hWorker : s.workers[k]? = some w)
      (hState : w.state = .running call) (hFlow : Flow cfg call state) (hDb : s'.db = s.db) :
      WorkerChange cfg s e s' k { w with state := state }
  | wrote {w : Worker} {call : Call} {old : SocialPublishJob} {state : State}
      (hWorker : s.workers[k]? = some w) (hState : w.state = .running call)
      (hCond : call.condition w s.clock s.db old = true)
      (hChecks : (call.set w s.clock old).Checks)
      (hWritten : RowWritten s.db (call.target w) old (call.set w s.clock old) s'.db)
      (hNext : Continues w call (call.set w s.clock old) state) :
      WorkerChange cfg s e s' k { w with state := state }

/-- Where the execution at an index came from. -/
theorem worker_change {cfg : Config} {s s' : PublishingState} {e : Event}
    (h : StepKind cfg s e s') {k : Nat} {w' : Worker} (hGet : s'.workers[k]? = some w') :
    WorkerChange cfg s e s' k w' := by
  -- a step that moves execution `i` along the flow
  have hFlowed : ∀ {i : Nat} {w : Worker} {call : Call} {state : State},
      w.state = .running call → WorkerMoved s i w state s' → Flow cfg call state →
      s'.db = s.db → WorkerChange cfg s e s' k w' := by
    intro i w call state hState hMoved hFlow hDb
    rcases hMoved.cases hGet with ⟨rfl, rfl⟩ | ⟨-, hWorker⟩
    · exact .flowed hMoved.1 hState hFlow hDb
    · exact .kept hWorker
  cases h with
  | quiet hWorkers => exact .kept (hWorkers.workers ▸ hGet)
  | started hCall hWorkers _ _ _ hJob =>
    rcases started_cases hWorkers hGet with ⟨hIndex, hSame⟩ | hWorker
    · exact .started hIndex (hSame ▸ hCall) (hSame ▸ hJob)
    · exact .kept hWorker
  | created hWorkers => exact .kept (hWorkers.workers ▸ hGet)
  | edited hWorkers => exact .kept (hWorkers.workers ▸ hGet)
  | wrote hState hMoved hNext hCond hChecks hWritten =>
    rcases hMoved.cases hGet with ⟨rfl, rfl⟩ | ⟨-, hWorker⟩
    · refine .wrote hMoved.1 hState hCond hChecks hWritten ?_
      rcases hNext with ⟨rfl, -⟩ | ⟨-, rfl⟩
      · exact .ends _
      · exact continues_matched hCond
    · exact .kept hWorker
  | @unwritten i result w call state _ hState hMoved hNext hDb =>
    refine hFlowed hState hMoved ?_ hDb
    rcases hNext with ⟨rfl, -⟩ | ⟨-, rfl, -⟩
    · exact .ends _
    · cases call <;> exact .ends _
  | reconcileFirst hState hMoved hDb => exact hFlowed hState hMoved (flow_reconcileFirst _) hDb
  | reconcileAfter hState hMoved hDb => exact hFlowed hState hMoved (flow_reconcileAfter _) hDb
  | publishSettled hState hStart hMoved hDb =>
    exact hFlowed hState hMoved (flow_settled hStart) hDb
  | publishCalled hState hStart hMoved hDb => exact hFlowed hState hMoved (.calls _) hDb
  | adapterReturned hState hMoved hDb => exact hFlowed hState hMoved (flow_adapterReturned _) hDb
  | crashed hState hMoved hDb => exact hFlowed hState hMoved .dies hDb

/-- A repository call that an execution waits for can go well. -/
theorem repository_step {cfg : Config} {s : PublishingState} {k : Nat} {w : Worker} {call : Call}
    {after : State × Database} (hWorker : s.workers[k]? = some w)
    (hState : w.state = .running call) (hAfter : repositoryCall w s.clock s.db call = some after) :
    (publishingSystem cfg).step s (.repository k .returned) =
      some { s.setWorker k w after.1 with db := after.2 } := by
  show s.repositoryStep k .returned = _
  simp [PublishingState.repositoryStep, hWorker, hState, hAfter, CallResult.leaves,
    CallResult.performed]

/-- A repository call that matches its row, writes what the constraints allow and is not
blocked does go well. -/
theorem repository_writes (cfg : Config) {s : PublishingState} {k : Nat} {w : Worker}
    {call : Call} {old : SocialPublishJob} {after : State × Database}
    (hWorker : s.workers[k]? = some w) (hState : w.state = .running call)
    (hAfter : repositoryCall w s.clock s.db call = some after)
    (hRow : s.db.job? (call.target w) = some old)
    (hCond : call.condition w s.clock s.db old = true) (hChecks : (call.set w s.clock old).Checks)
    (hFree : ¬ call.Blocked s.db (call.set w s.clock old)) :
    ∃ t, (publishingSystem cfg).step s (.repository k .returned) = some t ∧
      t.workers[k]? = some { w with state := call.matched w s.db (call.set w s.clock old) } ∧
      RowWritten s.db (call.target w) old (call.set w s.clock old) t.db ∧ t.clock = s.clock := by
  have hStep := @repository_step cfg _ _ _ _ _ hWorker hState hAfter
  have hSame : ∀ before, s.db.job? (call.target w) = some before → before = old := by
    intro before hBefore
    rw [hRow, Option.some.injEq] at hBefore
    exact hBefore.symm
  cases repositoryCall_cases hAfter with
  | @wrote before db' _ _ hWritten =>
    obtain rfl := hSame before hWritten.found
    refine ⟨_, hStep, ?_, hWritten, rfl⟩
    exact List.getElem?_set_self (List.getElem?_eq_some_iff.mp hWorker).1
  | none hNone =>
    rw [hNone old hRow] at hCond
    injection hCond
  | @failed before hBefore _ hFail =>
    obtain rfl := hSame before hBefore
    exact (hFail.elim (fun hNot => hNot hChecks) hFree).elim

/-! ## One provider call in one step -/

/-- What a step makes of provider call `n`. -/
inductive CallChange (cfg : Config) (s s' : PublishingState) (n : Nat) : PublishCall → Prop
  | kept {c : PublishCall} (hCall : s.calls[n]? = some c) : CallChange cfg s s' n c
  | made {i : Nat} {w : Worker} {claimed : ClaimedPublishJob} {job : SocialPublishJob}
      {post : SocialPost} {request : PublishRequest} (hIndex : n = s.calls.length)
      (hState : w.state = .running (.publish claimed job))
      (hStart : publishStart cfg claimed.post job = .call post request)
      (hMoved : WorkerMoved s i w (.running (.adapterPublish claimed job n)) s')
      (hDb : s'.db = s.db) : CallChange cfg s s' n ⟨i, job.id, post, request, none⟩
  | answered {i : Nat} {w : Worker} {claimed : ClaimedPublishJob} {job : SocialPublishJob}
      {c : PublishCall} {answer : Except ThrownError PublishResult} {date : Time}
      (hCall : s.calls[n]? = some c)
      (hState : w.state = .running (.adapterPublish claimed job n))
      (hMoved : WorkerMoved s i w
        (afterPublish claimed job date (publishFinish job answer)) s')
      (hDb : s'.db = s.db) : CallChange cfg s s' n { c with answer := some answer }

/-- Where a request that is recorded came from. -/
theorem call_change {cfg : Config} {s s' : PublishingState} {e : Event}
    (h : StepKind cfg s e s') {n : Nat} {c : PublishCall} (hCall : s'.calls[n]? = some c) :
    CallChange cfg s s' n c := by
  cases h with
  | quiet hWorkers => exact .kept (hWorkers.calls ▸ hCall)
  | started _ _ hCalls => exact .kept (hCalls ▸ hCall)
  | created hWorkers => exact .kept (hWorkers.calls ▸ hCall)
  | edited hWorkers => exact .kept (hWorkers.calls ▸ hCall)
  | wrote _ _ _ _ _ _ hCalls => exact .kept (hCalls ▸ hCall)
  | unwritten _ _ _ _ hCalls => exact .kept (hCalls ▸ hCall)
  | reconcileFirst _ _ _ hCalls => exact .kept (hCalls ▸ hCall)
  | reconcileAfter _ _ _ hCalls => exact .kept (hCalls ▸ hCall)
  | publishSettled _ _ _ _ hCalls => exact .kept (hCalls ▸ hCall)
  | publishCalled hState hStart hMoved hDb hCalls =>
    rw [hCalls, List.getElem?_append] at hCall
    split at hCall
    · exact .kept hCall
    · have hLt := (List.getElem?_eq_some_iff.mp hCall).1
      have hMem := List.mem_singleton.mp (List.mem_of_getElem? hCall)
      rw [List.length_singleton] at hLt
      obtain rfl : n = s.calls.length := by omega
      exact hMem ▸ .made rfl hState hStart hMoved hDb
  | @adapterReturned _ _ _ _ _ _ m _ hState hMoved hDb hCalls =>
    rw [hCalls, List.getElem?_modify] at hCall
    obtain ⟨c₀, hOld, rfl⟩ := Option.map_eq_some_iff.mp hCall
    by_cases hEq : m = n
    · subst hEq
      rw [if_pos rfl]
      exact .answered hOld hState hMoved hDb
    · rw [if_neg hEq]
      exact .kept hOld
  | crashed _ _ _ hCalls => exact .kept (hCalls ▸ hCall)

/-! ## Executions that do not run -/

/-- An execution that does not run does not move. -/
theorem worker_stays {cfg : Config} {s s' : PublishingState} {e : Event}
    (h : StepKind cfg s e s') {k : Nat} {w : Worker} (hWorker : s.workers[k]? = some w)
    (hStopped : ∀ call, w.state ≠ .running call) : s'.workers[k]? = some w := by
  have hMoved : ∀ {i : Nat} {w' : Worker} {call : Call} {state : State},
      w'.state = .running call → WorkerMoved s i w' state s' → s'.workers[k]? = some w := by
    intro i w' call state hState hMoved
    rw [hMoved.other, hWorker]
    rintro rfl
    rw [hMoved.1, Option.some.injEq] at hWorker
    exact hStopped call (hWorker ▸ hState)
  cases h with
  | quiet hWorkers => exact hWorkers.workers ▸ hWorker
  | started _ hWorkers =>
    rw [hWorkers, List.getElem?_append_left (List.getElem?_eq_some_iff.mp hWorker).1]
    exact hWorker
  | created hWorkers => exact hWorkers.workers ▸ hWorker
  | edited hWorkers => exact hWorkers.workers ▸ hWorker
  | wrote hState hM => exact hMoved hState hM
  | unwritten hState hM => exact hMoved hState hM
  | reconcileFirst hState hM => exact hMoved hState hM
  | reconcileAfter hState hM => exact hMoved hState hM
  | publishSettled hState _ hM => exact hMoved hState hM
  | publishCalled hState _ hM => exact hMoved hState hM
  | adapterReturned hState hM => exact hMoved hState hM
  | crashed hState hM => exact hMoved hState hM

/-- An execution is never forgotten. -/
theorem worker_kept {cfg : Config} {s s' : PublishingState} {e : Event}
    (h : StepKind cfg s e s') {k : Nat} {w : Worker} (hWorker : s.workers[k]? = some w) :
    ∃ w', s'.workers[k]? = some w' ∧ w'.publishJobId = w.publishJobId := by
  have hMoved : ∀ {i : Nat} {w' : Worker} {state : State}, WorkerMoved s i w' state s' →
      ∃ w'', s'.workers[k]? = some w'' ∧ w''.publishJobId = w.publishJobId := by
    intro i w' state hMoved
    by_cases hk : k = i
    · subst hk
      have hSame := hMoved.1
      rw [hWorker, Option.some.injEq] at hSame
      exact ⟨_, hMoved.self, by rw [hSame]⟩
    · exact ⟨w, by rw [hMoved.other hk, hWorker], rfl⟩
  cases h with
  | quiet hWorkers => exact ⟨w, hWorkers.workers ▸ hWorker, rfl⟩
  | started _ hWorkers =>
    refine ⟨w, ?_, rfl⟩
    rw [hWorkers, List.getElem?_append_left (List.getElem?_eq_some_iff.mp hWorker).1]
    exact hWorker
  | created hWorkers => exact ⟨w, hWorkers.workers ▸ hWorker, rfl⟩
  | edited hWorkers => exact ⟨w, hWorkers.workers ▸ hWorker, rfl⟩
  | wrote _ hM => exact hMoved hM
  | unwritten _ hM => exact hMoved hM
  | reconcileFirst _ hM => exact hMoved hM
  | reconcileAfter _ hM => exact hMoved hM
  | publishSettled _ _ hM => exact hMoved hM
  | publishCalled _ _ hM => exact hMoved hM
  | adapterReturned _ hM => exact hMoved hM
  | crashed _ hM => exact hMoved hM

/-! ## Executions one after another -/

/-- The execution waits for a call. -/
def PublishWorkerProcessor.State.isRunning : State → Bool
  | .running _ => true
  | _ => false

/-- No execution of the job is running. -/
def PublishingState.idle (s : PublishingState) (j : JobId) : Bool :=
  s.workers.all fun w => w.publishJobId ≠ j || !w.state.isRunning

/-- The step starts no execution of a job that is being processed. -/
def NonOverlapping (s : PublishingState) (e : Event) : Prop :=
  (s.startedJob e).all s.idle = true

instance (s : PublishingState) (e : Event) : Decidable (NonOverlapping s e) :=
  inferInstanceAs (Decidable (_ = _))

/-- Execution `k` is running for job `j`. -/
def RunsAt (s : PublishingState) (j : JobId) (k : Nat) : Prop :=
  ∃ w call, s.workers[k]? = some w ∧ w.publishJobId = j ∧ w.state = .running call

theorem not_runsAt_of_idle {s : PublishingState} {j : JobId} {k : Nat} (h : s.idle j = true) :
    ¬ RunsAt s j k := by
  rintro ⟨w, call, hWorker, rfl, hState⟩
  have hIdle := List.all_eq_true.mp h w (List.mem_of_getElem? hWorker)
  simp [hState, State.isRunning] at hIdle

/-- An execution that runs after a step ran before it, or was started by it. -/
theorem runsAt_origin {cfg : Config} {s s' : PublishingState} {e : Event}
    (h : StepKind cfg s e s') {j : JobId} {k : Nat} (hRuns : RunsAt s' j k) :
    RunsAt s j k ∨ k = s.workers.length ∧ s.startedJob e = some j := by
  obtain ⟨w, call, hGet, rfl, hState⟩ := hRuns
  cases worker_change h hGet with
  | kept hWorker => exact Or.inl ⟨w, call, hWorker, rfl, hState⟩
  | started hIndex _ hJob => exact Or.inr ⟨hIndex, hJob⟩
  | flowed hWorker hState' => exact Or.inl ⟨_, _, hWorker, rfl, hState'⟩
  | wrote hWorker hState' => exact Or.inl ⟨_, _, hWorker, rfl, hState'⟩

/-- While the only running execution of a job runs, a step without overlap starts no other. -/
theorem alone_step {cfg : Config} {s s' : PublishingState} {e : Event}
    (h : StepKind cfg s e s') (hGuard : NonOverlapping s e) {j : JobId} {k : Nat}
    (hRuns : RunsAt s j k) (hAlone : ∀ k', RunsAt s j k' → k' = k) {k' : Nat}
    (hRuns' : RunsAt s' j k') : k' = k := by
  rcases runsAt_origin h hRuns' with hOld | ⟨-, hJob⟩
  · exact hAlone k' hOld
  · rw [NonOverlapping, hJob] at hGuard
    exact absurd hRuns (not_runsAt_of_idle hGuard)

/-- In runs without overlap at most one execution of a job is running. -/
theorem runsAt_unique {cfg : Config} {ok : PublishingState → Event → Prop} {s : PublishingState}
    (h : Reachable (publishingSystem cfg) ok s) (hOk : ∀ s e, ok s e → NonOverlapping s e)
    {j : JobId} {k k' : Nat} (hRuns : RunsAt s j k) (hRuns' : RunsAt s j k') : k = k' := by
  refine h.invariant (I := fun s => ∀ j k k', RunsAt s j k → RunsAt s j k' → k = k')
    (fun s hInit j k k' hk => ?_) (fun s e t hInv hGuard hStep j k k' hk hk' => ?_) j k k' hRuns
    hRuns'
  · obtain ⟨w, call, hWorker, -⟩ := hk
    rw [hInit.2.2.1] at hWorker
    injection hWorker
  · have hKind := step_kind hStep
    have hGuard' := hOk s e hGuard
    rcases runsAt_origin hKind hk with hOld | ⟨hIndex, -⟩
    · exact (alone_step hKind hGuard' hOld (fun k₁ h₁ => hInv j k₁ k h₁ hOld) hk').symm
    · rcases runsAt_origin hKind hk' with hOld' | ⟨hIndex', -⟩
      · exact alone_step hKind hGuard' hOld' (fun k₁ h₁ => hInv j k₁ k' h₁ hOld') hk
      · exact hIndex.trans hIndex'.symm

/-! ## Properties of pending calls -/

/-- The call that an execution waits for, or died in. -/
def PublishWorkerProcessor.State.call? : State → Option Call
  | .running call | .crashed call => some call
  | .ended _ => none

/-- Every call that an execution waits for, or died in, satisfies `P` for its job. -/
def Pending (P : JobId → Call → Prop) (s : PublishingState) : Prop :=
  ∀ (k : Nat) (w : Worker) (call : Call), s.workers[k]? = some w →
    w.state.call? = some call → P w.publishJobId call

theorem Pending.running {P : JobId → Call → Prop} {s : PublishingState} (h : Pending P s)
    {k : Nat} {w : Worker} {call : Call} (hWorker : s.workers[k]? = some w)
    (hState : w.state = .running call) : P w.publishJobId call :=
  h k w call hWorker (by rw [hState]; rfl)

/-- **One step** takes a property `P` of pending calls to a property `Q`, when `Q` holds of
the claim, follows from `P` for the calls that stay pending, and is handed on from a call
with `P` to the next. -/
theorem Pending.step {cfg : Config} {s s' : PublishingState} {e : Event}
    {P Q : JobId → Call → Prop} (hKind : StepKind cfg s e s') (h : Pending P s)
    (hKeep : ∀ j call, P j call → Q j call) (hStart : ∀ j, Q j .claimPublishJob)
    (hFlow : ∀ j call call', P j call → Flow cfg call (.running call') → Q j call')
    (hWrote : ∀ (k : Nat) (w : Worker) (call : Call) (old : SocialPublishJob) (call' : Call),
      s.workers[k]? = some w → w.state = .running call → P w.publishJobId call →
      call.condition w s.clock s.db old = true → (call.set w s.clock old).Checks →
      RowWritten s.db (call.target w) old (call.set w s.clock old) s'.db →
      Continues w call (call.set w s.clock old) (.running call') → Q w.publishJobId call') :
    Pending Q s' := by
  intro k w' call' hGet hCall
  cases worker_change hKind hGet with
  | kept hWorker => exact hKeep _ _ (h k w' call' hWorker hCall)
  | started _ hState =>
    rw [hState] at hCall
    exact Option.some.inj hCall ▸ hStart _
  | @flowed w call state hWorker hState hFlowed _ =>
    have hP := h.running hWorker hState
    cases state with
    | running next => exact Option.some.inj hCall ▸ hFlow _ _ _ hP hFlowed
    | ended outcome => injection hCall
    | crashed next =>
      cases hFlowed
      exact Option.some.inj hCall ▸ hKeep _ _ hP
  | @wrote w call old state hWorker hState hCond hChecks hWritten hNext =>
    have hP := h.running hWorker hState
    cases state with
    | running next =>
      exact Option.some.inj hCall ▸
        hWrote k w call old next hWorker hState hP hCond hChecks hWritten hNext
    | ended outcome => injection hCall
    | crashed next => cases hNext

end SocialPromotion
