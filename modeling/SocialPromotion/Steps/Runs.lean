import SocialPromotion.Steps.Calls
import SocialPromotion.Steps.Operations

/-!
# What one step of the system does

* `step_kind`: what each step of `publishingSystem` does to the job rows, the posts, the
  executions and the provider calls. Invariants about these are proved from it, one case
  for each kind of step, without unfolding the model again.
-/

namespace SocialPromotion

open PublishWorkerProcessor

/-! ## Steps of the dispatchers -/

theorem claimOutbox_db (limit leaseMs : Nat) (now : Time) (locked : List JobId)
    (db : Database) : ∃ outbox,
      (PgPublishOutboxRepository.claimOutbox limit leaseMs now locked db).2 =
        { db with outbox := outbox } := by
  unfold PgPublishOutboxRepository.claimOutbox
  generalize PgPublishOutboxRepository.outboxCandidates db limit now locked = ids
  have hLoop : ∀ (acc : List PublishQueueRecord × Database),
      (∃ outbox, acc.2 = { db with outbox := outbox }) → ∃ outbox,
        (ids.foldl (PgPublishOutboxRepository.claimOutboxRow leaseMs now) acc).2 =
          { db with outbox := outbox } := by
    induction ids with
    | nil => exact fun _ h => h
    | cons id rest ih =>
      intro acc hAcc
      refine ih _ ?_
      obtain ⟨outbox, hAcc⟩ := hAcc
      unfold PgPublishOutboxRepository.claimOutboxRow
      dsimp only
      split
      · split
        · exact ⟨_, by rw [hAcc]⟩
        · exact ⟨outbox, hAcc⟩
      · exact ⟨outbox, hAcc⟩
  exact hLoop ([], db) ⟨db.outbox, rfl⟩

theorem updateOutboxRecord_db (record : PublishQueueRecord) (set : OutboxRow → OutboxRow)
    (db : Database) : ∃ outbox,
      PgPublishOutboxRepository.updateOutboxRecord record set db =
        { db with outbox := outbox } := by
  unfold PgPublishOutboxRepository.updateOutboxRecord
  split
  · split
    · exact ⟨_, rfl⟩
    · exact ⟨db.outbox, rfl⟩
  · exact ⟨db.outbox, rfl⟩

theorem leaves_outbox {result : CallResult} {db db' : Database}
    (h : ∃ outbox, db' = { db with outbox := outbox }) :
    ∃ outbox, result.leaves db db' = { db with outbox := outbox } := by
  unfold CallResult.leaves
  split
  · exact h
  · exact ⟨db.outbox, rfl⟩

/-- A dispatcher writes the outbox and nothing else. -/
theorem dispatcher_db {result : CallResult} {now date : Time} {locked : List JobId}
    {db db' : Database} {queue queue' : List QueuedJob} {state state' : PublishingQueue.State}
    (h : PublishingQueue.step result now date locked db queue state =
      some (state', db', queue')) : ∃ outbox, db' = { db with outbox := outbox } := by
  unfold PublishingQueue.step at h
  split at h
  all_goals simp only [Option.some.injEq, Prod.mk.injEq, reduceCtorEq] at h
  all_goals obtain ⟨-, rfl, -⟩ := h
  · exact leaves_outbox (claimOutbox_db ..)
  · exact ⟨_, rfl⟩
  · exact leaves_outbox (updateOutboxRecord_db ..)
  · exact leaves_outbox (updateOutboxRecord_db ..)

theorem updateAlert_db (id : JobId) (condition : FailureAlertRow → Bool)
    (set : FailureAlertRow → FailureAlertRow) (db : Database) : ∃ alerts,
      FailureAlertService.updateAlert id condition set db = { db with alerts := alerts } := by
  unfold FailureAlertService.updateAlert
  split
  · split
    · exact ⟨_, rfl⟩
    · exact ⟨db.alerts, rfl⟩
  · exact ⟨db.alerts, rfl⟩

theorem claimAlerts_db (limit : Int) (now : Time) (locked : List JobId) (db : Database) :
    ∃ alerts, (FailureAlertService.claim limit now locked db).2 =
      { db with alerts := alerts } := by
  unfold FailureAlertService.claim
  generalize FailureAlertService.candidates db _ now locked = ids
  have hLoop : ∀ (acc : List FailureAlert × Database),
      (∃ alerts, acc.2 = { db with alerts := alerts }) → ∃ alerts,
        (ids.foldl (FailureAlertService.claimAlert now) acc).2 =
          { db with alerts := alerts } := by
    induction ids with
    | nil => exact fun _ h => h
    | cons id rest ih =>
      intro acc hAcc
      refine ih _ ?_
      obtain ⟨alerts, hAcc⟩ := hAcc
      unfold FailureAlertService.claimAlert
      split
      · obtain ⟨alerts', hUpdate⟩ :=
          updateAlert_db id (fun _ => true) (FailureAlertService.claimRow now) acc.2
        exact ⟨alerts', by rw [hUpdate, hAcc]⟩
      · exact ⟨alerts, hAcc⟩
  exact hLoop ([], db) ⟨db.alerts, rfl⟩

theorem leaves_alerts {result : CallResult} {db db' : Database}
    (h : ∃ alerts, db' = { db with alerts := alerts }) :
    ∃ alerts, result.leaves db db' = { db with alerts := alerts } := by
  unfold CallResult.leaves
  split
  · exact h
  · exact ⟨db.alerts, rfl⟩

/-- An alert dispatcher writes the alerts and nothing else. -/
theorem alertDispatcher_db {result : CallResult} {now : Time} {locked : List JobId}
    {db db' : Database} {state state' : FailureAlertService.State}
    (h : FailureAlertService.step result now locked db state = some (state', db')) :
    ∃ alerts, db' = { db with alerts := alerts } := by
  unfold FailureAlertService.step at h
  split at h
  all_goals simp only [Option.some.injEq, Prod.mk.injEq, reduceCtorEq] at h
  all_goals obtain ⟨-, rfl⟩ := h
  · exact leaves_alerts (claimAlerts_db ..)
  · exact ⟨_, rfl⟩
  · exact leaves_alerts (updateAlert_db ..)
  · exact leaves_alerts (updateAlert_db ..)

/-! ## All steps -/

/-- Executions and what they asked the providers are as before. -/
structure WorkersKept (s s' : PublishingState) : Prop where
  workers : s'.workers = s.workers
  calls : s'.calls = s.calls
  lookups : s'.lookups = s.lookups

/-- The tables that executions and operations work on are as before. -/
structure TablesKept (s s' : PublishingState) : Prop where
  rows : ∀ k, s'.db.job? k = s.db.job? k
  posts : s'.db.posts = s.db.posts
  postMedia : s'.db.postMedia = s.db.postMedia
  socialPosts : s'.db.socialPosts = s.db.socialPosts
  auditLogs : s'.db.auditLogs = s.db.auditLogs
  nextUuid : s'.db.nextUuid = s.db.nextUuid

theorem TablesKept.of_db_eq {s s' : PublishingState} (h : s'.db = s.db) : TablesKept s s' :=
  ⟨fun _ => by rw [h], by rw [h], by rw [h], by rw [h], by rw [h], by rw [h]⟩

/-- Execution `i` moved to `state`. -/
def WorkerMoved (s : PublishingState) (i : Nat) (w : Worker) (state : State)
    (s' : PublishingState) : Prop :=
  s.workers[i]? = some w ∧ s'.workers = s.workers.set i { w with state := state }

section Workers

variable {s s' : PublishingState} {i k : Nat} {w w' : Worker} {state : State}

/-- The executions after one of them moved. -/
theorem WorkerMoved.cases (h : WorkerMoved s i w state s') (hGet : s'.workers[k]? = some w') :
    k = i ∧ w' = { w with state := state } ∨ k ≠ i ∧ s.workers[k]? = some w' := by
  rw [h.2, List.getElem?_set] at hGet
  by_cases hk : i = k
  · subst hk
    rw [if_pos rfl, if_pos (List.getElem?_eq_some_iff.mp h.1).1, Option.some.injEq] at hGet
    exact Or.inl ⟨rfl, hGet.symm⟩
  · rw [if_neg hk] at hGet
    exact Or.inr ⟨fun he => hk he.symm, hGet⟩

theorem WorkerMoved.other (h : WorkerMoved s i w state s') (hk : k ≠ i) :
    s'.workers[k]? = s.workers[k]? := by
  rw [h.2, List.getElem?_set_ne fun he => hk he.symm]

theorem WorkerMoved.self (h : WorkerMoved s i w state s') :
    s'.workers[i]? = some { w with state := state } := by
  rw [h.2, List.getElem?_set_self (List.getElem?_eq_some_iff.mp h.1).1]

/-- The executions after one more was started. -/
theorem started_cases (h : s'.workers = s.workers ++ [w]) (hGet : s'.workers[k]? = some w') :
    k = s.workers.length ∧ w' = w ∨ s.workers[k]? = some w' := by
  rw [h, List.getElem?_append] at hGet
  split at hGet
  · exact Or.inr hGet
  · have hLt := (List.getElem?_eq_some_iff.mp hGet).1
    rw [List.length_singleton] at hLt
    have hMem := List.mem_singleton.mp (List.mem_of_getElem? hGet)
    exact Or.inl ⟨by omega, hMem⟩

end Workers

/-- The job whose execution a step starts. -/
def PublishingState.startedJob (s : PublishingState) : Event → Option JobId
  | .process publishJobId _ _ _ => some publishJobId
  | .take q _ _ => s.queue[q]?.map fun job => job.data.publishJobId
  | _ => none

inductive StepKind (cfg : Config) (s : PublishingState) : Event → PublishingState → Prop
  | quiet {e : Event} {s' : PublishingState} (hWorkers : WorkersKept s s')
      (hTables : TablesKept s s') : StepKind cfg s e s'
  | started {e : Event} {s' : PublishingState} {w : Worker}
      (hCall : w.state = .running .claimPublishJob) (hWorkers : s'.workers = s.workers ++ [w])
      (hCalls : s'.calls = s.calls) (hLookups : s'.lookups = s.lookups)
      (hTables : TablesKept s s') (hJob : s.startedJob e = some w.publishJobId) :
      StepKind cfg s e s'
  | created {operation : UserOperation} {s' : PublishingState} {post : Post}
      (hWorkers : WorkersKept s s') (hCreated : Created s.db post s'.db) :
      StepKind cfg s (.user operation) s'
  | edited {operation : UserOperation} {s' : PublishingState} {id : PostId} {row : PostRow}
      {next : Post} {f : SocialPublishJob → SocialPublishJob} (hWorkers : WorkersKept s s')
      (hEdit : Edit cfg s.db id row operation next f) (hMutated : Mutated s.db id row next f s'.db) :
      StepKind cfg s (.user operation) s'
  /-- A repository call wrote its row; the execution may not have heard of it. -/
  | wrote {i : Nat} {result : CallResult} {w : Worker} {call : Call} {old : SocialPublishJob}
      {state : State} {s' : PublishingState} (hState : w.state = .running call)
      (hMoved : WorkerMoved s i w state s')
      (hNext : state = .ended .raised ∧ result ≠ .returned ∨
        result = .returned ∧ state = call.matched w s.db (call.set w s.clock old))
      (hCond : call.condition w s.clock s.db old = true)
      (hChecks : (call.set w s.clock old).Checks)
      (hWritten : RowWritten s.db (call.target w) old (call.set w s.clock old) s'.db)
      (hCalls : s'.calls = s.calls) (hLookups : s'.lookups = s.lookups)
      (hPerformed : result.performed = true)
      (hFollowed : FollowedUp call.terminal call.publishes s.clock (call.set w s.clock old)
        s.db s'.db) : StepKind cfg s (.repository i result) s'
  /-- A repository call wrote nothing. -/
  | unwritten {i : Nat} {result : CallResult} {w : Worker} {call : Call} {state : State}
      {s' : PublishingState} (hState : w.state = .running call)
      (hMoved : WorkerMoved s i w state s')
      (hNext : state = .ended .raised ∧ (result ≠ .returned ∨ call.Fails w s.clock s.db) ∨
        result = .returned ∧ state = call.unmatched w ∧ ∀ row,
          s.db.job? (call.target w) = some row → call.condition w s.clock s.db row = false)
      (hDb : s'.db = s.db) (hCalls : s'.calls = s.calls) (hLookups : s'.lookups = s.lookups) :
      StepKind cfg s (.repository i result) s'
  | reconcileFirst {i : Nat} {answer : LookupAnswer} {date : Time} {w : Worker}
      {claimed : ClaimedPublishJob} {key : RequestKey} {s' : PublishingState}
      (hState : w.state = .running (.reconcileFirst claimed key))
      (hMoved : WorkerMoved s i w (afterReconcileFirst cfg claimed key date
        (PublishingService.reconcile cfg claimed.post claimed.job answer date)) s')
      (hDb : s'.db = s.db) (hCalls : s'.calls = s.calls)
      (hLookups : s'.lookups = s.lookups ++
        PublishingState.lookupCall cfg i claimed claimed.job answer date) :
      StepKind cfg s (.reconcile i answer date) s'
  | reconcileAfter {i : Nat} {answer : LookupAnswer} {date : Time} {w : Worker}
      {claimed : ClaimedPublishJob} {job failed : SocialPublishJob} {s' : PublishingState}
      (hState : w.state = .running (.reconcileAfter claimed job failed))
      (hMoved : WorkerMoved s i w (afterReconcileAfter claimed job failed date
        (PublishingService.reconcile cfg claimed.post job answer date)) s')
      (hDb : s'.db = s.db) (hCalls : s'.calls = s.calls)
      (hLookups : s'.lookups = s.lookups ++
        PublishingState.lookupCall cfg i claimed job answer date) :
      StepKind cfg s (.reconcile i answer date) s'
  | publishSettled {i : Nat} {date : Time} {w : Worker} {claimed : ClaimedPublishJob}
      {job : SocialPublishJob} {execution : PublishExecution} {s' : PublishingState}
      (hState : w.state = .running (.publish claimed job))
      (hStart : PublishingService.publishStart cfg claimed.post job = .settled execution)
      (hMoved : WorkerMoved s i w (afterPublish claimed job date execution) s')
      (hDb : s'.db = s.db) (hCalls : s'.calls = s.calls) (hLookups : s'.lookups = s.lookups) :
      StepKind cfg s (.publish i date) s'
  | publishCalled {i : Nat} {date : Time} {w : Worker} {claimed : ClaimedPublishJob}
      {job : SocialPublishJob} {post : SocialPost} {request : PublishRequest}
      {s' : PublishingState} (hState : w.state = .running (.publish claimed job))
      (hStart : PublishingService.publishStart cfg claimed.post job = .call post request)
      (hMoved : WorkerMoved s i w (.running (.adapterPublish claimed job s.calls.length)) s')
      (hDb : s'.db = s.db) (hCalls : s'.calls = s.calls ++ [⟨i, job.id, post, request, none⟩])
      (hLookups : s'.lookups = s.lookups) : StepKind cfg s (.publish i date) s'
  | adapterReturned {i : Nat} {answer : Except ThrownError PublishResult} {date : Time}
      {w : Worker} {claimed : ClaimedPublishJob} {job : SocialPublishJob} {n : Nat}
      {s' : PublishingState} (hState : w.state = .running (.adapterPublish claimed job n))
      (hMoved : WorkerMoved s i w (afterPublish claimed job date
        (PublishingService.publishFinish job answer)) s')
      (hDb : s'.db = s.db)
      (hCalls : s'.calls = s.calls.modify n fun call => { call with answer := some answer })
      (hLookups : s'.lookups = s.lookups) : StepKind cfg s (.adapterReturns i answer date) s'
  | crashed {i : Nat} {w : Worker} {call : Call} {s' : PublishingState}
      (hState : w.state = .running call) (hMoved : WorkerMoved s i w (.crashed call) s')
      (hDb : s'.db = s.db) (hCalls : s'.calls = s.calls) (hLookups : s'.lookups = s.lookups) :
      StepKind cfg s (.crash i) s'

section Kinds

variable {cfg : Config} {s s' : PublishingState}

/-- A repository call of an execution writes its row, or it matches no row, or it fails. -/
theorem repositoryStep_kind {i : Nat} {result : CallResult}
    (h : s.repositoryStep i result = some s') : StepKind cfg s (.repository i result) s' := by
  unfold PublishingState.repositoryStep at h
  split at h
  · rename_i w hWorker
    split at h
    · rename_i call hState
      cases hCall : repositoryCall w s.clock s.db call with
      | none => simp [hCall] at h
      | some after =>
        have hEffect := repositoryCall_cases hCall
        simp only [hCall, Option.map_some, Option.some.injEq] at h
        subst h
        -- where the call throws, its answer is lost
        have hRaised : result ≠ .returned →
            (if result = .returned then after.1 else State.ended .raised) = .ended .raised :=
          fun hResult => if_neg hResult
        by_cases hPerformed : result.performed = true
        · cases hEffect with
          | wrote hCond hChecks hWritten hFollowed =>
            refine .wrote hState ⟨hWorker, rfl⟩ ?_ hCond hChecks ?_ rfl rfl hPerformed ?_
            · by_cases hResult : result = .returned
              · exact Or.inr ⟨hResult, if_pos hResult⟩
              · exact Or.inl ⟨hRaised hResult, hResult⟩
            · simpa only [CallResult.leaves, if_pos hPerformed] using hWritten
            · simpa only [CallResult.leaves, if_pos hPerformed] using hFollowed
          | none hNone =>
            refine .unwritten hState ⟨hWorker, rfl⟩ ?_ ?_ rfl rfl
            · by_cases hResult : result = .returned
              · exact Or.inr ⟨hResult, if_pos hResult, hNone⟩
              · exact Or.inl ⟨hRaised hResult, Or.inl hResult⟩
            · simp only [CallResult.leaves, ite_self]
          | failed hOld hCond hFail =>
            refine .unwritten hState ⟨hWorker, rfl⟩ (Or.inl ⟨?_, Or.inr ⟨_, hOld, hCond, hFail⟩⟩)
              ?_ rfl rfl
            · simp only [ite_self]
            · simp only [CallResult.leaves, ite_self]
        · have hResult : result ≠ .returned := by
            rintro rfl
            exact hPerformed rfl
          refine .unwritten hState ⟨hWorker, rfl⟩ (Or.inl ⟨hRaised hResult, Or.inl hResult⟩) ?_ rfl rfl
          simp only [CallResult.leaves, if_neg hPerformed]
    · injection h
  · injection h

theorem reconcileStep_kind {i : Nat} {answer : LookupAnswer} {date : Time}
    (h : PublishingState.reconcileStep cfg s i answer date = some s') :
    StepKind cfg s (.reconcile i answer date) s' := by
  unfold PublishingState.reconcileStep at h
  split at h
  · rename_i w hWorker
    split at h
    · rename_i hState
      injection h with h
      subst h
      exact .reconcileFirst hState ⟨hWorker, rfl⟩ rfl rfl rfl
    · rename_i hState
      injection h with h
      subst h
      exact .reconcileAfter hState ⟨hWorker, rfl⟩ rfl rfl rfl
    · injection h
  · injection h

theorem publishStep_kind {i : Nat} {date : Time}
    (h : PublishingState.publishStep cfg s i date = some s') :
    StepKind cfg s (.publish i date) s' := by
  unfold PublishingState.publishStep at h
  split at h
  · rename_i w hWorker
    split at h
    · rename_i hState
      split at h
      · rename_i hStart
        injection h with h
        subst h
        exact .publishSettled hState hStart ⟨hWorker, rfl⟩ rfl rfl rfl
      · rename_i hStart
        injection h with h
        subst h
        exact .publishCalled hState hStart ⟨hWorker, rfl⟩ rfl rfl rfl
    · injection h
  · injection h

theorem adapterReturnsStep_kind {i : Nat} {answer : Except ThrownError PublishResult}
    {date : Time} (h : s.adapterReturnsStep i answer date = some s') :
    StepKind cfg s (.adapterReturns i answer date) s' := by
  unfold PublishingState.adapterReturnsStep at h
  split at h
  · rename_i w hWorker
    split at h
    · rename_i hState
      injection h with h
      subst h
      exact .adapterReturned hState ⟨hWorker, rfl⟩ rfl rfl rfl
    · injection h
  · injection h

theorem crashStep_kind {i : Nat} (h : s.crashStep i = some s') :
    StepKind cfg s (.crash i) s' := by
  unfold PublishingState.crashStep at h
  split at h
  · rename_i w hWorker
    split at h
    · rename_i hState
      injection h with h
      subst h
      exact .crashed hState ⟨hWorker, rfl⟩ rfl rfl rfl
    · injection h
  · injection h

theorem dispatcherStep_kind {i : Nat} {result : CallResult} {date : Time} {locked : List JobId}
    (h : s.dispatcherStep i result date locked = some s') :
    StepKind cfg s (.dispatcher i result date locked) s' := by
  unfold PublishingState.dispatcherStep at h
  split at h
  · rename_i state hState
    obtain ⟨⟨state', db', queue'⟩, hStep, rfl⟩ := Option.map_eq_some_iff.mp h
    obtain ⟨outbox, rfl⟩ := dispatcher_db hStep
    exact .quiet ⟨rfl, rfl, rfl⟩ ⟨fun _ => rfl, rfl, rfl, rfl, rfl, rfl⟩
  · injection h

theorem alertStep_kind {i : Nat} {result : CallResult} {locked : List JobId}
    (h : s.alertStep i result locked = some s') :
    StepKind cfg s (.alertDispatcher i result locked) s' := by
  unfold PublishingState.alertStep at h
  split at h
  · rename_i state hState
    obtain ⟨⟨state', db'⟩, hStep, rfl⟩ := Option.map_eq_some_iff.mp h
    obtain ⟨alerts, rfl⟩ := alertDispatcher_db hStep
    exact .quiet ⟨rfl, rfl, rfl⟩ ⟨fun _ => rfl, rfl, rfl, rfl, rfl, rfl⟩
  · injection h

theorem previewReadStep_kind {i : Nat} (h : s.previewReadStep i = some s') :
    StepKind cfg s (.previewRead i) s' := by
  unfold PublishingState.previewReadStep at h
  split at h
  · obtain ⟨reading, -, rfl⟩ := Option.map_eq_some_iff.mp h
    exact .quiet ⟨rfl, rfl, rfl⟩ (.of_db_eq rfl)
  · injection h

theorem takeStep_kind {q leaseMs : Nat} {date : Time} (h : s.takeStep q leaseMs date = some s') :
    StepKind cfg s (.take q leaseMs date) s' := by
  unfold PublishingState.takeStep at h
  split at h
  · rename_i job hJob
    split at h
    · injection h with h
      subst h
      refine .started rfl rfl rfl rfl (.of_db_eq rfl) ?_
      rw [PublishingState.startedJob, hJob]
      rfl
    · injection h
  · injection h

theorem settleStep_kind {q : Nat} {date : Time} (h : s.settleStep q date = some s') :
    StepKind cfg s (.settle q date) s' := by
  unfold PublishingState.settleStep at h
  split at h
  · split at h
    · injection h with h
      subst h
      exact .quiet ⟨rfl, rfl, rfl⟩ (.of_db_eq rfl)
    · injection h
  · injection h

theorem stalledStep_kind {q : Nat} {again : Bool} (h : s.stalledStep q again = some s') :
    StepKind cfg s (.stalled q again) s' := by
  unfold PublishingState.stalledStep at h
  split at h
  · split at h
    · injection h with h
      subst h
      exact .quiet ⟨rfl, rfl, rfl⟩ (.of_db_eq rfl)
    · injection h
  · injection h

theorem removeStep_kind {q : Nat} (h : s.removeStep q = some s') :
    StepKind cfg s (.remove q) s' := by
  unfold PublishingState.removeStep at h
  split at h
  · split at h
    · injection h with h
      subst h
      exact .quiet ⟨rfl, rfl, rfl⟩ (.of_db_eq rfl)
    · injection h
  · injection h

theorem userStep_kind (operation : UserOperation) :
    StepKind cfg s (.user operation) (PublishingState.userStep cfg s operation) := by
  unfold PublishingState.userStep
  split
  · rename_i record db hPerform
    rcases perform_cases hPerform with ⟨post, hCreated⟩ | ⟨id, row, next, f, hEdit, hMutated⟩
    · exact .created ⟨rfl, rfl, rfl⟩ hCreated
    · exact .edited ⟨rfl, rfl, rfl⟩ hEdit hMutated
  · exact .quiet ⟨rfl, rfl, rfl⟩ (.of_db_eq rfl)

/-- **One step** of the system is of one of these kinds. -/
theorem step_kind {e : Event} (h : (publishingSystem cfg).step s e = some s') :
    StepKind cfg s e s' := by
  cases e with
  | tick | connect | preview | dispatch | dispatchAlerts =>
    injection h with h
    subst h
    exact .quiet ⟨rfl, rfl, rfl⟩ ⟨fun _ => rfl, rfl, rfl, rfl, rfl, rfl⟩
  | process =>
    injection h with h
    subst h
    exact .started rfl rfl rfl rfl (.of_db_eq rfl) rfl
  | user operation =>
    injection h with h
    subst h
    exact userStep_kind operation
  | previewRead i => exact previewReadStep_kind h
  | repository i result => exact repositoryStep_kind h
  | reconcile i answer date => exact reconcileStep_kind h
  | publish i date => exact publishStep_kind h
  | adapterReturns i answer date => exact adapterReturnsStep_kind h
  | crash i => exact crashStep_kind h
  | dispatcher i result date locked => exact dispatcherStep_kind h
  | alertDispatcher i result locked => exact alertStep_kind h
  | take q leaseMs date => exact takeStep_kind h
  | settle q date => exact settleStep_kind h
  | stalled q again => exact stalledStep_kind h
  | remove q => exact removeStep_kind h

/-- The clock, the alerts and the runs that dispatch them are as before. -/
structure Aside (s s' : PublishingState) : Prop where
  clock : s'.clock = s.clock
  alerts : s'.db.alerts = s.db.alerts
  alertDispatchers : s'.alertDispatchers = s.alertDispatchers

/-- The events that leave the clock and the alerts alone whatever the state. -/
def Event.isAside : Event → Bool
  | .tick _ | .user _ | .repository _ _ | .dispatchAlerts _ | .alertDispatcher _ _ _ => false
  | _ => true

theorem reconcileStep_aside {i : Nat} {answer : LookupAnswer} {date : Time}
    (h : PublishingState.reconcileStep cfg s i answer date = some s') : Aside s s' := by
  unfold PublishingState.reconcileStep at h
  split at h
  · split at h
    · injection h with h
      exact h ▸ ⟨rfl, rfl, rfl⟩
    · injection h with h
      exact h ▸ ⟨rfl, rfl, rfl⟩
    · injection h
  · injection h

theorem publishStep_aside {i : Nat} {date : Time}
    (h : PublishingState.publishStep cfg s i date = some s') : Aside s s' := by
  unfold PublishingState.publishStep at h
  split at h
  · split at h
    · split at h
      · injection h with h
        exact h ▸ ⟨rfl, rfl, rfl⟩
      · injection h with h
        exact h ▸ ⟨rfl, rfl, rfl⟩
    · injection h
  · injection h

/-- A step that is aside leaves the job rows, the executions and what they asked as they are. -/
theorem step_aside {e : Event} (h : (publishingSystem cfg).step s e = some s')
    (hAside : e.isAside = true) : Aside s s' := by
  cases e with
  | tick | user | repository | dispatchAlerts | alertDispatcher => exact absurd hAside nofun
  | connect | preview | process | dispatch =>
    injection h with h
    exact h ▸ ⟨rfl, rfl, rfl⟩
  | reconcile i answer date => exact reconcileStep_aside h
  | publish i date => exact publishStep_aside h
  | previewRead i =>
    simp only [publishingSystem, PublishingState.step, PublishingState.previewReadStep] at h
    split at h
    · obtain ⟨reading, -, rfl⟩ := Option.map_eq_some_iff.mp h
      exact ⟨rfl, rfl, rfl⟩
    · injection h
  | dispatcher i result date locked =>
    simp only [publishingSystem, PublishingState.step, PublishingState.dispatcherStep] at h
    split at h
    · obtain ⟨⟨state, db, queue⟩, hStep, rfl⟩ := Option.map_eq_some_iff.mp h
      obtain ⟨outbox, rfl⟩ := dispatcher_db hStep
      exact ⟨rfl, rfl, rfl⟩
    · injection h
  | adapterReturns i answer date =>
    simp only [publishingSystem, PublishingState.step, PublishingState.adapterReturnsStep] at h
    split at h
    · split at h
      · injection h with h
        exact h ▸ ⟨rfl, rfl, rfl⟩
      · injection h
    · injection h
  | crash i =>
    simp only [publishingSystem, PublishingState.step, PublishingState.crashStep] at h
    split at h
    · split at h
      · injection h with h
        exact h ▸ ⟨rfl, rfl, rfl⟩
      · injection h
    · injection h
  | take q leaseMs date =>
    simp only [publishingSystem, PublishingState.step, PublishingState.takeStep] at h
    split at h
    · split at h
      · injection h with h
        exact h ▸ ⟨rfl, rfl, rfl⟩
      · injection h
    · injection h
  | settle q date =>
    simp only [publishingSystem, PublishingState.step, PublishingState.settleStep] at h
    split at h
    · split at h
      · injection h with h
        exact h ▸ ⟨rfl, rfl, rfl⟩
      · injection h
    · injection h
  | stalled q again =>
    simp only [publishingSystem, PublishingState.step, PublishingState.stalledStep] at h
    split at h
    · split at h
      · injection h with h
        exact h ▸ ⟨rfl, rfl, rfl⟩
      · injection h
    · injection h
  | remove q =>
    simp only [publishingSystem, PublishingState.step, PublishingState.removeStep] at h
    split at h
    · split at h
      · injection h with h
        exact h ▸ ⟨rfl, rfl, rfl⟩
      · injection h
    · injection h

/-- Only the passing of time moves the clock. -/
theorem step_clock {e : Event} (h : (publishingSystem cfg).step s e = some s')
    (hTick : ∀ ms, e ≠ .tick ms) : s'.clock = s.clock := by
  by_cases hAside : e.isAside = true
  · exact (step_aside h hAside).clock
  · cases e with
    | tick ms => exact absurd rfl (hTick ms)
    | dispatchAlerts =>
      injection h with h
      exact h ▸ rfl
    | user operation =>
      injection h with h
      subst h
      unfold PublishingState.userStep
      split <;> rfl
    | repository i result =>
      simp only [publishingSystem, PublishingState.step, PublishingState.repositoryStep] at h
      split at h
      · split at h
        · obtain ⟨after, -, rfl⟩ := Option.map_eq_some_iff.mp h
          rfl
        · injection h
      · injection h
    | alertDispatcher i result locked =>
      simp only [publishingSystem, PublishingState.step, PublishingState.alertStep] at h
      split at h
      · obtain ⟨after, -, rfl⟩ := Option.map_eq_some_iff.mp h
        rfl
      · injection h
    | _ => exact absurd rfl hAside

/-- The clock never goes back. -/
theorem clock_le_of_step {e : Event} (h : (publishingSystem cfg).step s e = some s') :
    s.clock ≤ s'.clock := by
  by_cases hTick : ∃ ms, e = .tick ms
  · obtain ⟨ms, rfl⟩ := hTick
    injection h with h
    subst h
    exact Nat.le_add_right _ _
  · exact (step_clock h fun ms hEvent => hTick ⟨ms, hEvent⟩).ge

end Kinds

/-! ## What a step does to one job row -/

/-- How a step takes the row `old` of a job to `new`. -/
inductive RowChange (cfg : Config) (s : PublishingState) (e : Event)
    (old new : SocialPublishJob) : Prop
  | same (hSame : new = old)
  | called {i : Nat} {result : CallResult} {w : Worker} {call : Call}
      (hEvent : e = .repository i result) (hWorker : s.workers[i]? = some w)
      (hState : w.state = .running call) (hTarget : call.target w = old.id)
      (hCond : call.condition w s.clock s.db old = true) (hNew : new = call.set w s.clock old)
  | edited {operation : UserOperation} {id : PostId} {row : PostRow} {next : Post}
      {f : SocialPublishJob → SocialPublishJob} (hEvent : e = .user operation)
      (hEdit : Edit cfg s.db id row operation next f)
      (hMem : old ∈ PgPostRepository.jobsOf s.db id) (hNew : new = f old)

section Rows

variable {cfg : Config} {s s' : PublishingState} {e : Event} {j : JobId}

/-- No step deletes a job row. -/
theorem row_change (h : StepKind cfg s e s') {old : SocialPublishJob}
    (hOld : s.db.job? j = some old) :
    ∃ new, s'.db.job? j = some new ∧ RowChange cfg s e old new := by
  cases h with
  | quiet _ hTables => exact ⟨old, by rw [hTables.rows, hOld], .same rfl⟩
  | started _ _ _ _ hTables => exact ⟨old, by rw [hTables.rows, hOld], .same rfl⟩
  | created _ hCreated =>
    rcases hCreated.rows j with hSame | ⟨hNone, -⟩
    · exact ⟨old, hSame.trans hOld, .same rfl⟩
    · rw [hOld] at hNone
      injection hNone
  | @edited operation _ id row next f _ hEdit hMutated =>
    have hRow := hMutated.rows j
    rw [hOld, Option.map_some] at hRow
    by_cases hPost : old.postId = id
    · rw [if_pos hPost] at hRow
      have hMem : old ∈ PgPostRepository.jobsOf s.db id :=
        mem_jobsOf.mpr ⟨(Database.job?_id hOld).symm ▸ hOld, hPost⟩
      exact ⟨f old, hRow, .edited rfl hEdit hMem rfl⟩
    · rw [if_neg hPost] at hRow
      exact ⟨old, hRow, .same rfl⟩
  | @wrote i result w call row _ _ hState hMoved _ hCond _ hWritten =>
    have hRow := hWritten.rows j
    by_cases hTarget : j = call.target w
    · rw [if_pos hTarget] at hRow
      have hSame : row = old := by
        have hFound := hWritten.found
        rw [← hTarget, hOld, Option.some.injEq] at hFound
        exact hFound.symm
      subst hSame
      exact ⟨_, hRow, .called rfl hMoved.1 hState
        (hTarget.symm.trans (Database.job?_id hOld).symm) hCond rfl⟩
    · rw [if_neg hTarget] at hRow
      exact ⟨old, hRow.trans hOld, .same rfl⟩
  | unwritten _ _ _ hDb => exact ⟨old, by rw [hDb, hOld], .same rfl⟩
  | reconcileFirst _ _ hDb => exact ⟨old, by rw [hDb, hOld], .same rfl⟩
  | reconcileAfter _ _ hDb => exact ⟨old, by rw [hDb, hOld], .same rfl⟩
  | publishSettled _ _ _ hDb => exact ⟨old, by rw [hDb, hOld], .same rfl⟩
  | publishCalled _ _ _ hDb => exact ⟨old, by rw [hDb, hOld], .same rfl⟩
  | adapterReturned _ _ hDb => exact ⟨old, by rw [hDb, hOld], .same rfl⟩
  | crashed _ _ hDb => exact ⟨old, by rw [hDb, hOld], .same rfl⟩

/-- A row after a step was there before, or belongs to a new draft. -/
theorem row_origin (h : StepKind cfg s e s') {new : SocialPublishJob}
    (hNew : s'.db.job? j = some new) :
    (∃ old, s.db.job? j = some old ∧ RowChange cfg s e old new) ∨
      s.db.job? j = none ∧ ∃ post target, Created s.db post s'.db ∧
        new = PostService.newJob j post target := by
  cases hOld : s.db.job? j with
  | some old =>
    obtain ⟨new', hNew', hChange⟩ := row_change h hOld
    rw [hNew, Option.some.injEq] at hNew'
    exact Or.inl ⟨old, rfl, hNew' ▸ hChange⟩
  | none =>
    refine Or.inr ⟨rfl, ?_⟩
    have hImpossible : s'.db.job? j = s.db.job? j → False := fun hSame => by
      rw [hNew, hOld] at hSame
      injection hSame
    cases h with
    | quiet _ hTables => exact (hImpossible (hTables.rows j)).elim
    | started _ _ _ _ hTables => exact (hImpossible (hTables.rows j)).elim
    | @created _ _ post _ hCreated =>
      rcases hCreated.rows j with hSame | ⟨-, target, hRow⟩
      · exact (hImpossible hSame).elim
      · rw [hNew, Option.some.injEq] at hRow
        exact ⟨post, target, hCreated, hRow⟩
    | edited _ _ hMutated =>
      refine (hImpossible ?_).elim
      rw [hMutated.rows, hOld]
      rfl
    | wrote _ _ _ _ _ hWritten =>
      refine (hImpossible ?_).elim
      rw [hWritten.rows, if_neg]
      rintro rfl
      rw [hWritten.found] at hOld
      injection hOld
    | unwritten _ _ _ hDb => exact (hImpossible (by rw [hDb])).elim
    | reconcileFirst _ _ hDb => exact (hImpossible (by rw [hDb])).elim
    | reconcileAfter _ _ hDb => exact (hImpossible (by rw [hDb])).elim
    | publishSettled _ _ _ hDb => exact (hImpossible (by rw [hDb])).elim
    | publishCalled _ _ _ hDb => exact (hImpossible (by rw [hDb])).elim
    | adapterReturned _ _ hDb => exact (hImpossible (by rw [hDb])).elim
    | crashed _ _ hDb => exact (hImpossible (by rw [hDb])).elim

end Rows

/-! ## A small installation

One user with one campaign and one connected account, for the runs that show what the
statements of this development say on a concrete history. -/

namespace Installation

def config (supportsIdempotentPublish reconcilePublish : Bool) : Config where
  adapters := fun _ => some ⟨supportsIdempotentPublish, reconcilePublish⟩
  isTagChar := Char.isAlphanum
  parseUrl := fun _ => none

def account : SocialAccount where
  userId := 100
  platform := .x
  platformAccountId := "7"
  status := .active
  hasAccessToken := true
  scope := ["tweet.read", "tweet.write", "users.read"]
  expiresAt := none

def start : PublishingState where
  db := Database.empty (AList.singleton 200 100) (AList.singleton 300 account)
  clock := 0
  queue := []
  workers := []
  dispatchers := []
  alertDispatchers := []
  previews := []
  calls := []
  lookups := []

theorem start_initial (cfg : Config) : (publishingSystem cfg).Initial start :=
  ⟨⟨_, _, rfl⟩, rfl, rfl, rfl, rfl, rfl, rfl, rfl⟩

def content : PostContent where
  title := []
  body := ['H', 'i']
  url := none
  media := []
  platformBodies := none

/-- Post 0 with job 1 is created, approved for the time 1000, and due. -/
def approved : List Event :=
  [.user (.create 100 ⟨200, content, [⟨.x, 300⟩], 1000⟩),
   .user (.schedule 100 0 (some 1000) 1 0), .tick 1000]

/-- An execution of job 1 is started. -/
def deliver : Event := .process 1 30000 1 none

/-- The repository call of an execution goes well. -/
def call (i : Nat) : Event := .repository i .returned

def rateLimited : ThrownError := .socialApiHttpError "X" 429

def connectionLost : ThrownError := ⟨none, false, some "ECONNRESET", some "socket hang up"⟩

/-- The providers of the registered adapters support no lookup by request key. -/
def noAnswer : LookupAnswer := ⟨.error connectionLost, .error connectionLost⟩

/-- Execution `i` claims job 1, and its request is rejected for certain. -/
def rejected (i : Nat) : List Event :=
  [deliver, call i, call i, .publish i 1000, .adapterReturns i (.error rateLimited) 1000, call i]

/-- Two executions of job 1 have failed, and a third one has sent its request. -/
def failedTwice : List Event :=
  approved ++ rejected 0 ++ .tick 30000 :: rejected 1 ++
    [.tick 600000, deliver, call 2, call 2, .publish 2 631000]

/-- The step takes job 1 from a row to one that `p` holds of. -/
def moves (cfg : Config) (e : Event)
    (p : PublishingState → PublishingState → SocialPublishJob → SocialPublishJob → Bool)
    (s : PublishingState) : Bool :=
  ((publishingSystem cfg).step s e).any fun t =>
    (s.db.job? 1).any fun old => (t.db.job? 1).any fun new => p s t old new

open LTS in
theorem exists_moved {cfg : Config} {es : List Event} {e : Event}
    {p : PublishingState → PublishingState → SocialPublishJob → SocialPublishJob → Bool}
    (h : (guardedRun (publishingSystem cfg) anyStep start es).any (moves cfg e p) = true) :
    ∃ s t old new, Reachable (publishingSystem cfg) anyStep s ∧
      (publishingSystem cfg).step s e = some t ∧ s.db.job? 1 = some old ∧
      t.db.job? 1 = some new ∧ p s t old new = true := by
  obtain ⟨s, hReach, hMoves⟩ := exists_reachable_of_run (publishingSystem cfg) anyStep
    (moves cfg e p) es (start_initial _) h
  obtain ⟨t, hStep, hMoves⟩ := (Option.any_eq_true _ _).mp hMoves
  obtain ⟨old, hOld, hMoves⟩ := (Option.any_eq_true _ _).mp hMoves
  obtain ⟨new, hNew, hMoves⟩ := (Option.any_eq_true _ _).mp hMoves
  exact ⟨s, t, old, new, hReach, hStep, hOld, hNew, hMoves⟩

end Installation

end SocialPromotion
