import SocialPromotion.Properties.RowLifecycle

/-!
# What an execution knows of its job

The target of a job never changes, so the snapshot an execution took of it stays right in
that respect:

* `snapshot_reachable`: the job of every pending call is stored, with the platform, the
  account and the post that the execution read;
* `callKnown_reachable`: every provider call belongs to a stored job, and the execution that
  waits for it knows its number.
-/

namespace SocialPromotion

open LTS PublishWorkerProcessor PublishingService

/-- The target of a job. -/
def SameTarget (row job : SocialPublishJob) : Prop :=
  row.platform = job.platform ∧ row.accountId = job.accountId ∧ row.postId = job.postId

theorem SameTarget.refl (row : SocialPublishJob) : SameTarget row row := ⟨rfl, rfl, rfl⟩

theorem SameTarget.trans {a b c : SocialPublishJob} (h : SameTarget a b) (h' : SameTarget b c) :
    SameTarget a c :=
  ⟨h.1.trans h'.1, h.2.1.trans h'.2.1, h.2.2.trans h'.2.2⟩

section Rows

variable {cfg : Config} {s s' : PublishingState} {e : Event} {j : JobId}
  {old new : SocialPublishJob}

theorem sameTarget_set (w : Worker) (now : Time) (call : Call) (row : SocialPublishJob) :
    SameTarget (call.set w now row) row := by
  cases call <;> exact ⟨rfl, rfl, rfl⟩

/-- An operation leaves the target and the request key of a job alone. -/
theorem edited_kept {db : Database} {id : PostId} {row : PostRow} {operation : UserOperation}
    {next : Post} {f : SocialPublishJob → SocialPublishJob}
    (hEdit : Edit cfg db id row operation next f) (old : SocialPublishJob) :
    SameTarget (f old) old ∧ (f old).remoteRequestKey = old.remoteRequestKey := by
  rw [← edited_writeBack hEdit old]
  exact ⟨⟨rfl, rfl, rfl⟩, rfl⟩

/-- An operation changes no job that is being published. -/
theorem edited_inProgress {db : Database} {id : PostId} {row : PostRow}
    {operation : UserOperation} {next : Post} {f : SocialPublishJob → SocialPublishJob}
    (hEdit : Edit cfg db id row operation next f) (hMem : old ∈ PgPostRepository.jobsOf db id)
    (hStatus : PostService.inProgress old.status = true) : f old = old := by
  have hCases : old.status = .claimed ∨ old.status = .remoteRequesting ∨
      old.status = .remoteConfirmed := of_decide_eq_true hStatus
  cases hEdit with
  | update => rfl
  | schedule _ _ hOpen =>
    have hNot := hOpen old hMem
    rcases hCases with hs | hs | hs <;> simp [PostService.blocksSchedule, hs] at hNot
  | cancel hOpen =>
    have hNot := hOpen old hMem
    simp [PostService.blocksCancel, hStatus] at hNot
  | @retry _ date job hJob hOpen =>
    unfold PostService.retryJob
    split
    · rename_i hId
      have hSame := eq_of_mem_jobsOf hMem hJob hId
      subst hSame
      rcases hCases with hs | hs | hs <;> simp [PostService.blocksRetry, hs] at hOpen
    · rfl

/-- An operation changes no job that has a request key. -/
theorem edited_keyed {db : Database} {id : PostId} {row : PostRow}
    {operation : UserOperation} {next : Post} {f : SocialPublishJob → SocialPublishJob}
    (hEdit : Edit cfg db id row operation next f) (hMem : old ∈ PgPostRepository.jobsOf db id)
    (hKey : old.remoteRequestKey.isSome) : f old = old := by
  cases hEdit with
  | update => rfl
  | schedule _ _ hOpen =>
    have hNot := hOpen old hMem
    simp [PostService.blocksSchedule, hKey] at hNot
  | cancel hOpen =>
    -- only a published job lets the cancellation of its post through
    have hNot := hOpen old hMem
    have hPublished : old.status = .published := by
      by_contra hOther
      simp [PostService.blocksCancel, hKey, hOther] at hNot
    exact if_neg (by simp [hPublished])
  | @retry _ date job hJob hOpen =>
    refine if_neg fun hId => ?_
    have hSame := eq_of_mem_jobsOf hMem hJob hId
    subst hSame
    simp [PostService.blocksRetry, hKey] at hOpen

/-- No step changes the target of a job. -/
theorem sameTarget_change (h : RowChange cfg s e old new) : SameTarget new old := by
  cases h with
  | same hSame => exact hSame ▸ .refl _
  | called _ _ _ _ _ hNew => exact hNew ▸ sameTarget_set ..
  | edited _ hEdit _ hNew => exact hNew ▸ (edited_kept hEdit old).1

theorem stored_kept (hKind : StepKind cfg s e s') {job : SocialPublishJob}
    (h : ∃ row, s.db.job? j = some row ∧ SameTarget row job) :
    ∃ row, s'.db.job? j = some row ∧ SameTarget row job := by
  obtain ⟨row, hRow, hTarget⟩ := h
  obtain ⟨new, hNew, hChange⟩ := row_change hKind hRow
  exact ⟨new, hNew, (sameTarget_change hChange).trans hTarget⟩

end Rows

/-- The row as the execution claimed it. -/
def PublishWorkerProcessor.Call.claimed? : Call → Option ClaimedPublishJob
  | .claimPublishJob => none
  | .saveRecovered claimed | .reconcileFirst claimed _ | .markReconciled claimed _ _
  | .markRequest claimed _ | .publish claimed _ | .adapterPublish claimed _ _
  | .reconcileAfter claimed _ _ | .confirm claimed _ _ | .savePublished claimed _ _
  | .saveFailed claimed _ _ _ _ _ | .recordAmbiguous claimed _ _ _ => some claimed

/-- The job that an execution claimed is stored with the target that it read. -/
def Snapshot (db : Database) (j : JobId) (call : Call) : Prop :=
  ∀ claimed, call.claimed? = some claimed →
    ∃ row, db.job? j = some row ∧ SameTarget row claimed.job

theorem snapshot_claim (db : Database) (j : JobId) : Snapshot db j .claimPublishJob := by
  intro claimed hClaimed
  injection hClaimed

/-- Between two calls without a statement, an execution keeps the row it claimed. -/
theorem Flow.claimed? {cfg : Config} {call call' : Call} (h : Flow cfg call (.running call')) :
    call'.claimed? = call.claimed? := by
  cases h with
  | ambiguous hCall => rcases hCall with rfl | ⟨n, rfl⟩ <;> rfl
  | fails _ hCall => rcases hCall with rfl | ⟨n, rfl⟩ <;> rfl
  | _ => rfl

/-- With a statement, it keeps the row or has claimed it. -/
theorem Continues.claimed? {w : Worker} {call call' : Call} {new : SocialPublishJob}
    (h : Continues w call new (.running call')) :
    call'.claimed? = call.claimed? ∨
      call = .claimPublishJob ∧ ∃ post, call'.claimed? = some ⟨post, new⟩ := by
  cases h with
  | recovers post => exact Or.inr ⟨rfl, post, rfl⟩
  | reconciles post => exact Or.inr ⟨rfl, post, rfl⟩
  | requests post => exact Or.inr ⟨rfl, post, rfl⟩
  | _ => exact Or.inl rfl

theorem snapshot_reachable {cfg : Config} {ok : PublishingState → Event → Prop}
    {s : PublishingState} (h : Reachable (publishingSystem cfg) ok s) :
    Pending (Snapshot s.db) s := by
  refine h.invariant (I := fun s => Pending (Snapshot s.db) s) (fun s hInit => ?_)
    fun s e t hPending _ hStep => ?_
  · intro k w call hGet
    rw [hInit.2.2.1] at hGet
    injection hGet
  · have hKind := step_kind hStep
    have hKept : ∀ j call call', Snapshot s.db j call → call'.claimed? = call.claimed? →
        Snapshot t.db j call' :=
      fun j call call' hSnap hSame claimed hClaimed =>
        stored_kept hKind (hSnap claimed (hSame ▸ hClaimed))
    refine hPending.step hKind (fun j call hSnap => hKept j call call hSnap rfl)
      (fun j => snapshot_claim t.db j)
      (fun j call call' hSnap hFlow => hKept j call call' hSnap hFlow.claimed?) ?_
    intro k w call old call' hWorker hState hSnap _ _ hWritten hNext
    rcases hNext.claimed? with hSame | ⟨rfl, post, hClaimed⟩
    · exact hKept _ _ _ hSnap hSame
    · intro claimed hEq
      rw [hClaimed, Option.some.injEq] at hEq
      subst hEq
      exact ⟨_, (hWritten.rows _).trans (if_pos rfl), .refl _⟩

/-! ## Request keys -/

/-- The marker of a remote request is durable. -/
def Keyed (db : Database) (j : JobId) : Prop :=
  ∃ row, db.job? j = some row ∧ row.remoteRequestKey.isSome

section Keys

variable {cfg : Config} {s t : PublishingState} {e : Event} {j : JobId}

/-- Only a saved failure clears the key. -/
theorem set_key {w : Worker} {now : Time} {call : Call} {row : SocialPublishJob}
    (hCall : ∀ claimed job error failure retryPending nextRetryAt,
      call ≠ .saveFailed claimed job error failure retryPending nextRetryAt)
    (hKey : row.remoteRequestKey.isSome) : (call.set w now row).remoteRequestKey.isSome := by
  cases call with
  | saveFailed => exact absurd rfl (hCall _ _ _ _ _ _)
  | markReconciled => rfl
  | markRequest => rfl
  | _ => exact hKey

theorem keyed_written {w : Worker} {now : Time} {call : Call} {old : SocialPublishJob}
    (hWritten : RowWritten s.db (call.target w) old (call.set w now old) t.db)
    (hCall : call.target w = j → ∀ claimed job error failure retryPending nextRetryAt,
      call ≠ .saveFailed claimed job error failure retryPending nextRetryAt)
    (h : Keyed s.db j) : Keyed t.db j := by
  obtain ⟨row, hRow, hKey⟩ := h
  have hNew := hWritten.rows j
  by_cases hTarget : j = call.target w
  · rw [if_pos hTarget] at hNew
    refine ⟨_, hNew, set_key (hCall hTarget.symm) ?_⟩
    have hFound := hWritten.found
    rw [← hTarget, hRow, Option.some.injEq] at hFound
    exact hFound ▸ hKey
  · rw [if_neg hTarget] at hNew
    exact ⟨row, hNew.trans hRow, hKey⟩

theorem keyed_of_rows (hRows : ∀ k, t.db.job? k = s.db.job? k) (h : Keyed s.db j) :
    Keyed t.db j := by
  obtain ⟨row, hRow, hKey⟩ := h
  exact ⟨row, (hRows j).trans hRow, hKey⟩

theorem keyed_edited {id : PostId} {row : PostRow} {operation : UserOperation} {next : Post}
    {f : SocialPublishJob → SocialPublishJob} (hEdit : Edit cfg s.db id row operation next f)
    (hMutated : Mutated s.db id row next f t.db) (h : Keyed s.db j) : Keyed t.db j := by
  obtain ⟨old, hOld, hKey⟩ := h
  have hRow := hMutated.rows j
  rw [hOld, Option.map_some] at hRow
  by_cases hPost : old.postId = id
  · rw [if_pos hPost] at hRow
    exact ⟨f old, hRow, (edited_kept hEdit old).2 ▸ hKey⟩
  · rw [if_neg hPost] at hRow
    exact ⟨old, hRow, hKey⟩

theorem keyed_created {post : Post} (hCreated : Created s.db post t.db) (h : Keyed s.db j) :
    Keyed t.db j := by
  obtain ⟨row, hRow, hKey⟩ := h
  rcases hCreated.rows j with hSame | ⟨hNone, -⟩
  · exact ⟨row, hSame.trans hRow, hKey⟩
  · rw [hRow] at hNone
    injection hNone

/-- The step is the statement with which an execution of the job saves a definite failure. -/
def SavesFailure (s : PublishingState) (j : JobId) (e : Event) (t : PublishingState) : Prop :=
  ∃ i result w claimed job error failure retryPending nextRetryAt outcome old,
    e = .repository i result ∧ result.performed = true ∧ w.publishJobId = j ∧
    w.state = .running (.saveFailed claimed job error failure retryPending nextRetryAt) ∧
    WorkerMoved s i w (.ended outcome) t ∧ t.calls = s.calls ∧
    s.db.job? job.id = some old ∧ PgPublishOutboxRepository.inFlight old = true

/-- A step keeps the key, unless it saves a definite failure. -/
theorem keyed_step {ok : PublishingState → Event → Prop}
    (hReach : Reachable (publishingSystem cfg) ok s) (hKind : StepKind cfg s e t)
    (h : Keyed s.db j) : Keyed t.db j ∨ SavesFailure s j e t := by
  cases hKind with
  | quiet _ hTables => exact Or.inl (keyed_of_rows hTables.rows h)
  | started _ _ _ _ hTables => exact Or.inl (keyed_of_rows hTables.rows h)
  | created _ hCreated => exact Or.inl (keyed_created hCreated h)
  | edited _ hEdit hMutated => exact Or.inl (keyed_edited hEdit hMutated h)
  | @wrote i result w call old state _ hState hMoved hNext hCond _ hWritten hCalls _ hPerformed =>
    have hTarget : call.target w = w.publishJobId :=
      ((lifecycle_reachable hReach).calls.running hMoved.1 hState).target rfl
    by_cases hSaves : w.publishJobId = j ∧
        ∃ claimed job error failure retryPending nextRetryAt,
          call = .saveFailed claimed job error failure retryPending nextRetryAt
    · obtain ⟨hJob, claimed, job, error, failure, retryPending, nextRetryAt, rfl⟩ := hSaves
      obtain ⟨outcome, rfl⟩ : ∃ outcome, state = .ended outcome := by
        rcases hNext with ⟨hRaised, -⟩ | ⟨-, hEnded⟩
        · exact ⟨_, hRaised⟩
        · exact ⟨_, hEnded⟩
      exact Or.inr ⟨i, result, w, claimed, job, error, failure, retryPending, nextRetryAt,
        outcome, old, rfl, hPerformed, hJob, hState, hMoved, hCalls, hWritten.found, hCond⟩
    · refine Or.inl (keyed_written hWritten (fun hEq => ?_) h)
      intro claimed job error failure retryPending nextRetryAt hCall
      exact hSaves ⟨hTarget.symm.trans hEq, claimed, job, error, failure, retryPending,
        nextRetryAt, hCall⟩
  | unwritten _ _ _ hDb => exact Or.inl (hDb ▸ h)
  | reconcileFirst _ _ hDb => exact Or.inl (hDb ▸ h)
  | reconcileAfter _ _ hDb => exact Or.inl (hDb ▸ h)
  | publishSettled _ _ _ hDb => exact Or.inl (hDb ▸ h)
  | publishCalled _ _ _ hDb => exact Or.inl (hDb ▸ h)
  | adapterReturned _ _ hDb => exact Or.inl (hDb ▸ h)
  | crashed _ _ hDb => exact Or.inl (hDb ▸ h)

end Keys

/-! ## Provider calls -/

/-- The execution that waits for a provider call knows its number. -/
def CallKnown (calls : List PublishCall) (j : JobId) : Call → Prop
  | .adapterPublish _ _ n => ∃ c, calls[n]? = some c ∧ c.jobId = j
  | _ => True

section Calls

variable {cfg : Config} {s s' : PublishingState} {e : Event}

/-- Calls are recorded once and for all, up to their answers. -/
theorem calls_kept (h : StepKind cfg s e s') {n : Nat} {c : PublishCall}
    (hCall : s.calls[n]? = some c) : ∃ c', s'.calls[n]? = some c' ∧ c'.jobId = c.jobId := by
  cases h with
  | quiet hWorkers => exact ⟨c, hWorkers.calls ▸ hCall, rfl⟩
  | started _ _ hCalls => exact ⟨c, hCalls ▸ hCall, rfl⟩
  | created hWorkers => exact ⟨c, hWorkers.calls ▸ hCall, rfl⟩
  | edited hWorkers => exact ⟨c, hWorkers.calls ▸ hCall, rfl⟩
  | wrote _ _ _ _ _ _ hCalls => exact ⟨c, hCalls ▸ hCall, rfl⟩
  | unwritten _ _ _ _ hCalls => exact ⟨c, hCalls ▸ hCall, rfl⟩
  | reconcileFirst _ _ _ hCalls => exact ⟨c, hCalls ▸ hCall, rfl⟩
  | reconcileAfter _ _ _ hCalls => exact ⟨c, hCalls ▸ hCall, rfl⟩
  | publishSettled _ _ _ _ hCalls => exact ⟨c, hCalls ▸ hCall, rfl⟩
  | publishCalled _ _ _ _ hCalls =>
    have hLt := (List.getElem?_eq_some_iff.mp hCall).1
    exact ⟨c, by rw [hCalls, List.getElem?_append_left hLt]; exact hCall, rfl⟩
  | adapterReturned _ _ _ hCalls =>
    rw [hCalls, List.getElem?_modify, hCall]
    split
    · exact ⟨_, rfl, rfl⟩
    · exact ⟨c, rfl, rfl⟩
  | crashed _ _ _ hCalls => exact ⟨c, hCalls ▸ hCall, rfl⟩

end Calls

/-- Every provider call was made for a stored job. -/
theorem callStored_reachable {cfg : Config} {ok : PublishingState → Event → Prop}
    {s : PublishingState} (h : Reachable (publishingSystem cfg) ok s) {n : Nat}
    {c : PublishCall} (hCall : s.calls[n]? = some c) : ∃ row, s.db.job? c.jobId = some row := by
  refine h.invariant_of (I := fun s => ∀ n c, s.calls[n]? = some c →
    ∃ row, s.db.job? c.jobId = some row) (fun s hInit n c hCall => ?_)
    (fun s e t hReach hInv _ hStep n c' hCall => ?_) n c hCall
  · rw [hInit.2.2.2.2.2.2.1] at hCall
    injection hCall
  · have hKind := step_kind hStep
    have hStored : ∃ row, s.db.job? c'.jobId = some row := by
      cases call_change hKind hCall with
      | kept hOld => exact hInv n _ hOld
      | @made i w claimed job _ _ _ hState _ hMoved =>
        have hSound := (lifecycle_reachable hReach).calls.running hMoved.1 hState
        obtain ⟨row, hRow, -⟩ := (snapshot_reachable hReach).running hMoved.1 hState claimed rfl
        exact ⟨row, hSound.1 ▸ hRow⟩
      | @answered _ _ _ _ c _ _ hOld => exact hInv n c hOld
    obtain ⟨row, hRow⟩ := hStored
    obtain ⟨new, hNew, -⟩ := row_change hKind hRow
    exact ⟨new, hNew⟩

/-- After an attempt, an execution does not wait for the provider. -/
theorem afterPublish_call? {claimed claimed' : ClaimedPublishJob} {job job' : SocialPublishJob}
    {date : Time} {n : Nat} (execution : PublishExecution) :
    (afterPublish claimed job date execution).call? ≠ some (.adapterPublish claimed' job' n) := by
  unfold afterPublish
  intro h
  split at h
  · injection h with h
    injection h
  · split at h
    · injection h with h
      injection h
    · dsimp only at h
      split at h
      · injection h with h
        injection h
      · injection h

theorem Flow.adapterPublish {cfg : Config} {call : Call} {state : State}
    {claimed : ClaimedPublishJob} {job : SocialPublishJob} {n : Nat} (h : Flow cfg call state)
    (hCall : state.call? = some (.adapterPublish claimed job n)) :
    call = .publish claimed job ∨ call = .adapterPublish claimed job n := by
  cases h with
  | ends => injection hCall
  | dies => exact Or.inr (Option.some.inj hCall)
  | calls m =>
    injection hCall with hCall
    injection hCall with hClaimed hJob
    exact Or.inl (by rw [hClaimed, hJob])
  | _ =>
    injection hCall with hCall
    injection hCall

theorem Continues.call?_ne {w : Worker} {call : Call} {new : SocialPublishJob} {state : State}
    {claimed : ClaimedPublishJob} {job : SocialPublishJob} {n : Nat}
    (h : Continues w call new state) : state.call? ≠ some (.adapterPublish claimed job n) := by
  intro hCall
  cases h with
  | ends => injection hCall
  | _ =>
    injection hCall with hCall
    injection hCall

section Waiting

variable {cfg : Config} {s s' : PublishingState} {e : Event}

/-- An execution that waits for the provider waited before the step, or the step has made
its call. -/
theorem adapterPublish_origin (h : StepKind cfg s e s') {k n : Nat} {w' : Worker}
    {claimed : ClaimedPublishJob} {job : SocialPublishJob} (hGet : s'.workers[k]? = some w')
    (hCall : w'.state.call? = some (.adapterPublish claimed job n)) :
    ∃ w, s.workers[k]? = some w ∧ w.publishJobId = w'.publishJobId ∧
      (w.state.call? = some (.adapterPublish claimed job n) ∨
        w.state = .running (.publish claimed job) ∧ n = s.calls.length ∧ ∃ post request,
          publishStart cfg claimed.post job = .call post request ∧
          s'.calls = s.calls ++ [⟨k, job.id, post, request, none⟩]) := by
  have hKept : s.workers[k]? = some w' → ∃ w, s.workers[k]? = some w ∧
      w.publishJobId = w'.publishJobId ∧ (w.state.call? = some (.adapterPublish claimed job n) ∨
        w.state = .running (.publish claimed job) ∧ n = s.calls.length ∧ ∃ post request,
          publishStart cfg claimed.post job = .call post request ∧
          s'.calls = s.calls ++ [⟨k, job.id, post, request, none⟩]) :=
    fun hWorker => ⟨w', hWorker, rfl, Or.inl hCall⟩
  -- an execution that gets somewhere else does not wait for the provider
  have hElse : ∀ {i : Nat} {w : Worker} {state : State}, WorkerMoved s i w state s' →
      state.call? ≠ some (.adapterPublish claimed job n) → s.workers[k]? = some w' := by
    intro i w state hMoved hNot
    rcases hMoved.cases hGet with ⟨-, rfl⟩ | ⟨-, hWorker⟩
    · exact absurd hCall hNot
    · exact hWorker
  cases h with
  | quiet hWorkers => exact hKept (hWorkers.workers ▸ hGet)
  | started hClaim hWorkers =>
    rcases started_cases hWorkers hGet with ⟨-, rfl⟩ | hWorker
    · rw [hClaim] at hCall
      injection hCall with hCall
      injection hCall
    · exact hKept hWorker
  | created hWorkers => exact hKept (hWorkers.workers ▸ hGet)
  | edited hWorkers => exact hKept (hWorkers.workers ▸ hGet)
  | wrote _ hMoved hNext hCond =>
    refine hKept (hElse hMoved fun hState => ?_)
    rcases hNext with ⟨rfl, -⟩ | ⟨-, rfl⟩
    · injection hState
    · exact (continues_matched hCond).call?_ne hState
  | unwritten _ hMoved hNext =>
    refine hKept (hElse hMoved fun hState => ?_)
    rcases hNext with ⟨rfl, -⟩ | ⟨-, rfl, -⟩
    · injection hState
    · rename_i call _ _ _ _
      cases call <;> injection hState
  | reconcileFirst _ hMoved =>
    refine hKept (hElse hMoved fun hState => ?_)
    rcases (flow_reconcileFirst _ : Flow cfg _ _).adapterPublish hState with h | h <;> injection h
  | reconcileAfter _ hMoved =>
    refine hKept (hElse hMoved fun hState => ?_)
    rcases (flow_reconcileAfter _ : Flow cfg _ _).adapterPublish hState with h | h <;> injection h
  | publishSettled _ _ hMoved => exact hKept (hElse hMoved (afterPublish_call? _))
  | @publishCalled i _ w claimed' job' post request _ hState hStart hMoved _ hCalls =>
    rcases hMoved.cases hGet with ⟨rfl, rfl⟩ | ⟨-, hWorker⟩
    · injection hCall with hCall
      injection hCall with hClaimed hJob hNumber
      subst hClaimed hJob hNumber
      exact ⟨w, hMoved.1, rfl, Or.inr ⟨hState, rfl, post, request, hStart, hCalls⟩⟩
    · exact hKept hWorker
  | adapterReturned _ hMoved => exact hKept (hElse hMoved (afterPublish_call? _))
  | @crashed i w call _ hState hMoved =>
    rcases hMoved.cases hGet with ⟨rfl, rfl⟩ | ⟨-, hWorker⟩
    · refine ⟨w, hMoved.1, rfl, Or.inl ?_⟩
      rw [hState]
      exact hCall
    · exact hKept hWorker

end Waiting

theorem callKnown_reachable {cfg : Config} {ok : PublishingState → Event → Prop}
    {s : PublishingState} (h : Reachable (publishingSystem cfg) ok s) :
    Pending (CallKnown s.calls) s := by
  refine h.invariant_of (I := fun s => Pending (CallKnown s.calls) s) (fun s hInit => ?_)
    fun s e t hReach hKnown _ hStep => ?_
  · intro k w call hGet
    rw [hInit.2.2.1] at hGet
    injection hGet
  · have hKind := step_kind hStep
    intro k w' call' hGet hCall
    cases call' with
    | adapterPublish claimed job n =>
      obtain ⟨w, hWorker, hJob, hWaits | ⟨hState, rfl, post, request, -, hCalls⟩⟩ :=
        adapterPublish_origin hKind hGet hCall
      · obtain ⟨c, hOld, hSame⟩ := hKnown k w _ hWorker hWaits
        obtain ⟨c', hNew, hSame'⟩ := calls_kept hKind hOld
        exact ⟨c', hNew, hSame'.trans (hSame.trans hJob)⟩
      · have hSound := (lifecycle_reachable hReach).calls.running hWorker hState
        refine ⟨⟨k, job.id, post, request, none⟩, ?_, hSound.1.trans hJob⟩
        rw [hCalls, List.getElem?_append_right le_rfl, Nat.sub_self]
        rfl
    | _ => trivial

end SocialPromotion
