import SocialPromotion.Properties.RowLifecycle

/-!
# CHECK constraints

A statement that would store a row against a CHECK constraint fails. Here:

* `perform_not_checkViolation`: no operation of the API makes such a statement;
* `call_violates_iff`: an execution makes one exactly when it records a pending retry of an
  ambiguous outcome on a row whose request key has been cleared;
* `job_rows_lawful`: what holds of every row and every step of every run.
-/

namespace SocialPromotion

open LTS Database PgPostRepository PostService PublishWorkerProcessor PgPublishOutboxRepository

/-! ## Operations -/

/-- The method does not fail by a CHECK constraint. -/
def NoCheckViolation {α : Type} (x : Except ServiceError α) : Prop :=
  x ≠ .error (.database .checkViolation)

section NoCheckViolation

variable {α β : Type}

theorem NoCheckViolation.bind {x : Except ServiceError α} {f : α → Except ServiceError β}
    (hx : NoCheckViolation x) (hf : ∀ a, x = .ok a → NoCheckViolation (f a)) :
    NoCheckViolation (x >>= f) := by
  cases x with
  | error e => exact fun h => hx (congrArg Except.error (Except.error.inj h))
  | ok a => exact hf a rfl

theorem NoCheckViolation.ok (a : α) : NoCheckViolation (.ok a) := nofun

theorem NoCheckViolation.ite {c : Prop} [Decidable c] {x y : Except ServiceError α}
    (hx : c → NoCheckViolation x) (hy : ¬ c → NoCheckViolation y) :
    NoCheckViolation (if c then x else y) := by
  split
  · exact hx ‹_›
  · exact hy ‹_›

theorem noCheckViolation_checkAccounts {db : Database} {ownerId : UserId}
    {jobs : List SocialPublishJob} {publishing : Bool} {now : Time} :
    NoCheckViolation (checkAccounts db ownerId jobs publishing now) := by
  unfold checkAccounts
  induction jobs with
  | nil => exact .ok _
  | cons job rest ih =>
    show NoCheckViolation (checkAccount db ownerId publishing now job >>= fun _ =>
      rest.forM (checkAccount db ownerId publishing now))
    refine .bind ?_ fun _ _ => ih
    unfold checkAccount
    split
    · exact nofun
    · exact .ite (fun _ => nofun) fun _ => .ok _

theorem noCheckViolation_read {db : Database} {id : PostId} {ownerId : UserId} :
    NoCheckViolation (PgPostRepository.read db id ownerId) := by
  unfold PgPostRepository.read
  refine .bind ?_ fun _ _ => .ok _
  unfold ownedPost
  split
  · exact .ite (fun _ => .ok _) fun _ => nofun
  · exact nofun

theorem noCheckViolation_validateMedia {cfg : Config} {media : List PostMedia} :
    NoCheckViolation (validateMedia cfg media) :=
  .ite (fun _ => .ok _) fun _ => nofun

theorem noCheckViolation_checkRevision {record : PostRecord} {n : Nat} :
    NoCheckViolation (checkRevision record n) :=
  .ite (fun _ => nofun) fun _ => .ok _

theorem noCheckViolation_liftThrown {x : Except ThrownError α} :
    NoCheckViolation (liftThrown x) := by
  cases x <;> exact nofun

end NoCheckViolation

section Operations

variable {cfg : Config} {id : PostId} {ownerId : UserId} {now : Time} {db : Database}
  {f : SocialPublishJob → SocialPublishJob}

/-- The write-backs of a mutation do not fail, when each row they compute satisfies the
constraints. -/
theorem noCheckViolation_writeJobs (hf : ∀ old, writeBack (f old) old = f old)
    (hChecks : ∀ old ∈ jobsOf db id, (f old).Checks) :
    NoCheckViolation (((jobsOf db id).map f).foldlM (writeJob (jobsOf db id)) db) := by
  intro hError
  obtain ⟨before, new, after, t, hSplit, hBefore, hNew⟩ := Keyed.foldlM_error hError
  have hDistinct : ((before ++ new :: after).map SocialPublishJob.id).Nodup := by
    rw [← hSplit, map_id_of_writeBack hf]
    exact nodup_jobsOf db id
  obtain ⟨old, hOld, rfl⟩ : ∃ old ∈ jobsOf db id, f old = new := by
    refine List.mem_map.mp ?_
    rw [hSplit]
    exact List.mem_append_right _ (List.mem_cons_self ..)
  have hId := id_of_writeBack (hf old)
  -- the iterations before this one wrote other rows
  have hFrame : rowView (f old).id t = rowView (f old).id db := by
    refine writeJobs_frame hBefore fun job hJob he => ?_
    rw [List.map_append, List.nodup_append] at hDistinct
    exact hDistinct.2.2 _ (List.mem_map_of_mem hJob) _ (List.mem_cons_self ..) he
  have hRow : t.job? (f old).id = some old := by
    rw [(rowView_eq.mp hFrame).1, hId]
    exact (mem_jobsOf.mp hOld).1
  unfold writeJob at hNew
  split at hNew
  · injection hNew
  · cases hUpdate : t.updateJob (f old).id (fun _ => true) (writeBack (f old)) with
    | ok result =>
      rw [hUpdate] at hNew
      injection hNew
    | error e =>
      obtain ⟨-, row, hRow', -, hNot⟩ := updateJob_error (id_writeBack (f old)) hUpdate
      rw [hRow, Option.some.injEq] at hRow'
      subst hRow'
      rw [hf] at hNot
      exact hNot (hChecks old hOld)

theorem noCheckViolation_mutate {work : PostRecord → Except ServiceError PostRecord}
    (hf : ∀ old, writeBack (f old) old = f old)
    (hFails : ∀ current, NoCheckViolation (work current))
    (hWork : ∀ current next, work current = .ok next → next.jobs = current.jobs.map f ∧
      ∀ old ∈ current.jobs, old.Checks → (f old).Checks) :
    NoCheckViolation (mutate id ownerId work now db) := by
  refine .bind noCheckViolation_read fun current hCurrent => ?_
  refine .bind (hFails current) fun next hNext => ?_
  obtain ⟨hJobs, hChecks⟩ := hWork current next hNext
  have hCurrentJobs : current.jobs = jobsOf db id := by
    unfold PgPostRepository.read at hCurrent
    obtain ⟨row, -, hCurrent⟩ := Keyed.bind_eq_ok.mp hCurrent
    injection hCurrent with hCurrent
    rw [← hCurrent]
  have hWrite : NoCheckViolation (writeRecord id ownerId current next db) := by
    refine .bind ?_ fun _ _ => .ok _
    rw [hJobs, hCurrentJobs]
    have hRows : ∀ old ∈ jobsOf (writePost id next.post db) id, (f old).Checks :=
      fun old hOld => hChecks old (hCurrentJobs ▸ hOld) (job?_checks (mem_jobsOf.mp hOld).1)
    exact noCheckViolation_writeJobs hf hRows
  refine .ite (fun _ => ?_) fun _ => .bind hWrite fun _ _ => .ok _
  exact .bind noCheckViolation_checkAccounts fun _ _ => .bind hWrite fun _ _ => .ok _

/-- A waiting or cancelled row is bound only by its retry count. -/
theorem checks_of_unsent {job : SocialPublishJob}
    (hStatus : job.status = .waiting ∨ job.status = .cancelled) (hCount : job.retryCount ≤ 10) :
    job.Checks := by
  refine ⟨fun hKeyed => ?_, fun hReferenced => ?_, fun hFailed => ?_, hCount⟩
  · rcases hStatus with hs | hs <;> simp [SocialPublishJob.KeyedStatus, hs] at hKeyed
  · rcases hStatus with hs | hs <;> simp [SocialPublishJob.ReferencedStatus, hs] at hReferenced
  · rcases hStatus with hs | hs <;> simp [hs] at hFailed

theorem scheduleJob_checks {scheduledAt : Time} {old : SocialPublishJob} (h : old.Checks) :
    (scheduleJob scheduledAt old).Checks := by
  unfold scheduleJob
  split
  · exact h
  · exact checks_of_unsent (Or.inl rfl) h.retryCountBound

theorem cancelJob_checks {old : SocialPublishJob} (h : old.Checks) : (cancelJob old).Checks := by
  unfold cancelJob
  split
  · exact checks_of_unsent (Or.inr rfl) h.retryCountBound
  · exact h

theorem retryJob_checks {jobId : JobId} {date : Time} {old : SocialPublishJob} (h : old.Checks) :
    (retryJob jobId date old).Checks := by
  unfold retryJob
  split
  · exact checks_of_unsent (Or.inl rfl) (Nat.zero_le _)
  · exact h

theorem noCheckViolation_schedule {scheduledAt : Option Time} {approvedRevision : Nat}
    {date : Time} :
    NoCheckViolation (schedule cfg ownerId id scheduledAt approvedRevision date now db) := by
  unfold schedule
  split
  · exact nofun
  · rename_i time
    refine .ite (fun _ => nofun) fun _ => ?_
    refine noCheckViolation_mutate (scheduleJob_writeBack time) (fun current => ?_)
      fun current next hNext => ?_
    · refine .bind noCheckViolation_checkRevision fun _ _ => ?_
      refine .ite (fun _ => nofun) fun _ => .ite (fun _ => nofun) fun _ => ?_
      refine .bind noCheckViolation_liftThrown fun _ _ => ?_
      exact .ite (fun _ => nofun) fun _ => .ok _
    · obtain ⟨-, -, -, -, rfl⟩ := scheduleWork_eq_ok hNext
      exact ⟨rfl, fun _ _ => scheduleJob_checks⟩

theorem noCheckViolation_update {dto : UpdateDraftDto} :
    NoCheckViolation (update cfg ownerId id dto now db) := by
  refine noCheckViolation_mutate (f := fun job => job) (fun _ => rfl) (fun current => ?_)
    fun current next hNext => ?_
  · refine .bind noCheckViolation_checkRevision fun _ _ => ?_
    refine .ite (fun _ => nofun) fun _ => .ite (fun _ => nofun) fun _ => ?_
    exact .bind noCheckViolation_validateMedia fun _ _ => .ok _
  · obtain ⟨-, -, content, rfl⟩ := updateWork_eq_ok hNext
    exact ⟨(List.map_id _).symm, fun _ _ hChecks => hChecks⟩

theorem noCheckViolation_cancel {revision : Nat} :
    NoCheckViolation (cancel ownerId id revision now db) := by
  refine noCheckViolation_mutate cancelJob_writeBack (fun current => ?_)
    fun current next hNext => ?_
  · refine .bind noCheckViolation_checkRevision fun _ _ => ?_
    exact .ite (fun _ => nofun) fun _ => .ok _
  · obtain ⟨-, -, rfl⟩ := cancelWork_eq_ok hNext
    exact ⟨rfl, fun _ _ => cancelJob_checks⟩

theorem noCheckViolation_retry {jobId : JobId} {revision : Nat} {date : Time} :
    NoCheckViolation (retry ownerId id jobId revision date now db) := by
  refine noCheckViolation_mutate (retryJob_writeBack jobId date) (fun current => ?_)
    fun current next hNext => ?_
  · refine .bind noCheckViolation_checkRevision fun _ _ => ?_
    split
    · exact nofun
    · exact .ite (fun _ => nofun) fun _ => .ok _
  · obtain ⟨-, -, rfl⟩ := retryWork_eq_ok hNext
    exact ⟨rfl, fun _ _ => retryJob_checks⟩

theorem noCheckViolation_insertJobs {post : Post} {jobId : JobId} {targets : List SocialTarget} :
    NoCheckViolation (insertJobs (newJobs post jobId targets) db) := by
  intro hError
  obtain ⟨before, job, after, t, hSplit, -, hJob⟩ := Keyed.foldlM_error hError
  have hMem : job ∈ newJobs post jobId targets := by
    rw [hSplit]
    exact List.mem_append_right _ (List.mem_cons_self ..)
  obtain ⟨k, target, rfl⟩ := mem_newJobs hMem
  have hChecks : (newJob k post target).Checks := checks_of_unsent (Or.inl rfl) (Nat.zero_le _)
  unfold insertJob at hJob
  split at hJob
  · injection hJob with hJob
    injection hJob with hJob
    injection hJob
  · injection hJob

theorem noCheckViolation_create {dto : CreatePostDto} :
    NoCheckViolation (create cfg ownerId dto now db) := by
  refine .ite (fun _ => nofun) fun _ => .ite (fun _ => nofun) fun _ => ?_
  refine .bind noCheckViolation_validateMedia fun _ _ => ?_
  refine .bind ?_ fun _ _ => .ok _
  refine .ite (fun _ => nofun) fun _ => ?_
  refine .bind noCheckViolation_checkAccounts fun _ _ => ?_
  exact .ite (fun _ => nofun) fun _ => noCheckViolation_insertJobs

/-- No operation of the API makes a statement that violates a CHECK constraint. -/
theorem perform_not_checkViolation (operation : UserOperation) :
    operation.perform cfg now db ≠ .error (.database .checkViolation) := by
  cases operation with
  | create => exact noCheckViolation_create
  | update => exact noCheckViolation_update
  | schedule => exact noCheckViolation_schedule
  | publishNow =>
    unfold UserOperation.perform publishNow
    exact noCheckViolation_schedule
  | cancel => exact noCheckViolation_cancel
  | retry => exact noCheckViolation_retry

end Operations

/-! ## Executions -/

/-- The call records a pending retry of an ambiguous outcome on a claimed row without a
request key: between the claim of this execution and now, another one cleared the key. -/
def RecordsWithoutKey (call : Call) (row : SocialPublishJob) : Prop :=
  (∃ claimed deferred nextRetryAt, call = .recordAmbiguous claimed deferred true nextRetryAt) ∧
    row.status = .claimed ∧ row.remoteRequestKey = none

section Calls

variable {cfg : Config} {now : Time} {db : Database} {w : Worker} {call : Call}
  {old new : SocialPublishJob}

/-- A failed or retrying row needs an error code and a bounded count. -/
theorem checks_of_failure (hStatus : new.status = .retrying ∨ new.status = .failed)
    (hError : new.errorCode.isSome) (hCount : new.retryCount ≤ 10) : new.Checks := by
  refine ⟨fun hKeyed => ?_, fun hReferenced => ?_, fun _ => hError, hCount⟩
  · rcases hStatus with hs | hs <;> simp [SocialPublishJob.KeyedStatus, hs] at hKeyed
  · rcases hStatus with hs | hs <;> simp [SocialPublishJob.ReferencedStatus, hs] at hReferenced

/-- A row with a known publication needs its key and its reference. -/
theorem checks_of_confirmed (hStatus : Confirmed new) (hKey : new.remoteRequestKey.isSome)
    (hReference : Referenced new) (hCount : new.retryCount ≤ 10) : new.Checks := by
  refine ⟨fun _ => hKey, fun _ => hReference, fun hFailed => ?_, hCount⟩
  rcases hStatus with hs | hs <;> simp [hs] at hFailed

/-- A requesting row needs its key. -/
theorem checks_of_requesting (hStatus : new.status = .remoteRequesting)
    (hKey : new.remoteRequestKey.isSome) (hCount : new.retryCount ≤ 10) : new.Checks := by
  refine ⟨fun _ => hKey, fun hReferenced => ?_, fun hFailed => ?_, hCount⟩
  · simp [SocialPublishJob.ReferencedStatus, hStatus] at hReferenced
  · simp [hStatus] at hFailed

theorem claimRow_checks {leaseMs : Nat} (h : old.Checks) : (claimRow leaseMs now old).Checks := by
  rcases claimRow_status leaseMs now old with ⟨hs, -⟩ | ⟨hs, hOld⟩
  · refine ⟨fun hKeyed => ?_, fun hReferenced => ?_, fun hFailed => ?_, h.retryCountBound⟩
    · simp [SocialPublishJob.KeyedStatus, hs] at hKeyed
    · simp [SocialPublishJob.ReferencedStatus, hs] at hReferenced
    · simp [hs] at hFailed
  · exact checks_of_confirmed (Or.inl hs) (h.remoteRequestKey (Or.inr (Or.inl hOld)))
      (h.remoteReference (Or.inl hOld)) h.retryCountBound

/-- **A matching statement** of an execution stores a row that satisfies the constraints,
but for one case. -/
theorem call_checks_iff (hSound : Sound cfg w.publishJobId call)
    (hOld : old.Checks) (hCond : call.condition w now db old = true) :
    (call.set w now old).Checks ↔ ¬ RecordsWithoutKey call old := by
  have hSafe : (∀ claimed deferred retryPending nextRetryAt,
      call ≠ .recordAmbiguous claimed deferred retryPending nextRetryAt) →
      (call.set w now old).Checks →
      ((call.set w now old).Checks ↔ ¬ RecordsWithoutKey call old) := by
    intro hOther hChecks
    refine iff_of_true hChecks ?_
    rintro ⟨⟨claimed, deferred, nextRetryAt, rfl⟩, -⟩
    exact hOther _ _ _ _ rfl
  cases call with
  | claimPublishJob => exact hSafe (fun _ _ _ _ => Call.noConfusion) (claimRow_checks hOld)
  | saveRecovered claimed =>
    simp only [Call.condition, decide_eq_true_eq] at hCond
    exact hSafe (fun _ _ _ _ => Call.noConfusion) (checks_of_confirmed (Or.inr rfl)
      (hOld.remoteRequestKey (Or.inr (Or.inl hCond))) hSound.2 hOld.retryCountBound)
  | markReconciled =>
    exact hSafe (fun _ _ _ _ => Call.noConfusion)
      (checks_of_requesting rfl rfl hOld.retryCountBound)
  | markRequest =>
    exact hSafe (fun _ _ _ _ => Call.noConfusion)
      (checks_of_requesting rfl rfl hOld.retryCountBound)
  | confirm claimed job result =>
    simp only [Call.condition, decide_eq_true_eq] at hCond
    exact hSafe (fun _ _ _ _ => Call.noConfusion) (checks_of_confirmed (Or.inl rfl)
      (hOld.remoteRequestKey (Or.inl hCond)) hSound.2 hOld.retryCountBound)
  | savePublished claimed job result =>
    simp only [Call.condition, decide_eq_true_eq] at hCond
    exact hSafe (fun _ _ _ _ => Call.noConfusion) (checks_of_confirmed (Or.inr rfl)
      (hOld.remoteRequestKey (Or.inr (Or.inl hCond))) hSound.2 hOld.retryCountBound)
  | saveFailed claimed job error failure retryPending nextRetryAt =>
    refine hSafe (fun _ _ _ _ => Call.noConfusion)
      (checks_of_failure ?_ rfl (hSound.2.2.1.trans (by decide)))
    by_cases hPending : retryPending = true
    · exact Or.inl (if_pos hPending)
    · exact Or.inr (if_neg hPending)
  | recordAmbiguous claimed deferred retryPending nextRetryAt =>
    have hCount : deferred.retryCount ≤ 10 := hSound.2.2.1.trans (by decide)
    by_cases hPending : retryPending = true
    · subst hPending
      constructor
      · rintro hChecks ⟨-, -, hKey⟩
        have hSome := hChecks.remoteRequestKey (Or.inl rfl)
        simp [Call.set, ambiguousRow, hKey] at hSome
      · intro hKeyed
        refine checks_of_requesting rfl ?_ hCount
        -- a requesting row has a key, a claimed one has it by assumption
        simp only [Call.condition, inFlight, decide_eq_true_eq] at hCond
        rcases hCond with hClaimed | hRequesting
        · by_contra hNone
          exact hKeyed ⟨⟨_, _, _, rfl⟩, hClaimed, Option.not_isSome_iff_eq_none.mp hNone⟩
        · exact hOld.remoteRequestKey (Or.inl hRequesting)
    · refine iff_of_true (checks_of_failure (Or.inr (if_neg hPending)) rfl hCount) ?_
      rintro ⟨⟨_, _, _, hCall⟩, -⟩
      injection hCall with _ _ hCall
      exact hPending hCall
  | reconcileFirst | publish | adapterPublish | reconcileAfter => injection hCond

end Calls

/-! ## Every run -/

/-- The step makes a statement that fails by a CHECK constraint. -/
def ViolatesCheck (cfg : Config) (s : PublishingState) : Event → Prop
  | .repository i result => result.performed = true ∧ ∃ w call old, s.workers[i]? = some w ∧
      w.state = .running call ∧ s.db.job? (call.target w) = some old ∧
      call.condition w s.clock s.db old = true ∧ ¬ (call.set w s.clock old).Checks
  | .user operation => operation.perform cfg s.clock s.db = .error (.database .checkViolation)
  | _ => False

/-- The step records a pending retry of an ambiguous outcome on a claimed row whose request
key is NULL: since this execution claimed the row, another one has cleared the key. -/
def recordsKeyless (s : PublishingState) : Event → Bool
  | .repository i result => result.performed && (s.workers[i]?).any fun w =>
      match w.state with
      | .running (.recordAmbiguous _ deferred true _) =>
        (s.db.job? deferred.id).any fun row =>
          row.status = .claimed ∧ row.remoteRequestKey = none
      | _ => false
  | _ => false

theorem recordsKeyless_iff {s : PublishingState} {i : Nat} {result : CallResult} :
    recordsKeyless s (.repository i result) = true ↔ result.performed = true ∧
      ∃ w call old, s.workers[i]? = some w ∧ w.state = .running call ∧
        s.db.job? (call.target w) = some old ∧ RecordsWithoutKey call old := by
  unfold recordsKeyless
  rw [Bool.and_eq_true]
  refine and_congr_right fun _ => ?_
  constructor
  · intro h
    obtain ⟨w, hWorker, h⟩ := (Option.any_eq_true _ _).mp h
    split at h
    · rename_i claimed deferred nextRetryAt hState
      obtain ⟨row, hRow, h⟩ := (Option.any_eq_true _ _).mp h
      exact ⟨w, _, row, hWorker, hState, hRow, ⟨claimed, deferred, nextRetryAt, rfl⟩,
        of_decide_eq_true h⟩
    · injection h
  · rintro ⟨w, call, old, hWorker, hState, hRow, ⟨claimed, deferred, nextRetryAt, rfl⟩, hRow'⟩
    have hRow : s.db.job? deferred.id = some old := hRow
    simp [hWorker, hState, hRow, hRow']

theorem violatesCheck_iff {cfg : Config} {s : PublishingState}
    (h : Reachable (publishingSystem cfg) anyStep s) (e : Event) :
    ViolatesCheck cfg s e ↔ recordsKeyless s e = true := by
  have hCalls := (lifecycle_reachable h).calls
  cases e with
  | repository i result =>
    rw [recordsKeyless_iff]
    refine and_congr_right fun _ => ?_
    constructor
    · rintro ⟨w, call, old, hWorker, hState, hRow, hCond, hNot⟩
      refine ⟨w, call, old, hWorker, hState, hRow, ?_⟩
      rwa [call_checks_iff (hCalls.running hWorker hState) (job?_checks hRow) hCond,
        not_not] at hNot
    · rintro ⟨w, call, old, hWorker, hState, hRow, hKeyless⟩
      have hCond : call.condition w s.clock s.db old = true := by
        obtain ⟨⟨claimed, deferred, nextRetryAt, rfl⟩, hClaimed, -⟩ := hKeyless
        simp [Call.condition, inFlight, hClaimed]
      refine ⟨w, call, old, hWorker, hState, hRow, hCond, ?_⟩
      rwa [call_checks_iff (hCalls.running hWorker hState) (job?_checks hRow) hCond, not_not]
  | user operation =>
    exact iff_of_false (perform_not_checkViolation operation) Bool.false_ne_true
  | _ => exact iff_of_false id Bool.false_ne_true

/-- A known publication and an ended job stay as they are for the rest of the run. -/
theorem ended_forever {cfg : Config} {s t : PublishingState}
    (hReach : Reachable (publishingSystem cfg) anyStep s)
    (hSteps : Steps (publishingSystem cfg) anyStep s t) {j : JobId} {old : SocialPublishJob}
    (hOld : s.db.job? j = some old) :
    ∃ new, t.db.job? j = some new ∧ (Confirmed old → Confirmed new ∧ SamePublication new old) ∧
      (old.status = .published ∨ old.status = .cancelled → new = old) := by
  induction hSteps with
  | refl => exact ⟨old, hOld, fun h => ⟨h, rfl, rfl⟩, fun _ => rfl⟩
  | @tail t u e hRun _ hStep ih =>
    obtain ⟨mid, hMid, hConfirmed, hEnded⟩ := ih
    have hReach' := hReach.steps hRun
    obtain ⟨new, hNew, hChange⟩ := row_change (step_kind hStep) hMid
    have hLawful := lawful_change (lifecycle_reachable hReach').calls
      (recorded_reachable hReach') hMid hChange
    refine ⟨new, hNew, fun h => ?_, fun h => ?_⟩
    · obtain ⟨hKnown, hSame⟩ := hConfirmed h
      obtain ⟨hKnown', hSame'⟩ := hLawful.confirmed_kept hKnown
      exact ⟨hKnown', hSame'.1.trans hSame.1, hSame'.2.trans hSame.2⟩
    · have hSame := hEnded h
      subst hSame
      exact h.elim hLawful.published hLawful.cancelled

/-- **Job rows**, in every state of every run: (a) the constraints hold, and a statement
violates one exactly when a pending retry is recorded on a claimed row without its key;
(b) a confirmed publication can only become a published one, and never changes; (c)
published and cancelled rows never change; (d) a failed row without a request key is
retried or cancelled, and no other failed row changes its status. -/
theorem job_rows_lawful {cfg : Config} {s : PublishingState}
    (hReach : Reachable (publishingSystem cfg) anyStep s) :
    (∀ j row, s.db.job? j = some row → row.Checks) ∧
    (∀ e, ViolatesCheck cfg s e ↔ recordsKeyless s e = true) ∧
    (∀ e t j old, (publishingSystem cfg).step s e = some t → s.db.job? j = some old →
      ∃ new, t.db.job? j = some new ∧ LawfulChange e old new) ∧
    ∀ t j old, Steps (publishingSystem cfg) anyStep s t → s.db.job? j = some old →
      ∃ new, t.db.job? j = some new ∧
        (Confirmed old → Confirmed new ∧ SamePublication new old) ∧
        (old.status = .published ∨ old.status = .cancelled → new = old) := by
  refine ⟨fun j row => job?_checks, violatesCheck_iff hReach, fun e t j old hStep hOld => ?_,
    fun t j old hSteps => ended_forever hReach hSteps⟩
  obtain ⟨new, hNew, hChange⟩ := row_change (step_kind hStep) hOld
  exact ⟨new, hNew, lawful_change (lifecycle_reachable hReach).calls
    (recorded_reachable hReach) hOld hChange⟩

/-- The third failure of a job is recorded. -/
theorem job_rows_lawful_approved :
    ∃ s old new, old.retryCount = 2 ∧ old.status = .remoteRequesting ∧ old.Checks ∧
      new.retryCount = 3 ∧ new.status = .retrying ∧ new.Checks ∧
      LawfulChange (Installation.call 2) old new ∧
      ¬ ViolatesCheck (Installation.config false false) s (Installation.call 2) := by
  have hRun : (guardedRun (publishingSystem (Installation.config false false)) anyStep
      Installation.start (Installation.failedTwice ++
        [.adapterReturns 2 (.error Installation.rateLimited) 631000])).any
      (Installation.moves (Installation.config false false) (Installation.call 2)
        fun s _ old new => old.retryCount = 2 ∧ old.status = .remoteRequesting ∧
          new.retryCount = 3 ∧ new.status = .retrying ∧
          recordsKeyless s (Installation.call 2) = false) = true := by
    decide +kernel
  obtain ⟨s, t, old, new, hReach, hStep, hOld, hNew, hMoves⟩ := Installation.exists_moved hRun
  obtain ⟨hCount, hStatus, hCount', hStatus', hKeyed⟩ := of_decide_eq_true hMoves
  obtain ⟨hChecks, hViolates, hLawful, -⟩ := job_rows_lawful hReach
  refine ⟨s, old, new, hCount, hStatus, hChecks 1 old hOld, hCount', hStatus', job?_checks hNew,
    ?_, ?_⟩
  · obtain ⟨new', hNew', hChange⟩ := hLawful _ t 1 old hStep hOld
    rw [hNew, Option.some.injEq] at hNew'
    exact hNew' ▸ hChange
  · rw [hViolates, hKeyed]
    exact Bool.false_ne_true

open Installation in
/-- Execution 0 sends the request. Its lease expires, and execution 1 claims the row with
the key and starts to reconcile. The request is rejected for certain, so execution 0 clears
the key; execution 2 claims the row for a first attempt; and execution 1 defers. -/
def keylessRetry : List Event :=
  approved ++ [deliver, call 0, call 0, .publish 0 1000, .tick 30001, deliver, call 1,
    .adapterReturns 0 (.error rateLimited) 31001, call 0, .tick 30000, deliver, call 2,
    .reconcile 1 noAnswer 61001]

/-- A stale execution does violate a CHECK constraint. -/
theorem keyless_retry_violates_check :
    ¬ ∀ (cfg : Config) (s : PublishingState) (e : Event),
      Reachable (publishingSystem cfg) anyStep s → ¬ ViolatesCheck cfg s e := by
  intro h
  obtain ⟨s, hReach, hKeyless⟩ := exists_reachable_of_run
    (publishingSystem (Installation.config false false)) anyStep
    (fun s => recordsKeyless s (Installation.call 1)) keylessRetry
    (Installation.start_initial _) (by decide +kernel)
  exact h _ s _ hReach ((violatesCheck_iff hReach _).mpr hKeyless)

end SocialPromotion
