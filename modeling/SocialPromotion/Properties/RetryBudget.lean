import SocialPromotion.Properties.CheckConstraints

/-!
# The retry budget

A failure is counted where the attempt fails and where its outcome is deferred, from the
snapshot that the execution holds. In every run:

* `delay_exists`: `retryDelayForFailure` is asked for a first, second or third failure only;
* `failure_aborted_iff`: which failures cannot be recorded;
* `retry_budget`: both, with the bounds on the stored counts.
-/

namespace SocialPromotion

open LTS Database PublishWorkerProcessor PublishingService PgPublishOutboxRepository

/-! ## The delays that are asked for -/

namespace PublishWorkerProcessor

/-- The count with which `deferAmbiguousRemoteOutcome` calls `retryDelayForFailure`. -/
def delayOfDeferral (job : SocialPublishJob) : Option Nat :=
  let deferred := deferredJob job
  if deferred.retryCount ≤ 3 then some deferred.retryCount else none

/-- The same, of what follows the first `reconcile`. -/
def delayAfterReconcileFirst (cfg : Config) (claimed : ClaimedPublishJob) :
    Except ThrownError PublishReconciliation → Option Nat
  | .error _ | .ok (.confirmed _) => none
  | .ok _ =>
    if canSafelyRepeatRemoteRequest cfg claimed.job.platform then none
    else delayOfDeferral claimed.job

/-- The same, of what follows `publish`. -/
def delayAfterPublish : PublishExecution → Option Nat
  | .ok _ _ => none
  | .failed failed _ failure =>
    if failure.ambiguous then none
    else if shouldRetryPublish failure failed.retryCount then some failed.retryCount
    else none

/-- The same, of what follows the second `reconcile`. -/
def delayAfterReconcileAfter (failed : SocialPublishJob) :
    Except ThrownError PublishReconciliation → Option Nat
  | .error _ | .ok (.confirmed _) => none
  | .ok _ => delayOfDeferral failed

end PublishWorkerProcessor

/-- The count with which BullMQ's backoff calls `retryDelayForFailure` after a failed attempt. -/
def delayOfBackoff (job : QueuedJob) : Outcome → Option Nat
  | .resolved _ | .jobTerminal _ _ => none
  | .jobFailed _ _ | .raised =>
    if job.attemptsMade + 1 < job.attempts then
      some (min (max (job.attemptsMade + 1) 1) PUBLISH_RETRY_DELAYS_MS.length)
    else none

/-- The count with which a step calls `retryDelayForFailure`, if it does. -/
def PublishingState.delayAsked (cfg : Config) (s : PublishingState) : Event → Option Nat
  | .reconcile i answer date => (s.workers[i]?).bind fun w =>
    match w.state with
    | .running (.reconcileFirst claimed _) =>
      delayAfterReconcileFirst cfg claimed (reconcile cfg claimed.post claimed.job answer date)
    | .running (.reconcileAfter claimed job failed) =>
      delayAfterReconcileAfter failed (reconcile cfg claimed.post job answer date)
    | _ => none
  | .publish i _ => (s.workers[i]?).bind fun w =>
    match w.state with
    | .running (.publish claimed job) =>
      match publishStart cfg claimed.post job with
      | .settled execution => delayAfterPublish execution
      | .call _ _ => none
    | _ => none
  | .adapterReturns i answer _ => (s.workers[i]?).bind fun w =>
    match w.state with
    | .running (.adapterPublish _ job _) => delayAfterPublish (publishFinish job answer)
    | _ => none
  | .settle q _ => (s.queue[q]?).bind fun job =>
    match s.processorOf job with
    | some (.ended outcome) => delayOfBackoff job outcome
    | _ => none
  | _ => none

section Delays

variable {cfg : Config} {claimed : ClaimedPublishJob} {job failed : SocialPublishJob}
  {date : Time}

theorem nextRetry_error_iff {retryPending : Bool} {n : Nat} :
    (∃ e, nextRetry retryPending date n = .error e) ↔ retryPending = true ∧ ¬ (1 ≤ n ∧ n ≤ 3) := by
  rw [← retryDelayForFailure_isOk_iff]
  unfold nextRetry
  cases retryPending with
  | false => simp
  | true => cases retryDelayForFailure n <;> simp [Except.map]

/-- A deferral raises exactly where the delay it asks for does not exist. -/
theorem defer_raised_iff : deferAmbiguousRemoteOutcome claimed job date = .ended .raised ↔
    ∃ n, delayOfDeferral job = some n ∧ ¬ (1 ≤ n ∧ n ≤ 3) := by
  have hError : (∃ e, nextRetry (decide ((deferredJob job).retryCount ≤ 3)) date
      (deferredJob job).retryCount = .error e) ↔ _ := nextRetry_error_iff
  have hRaised : deferAmbiguousRemoteOutcome claimed job date = .ended .raised ↔
      ∃ e, nextRetry (decide ((deferredJob job).retryCount ≤ 3)) date
        (deferredJob job).retryCount = .error e := by
    unfold deferAmbiguousRemoteOutcome
    dsimp only
    cases nextRetry (decide ((deferredJob job).retryCount ≤ 3)) date _ <;> simp
  rw [hRaised, hError, decide_eq_true_eq]
  unfold delayOfDeferral
  by_cases hPending : (deferredJob job).retryCount ≤ 3
  · simp only [hPending, if_true, true_and, Option.some.injEq, exists_eq_left']
  · simp only [hPending, if_false, false_and, reduceCtorEq, exists_false]

/-- A failed attempt raises exactly where the delay it asks for does not exist. -/
theorem afterPublish_raised_iff {execution : PublishExecution} :
    afterPublish claimed job date execution = .ended .raised ↔
      ∃ n, delayAfterPublish execution = some n ∧ ¬ (1 ≤ n ∧ n ≤ 3) := by
  cases execution with
  | ok confirmed result => simp [afterPublish, delayAfterPublish]
  | failed failed error failure =>
    by_cases hAmbiguous : failure.ambiguous = true
    · simp [afterPublish, delayAfterPublish, hAmbiguous]
    · have hError : (∃ e, nextRetry (shouldRetryPublish failure failed.retryCount) date
          failed.retryCount = .error e) ↔ _ := nextRetry_error_iff
      have hRaised : afterPublish claimed job date (.failed failed error failure) =
          .ended .raised ↔ ∃ e, nextRetry (shouldRetryPublish failure failed.retryCount) date
            failed.retryCount = .error e := by
        simp only [afterPublish, hAmbiguous]
        cases nextRetry (shouldRetryPublish failure failed.retryCount) date _ <;> simp
      rw [hRaised, hError]
      by_cases hPending : shouldRetryPublish failure failed.retryCount = true <;>
        simp [delayAfterPublish, hAmbiguous, hPending]

/-- The delay of a deferral that the budget allows. -/
theorem delayOfDeferral_bounds {n : Nat} (h : delayOfDeferral job = some n)
    (hCounted : Counted (deferredJob job) (decide ((deferredJob job).retryCount ≤ 3))) :
    1 ≤ n ∧ n ≤ 3 := by
  unfold delayOfDeferral at h
  dsimp only at h
  split at h
  · rename_i hPending
    injection h with h
    exact h ▸ ⟨hCounted.1, hPending⟩
  · injection h

/-- The delay of an attempt on a job that has failed at most three times before. -/
theorem delayAfterPublish_bounds {execution : PublishExecution} {n : Nat}
    (h : delayAfterPublish execution = some n)
    (hFailed : ∀ failed error failure, execution = .failed failed error failure →
      1 ≤ failed.retryCount) : 1 ≤ n ∧ n ≤ 3 := by
  cases execution with
  | ok confirmed result => injection h
  | failed failed error failure =>
    simp only [delayAfterPublish] at h
    split_ifs at h with hAmbiguous hRetry
    injection h with h
    exact h ▸ ⟨hFailed _ _ _ rfl, (shouldRetryPublish_iff.mp hRetry).2⟩

theorem failedWith_counted {error error' : ThrownError} {failure : PublishFailure}
    (h : failedWith job error' = .failed failed error failure) : 1 ≤ failed.retryCount := by
  injection h with h
  rw [← h]
  exact Nat.le_add_left _ _

theorem publishFinish_counted {answer : Except ThrownError PublishResult} {error : ThrownError}
    {failure : PublishFailure} (h : publishFinish job answer = .failed failed error failure) :
    1 ≤ failed.retryCount := by
  unfold publishFinish at h
  split at h
  · exact failedWith_counted h
  · split at h
    · exact failedWith_counted h
    · injection h

/-- A job under a request counts its failure where `publish` settles without a call. -/
theorem publishStart_counted {post : Post} {execution : PublishExecution} {error : ThrownError}
    {failure : PublishFailure} (hStatus : job.status = .remoteRequesting)
    (hKey : job.remoteRequestKey.isSome) (h : publishStart cfg post job = .settled execution)
    (hFailed : execution = .failed failed error failure) : 1 ≤ failed.retryCount := by
  subst hFailed
  obtain ⟨key, hKey⟩ := Option.isSome_iff_exists.mp hKey
  simp only [publishStart, hStatus, hKey, ne_eq, not_true_eq_false, if_false] at h
  split at h
  · injection h with h
    injection h with h
    rw [← h]
    exact Nat.le_add_left _ _
  · split at h
    · injection h with h
      exact failedWith_counted h
    · injection h

theorem delayOfBackoff_bounds {queued : QueuedJob} {outcome : Outcome} {n : Nat}
    (h : delayOfBackoff queued outcome = some n) : 1 ≤ n ∧ n ≤ 3 := by
  have hBounds : ∀ k, 1 ≤ min (max (k + 1) 1) PUBLISH_RETRY_DELAYS_MS.length ∧
      min (max (k + 1) 1) PUBLISH_RETRY_DELAYS_MS.length ≤ 3 := by
    intro k
    simp only [PUBLISH_RETRY_DELAYS_MS, List.length_cons, List.length_nil]
    omega
  unfold delayOfBackoff at h
  split at h
  · injection h
  · injection h
  · split at h
    · injection h with h
      exact h ▸ hBounds _
    · injection h
  · split at h
    · injection h with h
      exact h ▸ hBounds _
    · injection h

end Delays

section Reachable

variable {cfg : Config} {s : PublishingState}

/-- **Every delay asked for exists**: the failure is the first, the second or the third. -/
theorem delay_exists (hReach : Reachable (publishingSystem cfg) anyStep s) {e : Event} {n : Nat}
    (h : s.delayAsked cfg e = some n) : 1 ≤ n ∧ n ≤ 3 := by
  have hCalls := (lifecycle_reachable hReach).calls
  cases e with
  | reconcile i answer date =>
    obtain ⟨w, hWorker, h⟩ := Option.bind_eq_some_iff.mp h
    split at h
    · rename_i claimed key hState
      obtain ⟨-, -, hCount, hStatus⟩ := hCalls.running hWorker hState
      simp only [delayAfterReconcileFirst] at h
      split at h
      · injection h
      · injection h
      · split at h
        · injection h
        · exact delayOfDeferral_bounds h (counted_deferredJob (Or.inl ⟨hStatus, hCount⟩))
    · rename_i claimed job failed hState
      obtain ⟨-, -, hFailed⟩ := hCalls.running hWorker hState
      simp only [delayAfterReconcileAfter] at h
      split at h
      · injection h
      · injection h
      · exact delayOfDeferral_bounds h (counted_deferredJob (Or.inr hFailed))
    · injection h
  | publish i date =>
    obtain ⟨w, hWorker, h⟩ := Option.bind_eq_some_iff.mp h
    split at h
    · rename_i claimed job hState
      obtain ⟨-, hStatus, hKey, -⟩ := hCalls.running hWorker hState
      split at h
      · rename_i execution hStart
        exact delayAfterPublish_bounds h fun failed error failure hFailed =>
          publishStart_counted hStatus hKey hStart hFailed
      · injection h
    · injection h
  | adapterReturns i answer date =>
    obtain ⟨w, hWorker, h⟩ := Option.bind_eq_some_iff.mp h
    split at h
    · exact delayAfterPublish_bounds h fun failed error failure => publishFinish_counted
    · injection h
  | settle q date =>
    obtain ⟨queued, -, h⟩ := Option.bind_eq_some_iff.mp h
    split at h
    · exact delayOfBackoff_bounds h
    · injection h
  | _ => injection h

/-! ## Failures that cannot be recorded -/

/-- A matching UPDATE that would store a row against a CHECK constraint. -/
theorem updateJob_checkViolation {db : Database} {id : JobId}
    {condition : SocialPublishJob → Bool} {set : SocialPublishJob → SocialPublishJob}
    {old : SocialPublishJob} (hId : ∀ row, (set row).id = row.id) (hOld : db.job? id = some old)
    (hCond : condition old = true) (hChecks : ¬ (set old).Checks) :
    db.updateJob id condition set = .error .checkViolation := by
  cases hUpdate : db.updateJob id condition set with
  | error e => rw [(updateJob_error hId hUpdate).1]
  | ok result =>
    obtain ⟨updated, db'⟩ := result
    rcases updateJob_cases hId hUpdate with
      ⟨-, -, hNone⟩ | ⟨old', stored, hOld', -, hStored, -⟩
    · simp [hNone old hOld] at hCond
    · rw [hOld, Option.some.injEq] at hOld'
      exact absurd (hStored ▸ stored.checks) (hOld' ▸ hChecks)

/-- The transaction that records a failure, for the two calls that do. -/
def failureTransaction (now : Time) (db : Database) : Call → Option (Except DbError Database)
  | .saveFailed _ job _ _ retryPending nextRetryAt =>
    some (saveFailed job retryPending nextRetryAt now db)
  | .recordAmbiguous _ deferred retryPending nextRetryAt =>
    some (recordAmbiguousRemoteOutcome deferred retryPending nextRetryAt now db)
  | _ => none

/-- The step runs a transaction that records a failure, and a CHECK constraint aborts it. -/
def AbortsFailure (s : PublishingState) : Event → Prop
  | .repository i result => result.performed = true ∧ ∃ w call, s.workers[i]? = some w ∧
      w.state = .running call ∧
      failureTransaction s.clock s.db call = some (.error .checkViolation)
  | _ => False

/-- Such a transaction fails by its UPDATE alone, where the failure has been counted. -/
theorem recording_aborted_iff {now : Time} {db : Database} {id : JobId} {retryPending : Bool}
    {set : SocialPublishJob → SocialPublishJob} (hId : ∀ row, (set row).id = row.id)
    (hCount : ∀ row, 1 ≤ (set row).retryCount) :
    (db.updateJob id inFlight set >>= finishFailure retryPending now) = .error .checkViolation ↔
      ∃ old, db.job? id = some old ∧ inFlight old = true ∧ ¬ (set old).Checks := by
  constructor
  · intro h
    cases hUpdate : db.updateJob id inFlight set with
    | error e => exact (updateJob_error hId hUpdate).2
    | ok result =>
      obtain ⟨updated, db'⟩ := result
      rw [hUpdate] at h
      rcases updateJob_cases hId hUpdate with ⟨rfl, -⟩ | ⟨old, -, -, -, -, rfl, -⟩
      · injection h
      · rcases finishFailure_cases h with ⟨db'', hOk, -⟩ | ⟨-, -, hZero⟩
        · injection hOk
        · have hPositive := hCount old
          omega
  · rintro ⟨old, hOld, hFlight, hChecks⟩
    rw [updateJob_checkViolation hId hOld hFlight hChecks]
    rfl

/-- A failure is recorded by the UPDATE of its call. -/
theorem failureTransaction_eq_some {w : Worker} {now : Time} {db : Database} {call : Call}
    {outcome : Except DbError Database} (h : failureTransaction now db call = some outcome) :
    (∀ row, call.condition w now db row = inFlight row) ∧
      outcome = (db.updateJob (call.target w) inFlight (call.set w now) >>=
        finishFailure (!call.terminal) now) := by
  cases call with
  | saveFailed | recordAmbiguous =>
    injection h with h
    refine ⟨fun _ => rfl, h.symm.trans ?_⟩
    simp only [Call.terminal, Bool.not_not]
    rfl
  | _ => injection h

/-- The row that a pending failure would write, and the alert with it, count a failure. -/
theorem failure_counted (hReach : Reachable (publishingSystem cfg) anyStep s) {i : Nat}
    {w : Worker} {call : Call} (hWorker : s.workers[i]? = some w) (hState : w.state = .running call)
    (hFailure : failureTransaction s.clock s.db call ≠ none) (row : SocialPublishJob) :
    1 ≤ (call.set w s.clock row).retryCount := by
  have hSound := (lifecycle_reachable hReach).calls.running hWorker hState
  cases call with
  | saveFailed => exact hSound.2.1
  | recordAmbiguous => exact hSound.2.1
  | _ => exact absurd rfl hFailure

/-- **A failure cannot be recorded** exactly where it is a pending retry of an ambiguous
outcome, and the row is claimed without a request key. -/
theorem failure_aborted_iff (hReach : Reachable (publishingSystem cfg) anyStep s) (e : Event) :
    AbortsFailure s e ↔ recordsKeyless s e = true := by
  have hCalls := (lifecycle_reachable hReach).calls
  cases e with
  | repository i result =>
    rw [recordsKeyless_iff]
    refine and_congr_right fun _ => ?_
    constructor
    · rintro ⟨w, call, hWorker, hState, hAborted⟩
      obtain ⟨hCond, hOutcome⟩ := failureTransaction_eq_some (w := w) hAborted
      have hCount := failure_counted hReach hWorker hState (by rw [hAborted]; exact nofun)
      obtain ⟨old, hOld, hFlight, hChecks⟩ :=
        (recording_aborted_iff (call.set_id w s.clock) hCount).mp hOutcome.symm
      refine ⟨w, call, old, hWorker, hState, hOld, ?_⟩
      rwa [call_checks_iff (hCalls.running hWorker hState) (job?_checks hOld)
        ((hCond old).trans hFlight), not_not] at hChecks
    · rintro ⟨w, call, old, hWorker, hState, hOld, hKeyless⟩
      refine ⟨w, call, hWorker, hState, ?_⟩
      obtain ⟨⟨claimed, deferred, nextRetryAt, rfl⟩, hClaimed, -⟩ := id hKeyless
      have hTransaction : failureTransaction s.clock s.db
        (.recordAmbiguous claimed deferred true nextRetryAt) = some _ := rfl
      obtain ⟨hCond, hOutcome⟩ := failureTransaction_eq_some (w := w) hTransaction
      have hCount := failure_counted hReach hWorker hState nofun
      have hFlight : inFlight old = true := by simp [inFlight, hClaimed]
      have hChecks : ¬ (Call.set w s.clock (.recordAmbiguous claimed deferred true nextRetryAt)
          old).Checks := by
        rwa [call_checks_iff (hCalls.running hWorker hState) (job?_checks hOld)
          ((hCond old).trans hFlight), not_not]
      rw [← (recording_aborted_iff (Call.set_id w s.clock _) hCount).mpr
        ⟨old, hOld, hFlight, hChecks⟩]
      exact congrArg some hOutcome
  | _ => exact iff_of_false id Bool.false_ne_true

/-- **The retry budget** in every state of every run: the stored counts are bounded; a delay
is asked for a first, second or third failure only, so no `RangeError` is raised; `publish`
is only called for a row under a request; the alert of a terminal failure counts it; and a
failure cannot be recorded exactly where it is a pending retry of an ambiguous outcome, and
another execution has cleared the request key of the claimed row. -/
theorem retry_budget {cfg : Config} {s : PublishingState}
    (hReach : Reachable (publishingSystem cfg) anyStep s) :
    (∀ j row, s.db.job? j = some row → row.retryCount ≤ 4 ∧
      (row.status ≠ .failed → row.status ≠ .cancelled → row.retryCount ≤ 3)) ∧
    (∀ e n, s.delayAsked cfg e = some n →
      (n = 1 ∨ n = 2 ∨ n = 3) ∧ ∃ delay, retryDelayForFailure n = .ok delay) ∧
    (∀ (i : Nat) (w : Worker) (claimed : ClaimedPublishJob) (job : SocialPublishJob),
      s.workers[i]? = some w → w.state = .running (.publish claimed job) →
      job.status = .remoteRequesting ∧ job.remoteRequestKey ≠ none) ∧
    (∀ (i : Nat) (w : Worker) (call : Call) (row : SocialPublishJob), s.workers[i]? = some w →
      w.state = .running call → failureTransaction s.clock s.db call ≠ none →
      1 ≤ (call.set w s.clock row).retryCount) ∧
    ∀ e, AbortsFailure s e ↔ recordsKeyless s e = true := by
  have hInv := lifecycle_reachable hReach
  refine ⟨fun j row hRow => hInv.rows j row hRow, fun e n hAsked => ?_,
    fun i w claimed job hWorker hState => ?_,
    fun i w call row hWorker hState hFailure => failure_counted hReach hWorker hState hFailure row,
    failure_aborted_iff hReach⟩
  · have hBounds := delay_exists hReach hAsked
    exact ⟨by omega, retryDelayForFailure_isOk_iff.mpr hBounds⟩
  · obtain ⟨-, hStatus, hKey, -⟩ := hInv.calls.running hWorker hState
    exact ⟨hStatus, Option.isSome_iff_ne_none.mp hKey⟩

/-- A delay is asked for the third failure of a job. -/
theorem retry_budget_approved :
    ∃ s row, s.db.job? 1 = some row ∧ row.retryCount = 2 ∧ row.status = .remoteRequesting ∧
      (s.delayAsked (Installation.config false false)
        (.adapterReturns 2 (.error Installation.rateLimited) 631000) = some 3) ∧
      (∃ delay, retryDelayForFailure 3 = .ok delay) ∧
      ∀ e, AbortsFailure s e ↔ recordsKeyless s e = true := by
  obtain ⟨s, hReach, hFailing⟩ := exists_reachable_of_run
    (publishingSystem (Installation.config false false)) anyStep
    (fun s => (s.db.job? 1).any fun row => row.retryCount = 2 ∧ row.status = .remoteRequesting ∧
      s.delayAsked (Installation.config false false)
        (.adapterReturns 2 (.error Installation.rateLimited) 631000) = some 3)
    Installation.failedTwice (Installation.start_initial _) (by decide +kernel)
  obtain ⟨row, hRow, hShows⟩ := (Option.any_eq_true _ _).mp hFailing
  obtain ⟨hCount, hStatus, hAsked⟩ := of_decide_eq_true hShows
  obtain ⟨-, hDelays, -, -, hAborted⟩ := retry_budget hReach
  exact ⟨s, row, hRow, hCount, hStatus, hAsked, (hDelays _ 3 hAsked).2, hAborted⟩

/-- A failure that cannot be recorded does occur. -/
theorem keyless_failure_not_recorded :
    ¬ ∀ (cfg : Config) (s : PublishingState) (e : Event),
      Reachable (publishingSystem cfg) anyStep s → ¬ AbortsFailure s e := by
  intro h
  obtain ⟨s, hReach, hKeyless⟩ := exists_reachable_of_run
    (publishingSystem (Installation.config false false)) anyStep
    (fun s => recordsKeyless s (Installation.call 1)) keylessRetry
    (Installation.start_initial _) (by decide +kernel)
  exact h _ s _ hReach ((failure_aborted_iff hReach _).mpr hKeyless)

end Reachable

end SocialPromotion
