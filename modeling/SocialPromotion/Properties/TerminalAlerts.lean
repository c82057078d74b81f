import SocialPromotion.Properties.AlertsKept
import SocialPromotion.Properties.RowLifecycle

/-!
# Terminal failures and their alerts

A job that fails for good gets an alert row in the same transaction, unless it has one already:
`insertFinalFailureAudit` inserts ON CONFLICT DO NOTHING. A job that its user retries can fail for
good again, and the alert of its first failure may be delivered by then.

* `terminalFailures_alerted_iff`: one step leaves the alerts of all its terminal failures
  exactly where none of the jobs has another alert;
* `terminal_failures_alerted`: and so for whole runs.
-/

namespace SocialPromotion

open LTS PublishWorkerProcessor
open FailureAlertService (claimable)

/-! ## The record of the terminal failures -/

/-- A job became failed; `alert` is its alert row in the database after the commit. -/
structure TerminalFailure where
  jobId : JobId
  errorCode : Option ErrorCode
  retryCount : Nat
  alert : Option FailureAlertRow

/-- The failure of job `j` in a step, if the step makes it failed. -/
def terminalFailure (db db' : Database) (j : JobId) : Option TerminalFailure :=
  match db.job? j, db'.job? j with
  | some old, some new =>
    if old.status ≠ .failed ∧ new.status = .failed then
      some ⟨j, new.errorCode, new.retryCount, db'.alerts.lookup j⟩
    else none
  | _, _ => none

/-- All jobs that a step makes failed. -/
def terminalFailures (s : PublishingState) (_ : Event) (s' : PublishingState) :
    List TerminalFailure :=
  s'.db.jobs.keys.filterMap (terminalFailure s.db s'.db)

/-- The publishing system with the record of its terminal failures. -/
def failureSystem (cfg : Config) : System (PublishingState × List TerminalFailure) Event :=
  (publishingSystem cfg).logged terminalFailures

/-- The job has an alert for this failure that is still to be delivered: `claim` selects it
from some time on. -/
def TerminalFailure.Alerted (failure : TerminalFailure) : Prop :=
  ∃ alert, failure.alert = some alert ∧ some alert.errorCode = failure.errorCode ∧
    alert.retryCount = failure.retryCount ∧
      ∃ time, ∀ now, time < now → claimable now alert = true

/-- The step saves a terminal failure of job `j`, whose row becomes `new`. -/
def EndsInFailure (s : PublishingState) (e : Event) (j : JobId) (new : SocialPublishJob) : Prop :=
  ∃ i result w call old, e = .repository i result ∧ result.performed = true ∧
    s.workers[i]? = some w ∧ w.state = .running call ∧ call.terminal = true ∧
    call.target w = j ∧ s.db.job? j = some old ∧ call.condition w s.clock s.db old = true ∧
    new = call.set w s.clock old

/-- The alert row that a job already has is undelivered and one for this very failure. -/
def SameAlert (new : SocialPublishJob) (alert : FailureAlertRow) : Prop :=
  alert.status ≠ .delivered ∧ some alert.errorCode = new.errorCode ∧
    alert.retryCount = new.retryCount

/-- Where the step saves a terminal failure, the job has no alert row yet, or an undelivered one
with the same error code and retry count. -/
def NoOtherAlert (s : PublishingState × List TerminalFailure) (e : Event) : Prop :=
  ∀ j new, EndsInFailure s.1 e j new → ∀ alert, s.1.db.alerts.lookup j = some alert →
    SameAlert new alert

/-! ## Steps that make a job failed -/

section Step

variable {cfg : Config} {s s' : PublishingState} {e : Event} {j : JobId}
  {old new : SocialPublishJob}

/-- No operation of a user makes a job failed. -/
theorem not_failed_edited {db : Database} {id : PostId} {row : PostRow}
    {operation : UserOperation} {next : Post} {f : SocialPublishJob → SocialPublishJob}
    (hEdit : Edit cfg db id row operation next f) (hOld : old.status ≠ .failed) :
    (f old).status ≠ .failed := by
  cases hEdit with
  | update => exact hOld
  | schedule scheduledAt =>
    unfold PostService.scheduleJob
    split
    · exact hOld
    · nofun
  | cancel =>
    unfold PostService.cancelJob
    split
    · nofun
    · exact hOld
  | retry =>
    unfold PostService.retryJob
    split
    · nofun
    · exact hOld

/-- Only the two statements for failures make a row failed. -/
theorem terminal_of_failed {w : Worker} {call : Call} {now : Time} {db : Database}
    (hCond : call.condition w now db old = true) (hFailed : (call.set w now old).status = .failed) :
    call.terminal = true := by
  cases call with
  | saveFailed claimed job error failure retryPending nextRetryAt =>
    cases retryPending with
    | true => cases hFailed
    | false => rfl
  | recordAmbiguous claimed deferred retryPending nextRetryAt =>
    cases retryPending with
    | true => cases hFailed
    | false => rfl
  | claimPublishJob => exact absurd hFailed (claimRow_not_failed _ _ _)
  | reconcileFirst | publish | adapterPublish | reconcileAfter => simp [Call.condition] at hCond
  | saveRecovered | markReconciled | markRequest | confirm | savePublished => cases hFailed

/-- The row that a terminal failure writes. -/
theorem failed_of_terminal {w : Worker} {call : Call} (now : Time) (row : SocialPublishJob)
    (h : call.terminal = true) :
    (call.set w now row).status = .failed ∧ (call.set w now row).errorCode.isSome := by
  cases call with
  | saveFailed claimed job error failure retryPending nextRetryAt =>
    cases retryPending with
    | true => cases h
    | false => exact ⟨rfl, rfl⟩
  | recordAmbiguous claimed deferred retryPending nextRetryAt =>
    cases retryPending with
    | true => cases h
    | false => exact ⟨rfl, rfl⟩
  | _ => cases h

/-- A terminal failure counts its attempt, within the bound of the retries. -/
theorem counted_of_terminal {w : Worker} {call : Call} (now : Time) (row : SocialPublishJob)
    (hSound : Sound cfg j call) (h : call.terminal = true) :
    1 ≤ (call.set w now row).retryCount ∧ (call.set w now row).retryCount ≤ 4 := by
  cases call with
  | saveFailed => exact ⟨hSound.2.1, hSound.2.2.1⟩
  | recordAmbiguous => exact ⟨hSound.2.1, hSound.2.2.1⟩
  | _ => cases h

/-- No constraint keeps a terminal failure from being saved. -/
theorem checks_of_terminal {w : Worker} {call : Call} {now : Time} {row : SocialPublishJob}
    (hSound : Sound cfg j call) (h : call.terminal = true) : (call.set w now row).Checks := by
  obtain ⟨hFailed, hError⟩ := failed_of_terminal (w := w) now row h
  have hCount := (counted_of_terminal (w := w) now row hSound h).2
  refine ⟨fun hKeyed => ?_, fun hReferenced => ?_, fun _ => hError, by omega⟩
  · rcases hKeyed with hStatus | hStatus | hStatus
    all_goals simp [hFailed] at hStatus
  · rcases hReferenced with hStatus | hStatus
    all_goals simp [hFailed] at hStatus

theorem not_blocked_of_terminal {w : Worker} {call : Call} {now : Time} {db : Database}
    {row : SocialPublishJob} (hSound : Sound cfg j call) (h : call.terminal = true) :
    ¬ call.Blocked db (call.set w now row) := by
  have hCount := (counted_of_terminal (w := w) now row hSound h).1
  cases call with
  | saveFailed => exact fun hBlocked => absurd hBlocked.2 (Nat.one_le_iff_ne_zero.mp hCount)
  | recordAmbiguous => exact fun hBlocked => absurd hBlocked.2 (Nat.one_le_iff_ne_zero.mp hCount)
  | _ => cases h

/-- **A terminal failure is saved** where its row matches. -/
theorem EndsInFailure.followed (hCalls : Pending (Sound cfg) s)
    (hStep : (publishingSystem cfg).step s e = some s') (h : EndsInFailure s e j new) :
    ∃ old, s.db.job? j = some old ∧ old.status ≠ .failed ∧ new.id = j ∧ new.status = .failed ∧
      new.errorCode.isSome ∧ s'.db.job? j = some new ∧
      FollowedUp true false s.clock new s.db s'.db := by
  obtain ⟨i, result, w, call, old, rfl, hPerformed, hWorker, hState, hTerminal, rfl, hOld, hCond,
    rfl⟩ := h
  have hSound := hCalls.running hWorker hState
  obtain ⟨hFailed, hError⟩ := failed_of_terminal (w := w) s.clock old hTerminal
  have hOpen : old.status ≠ .failed := by
    intro hStatus
    rw [not_condition_of_ended (Or.inr (Or.inr hStatus))] at hCond
    injection hCond
  have hId := (call.set_id w s.clock old).trans (Database.job?_id hOld)
  refine ⟨old, hOld, hOpen, hId, hFailed, hError, ?_⟩
  -- the step performs the call, and nothing keeps it from writing its row
  have hStep : s.repositoryStep i result = some s' := hStep
  simp only [PublishingState.repositoryStep, hWorker, hState] at hStep
  obtain ⟨after, hCall, rfl⟩ := Option.map_eq_some_iff.mp hStep
  have hSame : ∀ before, s.db.job? (call.target w) = some before → before = old := by
    intro before hBefore
    rw [hOld, Option.some.injEq] at hBefore
    exact hBefore.symm
  have hPublishes : call.publishes = false := by
    cases call with
    | saveRecovered | savePublished => cases hTerminal
    | _ => rfl
  show Database.job? (result.leaves s.db after.2) _ = _ ∧
    FollowedUp true false _ _ _ (result.leaves s.db after.2)
  rw [CallResult.leaves, if_pos hPerformed]
  cases repositoryCall_cases hCall with
  | @wrote before db' _ _ hWritten hFollowed =>
    obtain rfl := hSame before hWritten.found
    rw [hTerminal, hPublishes] at hFollowed
    exact ⟨(hWritten.rows _).trans (if_pos rfl), hFollowed⟩
  | none hNone =>
    rw [hNone old hOld] at hCond
    injection hCond
  | @failed before hBefore _ hFail =>
    obtain rfl := hSame before hBefore
    rcases hFail with hChecks | hBlocked
    · exact absurd (checks_of_terminal hSound hTerminal) hChecks
    · exact absurd hBlocked (not_blocked_of_terminal hSound hTerminal)

/-- A step makes a job failed by saving a terminal failure. -/
theorem endsInFailure_of_failed (hStep : (publishingSystem cfg).step s e = some s')
    (hOld : s.db.job? j = some old) (hNew : s'.db.job? j = some new)
    (hOpen : old.status ≠ .failed) (hFailed : new.status = .failed) :
    EndsInFailure s e j new := by
  obtain ⟨row, hRow, hChange⟩ := row_change (step_kind hStep) hOld
  rw [hNew, Option.some.injEq] at hRow
  subst hRow
  cases hChange with
  | same hSame => exact absurd (hSame ▸ hFailed) hOpen
  | @called i result w call hEvent hWorker hState hTarget hCond hSet =>
    subst hEvent hSet
    refine ⟨i, result, w, call, old, rfl, ?_, hWorker, hState, terminal_of_failed hCond hFailed,
      hTarget.trans (Database.job?_id hOld), hOld, hCond, rfl⟩
    -- a call that takes no effect leaves the row as it was
    by_contra hNot
    have hStep : s.repositoryStep i result = some s' := hStep
    simp only [PublishingState.repositoryStep, hWorker, hState] at hStep
    obtain ⟨after, -, rfl⟩ := Option.map_eq_some_iff.mp hStep
    have hKept : Database.job? (result.leaves s.db after.2) j = some (call.set w s.clock old) :=
      hNew
    rw [CallResult.leaves, if_neg hNot, hOld, Option.some.injEq] at hKept
    exact hOpen (hKept ▸ hFailed)
  | edited _ hEdit _ hSet => exact absurd (hSet ▸ hFailed) (not_failed_edited hEdit hOpen)

/-- The failures of a step are those that it saves. -/
theorem mem_terminalFailures_iff (hCalls : Pending (Sound cfg) s)
    (hStep : (publishingSystem cfg).step s e = some s') {failure : TerminalFailure} :
    failure ∈ terminalFailures s e s' ↔ ∃ j new, EndsInFailure s e j new ∧
      failure = ⟨j, new.errorCode, new.retryCount, s'.db.alerts.lookup j⟩ := by
  rw [terminalFailures, List.mem_filterMap]
  constructor
  · rintro ⟨j, -, hFailure⟩
    unfold terminalFailure at hFailure
    split at hFailure
    · rename_i old new hOld hNew
      split at hFailure
      · rename_i hStatus
        injection hFailure with hFailure
        exact ⟨j, new, endsInFailure_of_failed hStep hOld hNew hStatus.1 hStatus.2, hFailure.symm⟩
      · injection hFailure
    · injection hFailure
  · rintro ⟨j, new, hSaves, rfl⟩
    obtain ⟨old, hOld, hOpen, -, hFailed, -, hNew, -⟩ := hSaves.followed hCalls hStep
    refine ⟨j, ?_, ?_⟩
    · obtain ⟨stored, hStored, -⟩ := Database.job?_eq_some_iff.mp hNew
      exact AList.mem_keys.mp (AList.lookup_isSome.mp (by rw [hStored]; rfl))
    · rw [terminalFailure, hOld, hNew]
      exact if_pos ⟨hOpen, hFailed⟩

/-- A failure that is saved is alerted where the job has no other alert. -/
theorem EndsInFailure.alerted_iff (hCalls : Pending (Sound cfg) s)
    (hLeased : ∀ id row, s.db.alerts.lookup id = some row → row.status = .processing →
      row.leaseExpiresAt.isSome)
    (hStep : (publishingSystem cfg).step s e = some s') (h : EndsInFailure s e j new) :
    TerminalFailure.Alerted ⟨j, new.errorCode, new.retryCount, s'.db.alerts.lookup j⟩ ↔
      ∀ alert, s.db.alerts.lookup j = some alert → SameAlert new alert := by
  obtain ⟨-, -, -, hId, -, hError, -, hFollowed⟩ := h.followed hCalls hStep
  subst hId
  cases hAlert : s.db.alerts.lookup new.id with
  | none =>
    obtain ⟨alert, hAlerts, hPending, hCode, hCount, -⟩ := hFollowed.alertRaised rfl hAlert
    refine iff_of_true ⟨alert, ?_, ?_, hCount, alert.nextDeliveryAt, fun now hNow => ?_⟩
      fun other hOther => ?_
    · rw [hAlerts]
      exact AList.lookup_insert _
    · obtain ⟨code, hSome⟩ := Option.isSome_iff_exists.mp hError
      simpa only [hSome, Option.getD_some] using hCode
    · simp [claimable, hPending, Nat.le_of_lt hNow]
    · cases hOther
  | some alert =>
    have hKept := hFollowed.alertKept rfl (by rw [hAlert]; rfl)
    rw [hKept, hAlert]
    constructor
    · rintro ⟨found, hSome, hCode, hCount, time, hOpen⟩ alert' hSame
      obtain rfl := Option.some.inj hSome
      obtain rfl := Option.some.inj hSame
      refine ⟨fun hDelivered => ?_, hCode, hCount⟩
      -- `claim` never selects a delivered alert
      have hNow := hOpen (time + 1) (Nat.lt_succ_self time)
      simp [claimable, hDelivered] at hNow
    · intro hSame
      obtain ⟨hOpen, hCode, hCount⟩ := hSame alert rfl
      exact ⟨alert, rfl, hCode, hCount, FailureAlertService.claimable_of_leased (hLeased _ _ hAlert) hOpen⟩

/-- **The alerts of one step** are all there exactly where no job that fails for good has another
one. -/
theorem terminalFailures_alerted_iff {log : List TerminalFailure} (hCalls : Pending (Sound cfg) s)
    (hLeased : ∀ id row, s.db.alerts.lookup id = some row → row.status = .processing →
      row.leaseExpiresAt.isSome)
    (hStep : (publishingSystem cfg).step s e = some s') :
    (∀ failure ∈ terminalFailures s e s', failure.Alerted) ↔ NoOtherAlert (s, log) e := by
  constructor
  · intro h j new hSaves
    have hMem := (mem_terminalFailures_iff hCalls hStep).mpr ⟨j, new, hSaves, rfl⟩
    exact (hSaves.alerted_iff hCalls hLeased hStep).mp (h _ hMem)
  · intro h failure hMem
    obtain ⟨j, new, hSaves, rfl⟩ := (mem_terminalFailures_iff hCalls hStep).mp hMem
    exact (hSaves.alerted_iff hCalls hLeased hStep).mpr (h j new hSaves)

end Step

/-! ## Runs -/

/-- **Terminal failures raise their alerts** in exactly the runs in which no job that has
another alert fails for good. -/
theorem terminal_failures_alerted {cfg : Config} {s : PublishingState}
    {log : List TerminalFailure} (hReach : Reachable (failureSystem cfg) anyStep (s, log)) :
    (∀ failure ∈ log, failure.Alerted) ↔ Reachable (failureSystem cfg) NoOtherAlert (s, log) := by
  refine hReach.forall_log_iff fun s log e t hReach hStep => ?_
  obtain ⟨webhookLog, hWebhook⟩ := hReach.unlogged.logged webhookEvents
  exact terminalFailures_alerted_iff (lifecycle_reachable hReach.unlogged).calls
    (alerts_accounted hWebhook).leased hStep

namespace Installation

theorem start_unfailed (cfg : Config) : (failureSystem cfg).Initial (start, []) :=
  ⟨start_initial cfg, rfl⟩

/-- The alert of job 1 is delivered, its user retries it, and it fails for good again. -/
def failedAgain : List Event :=
  failed ++ [.dispatchAlerts 20, alertCall 0, alertCall 0, alertCall 0,
    .user (.retry 100 0 1 2 1000)] ++
  [deliver, call 1, call 1, .publish 1 1000, .adapterReturns 1 (.error badRequest) 1000, call 1]

end Installation

theorem terminal_failures_alerted_first :
    ∃ (s : PublishingState) (log : List TerminalFailure), log.length = 1 ∧
      Reachable (failureSystem (Installation.config false false)) NoOtherAlert (s, log) := by
  obtain ⟨⟨s, log⟩, hReach, hLog⟩ := exists_reachable_of_run
    (failureSystem (Installation.config false false)) anyStep
    (fun s => decide (s.2.length = 1) && s.2.all fun failure => failure.alert.any fun alert =>
      alert.status = .pending ∧ some alert.errorCode = failure.errorCode ∧
        alert.retryCount = failure.retryCount)
    Installation.failed (Installation.start_unfailed _) (by decide +kernel)
  obtain ⟨hOne, hAll⟩ := (Bool.and_eq_true _ _).mp hLog
  refine ⟨s, log, of_decide_eq_true hOne, (terminal_failures_alerted hReach).mp ?_⟩
  intro failure hMem
  obtain ⟨alert, hAlert, hRow⟩ :=
    (Option.any_eq_true _ _).mp (List.all_eq_true.mp hAll failure hMem)
  obtain ⟨hPending, hCode, hCount⟩ := of_decide_eq_true hRow
  refine ⟨alert, hAlert, hCode, hCount, FailureAlertService.claimable_of_leased ?_ ?_⟩
  all_goals simp [hPending]

/-- The second terminal failure of a job leaves the delivered alert of the first. -/
theorem second_failure_not_alerted :
    ¬ ∀ (cfg : Config) (s : PublishingState) (log : List TerminalFailure),
      Reachable (failureSystem cfg) anyStep (s, log) → ∀ failure ∈ log, failure.Alerted := by
  intro h
  obtain ⟨⟨s, log⟩, hReach, hLog⟩ := exists_reachable_of_run
    (failureSystem (Installation.config false false)) anyStep
    (fun s => s.2.any fun failure => failure.alert.any fun alert => alert.status = .delivered)
    Installation.failedAgain (Installation.start_unfailed _) (by decide +kernel)
  obtain ⟨failure, hMem, hAlert⟩ := List.any_eq_true.mp hLog
  obtain ⟨alert, hSome, hDelivered⟩ := (Option.any_eq_true _ _).mp hAlert
  obtain ⟨alert', hSome', -, -, time, hOpen⟩ := h _ s log hReach failure hMem
  rw [hSome, Option.some.injEq] at hSome'
  subst hSome'
  have hNow := hOpen (time + 1) (Nat.lt_succ_self time)
  simp [claimable, of_decide_eq_true hDelivered] at hNow

end SocialPromotion
