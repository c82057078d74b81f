import SocialPromotion.Steps.Alerts

/-!
# Failure alerts are not lost

Runs of `FailureAlertService.dispatchPending` take alerts under a lease, ask the webhook and
record its answer. A run can crash at any call, and two runs can hold one alert once a lease
is over.

* `alerts_not_lost`: through all of that an alert is marked delivered only after an OK
  response, stays delivered, and can be claimed again as long as it is not.
-/

namespace SocialPromotion

open LTS FailureAlertService

/-- What the alert rows and the runs owe to the webhook. -/
structure AlertsAccounted (s : PublishingState × List WebhookEvent) : Prop where
  confirmed : ∀ (i : Nat) (state : State) (id : JobId), s.1.alertDispatchers[i]? = some state →
    state.confirmed = some id → AnsweredOk s.2 id
  delivered : ∀ (id : JobId) (row : FailureAlertRow), s.1.db.alerts.lookup id = some row →
    row.status = .delivered → AnsweredOk s.2 id
  leased : ∀ (id : JobId) (row : FailureAlertRow), s.1.db.alerts.lookup id = some row →
    row.status = .processing → row.leaseExpiresAt.isSome

section Step

variable {s s' : PublishingState} {e : Event} {log : List WebhookEvent} {id : JobId}

/-- A run is about to mark an alert delivered only where its request was answered so. -/
theorem AlertsAccounted.confirmed_step (h : AlertsAccounted (s, log)) (hStep : AlertStep s e s')
    {k : Nat} {state : State} (hGet : s'.alertDispatchers[k]? = some state)
    (hState : state.confirmed = some id) : AnsweredOk (log ++ webhookEvents s e s') id := by
  have hBefore : s.alertDispatchers[k]? = some state →
      AnsweredOk (log ++ webhookEvents s e s') id :=
    fun hGet => (h.confirmed k state id hGet hState).append _
  cases hStep with
  | elsewhere _ _ hRuns =>
    rcases alert_runs_cases hRuns hGet with hGet | ⟨limit, rfl⟩
    · exact hBefore hGet
    · injection hState
  | claimed hMoved hNext _ =>
    rcases hMoved.cases hGet with ⟨rfl, rfl⟩ | ⟨-, hGet⟩
    · rcases hNext with rfl | ⟨-, alerts, -, rfl⟩
      · injection hState
      · rw [confirmed_nextAlert] at hState
        injection hState
    · exact hBefore hGet
  | answered hMoved hCall _ =>
    rcases hMoved.cases hGet with ⟨rfl, rfl⟩ | ⟨-, hGet⟩
    · rcases hCall with ⟨rfl, rfl⟩ | ⟨-, error, rfl⟩
      · -- the OK response is the entry that this step adds
        injection hState with hState
        subst hState
        refine ⟨k, s.clock, List.mem_append_right _ (List.mem_append_left _ ?_)⟩
        rw [PublishingState.requestedBy, hMoved.1]
        exact List.mem_singleton_self _
      · injection hState
    · exact hBefore hGet
  | markedDelivered hMoved hNext _ =>
    rcases hMoved.cases hGet with ⟨rfl, rfl⟩ | ⟨-, hGet⟩
    · rcases hNext with ⟨-, rfl⟩ | ⟨error, rfl⟩
      · rw [confirmed_nextAlert] at hState
        injection hState
      · injection hState
    · exact hBefore hGet
  | markedFailed hMoved hNext _ =>
    rcases hMoved.cases hGet with ⟨rfl, rfl⟩ | ⟨-, hGet⟩
    · rcases hNext with rfl | rfl
      · rw [confirmed_nextAlert] at hState
        injection hState
      · injection hState
    · exact hBefore hGet

/-- Every step keeps the account of the alerts. -/
theorem AlertsAccounted.step (h : AlertsAccounted (s, log)) (hStep : AlertStep s e s') :
    AlertsAccounted (s', log ++ webhookEvents s e s') where
  confirmed _ _ _ hGet hState := h.confirmed_step hStep hGet hState
  delivered id new hNew hStatus := by
    rcases alert_row_origin hStep hNew with ⟨old, hOld, hChange⟩ | ⟨-, hPending⟩
    · cases hChange with
      | same hSame => exact (h.delivered id old hOld (hSame ▸ hStatus)).append _
      | claimed _ _ _ _ hRow =>
        subst hRow
        injection hStatus
      | delivered hRun hConfirmed _ _ => exact (h.confirmed _ _ id hRun hConfirmed).append _
      | failed _ _ _ _ hRow =>
        subst hRow
        injection hStatus
    · rw [hPending] at hStatus
      injection hStatus
  leased id new hNew hStatus := by
    rcases alert_row_origin hStep hNew with ⟨old, hOld, hChange⟩ | ⟨-, hPending⟩
    · cases hChange with
      | same hSame => exact hSame ▸ h.leased id old hOld (hSame ▸ hStatus)
      | claimed _ _ _ _ hRow => exact hRow ▸ rfl
      | delivered _ _ _ hRow =>
        subst hRow
        injection hStatus
      | failed _ _ _ _ hRow =>
        subst hRow
        injection hStatus
    · rw [hPending] at hStatus
      injection hStatus

/-- A delivered alert is not written again. -/
theorem delivered_kept (hStep : AlertStep s e s') {old : FailureAlertRow}
    (hOld : s.db.alerts.lookup id = some old) (hStatus : old.status = .delivered) :
    s'.db.alerts.lookup id = some old := by
  obtain ⟨new, hNew, hChange⟩ := alert_row_change hStep hOld
  cases hChange with
  | same hSame => exact hSame ▸ hNew
  | claimed _ _ hTaken _ _ =>
    -- the WHERE clause of `claim` does not select it
    obtain ⟨row, hRow, hOpen⟩ := of_mem_claimedIds hTaken
    rw [hOld, Option.some.injEq] at hRow
    subst hRow
    simp [claimable, hStatus] at hOpen
  | delivered _ _ hProcessing _ =>
    rw [hStatus] at hProcessing
    injection hProcessing
  | failed _ _ _ hProcessing _ =>
    rw [hStatus] at hProcessing
    injection hProcessing

end Step

section Runs

variable {cfg : Config} {s t : PublishingState} {log log' : List WebhookEvent}

theorem alerts_accounted {ok : PublishingState × List WebhookEvent → Event → Prop}
    (h : Reachable (webhookSystem cfg) ok (s, log)) : AlertsAccounted (s, log) := by
  refine h.invariant ?_ ?_
  · rintro ⟨s₀, log₀⟩ ⟨⟨⟨campaigns, accounts, hDb⟩, -, -, -, hRuns, -⟩, -⟩
    dsimp only at hDb hRuns
    have hNone : ∀ id, s₀.db.alerts.lookup id = none := fun id => by
      rw [hDb]
      exact AList.lookup_empty id
    refine ⟨fun i state id hGet => ?_, fun id row hRow => ?_, fun id row hRow => ?_⟩
    · simp [hRuns] at hGet
    · simp [hNone] at hRow
    · simp [hNone] at hRow
  · rintro ⟨s, log⟩ e ⟨s', log'⟩ hAccounted - hMove
    obtain ⟨hStep, hLog⟩ := logged_step.mp hMove
    dsimp only at hStep hLog
    subst hLog
    exact hAccounted.step (alert_step hStep)

/-- An alert that is not delivered is open to `claim` from some time on. -/
theorem FailureAlertService.claimable_of_leased {row : FailureAlertRow}
    (hLeased : row.status = .processing → row.leaseExpiresAt.isSome)
    (hStatus : row.status ≠ .delivered) : ∃ time, ∀ now, time < now → claimable now row = true := by
  cases hCase : row.status with
  | delivered => exact absurd hCase hStatus
  | pending =>
    refine ⟨row.nextDeliveryAt, fun now hNow => ?_⟩
    simp [claimable, hCase, Nat.le_of_lt hNow]
  | failed =>
    refine ⟨row.nextDeliveryAt, fun now hNow => ?_⟩
    simp [claimable, hCase, Nat.le_of_lt hNow]
  | processing =>
    obtain ⟨lease, hLease⟩ := Option.isSome_iff_exists.mp (hLeased hCase)
    refine ⟨lease, fun now hNow => ?_⟩
    simp [claimable, hCase, hLease, hNow]

/-- **Alerts are not lost.** Whatever the runs, the crashes, the errors and the expired
leases: an alert is delivered only after an OK response, it is kept and stays delivered, and
until then a time comes from which `claim` selects it. -/
theorem alerts_not_lost {id : JobId} {row : FailureAlertRow}
    (hReach : Reachable (webhookSystem cfg) anyStep (s, log))
    (hRow : s.db.alerts.lookup id = some row) :
    (row.status = .delivered → AnsweredOk log id) ∧
      (∀ t log', Steps (webhookSystem cfg) anyStep (s, log) (t, log') →
        ∃ row', t.db.alerts.lookup id = some row' ∧
          (row.status = .delivered → row'.status = .delivered)) ∧
      (row.status ≠ .delivered → ∃ time, ∀ now, time < now → claimable now row = true) := by
  refine ⟨(alerts_accounted hReach).delivered id row hRow, fun t log' hSteps => ?_,
    claimable_of_leased ((alerts_accounted hReach).leased id row hRow)⟩
  have hKept : ∃ row', t.db.alerts.lookup id = some row' ∧
      (row.status = .delivered → row' = row) := by
    refine @Steps.invariant _ _ _ _ (fun u : PublishingState × List WebhookEvent =>
      ∃ row', u.1.db.alerts.lookup id = some row' ∧ (row.status = .delivered → row' = row))
      ?_ _ _ hSteps ⟨row, hRow, fun _ => rfl⟩
    rintro u e u' ⟨old, hOld, hSame⟩ - hMove
    have hStep := alert_step (logged_step.mp hMove).1
    by_cases hStatus : row.status = .delivered
    · obtain rfl := hSame hStatus
      exact ⟨old, delivered_kept hStep hOld hStatus, fun _ => rfl⟩
    · obtain ⟨new, hNew, -⟩ := alert_row_change hStep hOld
      exact ⟨new, hNew, fun h => absurd h hStatus⟩
  obtain ⟨row', hRow', hSame⟩ := hKept
  exact ⟨row', hRow', fun hStatus => (hSame hStatus).symm ▸ hStatus⟩

end Runs

/-! ## An alert that is delivered -/

namespace Installation

def badRequest : ThrownError := .socialApiHttpError "X" 400

/-- Job 1 fails for good. -/
def failed : List Event :=
  approved ++ [deliver, call 0, call 0, .publish 0 1000, .adapterReturns 0 (.error badRequest) 1000,
    call 0]

/-- The next call of run `i` of `dispatchPending` goes well. -/
def alertCall (i : Nat) : Event := .alertDispatcher i .returned []

theorem start_watched (cfg : Config) : (webhookSystem cfg).Initial (start, []) :=
  ⟨start_initial cfg, rfl⟩

end Installation

theorem alerts_not_lost_delivered :
    ∃ (s : PublishingState) (log : List WebhookEvent) (row : FailureAlertRow),
      s.db.alerts.lookup 1 = some row ∧ row.status = .delivered ∧ AnsweredOk log 1 := by
  obtain ⟨⟨s, log⟩, hReach, hAlert⟩ := exists_reachable_of_run
    (webhookSystem (Installation.config false false)) anyStep
    (fun s => (s.1.db.alerts.lookup 1).any fun row => row.status = .delivered)
    (Installation.failed ++ [.dispatchAlerts 20, Installation.alertCall 0,
      Installation.alertCall 0, Installation.alertCall 0])
    (Installation.start_watched _) (by decide +kernel)
  obtain ⟨row, hRow, hStatus⟩ := (Option.any_eq_true _ _).mp hAlert
  have hDelivered := of_decide_eq_true hStatus
  exact ⟨s, log, row, hRow, hDelivered, (alerts_not_lost hReach hRow).1 hDelivered⟩

end SocialPromotion
