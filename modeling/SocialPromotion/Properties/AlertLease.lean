import SocialPromotion.Properties.AlertsKept

/-!
# The lease of a failure alert

`claim` stamps one lease of 30 seconds on a whole batch, and the batch is worked off one
request after the other, each for up to 10 seconds. The alerts at its end are claimed again
by another run while the first one still holds them.

* `single_delivery`: in a run of the system in which no alert is claimed while another run
  still holds it, and no OK response goes unrecorded, no request for an alert is started
  while another one is in flight, nor after an OK response.
-/

namespace SocialPromotion

open LTS FailureAlertService

/-- Run `run` has asked the webhook about the alert and has no answer yet. -/
def InFlight (log : List WebhookEvent) (run : Nat) (id : JobId) : Prop :=
  ∃ before time after, log = before ++ .started run id time :: after ∧
    ∀ ok time', .answered run id ok time' ∉ after

/-- A request is started only where no other run's request for the same alert is in flight
and none was answered with an OK response. -/
def SoleRequest (log : List WebhookEvent) : WebhookEvent → Prop
  | .started run id _ => ¬ AnsweredOk log id ∧ ∀ other, other ≠ run → ¬ InFlight log other id
  | .answered _ _ _ _ => True

/-- No alert is delivered twice. -/
def SingleDelivery (log : List WebhookEvent) : Prop := Lawful SoleRequest log

section Log

variable {log : List WebhookEvent} {run : Nat} {id : JobId} {entry : WebhookEvent}

theorem InFlight.of_concat (h : InFlight (log ++ [entry]) run id) :
    (∃ time, entry = .started run id time) ∨
      InFlight log run id ∧ ∀ ok time, entry ≠ .answered run id ok time := by
  obtain ⟨before, time, after, hLog, hOpen⟩ := h
  rcases List.eq_nil_or_concat after with rfl | ⟨after', last, rfl⟩
  · obtain ⟨-, hLast⟩ := List.append_inj' hLog rfl
    injection hLast with hLast
    exact Or.inl ⟨time, hLast⟩
  · rw [List.concat_eq_append] at hLog hOpen
    have hShape : log ++ [entry] = (before ++ .started run id time :: after') ++ [last] := by
      rw [hLog, List.append_assoc, List.cons_append]
    obtain ⟨rfl, hLast⟩ := List.append_inj' hShape rfl
    injection hLast with hLast
    subst hLast
    refine Or.inr ⟨⟨before, time, after', rfl, fun ok time' hMem => ?_⟩, fun ok time' => ?_⟩
    · exact hOpen ok time' (List.mem_append_left _ hMem)
    · rintro rfl
      exact hOpen ok time' (List.mem_append_right _ (List.mem_singleton_self _))

theorem AnsweredOk.of_concat (h : AnsweredOk (log ++ [entry]) id) :
    AnsweredOk log id ∨ ∃ run time, entry = .answered run id true time := by
  obtain ⟨run, time, hMem⟩ := h
  rcases List.mem_append.mp hMem with hMem | hMem
  · exact Or.inl ⟨run, time, hMem⟩
  · exact Or.inr ⟨run, time, (List.mem_singleton.mp hMem).symm⟩

end Log

/-! ## The condition -/

/-- Whether a step claims no alert that a run still holds, and records an OK response. -/
def leaseKept (s : PublishingState × List WebhookEvent) : Event → Bool
  | .alertDispatcher i result locked =>
    match s.1.alertDispatchers[i]? with
    | some (.running (.claim limit) _ _ _) =>
      (claimedIds limit s.1.clock locked s.1.db).all fun id =>
        s.1.alertDispatchers.all fun state => id ∉ state.held
    | some (.running (.markDelivered _) _ _ _) => result.performed
    | _ => true
  | _ => true

/-- No alert is claimed while a run still holds it, and an OK response is recorded. -/
def LeaseKept (s : PublishingState × List WebhookEvent) (e : Event) : Prop := leaseKept s e = true

instance (s : PublishingState × List WebhookEvent) (e : Event) : Decidable (LeaseKept s e) :=
  inferInstanceAs (Decidable (_ = _))

/-- The 10 seconds of `AbortSignal.timeout`: whether a step answers its request in time. -/
def withinTimeout (s : PublishingState × List WebhookEvent) : Event → Bool
  | .alertDispatcher i _ _ => (s.1.requestedBy i).all fun id => s.2.any fun
    | .started run alertId time => run = i ∧ alertId = id ∧ s.1.clock ≤ time + 10000
    | .answered _ _ _ _ => false
  | _ => true

/-- Every request is answered within 10 seconds. -/
def WithinTimeout (s : PublishingState × List WebhookEvent) (e : Event) : Prop :=
  withinTimeout s e = true

instance (s : PublishingState × List WebhookEvent) (e : Event) : Decidable (WithinTimeout s e) :=
  inferInstanceAs (Decidable (_ = _))

/-! ## Who holds an alert -/

/-- Run `i` has claimed the alert and is not done with it. -/
def HoldsAlert (s : PublishingState) (i : Nat) (id : JobId) : Prop :=
  ∃ state, s.alertDispatchers[i]? = some state ∧ id ∈ state.held

/-- Every alert is held once, under a row that nobody else may take. -/
structure Holding (s : PublishingState) : Prop where
  once : ∀ (i : Nat) (state : State), s.alertDispatchers[i]? = some state → state.held.Nodup
  alone : ∀ (i j : Nat) (id : JobId), HoldsAlert s i id → HoldsAlert s j id → i = j
  stored : ∀ (i : Nat) (id : JobId), HoldsAlert s i id → ∃ row, s.db.alerts.lookup id = some row ∧
    (row.status = .processing ∨ row.status = .delivered)
  unsent : ∀ (i : Nat) (state : State) (id : JobId), s.alertDispatchers[i]? = some state →
    id ∈ state.waiting → ∃ row, s.db.alerts.lookup id = some row ∧ row.status = .processing

section Holding

variable {s s' : PublishingState} {e : Event} {i k : Nat} {id : JobId}
  {state state' : State} {log : List WebhookEvent}

theorem held_of_waiting (h : id ∈ state.waiting) : id ∈ state.held :=
  List.mem_append_right _ h

theorem HoldsAlert.cases (hMoved : AlertRunMoved s i state state' s') (h : HoldsAlert s' k id) :
    k = i ∧ id ∈ state'.held ∨ k ≠ i ∧ HoldsAlert s k id := by
  obtain ⟨state'', hGet, hMem⟩ := h
  rcases hMoved.cases hGet with ⟨rfl, rfl⟩ | ⟨hk, hGet⟩
  · exact Or.inl ⟨rfl, hMem⟩
  · exact Or.inr ⟨hk, state'', hGet, hMem⟩

/-- A run that goes on with what it holds: the rows of the others are as before. -/
theorem Holding.going_on (h : Holding s) (hMoved : AlertRunMoved s i state state' s')
    (hHeld : state'.held.Sublist state.held)
    (hOther : ∀ k id, k ≠ i → HoldsAlert s k id → s'.db.alerts.lookup id = s.db.alerts.lookup id)
    (hStored : ∀ id ∈ state'.held, ∃ row, s'.db.alerts.lookup id = some row ∧
      (row.status = .processing ∨ row.status = .delivered))
    (hUnsent : ∀ id ∈ state'.waiting, ∃ row, s'.db.alerts.lookup id = some row ∧
      row.status = .processing) : Holding s' where
  once k state'' hGet := by
    rcases hMoved.cases hGet with ⟨rfl, rfl⟩ | ⟨-, hGet⟩
    · exact (h.once k state hMoved.1).sublist hHeld
    · exact h.once k state'' hGet
  alone k l id hk hl := by
    have hBefore : ∀ k, HoldsAlert s' k id → HoldsAlert s k id := fun k hHolds => by
      rcases hHolds.cases hMoved with ⟨rfl, hMem⟩ | ⟨-, hHolds⟩
      · exact ⟨state, hMoved.1, hHeld.subset hMem⟩
      · exact hHolds
    exact h.alone k l id (hBefore k hk) (hBefore l hl)
  stored k id hHolds := by
    rcases hHolds.cases hMoved with ⟨rfl, hMem⟩ | ⟨hk, hHolds⟩
    · exact hStored id hMem
    · rw [hOther k id hk hHolds]
      exact h.stored k id hHolds
  unsent k state'' id hGet hMem := by
    rcases hMoved.cases hGet with ⟨rfl, rfl⟩ | ⟨hk, hGet⟩
    · exact hUnsent id hMem
    · rw [hOther k id hk ⟨state'', hGet, held_of_waiting hMem⟩]
      exact h.unsent k state'' id hGet hMem

theorem Holding.elsewhere (h : Holding s) (hGrown : AlertsGrown s.db s'.db)
    (hRuns : s'.alertDispatchers = s.alertDispatchers ∨ ∃ limit,
      s'.alertDispatchers = s.alertDispatchers ++ [dispatchPending limit]) : Holding s' := by
  have hBefore : ∀ k id, HoldsAlert s' k id → HoldsAlert s k id := by
    rintro k id ⟨state, hGet, hMem⟩
    rcases alert_runs_cases hRuns hGet with hGet | ⟨limit, rfl⟩
    · exact ⟨state, hGet, hMem⟩
    · exact absurd hMem List.not_mem_nil
  refine ⟨fun k state hGet => ?_, fun k l id hk hl => ?_, fun k id hHolds => ?_,
    fun k state id hGet hMem => ?_⟩
  · rcases alert_runs_cases hRuns hGet with hGet | ⟨limit, rfl⟩
    · exact h.once k state hGet
    · exact List.nodup_nil
  · exact h.alone k l id (hBefore k id hk) (hBefore l id hl)
  · obtain ⟨row, hRow, hStatus⟩ := h.stored k id (hBefore k id hHolds)
    exact ⟨row, hGrown.kept id row hRow, hStatus⟩
  · rcases alert_runs_cases hRuns hGet with hGet | ⟨limit, rfl⟩
    · obtain ⟨row, hRow, hStatus⟩ := h.unsent k state id hGet hMem
      exact ⟨row, hGrown.kept id row hRow, hStatus⟩
    · exact absurd hMem List.not_mem_nil

/-- A run that claims alerts which nobody holds. -/
theorem Holding.claims (h : Holding s) {ids : List JobId}
    (hMoved : AlertRunMoved s i state state' s') (hNodup : ids.Nodup)
    (hFree : ∀ id ∈ ids, ∀ k, ¬ HoldsAlert s k id) (hHeld : state'.held = ids ∨ state'.held = [])
    (hOther : ∀ id, id ∉ ids → s'.db.alerts.lookup id = s.db.alerts.lookup id)
    (hTaken : ∀ id ∈ state'.held, ∃ row, s'.db.alerts.lookup id = some row ∧
      row.status = .processing) : Holding s' := by
  have hMine : ∀ id ∈ state'.held, id ∈ ids := by
    intro id hMem
    rcases hHeld with hIds | hNone
    · exact hIds ▸ hMem
    · rw [hNone] at hMem
      exact absurd hMem List.not_mem_nil
  refine ⟨fun k state'' hGet => ?_, fun k l id hk hl => ?_, fun k id hHolds => ?_,
    fun k state'' id hGet hMem => ?_⟩
  · rcases hMoved.cases hGet with ⟨rfl, rfl⟩ | ⟨-, hGet⟩
    · rcases hHeld with hIds | hNone
      · exact hIds ▸ hNodup
      · exact hNone ▸ List.nodup_nil
    · exact h.once k state'' hGet
  · rcases hk.cases hMoved with ⟨rfl, hk⟩ | ⟨hNe, hk⟩
    · rcases hl.cases hMoved with ⟨rfl, -⟩ | ⟨-, hl⟩
      · rfl
      · exact absurd hl (hFree id (hMine id hk) l)
    · rcases hl.cases hMoved with ⟨rfl, hl⟩ | ⟨-, hl⟩
      · exact absurd hk (hFree id (hMine id hl) k)
      · exact h.alone k l id hk hl
  · rcases hHolds.cases hMoved with ⟨rfl, hMem⟩ | ⟨-, hHolds⟩
    · obtain ⟨row, hRow, hStatus⟩ := hTaken id hMem
      exact ⟨row, hRow, Or.inl hStatus⟩
    · rw [hOther id fun hMem => hFree id hMem k hHolds]
      exact h.stored k id hHolds
  · rcases hMoved.cases hGet with ⟨rfl, rfl⟩ | ⟨-, hGet⟩
    · exact hTaken id (held_of_waiting hMem)
    · rw [hOther id fun hIds => hFree id hIds k ⟨state'', hGet, held_of_waiting hMem⟩]
      exact h.unsent k state'' id hGet hMem

/-- An update of one alert leaves the others as they are. -/
theorem lookup_of_mapped_ne {alertId : JobId} {performed : Bool}
    {set : FailureAlertRow → FailureAlertRow}
    (h : AlertsMapped (fun id row => if performed = true ∧ id = alertId ∧
      row.status = .processing then set row else row) s.db s'.db) (hNe : id ≠ alertId) :
    s'.db.alerts.lookup id = s.db.alerts.lookup id := by
  rw [h id]
  simp [hNe]

/-- A run that records the outcome of its current alert. -/
theorem Holding.marks (h : Holding s) {alertId : JobId}
    (hMoved : AlertRunMoved s i state state' s') (hCurrent : state.held = alertId :: state.waiting)
    (hOther : ∀ id, id ≠ alertId → s'.db.alerts.lookup id = s.db.alerts.lookup id)
    (hHeld : state'.held.Sublist state.held) (hWaiting : state'.waiting ⊆ state.waiting)
    (hStored : alertId ∈ state'.held → ∃ row, s'.db.alerts.lookup alertId = some row ∧
      (row.status = .processing ∨ row.status = .delivered)) : Holding s' := by
  have hMine : HoldsAlert s i alertId := ⟨state, hMoved.1, hCurrent ▸ List.mem_cons_self ..⟩
  have hNotWaiting : alertId ∉ state.waiting := by
    have hOnce := h.once i state hMoved.1
    rw [hCurrent] at hOnce
    exact (List.nodup_cons.mp hOnce).1
  refine h.going_on hMoved hHeld (fun k id hk hHolds => ?_) (fun id hMem => ?_) fun id hMem => ?_
  · refine hOther id ?_
    rintro rfl
    exact hk (h.alone k i _ hHolds hMine)
  · rcases eq_or_ne id alertId with rfl | hNe
    · exact hStored hMem
    · rw [hOther id hNe]
      exact h.stored i id ⟨state, hMoved.1, hHeld.subset hMem⟩
  · have hNe : id ≠ alertId := by
      rintro rfl
      exact hNotWaiting (hWaiting hMem)
    rw [hOther id hNe]
    exact h.unsent i state id hMoved.1 (hWaiting hMem)

/-- **Nobody holds another's alert**, as long as none is claimed while it is held. -/
theorem Holding.step (h : Holding s) (hKept : LeaseKept (s, log) e) (hStep : AlertStep s e s') :
    Holding s' := by
  cases hStep with
  | elsewhere _ hGrown hRuns => exact h.elsewhere hGrown hRuns
  | @claimed i result locked limit rest delivered failed state' _ hMoved hNext hRows =>
    simp only [LeaseKept, leaseKept, hMoved.1, List.all_eq_true, decide_eq_true_eq] at hKept
    refine h.claims hMoved (nodup_claimedIds limit s.clock locked s.db) ?_ ?_ ?_ ?_
    · rintro id hId k ⟨state, hGet, hMem⟩
      exact hKept id hId state (List.mem_of_getElem? hGet) hMem
    · rcases hNext with rfl | ⟨-, alerts, hIds, rfl⟩
      · exact Or.inr rfl
      · exact Or.inl (held_nextAlert.trans hIds)
    · intro id hId
      rw [hRows id]
      simp [hId]
    · intro id hMem
      rcases hNext with rfl | ⟨rfl, alerts, hIds, rfl⟩
      · exact absurd hMem List.not_mem_nil
      · rw [held_nextAlert, hIds] at hMem
        obtain ⟨row, hRow, -⟩ := of_mem_claimedIds hMem
        refine ⟨claimRow s.clock row, ?_, rfl⟩
        rw [hRows id, hRow, Option.map_some]
        exact congrArg some (if_pos ⟨rfl, hMem⟩)
  | @answered i result locked alert rest delivered failed call _ hMoved hCall hDb =>
    have hSame : (State.running call rest delivered failed).held =
          (State.running (.fetch alert) rest delivered failed).held ∧
        (State.running call rest delivered failed).waiting = rest.map FailureAlert.jobId := by
      rcases hCall with ⟨-, rfl⟩ | ⟨-, error, rfl⟩
      · exact ⟨rfl, rfl⟩
      · exact ⟨rfl, rfl⟩
    refine h.going_on hMoved (hSame.1 ▸ List.Sublist.refl _) (fun _ _ _ _ => by rw [hDb]) ?_ ?_
    · intro id hMem
      rw [hSame.1] at hMem
      rw [hDb]
      exact h.stored i id ⟨_, hMoved.1, hMem⟩
    · intro id hMem
      rw [hSame.2] at hMem
      rw [hDb]
      exact h.unsent i _ id hMoved.1 hMem
  | @markedDelivered i result locked alert rest delivered failed state' _ hMoved hNext hRows =>
    refine h.marks hMoved rfl (fun _ => lookup_of_mapped_ne hRows) ?_ ?_ ?_
    · rcases hNext with ⟨-, rfl⟩ | ⟨error, rfl⟩
      · rw [held_nextAlert]
        exact List.sublist_cons_self _ _
      · exact List.Sublist.refl _
    · rcases hNext with ⟨-, rfl⟩ | ⟨error, rfl⟩
      · rw [waiting_nextAlert]
        exact List.tail_subset _
      · exact List.Subset.refl _
    · obtain ⟨row, hRow, hStatus⟩ :=
        h.stored i alert.jobId ⟨_, hMoved.1, List.mem_cons_self ..⟩
      refine fun _ => ⟨_, by rw [hRows, hRow, Option.map_some], ?_⟩
      dsimp only
      split
      · exact Or.inr rfl
      · exact hStatus
  | @markedFailed i result locked alert error rest delivered failed state' _ hMoved hNext hRows =>
    refine h.marks hMoved rfl (fun _ => lookup_of_mapped_ne hRows) ?_ ?_ ?_
    · rcases hNext with rfl | rfl
      · rw [held_nextAlert]
        exact List.sublist_cons_self _ _
      · exact List.nil_sublist _
    · rcases hNext with rfl | rfl
      · rw [waiting_nextAlert]
        exact List.tail_subset _
      · exact List.nil_subset _
    · intro hMem
      have hRest : alert.jobId ∈ rest.map FailureAlert.jobId := by
        rcases hNext with rfl | rfl
        · rwa [held_nextAlert] at hMem
        · exact absurd hMem List.not_mem_nil
      exact absurd hRest (List.nodup_cons.mp (h.once i _ hMoved.1)).1

end Holding

/-! ## What the record says about the runs -/

/-- The record agrees with where the runs stand, and every request in it was the only one. -/
structure LeaseAccounted (s : PublishingState × List WebhookEvent) : Prop where
  answered : ∀ id, AnsweredOk s.2 id →
    (∃ row, s.1.db.alerts.lookup id = some row ∧ row.status = .delivered) ∨
      ∃ (i : Nat) (state : State), s.1.alertDispatchers[i]? = some state ∧
        state.confirmed = some id
  inFlight : ∀ i id, InFlight s.2 i id → ∃ state, s.1.alertDispatchers[i]? = some state ∧
    state.requested = some id
  sole : SingleDelivery s.2

section Record

variable {s s' : PublishingState} {e : Event} {i : Nat} {id : JobId} {state state' : State}
  {log : List WebhookEvent}

theorem held_of_requested (h : state.requested = some id) : id ∈ state.held := by
  unfold State.requested at h
  split at h
  · injection h with h
    subst h
    exact List.mem_cons_self ..
  · injection h

theorem held_of_confirmed (h : state.confirmed = some id) : id ∈ state.held := by
  unfold State.confirmed at h
  split at h
  · injection h with h
    subst h
    exact List.mem_cons_self ..
  · injection h

/-- A request about an alert that only run `i` may hold, and that it waits to send, is the
only one. -/
theorem LeaseAccounted.soleRequest (h : LeaseAccounted (s, log)) {time : Time}
    (hDelivered : ∀ row, s.db.alerts.lookup id = some row → row.status ≠ .delivered)
    (hConfirmed : ∀ (k : Nat) (state : State), s.alertDispatchers[k]? = some state →
      state.confirmed ≠ some id)
    (hAlone : ∀ k, HoldsAlert s k id → k = i) : SoleRequest log (.started i id time) := by
  refine ⟨fun hAnswered => ?_, fun other hOther hFlight => ?_⟩
  · rcases h.answered id hAnswered with ⟨row, hRow, hStatus⟩ | ⟨k, state, hGet, hState⟩
    · exact hDelivered row hRow hStatus
    · exact hConfirmed k state hGet hState
  · obtain ⟨state, hGet, hState⟩ := h.inFlight other id hFlight
    exact hOther (hAlone other ⟨state, hGet, held_of_requested hState⟩)

/-- A step of a run that waits for no answer: it may start a request. -/
theorem LeaseAccounted.moves (h : LeaseAccounted (s, log)) {result : CallResult}
    {locked : List JobId} (hMoved : AlertRunMoved s i state state' s')
    (hRequested : state.requested = none)
    (hAnswered : ∀ id, AnsweredOk log id →
      (∃ row, s'.db.alerts.lookup id = some row ∧ row.status = .delivered) ∨
        ∃ (k : Nat) (state : State), s'.alertDispatchers[k]? = some state ∧
          state.confirmed = some id)
    (hSole : ∀ id, state'.requested = some id → SoleRequest log (.started i id s.clock)) :
    LeaseAccounted (s', log ++ webhookEvents s (.alertDispatcher i result locked) s') := by
  have hOthers : ∀ k id, InFlight log k id → ∃ state, s'.alertDispatchers[k]? = some state ∧
      state.requested = some id := by
    intro k id hFlight
    obtain ⟨before, hGet, hState⟩ := h.inFlight k id hFlight
    refine ⟨before, ?_, hState⟩
    rw [hMoved.2, List.getElem?_set_ne, hGet]
    rintro rfl
    rw [hMoved.1, Option.some.injEq] at hGet
    rw [← hGet, hRequested] at hState
    injection hState
  rw [webhookEvents_moved hMoved, hRequested]
  cases hNew : state'.requested with
  | none =>
    simp only [Option.map_none, Option.toList_none, List.append_nil]
    exact ⟨hAnswered, hOthers, h.sole⟩
  | some id =>
    simp only [Option.map_none, Option.map_some, Option.toList_none, Option.toList_some,
      List.nil_append]
    refine ⟨fun k hk => ?_, fun k l hFlight => ?_, h.sole.concat (hSole id hNew)⟩
    · rcases hk.of_concat with hk | ⟨run, time, hEntry⟩
      · exact hAnswered k hk
      · injection hEntry
    · rcases hFlight.of_concat with ⟨time, hEntry⟩ | ⟨hFlight, -⟩
      · injection hEntry with hRun hId
        subst hRun hId
        exact ⟨state', hMoved.self, hNew⟩
      · exact hOthers k l hFlight

/-- The next request of a run that holds its alerts alone. -/
theorem LeaseAccounted.next_sole (h : LeaseAccounted (s, log)) (hHolding : Holding s)
    {time : Time} (hGet : s.alertDispatchers[i]? = some state) (hMem : id ∈ state.waiting)
    (hConfirmed : state.confirmed ≠ some id) : SoleRequest log (.started i id time) := by
  have hMine : HoldsAlert s i id := ⟨state, hGet, held_of_waiting hMem⟩
  have hAlone : ∀ k, HoldsAlert s k id → k = i := fun k hk => hHolding.alone k i id hk hMine
  refine h.soleRequest (fun row hRow hStatus => ?_) (fun k state' hGet' hState => ?_) hAlone
  · obtain ⟨row', hRow', hProcessing⟩ := hHolding.unsent i state id hGet hMem
    rw [hRow, Option.some.injEq] at hRow'
    rw [← hRow', hStatus] at hProcessing
    injection hProcessing
  · obtain rfl := hAlone k ⟨state', hGet', held_of_confirmed hState⟩
    rw [hGet, Option.some.injEq] at hGet'
    exact hConfirmed (hGet' ▸ hState)

theorem mem_of_requested_nextAlert {delivered failed : Nat} {alerts : List FailureAlert}
    (h : (nextAlert delivered failed alerts).requested = some id) :
    id ∈ alerts.map FailureAlert.jobId := by
  rw [requested_nextAlert] at h
  obtain ⟨alert, hAlert, rfl⟩ := Option.map_eq_some_iff.mp h
  exact List.mem_map_of_mem (List.mem_of_mem_head? hAlert)

/-- What was answered with an OK response stays recorded or about to be. -/
theorem LeaseAccounted.answered_step (h : LeaseAccounted (s, log)) (hStep : AlertStep s e s')
    (hMoved : AlertRunMoved s i state state' s')
    (hRecorded : state.confirmed = some id →
      ∃ row, s'.db.alerts.lookup id = some row ∧ row.status = .delivered)
    (hAnswered : AnsweredOk log id) :
    (∃ row, s'.db.alerts.lookup id = some row ∧ row.status = .delivered) ∨
      ∃ (k : Nat) (state : State), s'.alertDispatchers[k]? = some state ∧
        state.confirmed = some id := by
  rcases h.answered id hAnswered with ⟨row, hRow, hStatus⟩ | ⟨k, before, hGet, hState⟩
  · exact Or.inl ⟨row, delivered_kept hStep hRow hStatus, hStatus⟩
  · rcases eq_or_ne i k with rfl | hNe
    · rw [hMoved.1, Option.some.injEq] at hGet
      exact Or.inl (hRecorded (hGet ▸ hState))
    · refine Or.inr ⟨k, before, ?_, hState⟩
      rw [hMoved.2, List.getElem?_set_ne hNe, hGet]

/-- The record stays in agreement with the runs, and a request that starts is the only one, where no
alert is claimed while a run holds it and every OK response is recorded. -/
theorem LeaseAccounted.step (h : LeaseAccounted (s, log)) (hHolding : Holding s)
    (hKept : LeaseKept (s, log) e) (hStep : AlertStep s e s') :
    LeaseAccounted (s', log ++ webhookEvents s e s') := by
  have hStep' := hStep
  cases hStep with
  | elsewhere hEvent hGrown hRuns =>
    have hRuns' : ∀ (k : Nat) (state : State), s.alertDispatchers[k]? = some state →
        s'.alertDispatchers[k]? = some state := by
      intro k state hGet
      rcases hRuns with hSame | ⟨limit, hMore⟩
      · rw [hSame, hGet]
      · rw [hMore, List.getElem?_append_left (List.getElem?_eq_some_iff.mp hGet).1, hGet]
    rw [webhookEvents_elsewhere hEvent, List.append_nil]
    refine ⟨fun id hAnswered => ?_, fun k id hFlight => ?_, h.sole⟩
    · rcases h.answered id hAnswered with ⟨row, hRow, hStatus⟩ | ⟨k, state, hGet, hState⟩
      · exact Or.inl ⟨row, hGrown.kept id row hRow, hStatus⟩
      · exact Or.inr ⟨k, state, hRuns' k state hGet, hState⟩
    · obtain ⟨state, hGet, hState⟩ := h.inFlight k id hFlight
      exact ⟨state, hRuns' k state hGet, hState⟩
  | @claimed i result locked limit rest delivered failed state' _ hMoved hNext hRows =>
    simp only [LeaseKept, leaseKept, hMoved.1, List.all_eq_true, decide_eq_true_eq] at hKept
    refine h.moves hMoved rfl (fun id => h.answered_step hStep' hMoved fun hNone => by
      injection hNone) fun id hStart => ?_
    have hTaken : id ∈ claimedIds limit s.clock locked s.db := by
      rcases hNext with rfl | ⟨-, alerts, hIds, rfl⟩
      · injection hStart
      · exact hIds ▸ mem_of_requested_nextAlert hStart
    have hFree : ∀ k, ¬ HoldsAlert s k id := by
      rintro k ⟨state, hGet, hMem⟩
      exact hKept id hTaken state (List.mem_of_getElem? hGet) hMem
    refine h.soleRequest (fun row hRow hStatus => ?_) (fun k state hGet hState => ?_)
      fun k hk => absurd hk (hFree k)
    · obtain ⟨row', hRow', hOpen⟩ := of_mem_claimedIds hTaken
      rw [hRow, Option.some.injEq] at hRow'
      subst hRow'
      simp [claimable, hStatus] at hOpen
    · exact hFree k ⟨state, hGet, held_of_confirmed hState⟩
  | @answered i result locked alert rest delivered failed call _ hMoved hCall hDb =>
    have hRequested : (State.running call rest delivered failed).requested = none := by
      rcases hCall with ⟨-, rfl⟩ | ⟨-, error, rfl⟩
      · rfl
      · rfl
    rw [webhookEvents_moved hMoved, hRequested, Option.map_none, Option.toList_none,
      List.append_nil]
    refine ⟨fun id hAnswered => ?_, fun k id hFlight => ?_, h.sole.concat trivial⟩
    · rcases hAnswered.of_concat with hAnswered | ⟨run, time, hEntry⟩
      · exact h.answered_step hStep' hMoved (fun hNone => by injection hNone) hAnswered
      · -- the OK response is the one of this step: the run goes on to record it
        injection hEntry with _ hId hOk _
        rcases hCall with ⟨-, rfl⟩ | ⟨hResult, -⟩
        · exact Or.inr ⟨i, _, hMoved.self, congrArg some hId⟩
        · exact absurd (of_decide_eq_true hOk) hResult
    · rcases hFlight.of_concat with ⟨time, hEntry⟩ | ⟨hFlight, hOpen⟩
      · injection hEntry
      · obtain ⟨state, hGet, hState⟩ := h.inFlight k id hFlight
        refine ⟨state, ?_, hState⟩
        rw [hMoved.2, List.getElem?_set_ne, hGet]
        rintro rfl
        rw [hMoved.1, Option.some.injEq] at hGet
        subst hGet
        injection hState with hId
        exact hOpen _ s.clock (by rw [← hId])
  | @markedDelivered i result locked alert rest delivered failed state' _ hMoved hNext hRows =>
    simp only [LeaseKept, leaseKept, hMoved.1] at hKept
    have hOnce := (List.nodup_cons.mp (hHolding.once i _ hMoved.1)).1
    refine h.moves hMoved rfl (fun id => h.answered_step hStep' hMoved ?_) fun id hStart => ?_
    · intro hConfirmed
      injection hConfirmed with hId
      obtain ⟨row, hRow, hStatus⟩ :=
        hHolding.stored i alert.jobId ⟨_, hMoved.1, List.mem_cons_self ..⟩
      rw [← hId, hRows, hRow, Option.map_some]
      refine ⟨_, rfl, ?_⟩
      dsimp only
      split
      · rfl
      · rename_i hUnmarked
        exact hStatus.resolve_left fun hProcessing => hUnmarked ⟨hKept, rfl, hProcessing⟩
    · rcases hNext with ⟨-, rfl⟩ | ⟨error, rfl⟩
      · have hMem := mem_of_requested_nextAlert hStart
        refine h.next_sole hHolding hMoved.1 hMem fun hConfirmed => ?_
        injection hConfirmed with hId
        exact hOnce (hId ▸ hMem)
      · injection hStart
  | @markedFailed i result locked alert error rest delivered failed state' _ hMoved hNext hRows =>
    refine h.moves hMoved rfl (fun id => h.answered_step hStep' hMoved fun hNone => by
      injection hNone) fun id hStart => ?_
    rcases hNext with rfl | rfl
    · exact h.next_sole hHolding hMoved.1 (mem_of_requested_nextAlert hStart) fun hNone => by
        injection hNone
    · injection hStart

end Record

/-- **The lease.** In a run in which no alert is claimed while another run still holds it, and
in which an OK response is recorded, every request is the only one for its alert. -/
theorem single_delivery {cfg : Config} {s : PublishingState} {log : List WebhookEvent}
    (hReach : Reachable (webhookSystem cfg) LeaseKept (s, log)) : SingleDelivery log := by
  have hInv : Holding s ∧ LeaseAccounted (s, log) := by
    refine @Reachable.invariant _ _ _ _ (fun u : PublishingState × List WebhookEvent =>
      Holding u.1 ∧ LeaseAccounted u) ?_ ?_ _ hReach
    · rintro ⟨s₀, log₀⟩ ⟨⟨-, -, -, -, hRuns, -⟩, hLog⟩
      dsimp only at hRuns hLog
      subst hLog
      have hNone : ∀ (k : Nat) (state : State), s₀.alertDispatchers[k]? ≠ some state := by
        simp [hRuns]
      refine ⟨⟨fun k state hGet => absurd hGet (hNone k state),
        fun k l id ⟨state, hGet, _⟩ => absurd hGet (hNone k state),
        fun k id ⟨state, hGet, _⟩ => absurd hGet (hNone k state),
        fun k state id hGet => absurd hGet (hNone k state)⟩, ?_, ?_, lawful_nil⟩
      · rintro id ⟨run, time, hMem⟩
        exact absurd hMem List.not_mem_nil
      · rintro k id ⟨before, time, after, hLog, -⟩
        exact absurd hLog.symm (by simp)
    · rintro ⟨s, log⟩ e ⟨s', log'⟩ ⟨hHolding, hAccounted⟩ hKept hMove
      obtain ⟨hStep, hLog⟩ := logged_step.mp hMove
      dsimp only at hStep hLog
      subst hLog
      have hAlert := alert_step hStep
      exact ⟨hHolding.step hKept hAlert, hAccounted.step hHolding hKept hAlert⟩
  exact hInv.2.sole

/-! ## A batch that outlasts its lease -/

namespace Installation

/-- A post of the user is stored and approved. -/
def approve (postId : PostId) : List Event :=
  [.user (.create 100 ⟨200, content, [⟨.x, 300⟩], 1000⟩),
   .user (.schedule 100 postId (some 1000) 1 0)]

/-- Execution `i`, of the job, fails for good. -/
def fail (jobId : JobId) (i : Nat) : List Event :=
  [.process jobId 30000 1 none, call i, call i, .publish i 1000,
   .adapterReturns i (.error badRequest) 1000, call i]

/-- Four failed jobs, whose alerts one run claims. -/
def fourAlerts : List Event :=
  approve 0 ++ approve 3 ++ approve 6 ++ approve 9 ++ [.tick 1000] ++ fail 1 0 ++ fail 4 1 ++
    fail 7 2 ++ fail 10 3 ++ [.dispatchAlerts 20, alertCall 0]

/-- Nine seconds for each request: the lease is over during the fourth, which a second run
makes again. -/
def slowWebhook : List Event :=
  [.tick 9000, alertCall 0, alertCall 0, .tick 9000, alertCall 0, alertCall 0, .tick 9000,
   alertCall 0, alertCall 0, .tick 4000, .dispatchAlerts 20, alertCall 1, .tick 4000, alertCall 0,
   alertCall 1, alertCall 0, alertCall 1]

/-- Two runs at once with an alert each. The request of the first one is lost, and a third run makes
it again. -/
def threeRuns : List Event :=
  approve 0 ++ approve 3 ++ [.tick 1000] ++ fail 1 0 ++ fail 4 1 ++
    [.dispatchAlerts 1, .dispatchAlerts 1, alertCall 0, alertCall 1,
     .alertDispatcher 0 (.threw connectionLost false) [], alertCall 0, alertCall 1, alertCall 1,
     .tick 300000, .dispatchAlerts 20, alertCall 2, alertCall 2, alertCall 2]

end Installation

/-- Runs that keep to their leases do deliver, side by side and one after the other. -/
theorem single_delivery_delivered :
    SingleDelivery [.started 0 1 1000, .started 1 4 1000, .answered 0 1 false 1000,
      .answered 1 4 true 1000, .started 2 1 301000, .answered 2 1 true 301000] := by
  obtain ⟨⟨s, log⟩, hReach, hLog⟩ := exists_reachable_of_run
    (webhookSystem (Installation.config false false)) LeaseKept
    (fun s => s.2 = [.started 0 1 1000, .started 1 4 1000, .answered 0 1 false 1000,
      .answered 1 4 true 1000, .started 2 1 301000, .answered 2 1 true 301000])
    Installation.threeRuns (Installation.start_watched _) (by decide +kernel)
  have hLog' : log = _ := of_decide_eq_true hLog
  exact hLog' ▸ single_delivery hReach

/-- With every request answered within 9 seconds, the fourth alert of a batch is asked about
twice at once. -/
theorem alert_delivered_twice :
    ¬ ∀ (cfg : Config) (s : PublishingState) (log : List WebhookEvent),
      Reachable (webhookSystem cfg) WithinTimeout (s, log) → SingleDelivery log := by
  intro h
  obtain ⟨⟨s, log⟩, hReach, hLog⟩ := exists_reachable_of_run
    (webhookSystem (Installation.config false false)) WithinTimeout
    (fun s => s.2 = [.started 0 1 1000, .answered 0 1 true 10000, .started 0 4 10000,
      .answered 0 4 true 19000, .started 0 7 19000, .answered 0 7 true 28000,
      .started 0 10 28000, .started 1 10 32000, .answered 0 10 true 36000,
      .answered 1 10 true 36000])
    (Installation.fourAlerts ++ Installation.slowWebhook) (Installation.start_watched _)
    (by decide +kernel)
  have hLog' := of_decide_eq_true hLog
  dsimp only at hLog'
  subst hLog'
  have hSole := h _ s _ hReach [.started 0 1 1000, .answered 0 1 true 10000, .started 0 4 10000,
    .answered 0 4 true 19000, .started 0 7 19000, .answered 0 7 true 28000, .started 0 10 28000]
    (.started 1 10 32000) _ rfl
  refine hSole.2 0 (by decide) ⟨[.started 0 1 1000, .answered 0 1 true 10000, .started 0 4 10000,
    .answered 0 4 true 19000, .started 0 7 19000, .answered 0 7 true 28000], 28000, [], rfl, ?_⟩
  exact fun _ _ => List.not_mem_nil

end SocialPromotion
