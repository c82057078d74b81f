import SocialPromotion.Lib.History
import SocialPromotion.Steps.Runs

/-!
# What one step does to the failure alerts

* `alert_step`: what each step of `publishingSystem` does to the alert rows and to the runs
  of `FailureAlertService.dispatchPending`.
* `webhookSystem`: the publishing system with a record of the webhook requests and of their
  answers.
-/

namespace SocialPromotion

open LTS

namespace FailureAlertService

/-! ## The statements of a run -/

theorem lookup_updateAlert (id : JobId) (condition : FailureAlertRow → Bool)
    (set : FailureAlertRow → FailureAlertRow) (db : Database) (k : JobId) :
    (updateAlert id condition set db).alerts.lookup k =
      (db.alerts.lookup k).map fun row => if k = id ∧ condition row = true then set row else row := by
  unfold updateAlert
  split
  · rename_i row hRow
    split
    · rename_i hCond
      rcases eq_or_ne k id with rfl | hk
      · rw [AList.lookup_insert, hRow, Option.map_some, if_pos ⟨rfl, hCond⟩]
      · rw [AList.lookup_insert_ne hk]
        simp [hk]
    · rename_i hCond
      rcases eq_or_ne k id with rfl | hk
      · simp [hRow, hCond]
      · simp [hk]
  · rename_i hNone
    rcases eq_or_ne k id with rfl | hk
    · simp [hNone]
    · simp [hk]

/-- The alerts that `claim` takes. -/
def claimedIds (limit : Int) (now : Time) (locked : List JobId) (db : Database) : List JobId :=
  candidates db (max 1 (min 100 limit.toNat)) now locked

theorem nodup_claimedIds (limit : Int) (now : Time) (locked : List JobId) (db : Database) :
    (claimedIds limit now locked db).Nodup := by
  unfold claimedIds candidates
  refine List.Nodup.sublist (List.take_sublist _ _) ?_
  have hPerm := (List.perm_insertionSort deliveryOrder (db.alerts.entries.filter fun e =>
    claimable now e.2 && !locked.contains e.1)).map Sigma.fst
  refine hPerm.nodup_iff.mpr ?_
  exact db.alerts.keys_nodup.sublist (List.filter_sublist.map Sigma.fst)

/-- Only what the WHERE clause of `claim` selects is taken. -/
theorem of_mem_claimedIds {limit : Int} {now : Time} {locked : List JobId} {db : Database}
    {id : JobId} (h : id ∈ claimedIds limit now locked db) :
    ∃ row, db.alerts.lookup id = some row ∧ claimable now row = true := by
  unfold claimedIds candidates at h
  obtain ⟨⟨k, row⟩, hMem, rfl⟩ := List.mem_map.mp (List.mem_of_mem_take h)
  obtain ⟨hMem, hOpen⟩ := List.mem_filter.mp ((List.mem_insertionSort _).mp hMem)
  rw [Bool.and_eq_true] at hOpen
  exact ⟨row, AList.mem_lookup_iff.mpr hMem, hOpen.1⟩

/-- The loop of `claim` over distinct stored alerts. -/
theorem claimLoop {now : Time} {ids : List JobId} (hNodup : ids.Nodup)
    {acc : List FailureAlert × Database} (hStored : ∀ id ∈ ids, (acc.2.alerts.lookup id).isSome) :
    (ids.foldl (claimAlert now) acc).1.map FailureAlert.jobId =
        acc.1.map FailureAlert.jobId ++ ids ∧
      ∀ k, (ids.foldl (claimAlert now) acc).2.alerts.lookup k =
        (acc.2.alerts.lookup k).map fun row => if k ∈ ids then claimRow now row else row := by
  induction ids generalizing acc with
  | nil => simp
  | cons id rest ih =>
    obtain ⟨hNotMem, hNodup⟩ := List.nodup_cons.mp hNodup
    obtain ⟨row, hRow⟩ := Option.isSome_iff_exists.mp (hStored id (List.mem_cons_self ..))
    have hLookup : ∀ k, (claimAlert now acc id).2.alerts.lookup k =
        (acc.2.alerts.lookup k).map fun row => if k = id then claimRow now row else row := by
      intro k
      rw [claimAlert, hRow]
      dsimp only
      rw [lookup_updateAlert]
      simp
    have hStored' : ∀ k ∈ rest, ((claimAlert now acc id).2.alerts.lookup k).isSome := by
      intro k hk
      rw [hLookup, Option.isSome_map]
      exact hStored k (List.mem_cons_of_mem _ hk)
    obtain ⟨hIds, hRows⟩ := ih hNodup hStored'
    rw [List.foldl_cons]
    constructor
    · rw [hIds, claimAlert, hRow]
      simp
    · intro k
      rw [hRows, hLookup, Option.map_map]
      refine congrArg (Option.map · _) (funext fun r => ?_)
      rcases eq_or_ne k id with rfl | hk
      · simp [hNotMem]
      · simp [hk]

section Claim

variable (limit : Int) (now : Time) (locked : List JobId) (db : Database)

theorem claim_eq :
    (claim limit now locked db).1.map FailureAlert.jobId = claimedIds limit now locked db ∧
      ∀ k, (claim limit now locked db).2.alerts.lookup k = (db.alerts.lookup k).map fun row =>
        if k ∈ claimedIds limit now locked db then claimRow now row else row := by
  refine @claimLoop now _ (nodup_claimedIds limit now locked db) ([], db) fun id hId => ?_
  obtain ⟨row, hRow, -⟩ := of_mem_claimedIds hId
  exact Option.isSome_iff_exists.mpr ⟨row, hRow⟩

end Claim

/-! ## Where a run stands -/

namespace State

/-- The alert that the next call is about. -/
def current : State → Option JobId
  | .running (.fetch alert) _ _ _ => some alert.jobId
  | .running (.markDelivered alert) _ _ _ => some alert.jobId
  | .running (.markFailed alert _) _ _ _ => some alert.jobId
  | .running (.claim _) _ _ _ | .resolved _ _ | .raised => none

/-- The claimed alerts whose requests are still to be made. -/
def waiting : State → List JobId
  | .running (.claim _) _ _ _ => []
  | .running _ rest _ _ => rest.map FailureAlert.jobId
  | .resolved _ _ | .raised => []

/-- The alerts that a run has claimed and is not done with. -/
def held (state : State) : List JobId := state.current.toList ++ state.waiting

/-- The alert whose request is on its way. -/
def requested : State → Option JobId
  | .running (.fetch alert) _ _ _ => some alert.jobId
  | _ => none

/-- The alert whose request was answered with an OK response that is not yet recorded. -/
def confirmed : State → Option JobId
  | .running (.markDelivered alert) _ _ _ => some alert.jobId
  | _ => none

end State

section Runs

variable {delivered failed : Nat} {limit : Int} {alerts : List FailureAlert}

@[simp] theorem held_nextAlert :
    (nextAlert delivered failed alerts).held = alerts.map FailureAlert.jobId := by
  cases alerts <;> rfl

@[simp] theorem waiting_nextAlert :
    (nextAlert delivered failed alerts).waiting = (alerts.map FailureAlert.jobId).tail := by
  cases alerts <;> rfl

@[simp] theorem requested_nextAlert :
    (nextAlert delivered failed alerts).requested = alerts.head?.map FailureAlert.jobId := by
  cases alerts <;> rfl

@[simp] theorem confirmed_nextAlert : (nextAlert delivered failed alerts).confirmed = none := by
  cases alerts <;> rfl

@[simp] theorem held_dispatchPending : (dispatchPending limit).held = [] := rfl

@[simp] theorem requested_dispatchPending : (dispatchPending limit).requested = none := rfl

@[simp] theorem confirmed_dispatchPending : (dispatchPending limit).confirmed = none := rfl

end Runs

/-- What `markDelivered` writes. -/
def deliveredRow (now : Time) (row : FailureAlertRow) : FailureAlertRow :=
  { row with status := .delivered, deliveredAt := some now, leaseExpiresAt := none }

/-- What `markFailed` writes. -/
def failedRow (error : String) (now : Time) (row : FailureAlertRow) : FailureAlertRow :=
  { row with
    status := .failed
    nextDeliveryAt := now + 300000
    leaseExpiresAt := none
    lastDeliveryError := some error }

end FailureAlertService

/-! ## All steps -/

open FailureAlertService (claimedIds claimRow deliveredRow failedRow nextAlert safeError)

/-- Alerts are only raised: pending ones, where there was none. -/
structure AlertsGrown (db db' : Database) : Prop where
  kept : ∀ id row, db.alerts.lookup id = some row → db'.alerts.lookup id = some row
  fresh : ∀ id row, db'.alerts.lookup id = some row →
    db.alerts.lookup id = some row ∨ db.alerts.lookup id = none ∧ row.status = .pending

theorem AlertsGrown.of_eq {db db' : Database} (h : db'.alerts = db.alerts) :
    AlertsGrown db db' :=
  ⟨fun _ _ hRow => h ▸ hRow, fun _ _ hRow => Or.inl (h ▸ hRow)⟩

/-- Every alert row is rewritten by `f`. -/
def AlertsMapped (f : JobId → FailureAlertRow → FailureAlertRow) (db db' : Database) : Prop :=
  ∀ id, db'.alerts.lookup id = (db.alerts.lookup id).map (f id)

/-- Run `i` of `dispatchPending` moved from `state` to `state'`. -/
def AlertRunMoved (s : PublishingState) (i : Nat) (state state' : FailureAlertService.State)
    (s' : PublishingState) : Prop :=
  s.alertDispatchers[i]? = some state ∧ s'.alertDispatchers = s.alertDispatchers.set i state'

inductive AlertStep (s : PublishingState) : Event → PublishingState → Prop
  | elsewhere {e : Event} {s' : PublishingState}
      (hEvent : ∀ i result locked, e ≠ .alertDispatcher i result locked)
      (hGrown : AlertsGrown s.db s'.db)
      (hRuns : s'.alertDispatchers = s.alertDispatchers ∨ ∃ limit, s'.alertDispatchers =
        s.alertDispatchers ++ [FailureAlertService.dispatchPending limit]) : AlertStep s e s'
  | claimed {i : Nat} {result : CallResult} {locked : List JobId} {limit : Int}
      {rest : List FailureAlert} {delivered failed : Nat} {state' : FailureAlertService.State}
      {s' : PublishingState}
      (hMoved : AlertRunMoved s i (.running (.claim limit) rest delivered failed) state' s')
      (hNext : state' = .raised ∨ result = .returned ∧ ∃ alerts,
        alerts.map FailureAlert.jobId = claimedIds limit s.clock locked s.db ∧
          state' = nextAlert delivered failed alerts)
      (hRows : AlertsMapped (fun id row =>
        if result.performed = true ∧ id ∈ claimedIds limit s.clock locked s.db then
          claimRow s.clock row
        else row) s.db s'.db) : AlertStep s (.alertDispatcher i result locked) s'
  | answered {i : Nat} {result : CallResult} {locked : List JobId} {alert : FailureAlert}
      {rest : List FailureAlert} {delivered failed : Nat} {call : FailureAlertService.Call}
      {s' : PublishingState}
      (hMoved : AlertRunMoved s i (.running (.fetch alert) rest delivered failed)
        (.running call rest delivered failed) s')
      (hCall : result = .returned ∧ call = .markDelivered alert ∨
        result ≠ .returned ∧ ∃ error, call = .markFailed alert error)
      (hDb : s'.db = s.db) : AlertStep s (.alertDispatcher i result locked) s'
  | markedDelivered {i : Nat} {result : CallResult} {locked : List JobId} {alert : FailureAlert}
      {rest : List FailureAlert} {delivered failed : Nat} {state' : FailureAlertService.State}
      {s' : PublishingState}
      (hMoved : AlertRunMoved s i (.running (.markDelivered alert) rest delivered failed)
        state' s')
      (hNext : result = .returned ∧ state' = nextAlert (delivered + 1) failed rest ∨
        ∃ error, state' = .running (.markFailed alert error) rest delivered failed)
      (hRows : AlertsMapped (fun id row =>
        if result.performed = true ∧ id = alert.jobId ∧ row.status = .processing then
          deliveredRow s.clock row
        else row) s.db s'.db) : AlertStep s (.alertDispatcher i result locked) s'
  | markedFailed {i : Nat} {result : CallResult} {locked : List JobId} {alert : FailureAlert}
      {error : String} {rest : List FailureAlert} {delivered failed : Nat}
      {state' : FailureAlertService.State} {s' : PublishingState}
      (hMoved : AlertRunMoved s i (.running (.markFailed alert error) rest delivered failed)
        state' s')
      (hNext : state' = nextAlert delivered (failed + 1) rest ∨ state' = .raised)
      (hRows : AlertsMapped (fun id row =>
        if result.performed = true ∧ id = alert.jobId ∧ row.status = .processing then
          failedRow error s.clock row
        else row) s.db s'.db) : AlertStep s (.alertDispatcher i result locked) s'

section Moves

variable {s s' : PublishingState} {i k : Nat} {state state' state'' : FailureAlertService.State}

/-- The runs after one of them moved. -/
theorem AlertRunMoved.cases (h : AlertRunMoved s i state state' s')
    (hGet : s'.alertDispatchers[k]? = some state'') :
    k = i ∧ state'' = state' ∨ k ≠ i ∧ s.alertDispatchers[k]? = some state'' := by
  rw [h.2, List.getElem?_set] at hGet
  by_cases hk : i = k
  · subst hk
    rw [if_pos rfl, if_pos (List.getElem?_eq_some_iff.mp h.1).1, Option.some.injEq] at hGet
    exact Or.inl ⟨rfl, hGet.symm⟩
  · rw [if_neg hk] at hGet
    exact Or.inr ⟨fun he => hk he.symm, hGet⟩

theorem AlertRunMoved.self (h : AlertRunMoved s i state state' s') :
    s'.alertDispatchers[i]? = some state' := by
  rw [h.2, List.getElem?_set_self (List.getElem?_eq_some_iff.mp h.1).1]

/-- The runs after a step that moved none of them: perhaps one has begun. -/
theorem alert_runs_cases (h : s'.alertDispatchers = s.alertDispatchers ∨ ∃ limit,
      s'.alertDispatchers = s.alertDispatchers ++ [FailureAlertService.dispatchPending limit])
    (hGet : s'.alertDispatchers[k]? = some state) :
    s.alertDispatchers[k]? = some state ∨
      ∃ limit, state = FailureAlertService.dispatchPending limit := by
  rcases h with hRuns | ⟨limit, hRuns⟩
  · exact Or.inl (hRuns ▸ hGet)
  · rw [hRuns, List.getElem?_append] at hGet
    split at hGet
    · exact Or.inl hGet
    · exact Or.inr ⟨limit, List.mem_singleton.mp (List.mem_of_getElem? hGet)⟩

end Moves

section Steps

variable {cfg : Config} {s s' : PublishingState}

/-- A call whose effect rewrites the alerts rewrites them where it is performed. -/
theorem AlertsMapped.leaves {result : CallResult} {db db' : Database}
    {condition : JobId → FailureAlertRow → Prop} [∀ id row, Decidable (condition id row)]
    {set : FailureAlertRow → FailureAlertRow}
    (h : AlertsMapped (fun id row => if condition id row then set row else row) db db') :
    AlertsMapped (fun id row =>
      if result.performed = true ∧ condition id row then set row else row) db
      (result.leaves db db') := by
  intro id
  unfold CallResult.leaves
  by_cases hPerformed : result.performed = true
  · rw [if_pos hPerformed, h id]
    simp [hPerformed]
  · rw [if_neg hPerformed]
    simp [hPerformed]

theorem updateAlert_mapped (id : JobId) (set : FailureAlertRow → FailureAlertRow)
    (db : Database) :
    AlertsMapped (fun k row => if k = id ∧ row.status = .processing then set row else row) db
      (FailureAlertService.updateAlert id FailureAlertService.processing set db) := by
  intro k
  rw [FailureAlertService.lookup_updateAlert]
  simp only [FailureAlertService.processing, decide_eq_true_eq]

/-- A step of a run of `dispatchPending` is its claim, the end of a request or the record of that. -/
theorem alertStep_step {i : Nat} {result : CallResult} {locked : List JobId}
    (h : s.alertStep i result locked = some s') :
    AlertStep s (.alertDispatcher i result locked) s' := by
  unfold PublishingState.alertStep at h
  split at h
  · rename_i state hState
    obtain ⟨⟨state', db'⟩, hStep, rfl⟩ := Option.map_eq_some_iff.mp h
    unfold FailureAlertService.step at hStep
    split at hStep
    · rename_i limit rest delivered failed
      injection hStep with hStep
      injection hStep with hNext hDb
      subst hDb
      obtain ⟨hIds, hRows⟩ := FailureAlertService.claim_eq limit s.clock locked s.db
      refine .claimed ⟨hState, rfl⟩ ?_ (AlertsMapped.leaves hRows)
      cases result with
      | returned => exact Or.inr ⟨rfl, _, hIds, hNext.symm⟩
      | threw error performed => exact Or.inl hNext.symm
    · rename_i alert rest delivered failed
      injection hStep with hStep
      injection hStep with hNext hDb
      subst hNext hDb
      refine .answered ⟨hState, rfl⟩ ?_ rfl
      cases result with
      | returned => exact Or.inl ⟨rfl, rfl⟩
      | threw error performed => exact Or.inr ⟨nofun, _, rfl⟩
    · rename_i alert rest delivered failed
      injection hStep with hStep
      injection hStep with hNext hDb
      subst hDb
      refine .markedDelivered ⟨hState, rfl⟩ ?_ (AlertsMapped.leaves (updateAlert_mapped _ _ _))
      cases result with
      | returned => exact Or.inl ⟨rfl, hNext.symm⟩
      | threw error performed => exact Or.inr ⟨_, hNext.symm⟩
    · rename_i alert error rest delivered failed
      injection hStep with hStep
      injection hStep with hNext hDb
      subst hDb
      refine .markedFailed ⟨hState, rfl⟩ ?_ (AlertsMapped.leaves (updateAlert_mapped _ _ _))
      cases result with
      | returned => exact Or.inl hNext.symm
      | threw error performed => exact Or.inr hNext.symm
    · injection hStep
    · injection hStep
  · injection h

/-- Only a terminal failure raises an alert, and only for a job that has none. -/
theorem FollowedUp.alertsGrown {terminal publishes : Bool} {now : Time} {new : SocialPublishJob}
    {db db' : Database} (h : FollowedUp terminal publishes now new db db') :
    AlertsGrown db db' := by
  cases terminal with
  | false => exact .of_eq (h.alerts rfl)
  | true =>
    cases hRow : db.alerts.lookup new.id with
    | some row => exact .of_eq (h.alertKept rfl (by rw [hRow]; rfl))
    | none =>
      obtain ⟨alert, hAlerts, hPending, -⟩ := h.alertRaised rfl hRow
      refine ⟨fun k row hk => ?_, fun k row hk => ?_⟩
      · have hNe : k ≠ new.id := by
          rintro rfl
          rw [hRow] at hk
          injection hk
        rw [hAlerts, AList.lookup_insert_ne hNe, hk]
      · rw [hAlerts] at hk
        rcases eq_or_ne k new.id with rfl | hNe
        · rw [AList.lookup_insert, Option.some.injEq] at hk
          exact Or.inr ⟨hRow, hk ▸ hPending⟩
        · rw [AList.lookup_insert_ne hNe] at hk
          exact Or.inl hk

theorem repositoryStep_alerts {i : Nat} {result : CallResult}
    (h : s.repositoryStep i result = some s') :
    AlertsGrown s.db s'.db ∧ s'.alertDispatchers = s.alertDispatchers := by
  unfold PublishingState.repositoryStep at h
  split at h
  · rename_i w hWorker
    split at h
    · obtain ⟨after, hCall, rfl⟩ := Option.map_eq_some_iff.mp h
      refine ⟨?_, rfl⟩
      show AlertsGrown s.db (result.leaves s.db after.2)
      unfold CallResult.leaves
      split
      · cases repositoryCall_cases hCall with
        | wrote hCond hChecks hWritten hFollowed => exact hFollowed.alertsGrown
        | none hNone => exact .of_eq rfl
        | failed hOld hCond hFail => exact .of_eq rfl
      · exact .of_eq rfl
    · injection h
  · injection h

theorem userStep_alerts (operation : UserOperation) :
    (PublishingState.userStep cfg s operation).db.alerts = s.db.alerts ∧
      (PublishingState.userStep cfg s operation).alertDispatchers = s.alertDispatchers := by
  unfold PublishingState.userStep
  split
  · rename_i record db hPerform
    refine ⟨?_, rfl⟩
    rcases perform_cases hPerform with ⟨post, hCreated⟩ | ⟨id, row, next, f, -, hMutated⟩
    · exact hCreated.alerts
    · exact hMutated.alerts
  · exact ⟨rfl, rfl⟩

/-- **One step** of the system is of one of these kinds for the alerts. -/
theorem alert_step {e : Event} (h : (publishingSystem cfg).step s e = some s') :
    AlertStep s e s' := by
  by_cases hAside : e.isAside = true
  · have hKept := step_aside h hAside
    refine .elsewhere ?_ (.of_eq hKept.alerts) (Or.inl hKept.alertDispatchers)
    rintro i result locked rfl
    exact absurd hAside nofun
  · cases e with
    | tick ms =>
      injection h with h
      subst h
      exact .elsewhere nofun (.of_eq rfl) (Or.inl rfl)
    | user operation =>
      injection h with h
      subst h
      obtain ⟨hAlerts, hRuns⟩ := @userStep_alerts cfg s operation
      exact .elsewhere nofun (.of_eq hAlerts) (Or.inl hRuns)
    | repository i result =>
      obtain ⟨hGrown, hRuns⟩ := repositoryStep_alerts h
      exact .elsewhere nofun hGrown (Or.inl hRuns)
    | dispatchAlerts limit =>
      injection h with h
      subst h
      exact .elsewhere nofun (.of_eq rfl) (Or.inr ⟨limit, rfl⟩)
    | alertDispatcher i result locked => exact alertStep_step h
    | _ => exact absurd rfl hAside

end Steps

/-! ## What a step does to one alert row -/

/-- How a step takes the row `old` of an alert to `new`. -/
inductive AlertRowChange (s : PublishingState) (e : Event) (id : JobId)
    (old new : FailureAlertRow) : Prop
  | same (hSame : new = old)
  | claimed {i : Nat} {result : CallResult} {locked : List JobId} {limit : Int}
      {rest : List FailureAlert} {delivered failed : Nat}
      (hEvent : e = .alertDispatcher i result locked)
      (hRun : s.alertDispatchers[i]? = some (.running (.claim limit) rest delivered failed))
      (hTaken : id ∈ claimedIds limit s.clock locked s.db) (hPerformed : result.performed = true)
      (hNew : new = claimRow s.clock old)
  | delivered {i : Nat} {state : FailureAlertService.State}
      (hRun : s.alertDispatchers[i]? = some state) (hConfirmed : state.confirmed = some id)
      (hProcessing : old.status = .processing) (hNew : new = deliveredRow s.clock old)
  | failed {i : Nat} {alert : FailureAlert} {error : String} {rest : List FailureAlert}
      {delivered failed : Nat} {result : CallResult} {locked : List JobId}
      (hEvent : e = .alertDispatcher i result locked)
      (hRun : s.alertDispatchers[i]? =
        some (.running (.markFailed alert error) rest delivered failed))
      (hAlert : id = alert.jobId) (hProcessing : old.status = .processing)
      (hNew : new = failedRow error s.clock old)

section AlertRows

variable {s s' : PublishingState} {e : Event} {id : JobId}

/-- No step deletes an alert. -/
theorem alert_row_change (h : AlertStep s e s') {old : FailureAlertRow}
    (hOld : s.db.alerts.lookup id = some old) :
    ∃ new, s'.db.alerts.lookup id = some new ∧ AlertRowChange s e id old new := by
  cases h with
  | elsewhere _ hGrown _ => exact ⟨old, hGrown.kept id old hOld, .same rfl⟩
  | claimed hMoved _ hRows =>
    refine ⟨_, by rw [hRows, hOld, Option.map_some], ?_⟩
    dsimp only
    split
    · rename_i hTaken
      exact .claimed rfl hMoved.1 hTaken.2 hTaken.1 rfl
    · exact .same rfl
  | answered _ _ hDb => exact ⟨old, by rw [hDb, hOld], .same rfl⟩
  | markedDelivered hMoved _ hRows =>
    refine ⟨_, by rw [hRows, hOld, Option.map_some], ?_⟩
    dsimp only
    split
    · rename_i hMarked
      exact .delivered hMoved.1 (congrArg some hMarked.2.1.symm) hMarked.2.2 rfl
    · exact .same rfl
  | markedFailed hMoved _ hRows =>
    refine ⟨_, by rw [hRows, hOld, Option.map_some], ?_⟩
    dsimp only
    split
    · rename_i hMarked
      exact .failed rfl hMoved.1 hMarked.2.1 hMarked.2.2 rfl
    · exact .same rfl

/-- An alert after a step was there before, or is a new one. -/
theorem alert_row_origin (h : AlertStep s e s') {new : FailureAlertRow}
    (hNew : s'.db.alerts.lookup id = some new) :
    (∃ old, s.db.alerts.lookup id = some old ∧ AlertRowChange s e id old new) ∨
      s.db.alerts.lookup id = none ∧ new.status = .pending := by
  cases hOld : s.db.alerts.lookup id with
  | some old =>
    obtain ⟨new', hNew', hChange⟩ := alert_row_change h hOld
    rw [hNew, Option.some.injEq] at hNew'
    exact Or.inl ⟨old, rfl, hNew' ▸ hChange⟩
  | none =>
    have hImpossible : ∀ {f}, AlertsMapped f s.db s'.db → False := by
      intro f hRows
      rw [hRows id, hOld] at hNew
      injection hNew
    cases h with
    | elsewhere _ hGrown _ =>
      rcases hGrown.fresh id new hNew with hSame | hFresh
      · rw [hOld] at hSame
        injection hSame
      · exact Or.inr ⟨rfl, hFresh.2⟩
    | claimed _ _ hRows => exact (hImpossible hRows).elim
    | answered _ _ hDb =>
      rw [hDb, hOld] at hNew
      injection hNew
    | markedDelivered _ _ hRows => exact (hImpossible hRows).elim
    | markedFailed _ _ hRows => exact (hImpossible hRows).elim

end AlertRows

/-! ## The record of the webhook -/

/-- A request to the webhook and its answer, as numbered runs of `dispatchPending` see them. -/
inductive WebhookEvent
  | started (run : Nat) (alertId : JobId) (time : Time)
  /-- `ok` tells whether the response was an OK one; an error is an answer too. -/
  | answered (run : Nat) (alertId : JobId) (ok : Bool) (time : Time)
deriving DecidableEq, Repr

/-- The alert that run `i` has asked the webhook about and waits for. -/
def PublishingState.requestedBy (s : PublishingState) (i : Nat) : Option JobId :=
  s.alertDispatchers[i]?.bind FailureAlertService.State.requested

/-- What the webhook sees of a step: the answer of a request, or the start of one. -/
def webhookEvents (s : PublishingState) (e : Event) (s' : PublishingState) : List WebhookEvent :=
  match e with
  | .alertDispatcher i result _ =>
    ((s.requestedBy i).map fun id => .answered i id (result = .returned) s.clock).toList ++
      ((s'.requestedBy i).map fun id => .started i id s.clock).toList
  | _ => []

/-- The publishing system with the record of its webhook. -/
def webhookSystem (cfg : Config) : System (PublishingState × List WebhookEvent) Event :=
  (publishingSystem cfg).logged webhookEvents

theorem webhookEvents_elsewhere {s s' : PublishingState} {e : Event}
    (h : ∀ i result locked, e ≠ .alertDispatcher i result locked) : webhookEvents s e s' = [] := by
  unfold webhookEvents
  split
  · exact absurd rfl (h _ _ _)
  · rfl

theorem webhookEvents_moved {s s' : PublishingState} {i : Nat} {result : CallResult}
    {locked : List JobId} {state state' : FailureAlertService.State}
    (h : AlertRunMoved s i state state' s') :
    webhookEvents s (.alertDispatcher i result locked) s' =
      (state.requested.map fun id => .answered i id (result = .returned) s.clock).toList ++
        (state'.requested.map fun id => .started i id s.clock).toList := by
  simp only [webhookEvents, PublishingState.requestedBy, h.1, h.self, Option.bind_some]

/-- The webhook has answered a request about the alert with an OK response. -/
def AnsweredOk (log : List WebhookEvent) (id : JobId) : Prop :=
  ∃ run time, .answered run id true time ∈ log

theorem AnsweredOk.append {log : List WebhookEvent} {id : JobId} (h : AnsweredOk log id)
    (more : List WebhookEvent) : AnsweredOk (log ++ more) id := by
  obtain ⟨run, time, hMem⟩ := h
  exact ⟨run, time, List.mem_append_left _ hMem⟩

end SocialPromotion
