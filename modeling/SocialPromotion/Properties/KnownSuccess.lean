import SocialPromotion.Properties.CheckConstraints
import SocialPromotion.Properties.Snapshots

/-!
# Known successes

An execution that holds a remote post id writes it with `confirmRemotePublication`, which
needs the row in remote_requesting. Nothing keeps other executions from moving the row in
the meantime; as long as none of them does,

* `ready_reachable`: the row is in the status that each execution needs to get its remote
  post id recorded;
* `known_success_kept`: an execution that holds a remote post id and does not die records
  it, and no failure is recorded before.

`confirm_finds_claimed` is a run in which a second delivery takes the row of a slow request.
-/

namespace SocialPromotion

open LTS PublishWorkerProcessor PublishingService

/-! ## Executions with a remote post id -/

/-- The publication that has reached the execution. -/
def held : Call → Option PublishResult
  | .markReconciled _ _ result | .confirm _ _ result => some result
  | _ => none

/-- A reconciliation performs a lookup, so it may confirm. -/
def canConfirm (cfg : Config) (claimed : ClaimedPublishJob) (job : SocialPublishJob) : Bool :=
  match lookupFor cfg claimed.post job with
  | .ok (some _) => true
  | _ => false

/-- The status in which an execution needs its row, from where it may learn a remote post
id until the id is recorded. -/
def needed (cfg : Config) : Call → Option PublishJobStatus
  | .reconcileFirst claimed _ => if canConfirm cfg claimed claimed.job then some .claimed else none
  | .markReconciled .. => some .claimed
  | .publish .. | .adapterPublish .. | .confirm .. => some .remoteRequesting
  | .reconcileAfter claimed job _ =>
    if canConfirm cfg claimed job then some .remoteRequesting else none
  | _ => none

/-- The key with which the execution will mark its row. -/
def keyToMark : Call → Option RequestKey
  | .reconcileFirst _ key | .markReconciled _ key _ => some key
  | _ => none

/-- A statement of another execution that takes a row in this status away from an execution
that needs it, or records an unknown outcome over a known one. -/
def takesAway (isHeld : Bool) : PublishJobStatus → Call → Bool
  | .claimed, .markReconciled .. | .claimed, .markRequest .. => true
  | .claimed, .saveFailed .. | .claimed, .recordAmbiguous .. => true
  | .remoteRequesting, .claimPublishJob | .remoteRequesting, .saveFailed .. => true
  | .remoteRequesting, .recordAmbiguous _ _ retryPending _ => isHeld || !retryPending
  | _, _ => false

/-- The step takes a row away from a running execution that needs it. -/
def disturbs (cfg : Config) (s : PublishingState) : Event → Bool
  | .repository i result => result.performed && (s.workers[i]?).any fun w =>
      match w.state with
      | .running call => (s.db.job? (call.target w)).any fun row =>
          call.condition w s.clock s.db row && (List.range s.workers.length).any fun k =>
            k ≠ i && (s.workers[k]?).any fun other =>
              other.publishJobId = w.publishJobId && match other.state with
                | .running holder => needed cfg holder = some row.status &&
                    takesAway (held holder).isSome row.status call
                | _ => false
      | _ => false
  | _ => false

/-- The statements of executions do not fail. -/
def statementReturns : Event → Bool
  | .repository _ result => result = .returned
  | _ => true

/-- The step is no failing statement and takes no row away. -/
def Undisturbed (cfg : Config) (s : PublishingState) (e : Event) : Prop :=
  statementReturns e = true ∧ disturbs cfg s e = false

instance (cfg : Config) (s : PublishingState) (e : Event) : Decidable (Undisturbed cfg s e) :=
  inferInstanceAs (Decidable (_ ∧ _))

/-! ## Rows that are needed -/

section Rows

variable {cfg : Config} {s t : PublishingState} {e : Event} {j : JobId}

theorem needed_cases {call : Call} {status : PublishJobStatus}
    (h : needed cfg call = some status) : status = .claimed ∨ status = .remoteRequesting := by
  cases call with
  | reconcileFirst | reconcileAfter =>
    simp only [needed] at h
    split at h
    · injection h with h
      simp [← h]
    · injection h
  | markReconciled | publish | adapterPublish | confirm =>
    injection h with h
    simp [← h]
  | _ => injection h

/-- A statement that does not take the row away leaves it as it is needed, or confirms. -/
theorem kept_of_not_takesAway {isHeld : Bool} {w : Worker} {now : Time} {db : Database}
    {call : Call} {old : SocialPublishJob}
    (hStatus : old.status = .claimed ∨ old.status = .remoteRequesting)
    (hCond : call.condition w now db old = true)
    (hNot : takesAway isHeld old.status call = false) :
    Confirmed (call.set w now old) ∨ (call.set w now old).status = old.status ∧
      (call.set w now old).remoteRequestKey = old.remoteRequestKey ∧
      (isHeld = true → (call.set w now old).errorCode = old.errorCode) := by
  rcases hStatus with hs | hs
  · cases call with
    | claimPublishJob =>
      have hClaimed : (PgPublishOutboxRepository.claimRow w.leaseMs now old).status = .claimed :=
        if_neg (by simp [hs])
      exact Or.inr ⟨hClaimed.trans hs.symm, rfl, fun _ => rfl⟩
    | reconcileFirst | publish | adapterPublish | reconcileAfter => injection hCond
    | saveRecovered | confirm | savePublished => simp [Call.condition, hs] at hCond
    | _ => simp [takesAway, hs] at hNot
  · cases call with
    | confirm => exact Or.inl (Or.inl rfl)
    | recordAmbiguous claimed deferred retryPending nextRetryAt =>
      simp only [takesAway, hs, Bool.or_eq_false_iff, Bool.not_eq_false'] at hNot
      obtain ⟨hHeld, rfl⟩ := hNot
      refine Or.inr ⟨hs.symm, rfl, fun h => ?_⟩
      rw [hHeld] at h
      injection h
    | reconcileFirst | publish | adapterPublish | reconcileAfter => injection hCond
    | saveRecovered | savePublished | markReconciled | markRequest =>
      simp [Call.condition, hs] at hCond
    | _ => simp [takesAway, hs] at hNot

/-- What a step must do to take a row away. -/
theorem disturbs_of {i k : Nat} {w w' : Worker} {call holder : Call} {old : SocialPublishJob}
    (hWorker : s.workers[i]? = some w) (hState : w.state = .running call)
    (hRow : s.db.job? (call.target w) = some old)
    (hCond : call.condition w s.clock s.db old = true) (hOther : k ≠ i)
    (hWorker' : s.workers[k]? = some w') (hJob : w'.publishJobId = w.publishJobId)
    (hState' : w'.state = .running holder) (hNeeded : needed cfg holder = some old.status)
    (hTakes : takesAway (held holder).isSome old.status call = true) :
    disturbs cfg s (.repository i .returned) = true := by
  have hAny : (List.range s.workers.length).any (fun k =>
      k ≠ i && (s.workers[k]?).any fun other =>
        other.publishJobId = w.publishJobId && match other.state with
          | .running holder => needed cfg holder = some old.status &&
              takesAway (held holder).isSome old.status call
          | _ => false) = true := by
    refine List.any_eq_true.mpr ⟨k, List.mem_range.mpr ?_, ?_⟩
    · exact (List.getElem?_eq_some_iff.mp hWorker').1
    · simp [hOther, hWorker', hJob, hState', hNeeded, hTakes]
  simp only [disturbs, CallResult.performed, hWorker, Option.any_some, hState, hRow, hCond,
    Bool.true_and]
  exact hAny

/-- **An undisturbed step** leaves the row that another execution needs. -/
theorem row_undisturbed (hReach : Reachable (publishingSystem cfg) anyStep s)
    (hKind : StepKind cfg s e t) (hGuard : Undisturbed cfg s e) {k : Nat} {w : Worker}
    {call : Call} (hWorker : s.workers[k]? = some w) (hState : w.state = .running call)
    (hOther : ∀ i result, e = .repository i result → k ≠ i) {status : PublishJobStatus}
    (hNeeded : needed cfg call = some status) {old : SocialPublishJob}
    (hOld : s.db.job? w.publishJobId = some old) (hStatus : old.status = status) :
    ∃ new, t.db.job? w.publishJobId = some new ∧ (Confirmed new ∨ new.status = status ∧
      new.remoteRequestKey = old.remoteRequestKey ∧
      ((held call).isSome = true → new.errorCode = old.errorCode)) := by
  obtain ⟨new, hNew, hChange⟩ := row_change hKind hOld
  have hCases := needed_cases hNeeded
  refine ⟨new, hNew, ?_⟩
  cases hChange with
  | same hSame =>
    subst hSame
    exact Or.inr ⟨hStatus, rfl, fun _ => rfl⟩
  | @called i result w' call' hEvent hWorker' hState' hTarget hCond hNew' =>
    subst hEvent hNew' hStatus
    have hResult : result = .returned := of_decide_eq_true hGuard.1
    subst hResult
    have hJob := ((lifecycle_reachable hReach).calls.running hWorker' hState').target rfl
    have hId := Database.job?_id hOld
    refine kept_of_not_takesAway hCases hCond (Bool.eq_false_of_not_eq_true fun hTakes => ?_)
    have hRow : s.db.job? (call'.target w') = some old := by rw [hTarget, hId, hOld]
    have hDisturbs := disturbs_of hWorker' hState' hRow hCond (hOther i _ rfl) hWorker
      (hId.symm.trans (hTarget.symm.trans hJob)) hState hNeeded hTakes
    rw [hGuard.2] at hDisturbs
    injection hDisturbs
  | edited hEvent hEdit hMem hNew' =>
    have hSame : new = old := by
      rw [hNew']
      refine edited_inProgress hEdit hMem ?_
      rcases hCases with hs | hs <;> simp [PostService.inProgress, hStatus, hs]
    subst hSame
    exact Or.inr ⟨hStatus, rfl, fun _ => rfl⟩

end Rows

/-! ## Every execution finds the row it needs -/

/-- The row is confirmed, or in the status and with the key that the call needs. -/
def Ready (cfg : Config) (db : Database) (j : JobId) (call : Call) : Prop :=
  ∀ status, needed cfg call = some status → ∃ row, db.job? j = some row ∧
    (Confirmed row ∨ row.status = status ∧
      ∀ key, keyToMark call = some key → row.remoteRequestKey = some key)

section Ready

variable {cfg : Config} {s t : PublishingState} {e : Event} {j : JobId}

theorem Ready.of_idle {db : Database} {call : Call} (h : needed cfg call = none) :
    Ready cfg db j call := by
  intro status hNeeded
  rw [h] at hNeeded
  injection hNeeded

/-- A row just requested is ready for the rest of the execution. -/
theorem Ready.of_requesting {db : Database} {call : Call} {row : SocialPublishJob}
    (hRow : db.job? j = some row) (hStatus : row.status = .remoteRequesting)
    (hNeeded : needed cfg call = some .remoteRequesting) (hKey : keyToMark call = none) :
    Ready cfg db j call := by
  intro status h
  rw [hNeeded, Option.some.injEq] at h
  refine ⟨row, hRow, Or.inr ⟨hStatus.trans h, fun key hEq => ?_⟩⟩
  rw [hKey] at hEq
  injection hEq

theorem Ready.of_rows {call : Call} (h : Ready cfg s.db j call)
    (hRows : ∀ k, t.db.job? k = s.db.job? k) : Ready cfg t.db j call := by
  intro status hNeeded
  obtain ⟨row, hRow, hReady⟩ := h status hNeeded
  exact ⟨row, (hRows j).trans hRow, hReady⟩

/-- From one call to the next that needs the same. -/
theorem Ready.next {db : Database} {call call' : Call} (h : Ready cfg db j call)
    (hNeeded : needed cfg call' = none ∨ needed cfg call' = needed cfg call)
    (hKey : keyToMark call' = none ∨ keyToMark call' = keyToMark call) :
    Ready cfg db j call' := by
  intro status hStatus
  rcases hNeeded with hNone | hSame
  · rw [hNone] at hStatus
    injection hStatus
  · obtain ⟨row, hRow, hReady⟩ := h status (hSame ▸ hStatus)
    refine ⟨row, hRow, hReady.imp id fun ⟨hStatus, hKeys⟩ => ⟨hStatus, fun key hEq => ?_⟩⟩
    rcases hKey with hNone | hSame
    · rw [hNone] at hEq
      injection hEq
    · exact hKeys key (hSame ▸ hEq)

/-- Only a lookup confirms. -/
theorem canConfirm_of_confirmed {claimed : ClaimedPublishJob} {job : SocialPublishJob}
    {answer : LookupAnswer} {date : Time} {result : PublishResult}
    (h : reconcile cfg claimed.post job answer date = .ok (.confirmed result)) :
    canConfirm cfg claimed job = true := by
  unfold reconcile at h
  obtain ⟨lookup, hLookup, h⟩ := Keyed.bind_eq_ok.mp h
  unfold canConfirm
  cases lookup with
  | none =>
    injection h with h
    injection h
  | some lookup => rw [hLookup]

theorem needed_defer {claimed : ClaimedPublishJob} {job : SocialPublishJob} {date : Time}
    {call : Call} (h : deferAmbiguousRemoteOutcome claimed job date = .running call) :
    needed cfg call = none := by
  rcases defer_cases claimed job date with hEnded | ⟨nextRetryAt, hDefers⟩
  · rw [hEnded] at h
    injection h
  · rw [hDefers] at h
    injection h with h
    exact h ▸ rfl

theorem afterReconcileFirst_cases {claimed : ClaimedPublishJob} {key : RequestKey} {date : Time}
    {answer : Except ThrownError PublishReconciliation} {call : Call}
    (h : afterReconcileFirst cfg claimed key date answer = .running call) :
    needed cfg call = none ∨
      ∃ result, answer = .ok (.confirmed result) ∧ call = .markReconciled claimed key result := by
  unfold afterReconcileFirst at h
  split at h
  · injection h
  · rename_i result
    injection h with h
    exact Or.inr ⟨result, rfl, h.symm⟩
  · split at h
    · injection h with h
      exact Or.inl (h ▸ rfl)
    · exact Or.inl (needed_defer h)

theorem afterReconcileAfter_cases {claimed : ClaimedPublishJob} {job failed : SocialPublishJob}
    {date : Time} {answer : Except ThrownError PublishReconciliation} {call : Call}
    (h : afterReconcileAfter claimed job failed date answer = .running call) :
    needed cfg call = none ∨ ∃ result, answer = .ok (.confirmed result) ∧
      call = .confirm claimed (confirmedBy result job) result := by
  unfold afterReconcileAfter at h
  split at h
  · injection h
  · rename_i result
    injection h with h
    exact Or.inr ⟨result, rfl, h.symm⟩
  · exact Or.inl (needed_defer h)

/-- The attempt itself needs the row in remote_requesting all along. -/
theorem ready_attempt {db : Database} {call call' : Call} {claimed : ClaimedPublishJob}
    {job : SocialPublishJob}
    (hCall : call = .publish claimed job ∨ ∃ n, call = .adapterPublish claimed job n)
    (h : Ready cfg db j call) (hFlow : Flow cfg call (.running call')) :
    Ready cfg db j call' := by
  have hNeeded : needed cfg call = some .remoteRequesting := by
    rcases hCall with rfl | ⟨n, rfl⟩ <;> rfl
  cases hFlow with
  | calls => exact h.next (Or.inr rfl) (Or.inr rfl)
  | succeeds => exact h.next (Or.inr rfl) (Or.inr rfl)
  | ambiguous =>
    refine h.next ?_ (Or.inl rfl)
    rw [hNeeded]
    simp only [needed]
    split
    · exact Or.inr rfl
    · exact Or.inl rfl
  | fails => exact .of_idle rfl
  | _ => rcases hCall with hCall | ⟨n, hCall⟩ <;> injection hCall

/-- An execution that wrote its row finds it ready. -/
theorem ready_continues {w : Worker} {call call' : Call} {old new : SocialPublishJob}
    (hTarget : call.target w = w.publishJobId)
    (hWritten : RowWritten s.db (call.target w) old new t.db) (hNew : new = call.set w s.clock old)
    (hNext : Continues w call new (.running call')) : Ready cfg t.db w.publishJobId call' := by
  have hRow : t.db.job? w.publishJobId = some new :=
    (hWritten.rows _).trans (if_pos hTarget.symm)
  cases hNext with
  | recovers => exact .of_idle rfl
  | @reconciles _ key post hKey hOther =>
    intro status hNeeded
    refine ⟨new, hRow, ?_⟩
    rcases claimRow_status w.leaseMs s.clock old with ⟨hStatus, -⟩ | ⟨hStatus, -⟩
    · refine Or.inr ⟨?_, fun key' hEq => ?_⟩
      · simp only [needed] at hNeeded
        split at hNeeded
        · injection hNeeded with hNeeded
          rw [← hNeeded, hNew]
          exact hStatus
        · injection hNeeded
      · exact hKey.trans hEq
    · exact Or.inl (Or.inl (hNew ▸ hStatus))
  | requests => exact .of_idle rfl
  | confirms => exact .of_requesting hRow (hNew ▸ rfl) rfl rfl
  | publishes => exact .of_requesting hRow (hNew ▸ rfl) rfl rfl
  | saves => exact .of_idle rfl

end Ready

/-- Every running execution is ready. -/
def AllReady (cfg : Config) (s : PublishingState) : Prop :=
  ∀ (k : Nat) (w : Worker) (call : Call), s.workers[k]? = some w → w.state = .running call →
    Ready cfg s.db w.publishJobId call

section Steps

variable {cfg : Config} {s t : PublishingState} {e : Event} {j : JobId}

/-- An execution that does not move stays ready. -/
theorem ready_kept (hReach : Reachable (publishingSystem cfg) anyStep s)
    (hKind : StepKind cfg s e t) (hGuard : Undisturbed cfg s e) {k : Nat} {w : Worker}
    {call : Call} (hWorker : s.workers[k]? = some w) (hState : w.state = .running call)
    (hOther : ∀ i result, e = .repository i result → k ≠ i)
    (h : Ready cfg s.db w.publishJobId call) : Ready cfg t.db w.publishJobId call := by
  intro status hNeeded
  obtain ⟨old, hOld, hReady⟩ := h status hNeeded
  rcases hReady with hConfirmed | ⟨hStatus, hKeys⟩
  · obtain ⟨new, hNew, hChange⟩ := row_change hKind hOld
    have hLawful := lawful_change (lifecycle_reachable hReach).calls (recorded_reachable hReach)
      hOld hChange
    exact ⟨new, hNew, Or.inl (hLawful.confirmed_kept hConfirmed).1⟩
  · obtain ⟨new, hNew, hCases⟩ :=
      row_undisturbed hReach hKind hGuard hWorker hState hOther hNeeded hOld hStatus
    refine ⟨new, hNew, hCases.imp id fun ⟨hStatus', hKey, _⟩ => ⟨hStatus', fun key hEq => ?_⟩⟩
    rw [hKey]
    exact hKeys key hEq

/-- Every execution stays ready, whether it moved in this step or another one did. -/
theorem allReady_step (hReach : Reachable (publishingSystem cfg) anyStep s)
    (h : AllReady cfg s) (hGuard : Undisturbed cfg s e) (hKind : StepKind cfg s e t) :
    AllReady cfg t := by
  intro k w' call' hGet hRunning
  -- an execution that was there and does not move
  have hKept : s.workers[k]? = some w' → (∀ i result, e = .repository i result → k ≠ i) →
      Ready cfg t.db w'.publishJobId call' := fun hWorker hOther =>
    ready_kept hReach hKind hGuard hWorker hRunning hOther (h k w' call' hWorker hRunning)
  -- an execution that moves without a statement
  have hMoves : ∀ {i : Nat} {w : Worker} {call : Call} {state : State},
      w.state = .running call → WorkerMoved s i w state t → t.db = s.db →
      (∀ i result, e ≠ .repository i result) →
      (state = .running call' → Ready cfg s.db w.publishJobId call →
        Ready cfg s.db w.publishJobId call') → Ready cfg t.db w'.publishJobId call' := by
    intro i w call state hState hMoved hDb hEvent hNext
    rcases hMoved.cases hGet with ⟨rfl, rfl⟩ | ⟨-, hWorker⟩
    · rw [hDb]
      exact hNext hRunning (h k w call hMoved.1 hState)
    · exact hKept hWorker fun i result hEq => absurd hEq (hEvent i result)
  cases hKind with
  | quiet hWorkers hTables =>
    exact (h k w' call' (hWorkers.workers ▸ hGet) hRunning).of_rows hTables.rows
  | started hCall hWorkers _ _ hTables =>
    rcases started_cases hWorkers hGet with ⟨-, rfl⟩ | hWorker
    · rw [hCall] at hRunning
      injection hRunning with hRunning
      exact hRunning ▸ .of_idle rfl
    · exact (h k w' call' hWorker hRunning).of_rows hTables.rows
  | created hWorkers => exact hKept (hWorkers.workers ▸ hGet) nofun
  | edited hWorkers => exact hKept (hWorkers.workers ▸ hGet) nofun
  | @wrote i result w call old state _ hState hMoved hNext hCond _ hWritten =>
    rcases hMoved.cases hGet with ⟨rfl, rfl⟩ | ⟨hNe, hWorker⟩
    · have hTarget := ((lifecycle_reachable hReach).calls.running hMoved.1 hState).target rfl
      have hState' : state = .running call' := hRunning
      subst hState'
      rcases hNext with ⟨hRaised, -⟩ | ⟨-, hEq⟩
      · injection hRaised
      · exact ready_continues hTarget hWritten rfl (hEq ▸ continues_matched hCond)
    · exact hKept hWorker fun i' result' hEq => by injection hEq with hEq; exact hEq ▸ hNe
  | @unwritten i result w call state _ hState hMoved hNext hDb =>
    rcases hMoved.cases hGet with ⟨rfl, rfl⟩ | ⟨hNe, hWorker⟩
    · rcases hNext with ⟨rfl, -⟩ | ⟨-, rfl, -⟩
      · injection hRunning
      · obtain ⟨outcome, hEnded⟩ := call.unmatched_ended w
        rw [hEnded] at hRunning
        injection hRunning
    · exact hKept hWorker fun i' result' hEq => by injection hEq with hEq; exact hEq ▸ hNe
  | reconcileFirst hState hMoved hDb =>
    refine hMoves hState hMoved hDb nofun fun hNext hReady => ?_
    rcases afterReconcileFirst_cases hNext with hIdle | ⟨result, hAnswer, rfl⟩
    · exact .of_idle hIdle
    · refine hReady.next (Or.inr ?_) (Or.inr rfl)
      simp only [needed, canConfirm_of_confirmed hAnswer, if_true]
  | reconcileAfter hState hMoved hDb =>
    refine hMoves hState hMoved hDb nofun fun hNext hReady => ?_
    obtain hIdle | ⟨result, hAnswer, rfl⟩ : needed cfg call' = none ∨ _ :=
      afterReconcileAfter_cases hNext
    · exact .of_idle hIdle
    · refine hReady.next (Or.inr ?_) (Or.inr rfl)
      simp only [needed, canConfirm_of_confirmed hAnswer, if_true]
  | publishSettled hState hStart hMoved hDb =>
    exact hMoves hState hMoved hDb nofun fun hNext hReady =>
      ready_attempt (Or.inl rfl) hReady (hNext ▸ flow_settled hStart)
  | publishCalled hState hStart hMoved hDb =>
    exact hMoves hState hMoved hDb nofun fun hNext hReady =>
      ready_attempt (Or.inl rfl) hReady (hNext ▸ .calls _)
  | adapterReturned hState hMoved hDb =>
    exact hMoves hState hMoved hDb nofun fun hNext hReady =>
      ready_attempt (Or.inr ⟨_, rfl⟩) hReady (hNext ▸ flow_adapterReturned _)
  | crashed hState hMoved hDb =>
    exact hMoves hState hMoved hDb nofun fun hNext => by injection hNext

/-! ## Every known success is recorded -/

/-- Execution `k` runs and holds the publication `r` of job `j`. -/
def Holds (s : PublishingState) (j : JobId) (k : Nat) (r : PublishResult) : Prop :=
  ∃ w call, s.workers[k]? = some w ∧ w.publishJobId = j ∧ w.state = .running call ∧
    held call = some r

/-- What became of the publication that execution `k` held: the execution died, or the row
is confirmed, or it is held still and no failure has been recorded. -/
def SuccessKept (s : PublishingState) (j : JobId) (k : Nat) (r : PublishResult)
    (code : Option ErrorCode) : Prop :=
  (∃ w call, s.workers[k]? = some w ∧ w.state = .crashed call) ∨
    ∃ row, s.db.job? j = some row ∧ (Confirmed row ∧ row.remotePostId.isSome ∨
      Holds s j k r ∧ (row.status = .claimed ∨ row.status = .remoteRequesting) ∧
        row.errorCode = code)

theorem SuccessKept.of_confirmed {k : Nat} {r : PublishResult} {code : Option ErrorCode}
    {row : SocialPublishJob} (hRow : s.db.job? j = some row) (h : Confirmed row) :
    SuccessKept s j k r code :=
  Or.inr ⟨row, hRow, Or.inl ⟨h, ((Database.job?_checks hRow).remoteReference h).2⟩⟩

/-- The call of an execution that holds a publication. -/
theorem held_cases {call : Call} {r : PublishResult} (h : held call = some r) :
    (∃ claimed key, call = .markReconciled claimed key r) ∨
      ∃ claimed job, call = .confirm claimed job r := by
  cases call with
  | markReconciled claimed key result =>
    injection h with h
    exact Or.inl ⟨claimed, key, h ▸ rfl⟩
  | confirm claimed job result =>
    injection h with h
    exact Or.inr ⟨claimed, job, h ▸ rfl⟩
  | _ => injection h

/-- The statement that an execution makes with a publication in hand finds its row. -/
theorem held_finds {w : Worker} {call : Call} {r : PublishResult}
    (hSound : Sound cfg w.publishJobId call) (hReady : Ready cfg s.db w.publishJobId call)
    (hHeld : held call = some r) : ∃ row, s.db.job? (call.target w) = some row ∧
      (Confirmed row ∨ call.condition w s.clock s.db row = true) := by
  rw [hSound.target rfl]
  rcases held_cases hHeld with ⟨claimed, key, rfl⟩ | ⟨claimed, job, rfl⟩
  · obtain ⟨row, hRow, hCases⟩ := hReady _ rfl
    refine ⟨row, hRow, hCases.imp id fun hFound => ?_⟩
    simp [Call.condition, hFound.1, hFound.2 key rfl]
  · obtain ⟨row, hRow, hCases⟩ := hReady _ rfl
    exact ⟨row, hRow, hCases.imp id fun hFound => by simp [Call.condition, hFound.1]⟩

theorem held_not_fails {w : Worker} {call : Call} {r : PublishResult}
    (hSound : Sound cfg w.publishJobId call) (hHeld : held call = some r) :
    ¬ call.Fails w s.clock s.db := by
  rintro ⟨old, hOld, hCond, hChecks | hBlocked⟩
  · rw [call_checks_iff hSound (Database.job?_checks hOld) hCond, not_not] at hChecks
    obtain ⟨⟨claimed, deferred, nextRetryAt, rfl⟩, -⟩ := hChecks
    injection hHeld
  · rcases held_cases hHeld with ⟨claimed, key, rfl⟩ | ⟨claimed, job, rfl⟩ <;> exact hBlocked

/-- The execution that holds the publication writes its row. -/
theorem successKept_wrote {k : Nat} {w : Worker} {call : Call} {r : PublishResult}
    {code : Option ErrorCode} {result : CallResult} {state : State}
    {old row : SocialPublishJob} (hSound : Sound cfg w.publishJobId call)
    (hGuard : Undisturbed cfg s (.repository k result)) (hMoved : WorkerMoved s k w state t)
    (hNext : state = .ended .raised ∧ result ≠ .returned ∨
      result = .returned ∧ state = call.matched w s.db (call.set w s.clock row))
    (hWritten : RowWritten s.db (call.target w) row (call.set w s.clock row) t.db)
    (hOld : s.db.job? w.publishJobId = some old) (hHeld : held call = some r)
    (hCode : old.errorCode = code) : SuccessKept t w.publishJobId k r code := by
  have hTarget : call.target w = w.publishJobId := hSound.target rfl
  have hNew : t.db.job? w.publishJobId = some (call.set w s.clock row) :=
    (hWritten.rows _).trans (if_pos hTarget.symm)
  have hSame : row = old := by
    have hFound := hWritten.found
    rw [hTarget, hOld, Option.some.injEq] at hFound
    exact hFound.symm
  subst hSame
  rcases held_cases hHeld with ⟨claimed, key, rfl⟩ | ⟨claimed, job, rfl⟩
  · rcases hNext with ⟨-, hResult⟩ | ⟨-, rfl⟩
    · exact absurd (of_decide_eq_true hGuard.1) hResult
    · refine Or.inr ⟨_, hNew, Or.inr ⟨⟨_, _, hMoved.self, rfl, rfl, rfl⟩, Or.inr rfl, hCode⟩⟩
  · exact .of_confirmed hNew (Or.inl rfl)

/-- **One undisturbed step** keeps a known success. -/
theorem successKept_step (hReach : Reachable (publishingSystem cfg) anyStep s)
    (hAll : AllReady cfg s) (hGuard : Undisturbed cfg s e)
    (hStep : (publishingSystem cfg).step s e = some t) {k : Nat} {r : PublishResult}
    {code : Option ErrorCode} (h : SuccessKept s j k r code) : SuccessKept t j k r code := by
  have hKind := step_kind hStep
  obtain ⟨w, call, hWorker, hState⟩ | ⟨old, hOld, ⟨hConfirmed, -⟩ | ⟨hHolds, hStatus, hCode⟩⟩ := h
  · refine Or.inl ⟨w, call, worker_stays hKind hWorker fun call' hRunning => ?_, hState⟩
    rw [hState] at hRunning
    injection hRunning
  · obtain ⟨new, hNew, hChange⟩ := row_change hKind hOld
    have hLawful := lawful_change (lifecycle_reachable hReach).calls (recorded_reachable hReach)
      hOld hChange
    exact .of_confirmed hNew (hLawful.confirmed_kept hConfirmed).1
  obtain ⟨w, call, hWorker, rfl, hState, hHeld⟩ := hHolds
  have hSound := (lifecycle_reachable hReach).calls.running hWorker hState
  have hReady := hAll k w call hWorker hState
  obtain ⟨status, hNeeded⟩ : ∃ status, needed cfg call = some status := by
    rcases held_cases hHeld with ⟨claimed, key, rfl⟩ | ⟨claimed, job, rfl⟩ <;> exact ⟨_, rfl⟩
  -- the execution does not move
  have hKept : t.workers[k]? = some w → (∀ i result, e = .repository i result → k ≠ i) →
      SuccessKept t w.publishJobId k r code := by
    intro hGet hOther
    obtain ⟨row, hRow, hCases⟩ := hReady status hNeeded
    rw [hOld, Option.some.injEq] at hRow
    subst hRow
    have hStatus' : old.status = status := by
      rcases hCases with hConfirmed | ⟨hEq, -⟩
      · rcases hConfirmed with hc | hc <;> rcases hStatus with hs | hs <;> simp [hs] at hc
      · exact hEq
    obtain ⟨new, hNew, hCases'⟩ :=
      row_undisturbed hReach hKind hGuard hWorker hState hOther hNeeded hOld hStatus'
    rcases hCases' with hConfirmed | ⟨hNewStatus, -, hNewCode⟩
    · exact .of_confirmed hNew hConfirmed
    · refine Or.inr ⟨new, hNew, Or.inr ⟨⟨w, call, hGet, rfl, hState, hHeld⟩, ?_, ?_⟩⟩
      · rw [hNewStatus, ← hStatus']
        exact hStatus
      · exact (hNewCode (by rw [hHeld]; rfl)).trans hCode
  -- another execution moves, or this one where it holds no publication
  have hMoves : ∀ {i : Nat} {w' : Worker} {call' : Call} {state : State},
      w'.state = .running call' → held call' = none → WorkerMoved s i w' state t →
      (∀ i' result, e ≠ .repository i' result) → SuccessKept t w.publishJobId k r code := by
    intro i w' call' state hState' hNone hMoved hEvent
    refine hKept ?_ fun i' result hEq => absurd hEq (hEvent i' result)
    rw [hMoved.other, hWorker]
    rintro rfl
    rw [hMoved.1, Option.some.injEq] at hWorker
    subst hWorker
    rw [hState', State.running.injEq] at hState
    subst hState
    rw [hNone] at hHeld
    injection hHeld
  cases hKind with
  | quiet hWorkers hTables =>
    refine Or.inr ⟨old, (hTables.rows _).trans hOld, Or.inr ⟨?_, hStatus, hCode⟩⟩
    exact ⟨w, call, hWorkers.workers ▸ hWorker, rfl, hState, hHeld⟩
  | started _ hWorkers _ _ hTables =>
    refine Or.inr ⟨old, (hTables.rows _).trans hOld, Or.inr ⟨⟨w, call, ?_, rfl, hState, hHeld⟩,
      hStatus, hCode⟩⟩
    rw [hWorkers, List.getElem?_append_left (List.getElem?_eq_some_iff.mp hWorker).1]
    exact hWorker
  | created hWorkers => exact hKept (hWorkers.workers ▸ hWorker) nofun
  | edited hWorkers => exact hKept (hWorkers.workers ▸ hWorker) nofun
  | @wrote i result w' call' row state _ hState' hMoved hNext hCond _ hWritten =>
    by_cases hEq : k = i
    · subst hEq
      obtain ⟨rfl, rfl⟩ : w' = w ∧ call' = call := by
        rw [hMoved.1, Option.some.injEq] at hWorker
        subst hWorker
        rw [hState', State.running.injEq] at hState
        exact ⟨rfl, hState⟩
      exact successKept_wrote hSound hGuard hMoved hNext hWritten hOld hHeld hCode
    · refine hKept (by rw [hMoved.other hEq, hWorker]) fun i' result' hEvent => ?_
      injection hEvent with hEvent
      exact hEvent ▸ hEq
  | @unwritten i result w' call' state _ hState' hMoved hNext hDb =>
    by_cases hEq : k = i
    · subst hEq
      obtain ⟨rfl, rfl⟩ : w' = w ∧ call' = call := by
        rw [hMoved.1, Option.some.injEq] at hWorker
        subst hWorker
        rw [hState', State.running.injEq] at hState
        exact ⟨rfl, hState⟩
      -- the statement matches the row and cannot fail
      obtain ⟨row, hRow, hConfirmed | hCond⟩ := held_finds hSound hReady hHeld
      · rw [hSound.target rfl] at hRow
        exact .of_confirmed (hDb ▸ hRow) hConfirmed
      · rcases hNext with ⟨-, hResult | hFails⟩ | ⟨-, -, hNone⟩
        · exact absurd (of_decide_eq_true hGuard.1) hResult
        · exact absurd hFails (held_not_fails hSound hHeld)
        · rw [hNone row hRow] at hCond
          injection hCond
    · refine hKept (by rw [hMoved.other hEq, hWorker]) fun i' result' hEvent => ?_
      injection hEvent with hEvent
      exact hEvent ▸ hEq
  | reconcileFirst hState' hMoved => exact hMoves hState' rfl hMoved nofun
  | reconcileAfter hState' hMoved => exact hMoves hState' rfl hMoved nofun
  | publishSettled hState' _ hMoved => exact hMoves hState' rfl hMoved nofun
  | publishCalled hState' _ hMoved => exact hMoves hState' rfl hMoved nofun
  | adapterReturned hState' hMoved => exact hMoves hState' rfl hMoved nofun
  | @crashed i w' call' _ hState' hMoved =>
    by_cases hEq : k = i
    · subst hEq
      exact Or.inl ⟨_, call', hMoved.self, rfl⟩
    · exact hKept (by rw [hMoved.other hEq, hWorker]) nofun

end Steps

/-! ## Every run -/

/-- In undisturbed runs every execution finds the row that it needs. -/
theorem ready_reachable {cfg : Config} {s : PublishingState}
    (h : Reachable (publishingSystem cfg) (Undisturbed cfg) s) : AllReady cfg s := by
  refine h.invariant_of (I := AllReady cfg) (fun s hInit k w call hWorker => ?_)
    fun s e t hReach hAll hGuard hStep => ?_
  · rw [hInit.2.2.1] at hWorker
    injection hWorker
  · exact allReady_step hReach.any hAll hGuard (step_kind hStep)

/-- **A known success is never lost** in an undisturbed run: `confirmRemotePublication` finds
the row in remote_requesting, or confirmed already; and whatever happens later, the
execution that held the publication has died, or the row is confirmed with a remote post
id, or the execution holds it still and no failure has been recorded. -/
theorem known_success_kept {cfg : Config} {s : PublishingState}
    (hReach : Reachable (publishingSystem cfg) (Undisturbed cfg) s) {k : Nat} {w : Worker}
    {call : Call} {r : PublishResult} (hWorker : s.workers[k]? = some w)
    (hState : w.state = .running call) (hHeld : held call = some r) :
    (∀ claimed job, call = .confirm claimed job r →
      ∃ row, s.db.job? job.id = some row ∧ (row.status = .remoteRequesting ∨ Confirmed row)) ∧
    ∃ old, s.db.job? w.publishJobId = some old ∧ ∀ t,
      Steps (publishingSystem cfg) (Undisturbed cfg) s t →
      SuccessKept t w.publishJobId k r old.errorCode := by
  have hSound := (lifecycle_reachable hReach).calls.running hWorker hState
  have hReady := ready_reachable hReach k w call hWorker hState
  obtain ⟨old, hOld, hCases⟩ : ∃ old, s.db.job? w.publishJobId = some old ∧
      (Confirmed old ∨ old.status = .claimed ∨ old.status = .remoteRequesting) := by
    rcases held_cases hHeld with ⟨claimed, key, rfl⟩ | ⟨claimed, job, rfl⟩
    · obtain ⟨row, hRow, hCases⟩ := hReady _ rfl
      exact ⟨row, hRow, hCases.imp id fun h => Or.inl h.1⟩
    · obtain ⟨row, hRow, hCases⟩ := hReady _ rfl
      exact ⟨row, hRow, hCases.imp id fun h => Or.inr h.1⟩
  refine ⟨fun claimed job hCall => ?_, old, hOld, fun t hSteps => ?_⟩
  · subst hCall
    obtain ⟨row, hRow, hConfirmed | ⟨hStatus, -⟩⟩ := hReady _ rfl
    · exact ⟨row, hSound.1.symm ▸ hRow, Or.inr hConfirmed⟩
    · exact ⟨row, hSound.1.symm ▸ hRow, Or.inl hStatus⟩
  · induction hSteps with
    | refl =>
      rcases hCases with hConfirmed | hStatus
      · exact .of_confirmed hOld hConfirmed
      · exact Or.inr ⟨old, hOld, Or.inr ⟨⟨w, call, hWorker, rfl, hState, hHeld⟩, hStatus, rfl⟩⟩
    | tail hRun hGuard hStep ih =>
      have hReach' := hReach.steps hRun
      exact successKept_step hReach'.any (ready_reachable hReach') hGuard hStep ih

/-- A remote publication for concrete runs. -/
def Installation.publication : PublishResult := ⟨"r", none, 1000⟩

open Installation in
/-- An attempt that succeeds at once. -/
def slowSuccess (between : List Event) : List Event :=
  approved ++ [deliver, call 0, call 0, .publish 0 1000] ++ between ++
    [.adapterReturns 0 (.ok publication) 31001]

/-- Execution 0 is about to confirm the publication that it holds, and the row of job 1 is
in this status. -/
def confirmsIn (status : PublishJobStatus) (s : PublishingState) : Bool :=
  (s.workers[0]?).any fun w => w.publishJobId = 1 && match w.state with
    | .running (.confirm _ job r) => r = Installation.publication && job.id = 1 &&
        (s.db.job? 1).any fun row => row.status = status
    | _ => false

theorem confirmsIn_iff {status : PublishJobStatus} {s : PublishingState}
    (h : confirmsIn status s = true) : ∃ w claimed job row, s.workers[0]? = some w ∧
      w.publishJobId = 1 ∧ w.state = .running (.confirm claimed job Installation.publication) ∧
      job.id = 1 ∧ s.db.job? 1 = some row ∧ row.status = status := by
  obtain ⟨w, hWorker, h⟩ := (Option.any_eq_true _ _).mp h
  rw [Bool.and_eq_true, decide_eq_true_eq] at h
  obtain ⟨hJob, h⟩ := h
  split at h
  · rename_i claimed job r hState
    simp only [Bool.and_eq_true, decide_eq_true_eq] at h
    obtain ⟨⟨rfl, hId⟩, hRow⟩ := h
    obtain ⟨row, hRow, hStatus⟩ := (Option.any_eq_true _ _).mp hRow
    exact ⟨w, claimed, job, row, hWorker, hJob, hState, hId, hRow, of_decide_eq_true hStatus⟩
  · injection h

theorem known_success_kept_at_once :
    ∃ (s : PublishingState) (w : Worker) (claimed : ClaimedPublishJob) (job : SocialPublishJob),
      s.workers[0]? = some w ∧
      w.state = .running (.confirm claimed job Installation.publication) ∧
      ∃ row, s.db.job? job.id = some row ∧ (row.status = .remoteRequesting ∨ Confirmed row) := by
  obtain ⟨s, hReach, hConfirms⟩ := exists_reachable_of_run
    (publishingSystem (Installation.config false false))
    (Undisturbed (Installation.config false false)) (confirmsIn .remoteRequesting)
    (slowSuccess []) (Installation.start_initial _) (by decide +kernel)
  obtain ⟨w, claimed, job, -, hWorker, -, hState, -⟩ := confirmsIn_iff hConfirms
  exact ⟨s, w, claimed, job, hWorker, hState,
    (known_success_kept hReach hWorker hState rfl).1 claimed job rfl⟩

/-- The run's statements return; anything else may happen. -/
def StatementsReturn (_ : PublishingState) (e : Event) : Prop :=
  statementReturns e = true

instance (s : PublishingState) (e : Event) : Decidable (StatementsReturn s e) :=
  inferInstanceAs (Decidable (_ = _))

/-- A second delivery does take the row of a request that outlasts its lease, and the
publication finds it claimed. -/
theorem confirm_finds_claimed :
    ¬ ∀ (cfg : Config) (s : PublishingState) (k : Nat) (w : Worker) (claimed : ClaimedPublishJob)
      (job : SocialPublishJob) (r : PublishResult),
      Reachable (publishingSystem cfg) StatementsReturn s → s.workers[k]? = some w →
      w.state = .running (.confirm claimed job r) →
      ∃ row, s.db.job? job.id = some row ∧ (row.status = .remoteRequesting ∨ Confirmed row) := by
  intro h
  obtain ⟨s, hReach, hConfirms⟩ := exists_reachable_of_run
    (publishingSystem (Installation.config false false)) StatementsReturn (confirmsIn .claimed)
    (slowSuccess [.tick 30001, Installation.deliver, Installation.call 1])
    (Installation.start_initial _) (by decide +kernel)
  obtain ⟨w, claimed, job, row, hWorker, -, hState, hId, hRow, hStatus⟩ := confirmsIn_iff hConfirms
  obtain ⟨row', hRow', hCases⟩ := h _ s 0 w claimed job _ hReach hWorker hState
  rw [hId, hRow, Option.some.injEq] at hRow'
  subst hRow'
  rcases hCases with hs | hs | hs <;> simp [hStatus] at hs

end SocialPromotion
