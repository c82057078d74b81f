import SocialPromotion.Properties.Provenance

/-!
# What is durable of a publication

The claim of a row rewrites its status, so what is durable is read off the request key and
the remote post id. Two phases last whatever happens next:

* `undecided_step`: where the key is durable but no publication is, nothing is published
  again, and the publication is at best looked up;
* `settled_step`: where a publication is durable, it stays as it is, and `recovered_saved`:
  an execution that claims the row saves it.
-/

namespace SocialPromotion

open LTS PublishWorkerProcessor PublishingService PgPublishOutboxRepository

/-! ## What is durable -/

/-- A publication is durable, with a remote post id. -/
def Recoverable (row : SocialPublishJob) : Prop :=
  row.status = .remoteConfirmed ∧ (row.remotePostId.any fun id => id ≠ "") = true

/-- No provider has been asked to publish the job between `s` and `t`. -/
def NoCall (s t : PublishingState) (j : JobId) : Prop :=
  ∀ (n : Nat) (c : PublishCall), t.calls[n]? = some c → c.jobId = j → n < s.calls.length

/-- No provider has been asked about the job between `s` and `t`. -/
def NoLookup (s t : PublishingState) (j : JobId) : Prop :=
  ∀ (n : Nat) (l : LookupCall), t.lookups[n]? = some l → l.jobId = j → n < s.lookups.length

/-- A lookup between `s` and `t` has confirmed the publication `id` of the job. -/
def LookedUp (s t : PublishingState) (j : JobId) (id : Option String) : Prop :=
  ∃ (n : Nat) (l : LookupCall) (r : PublishResult), s.lookups.length ≤ n ∧
    t.lookups[n]? = some l ∧ l.jobId = j ∧ l.reconciliation = .confirmed r ∧
    id = some r.remotePostId

/-- The row is confirmed by a lookup since `s` only, or without a remote post id. -/
def ConfirmedByLookup (s t : PublishingState) (j : JobId) (row : SocialPublishJob) : Prop :=
  Confirmed row → LookedUp s t j row.remotePostId ∨
    row.status = .remoteConfirmed ∧ row.remotePostId = some ""

section Records

variable {cfg : Config} {s t u : PublishingState} {e : Event} {j : JobId}

theorem NoCall.refl (s : PublishingState) (j : JobId) : NoCall s s j :=
  fun _ _ hCall _ => (List.getElem?_eq_some_iff.mp hCall).1

theorem NoLookup.refl (s : PublishingState) (j : JobId) : NoLookup s s j :=
  fun _ _ hLookup _ => (List.getElem?_eq_some_iff.mp hLookup).1

/-- Calls are made by executions that are about to publish. -/
theorem NoCall.step (h : NoCall s t j) (hKind : StepKind cfg t e u)
    (hSound : Pending (Sound cfg) t)
    (hNot : ∀ (k : Nat) (w : Worker) (claimed : ClaimedPublishJob) (job : SocialPublishJob),
      t.workers[k]? = some w → w.publishJobId = j → w.state ≠ .running (.publish claimed job)) :
    NoCall s u j := by
  intro n c hCall hJob
  cases call_change hKind hCall with
  | kept hOld => exact h n c hOld hJob
  | @made i w claimed job _ _ _ hState _ hMoved =>
    have hJob' := (hSound.running hMoved.1 hState).1
    exact absurd hState (hNot i w claimed job hMoved.1 (hJob'.symm.trans hJob))
  | answered hOld => exact h n _ hOld hJob

/-- Lookups are made by executions that reconcile. -/
theorem NoLookup.step (h : NoLookup s t j) (hKind : StepKind cfg t e u)
    (hSound : Pending (Sound cfg) t)
    (hNot : ∀ (k : Nat) (w : Worker) (claimed : ClaimedPublishJob) (job : SocialPublishJob),
      t.workers[k]? = some w → w.publishJobId = j → ¬ Reconciles w claimed job) :
    NoLookup s u j := by
  intro n l hLookup hJob
  rcases lookup_change hKind with hSame | ⟨added, w, claimed, job, hAdded, hWorker, hReconciles, hOf⟩
  · exact h n l (hSame ▸ hLookup) hJob
  · rw [hAdded, List.getElem?_append] at hLookup
    split at hLookup
    · exact h n l hLookup hJob
    · have hMem := List.mem_singleton.mp (List.mem_of_getElem? hLookup)
      have hJob' : job.id = w.publishJobId := by
        rcases hReconciles with ⟨key, hState, rfl⟩ | ⟨failed, hState⟩
        · exact (hSound.running hWorker hState).1
        · exact (hSound.running hWorker hState).1
      refine absurd hReconciles (hNot _ w claimed job hWorker ?_)
      rw [← hJob', ← hOf, ← hMem, hJob]

theorem LookedUp.step {id : Option String} (h : LookedUp s t j id) (hKind : StepKind cfg t e u) :
    LookedUp s u j id := by
  obtain ⟨n, l, r, hSince, hLookup, hRest⟩ := h
  obtain ⟨added, hAdded⟩ := lookups_kept hKind
  refine ⟨n, l, r, hSince, ?_, hRest⟩
  rw [hAdded, List.getElem?_append_left (List.getElem?_eq_some_iff.mp hLookup).1]
  exact hLookup

end Records

/-! ## Where the outcome of a request is unknown -/

/-- What an execution may be about to do with a job whose outcome is unknown. -/
def Careful (cfg : Config) (s t : PublishingState) (j : JobId) : Call → Prop
  | .claimPublishJob | .recordAmbiguous .. => True
  | .reconcileFirst claimed _ => canSafelyRepeatRemoteRequest cfg claimed.job.platform = false
  | .markReconciled _ _ result => LookedUp s t j (some result.remotePostId)
  | .confirm _ job _ | .savePublished _ job _ => LookedUp s t j job.remotePostId
  | .saveRecovered claimed => claimed.job.remotePostId ≠ some ""
  | _ => False

/-- Since `s` nothing has been published under the key of job `j`, and its publication, if
there is one, has been looked up. -/
structure Undecided (cfg : Config) (s : PublishingState) (j : JobId) (key : RequestKey)
    (t : PublishingState) : Prop where
  row : ∃ row, t.db.job? j = some row ∧ row.remoteRequestKey = some key ∧
    canSafelyRepeatRemoteRequest cfg row.platform = false ∧ ConfirmedByLookup s t j row
  running : ∀ (k : Nat) (w : Worker) (call : Call), t.workers[k]? = some w →
    w.publishJobId = j → w.state = .running call → Careful cfg s t j call
  calls : NoCall s t j
  lookups : s.lookups.length ≤ t.lookups.length

section Undecided

variable {cfg : Config} {s t u : PublishingState} {e : Event} {j : JobId} {key : RequestKey}

theorem Careful.step {call : Call} (h : Careful cfg s t j call) (hKind : StepKind cfg t e u) :
    Careful cfg s u j call := by
  cases call with
  | markReconciled => exact LookedUp.step h hKind
  | confirm => exact LookedUp.step h hKind
  | savePublished => exact LookedUp.step h hKind
  | _ => exact h

/-- A lookup in this step is one since `s`. -/
theorem Undecided.lookedUp (h : Undecided cfg s j key t) {l : LookupCall} {r : PublishResult}
    (hLookups : u.lookups = t.lookups ++ [l]) (hJob : l.jobId = j)
    (hConfirmed : l.reconciliation = .confirmed r) : LookedUp s u j (some r.remotePostId) := by
  refine ⟨t.lookups.length, l, r, h.lookups, ?_, hJob, hConfirmed, rfl⟩
  rw [hLookups, List.getElem?_append_right le_rfl, Nat.sub_self]
  rfl

/-- A careful execution keeps the key, and confirms only what has been looked up. -/
theorem undecided_called {w : Worker} {call : Call} {old : SocialPublishJob} {now : Time}
    {db : Database} (hCareful : Careful cfg s t j call) (hOld : t.db.job? j = some old)
    (hRecorded : Recorded t.db j call) (hCond : call.condition w now db old = true)
    (hKey : old.remoteRequestKey = some key) (hConfirmed : ConfirmedByLookup s t j old) :
    (call.set w now old).remoteRequestKey = some key ∧
      ConfirmedByLookup s t j (call.set w now old) := by
  cases call with
  | claimPublishJob =>
    refine ⟨hKey, fun hNew => ?_⟩
    rcases claimRow_status w.leaseMs now old with ⟨hStatus, -⟩ | ⟨hStatus, hOldStatus⟩
    · rcases hNew with hs | hs <;> simp [Call.set, hStatus] at hs
    · rcases hConfirmed (Or.inl hOldStatus) with hLookedUp | ⟨-, hEmpty⟩
      · exact Or.inl hLookedUp
      · exact Or.inr ⟨hStatus, hEmpty⟩
  | markReconciled claimed key' result =>
    refine ⟨?_, fun hNew => by rcases hNew with hs | hs <;> injection hs⟩
    simp [Call.set, requestRow, hKey]
  | confirm => exact ⟨hKey, fun _ => Or.inl hCareful⟩
  | savePublished => exact ⟨hKey, fun _ => Or.inl hCareful⟩
  | saveRecovered claimed =>
    refine ⟨hKey, fun _ => Or.inl ?_⟩
    obtain ⟨row, hRow, hRowConfirmed, hSame⟩ := hRecorded
    rw [hOld, Option.some.injEq] at hRow
    subst hRow
    rcases hConfirmed hRowConfirmed with hLookedUp | ⟨-, hEmpty⟩
    · rw [hSame.1] at hLookedUp
      exact hLookedUp
    · rw [hSame.1] at hEmpty
      exact absurd hEmpty hCareful
  | recordAmbiguous claimed deferred retryPending nextRetryAt =>
    refine ⟨hKey, fun hNew => ?_⟩
    cases retryPending <;> rcases hNew with hs | hs <;> injection hs
  | reconcileFirst => injection hCond
  | _ => exact hCareful.elim

theorem undecided_row (hReach : Reachable (publishingSystem cfg) anyStep t)
    (h : Undecided cfg s j key t) (hKind : StepKind cfg t e u) :
    ∃ row, u.db.job? j = some row ∧ row.remoteRequestKey = some key ∧
      canSafelyRepeatRemoteRequest cfg row.platform = false ∧ ConfirmedByLookup s u j row := by
  obtain ⟨old, hOld, hKey, hAdapter, hConfirmed⟩ := h.row
  obtain ⟨new, hNew, hChange⟩ := row_change hKind hOld
  have hPlatform : canSafelyRepeatRemoteRequest cfg new.platform = false := by
    rw [(sameTarget_change hChange).1]
    exact hAdapter
  -- the row is as `t` has it, up to the lookups that are recorded by now
  suffices hRow : new.remoteRequestKey = some key ∧ ConfirmedByLookup s t j new from
    ⟨new, hNew, hRow.1, hPlatform, fun hc =>
      (hRow.2 hc).imp (fun hLookedUp => hLookedUp.step hKind) id⟩
  cases hChange with
  | same hSame => exact hSame ▸ ⟨hKey, hConfirmed⟩
  | edited _ hEdit hMem hNewRow =>
    have hSame : new = old := hNewRow.trans (edited_keyed hEdit hMem (by rw [hKey]; rfl))
    exact hSame ▸ ⟨hKey, hConfirmed⟩
  | @called i result w call _ hWorker hState hTarget hCond hNewRow =>
    have hJob : w.publishJobId = j := by
      rw [← ((lifecycle_reachable hReach).calls.running hWorker hState).target rfl, hTarget]
      exact Database.job?_id hOld
    have hRecorded := (recorded_reachable hReach).running hWorker hState
    rw [hJob] at hRecorded
    subst hNewRow
    exact undecided_called (h.running i w call hWorker hJob hState) hOld hRecorded hCond hKey
      hConfirmed

/-- Every execution of an undecided job stays careful: a claim reads the request key, and what follows
it is a lookup and never another request. -/
theorem undecided_running (hReach : Reachable (publishingSystem cfg) anyStep t)
    (h : Undecided cfg s j key t) (hKind : StepKind cfg t e u) {k : Nat} {w' : Worker}
    {call' : Call} (hGet : u.workers[k]? = some w') (hJob : w'.publishJobId = j)
    (hState' : w'.state = .running call') : Careful cfg s u j call' := by
  obtain ⟨row, hRow, hKey, hAdapter, -⟩ := h.row
  have hSound := (lifecycle_reachable hReach).calls
  cases worker_change hKind hGet with
  | kept hWorker => exact (h.running k w' call' hWorker hJob hState').step hKind
  | started _ hState =>
    rw [hState, State.running.injEq] at hState'
    exact hState' ▸ trivial
  | @flowed w call state hWorker hState hFlow hDb =>
    have hCareful := h.running k w call hWorker hJob hState
    have hNext : state = .running call' := hState'
    subst hNext
    cases hFlow with
    | @reconciled claimed key' result =>
      -- the lookup that confirms is made in this step
      obtain ⟨w₁, hWorker₁, -, ⟨call₁, hCall₁, hHeld⟩ | hHeard⟩ :=
        held_origin (unanswered_reachable hReach) hKind hGet (by rw [hState']; rfl) rfl
      · rw [hWorker, Option.some.injEq] at hWorker₁
        rw [← hWorker₁, hState] at hCall₁
        injection hCall₁ with hCall₁
        subst hCall₁
        injection hHeld
      · rw [hWorker, Option.some.injEq] at hWorker₁
        subst hWorker₁
        cases hHeard with
        | answered hWaits =>
          rw [hState, State.running.injEq] at hWaits
          injection hWaits
        | confirmed hReconciles hLookups _ hOf hConfirmed =>
          refine h.lookedUp hLookups (hOf.trans ?_) hConfirmed
          rcases hReconciles with ⟨key, hAt, rfl⟩ | ⟨failed, hAt⟩
          · exact (hSound.running hWorker hAt).1.trans hJob
          · exact (hSound.running hWorker hAt).1.trans hJob
    | repeats hRepeat =>
      rw [show canSafelyRepeatRemoteRequest cfg _ = false from hCareful] at hRepeat
      injection hRepeat
    | defersFirst => trivial
    | ambiguous hCall => rcases hCall with rfl | ⟨n, rfl⟩ <;> exact hCareful.elim
    | fails _ hCall => rcases hCall with rfl | ⟨n, rfl⟩ <;> exact hCareful.elim
    | _ => exact hCareful.elim
  | @wrote w call old state hWorker hState hCond _ hWritten hNext =>
    have hCareful := h.running k w call hWorker hJob hState
    have hRunning : state = .running call' := hState'
    subst hRunning
    have hSame : old = row := by
      have hFound := hWritten.found
      rw [(hSound.running hWorker hState).target rfl] at hFound
      rw [show w.publishJobId = j from hJob, hRow, Option.some.injEq] at hFound
      exact hFound.symm
    subst hSame
    generalize hNew : call.set w t.clock old = new at hNext
    cases hNext with
    | recovers post _ hRemote =>
      intro hEmpty
      rw [show new.remotePostId = some "" from hEmpty] at hRemote
      injection hRemote
    | reconciles post =>
      show canSafelyRepeatRemoteRequest cfg new.platform = false
      rw [← hNew]
      exact hAdapter
    | requests post hNone =>
      rw [← hNew] at hNone
      rw [show (Call.claimPublishJob.set w t.clock old).remoteRequestKey = old.remoteRequestKey
        from rfl, hKey] at hNone
      injection hNone
    | confirms => exact LookedUp.step hCareful hKind
    | publishes => exact hCareful.elim
    | saves =>
      rw [← hNew]
      exact LookedUp.step hCareful hKind

/-- **One step** of anything at all leaves an unknown outcome undecided or looks it up. -/
theorem undecided_step (hReach : Reachable (publishingSystem cfg) anyStep t)
    (h : Undecided cfg s j key t) (hKind : StepKind cfg t e u) : Undecided cfg s j key u := by
  refine ⟨undecided_row hReach h hKind, fun k w call => undecided_running hReach h hKind,
    h.calls.step hKind (lifecycle_reachable hReach).calls ?_, h.lookups.trans ?_⟩
  · intro k w claimed job hWorker hJob hState
    exact h.running k w _ hWorker hJob hState
  · obtain ⟨added, hAdded⟩ := lookups_kept hKind
    rw [hAdded, List.length_append]
    exact Nat.le_add_right _ _

end Undecided

/-! ## Where a publication is durable -/

/-- Since `s` the publication of job `j` is the durable one of `old`, and no provider has
been asked anything about the job. -/
structure Settled (s : PublishingState) (j : JobId) (old : SocialPublishJob)
    (t : PublishingState) : Prop where
  row : ∃ row, t.db.job? j = some row ∧ Confirmed row ∧ SamePublication row old
  running : ∀ (k : Nat) (w : Worker) (call : Call), t.workers[k]? = some w →
    w.publishJobId = j → w.state = .running call →
    call = .claimPublishJob ∨ ∃ claimed, call = .saveRecovered claimed
  calls : NoCall s t j
  lookups : NoLookup s t j

/-- No two jobs on one platform have been told the same remote post id. -/
def DistinctRemoteIds (s : PublishingState) : Prop :=
  ∀ j k row row' id, s.db.job? j = some row → s.db.job? k = some row' →
    row.platform = row'.platform → Reported s j id → Reported s k id → j = k

section Settled

variable {cfg : Config} {s t u : PublishingState} {e : Event} {j : JobId}
  {old : SocialPublishJob}

/-- A claim of a row with a durable publication leads to the save, and the save nowhere. -/
theorem settled_running (hOld : (old.remotePostId.any fun id => id ≠ "") = true)
    (h : Settled s j old t) (hKind : StepKind cfg t e u) {k : Nat} {w' : Worker} {call' : Call}
    (hGet : u.workers[k]? = some w') (hJob : w'.publishJobId = j)
    (hState' : w'.state = .running call') :
    call' = .claimPublishJob ∨ ∃ claimed, call' = .saveRecovered claimed := by
  cases worker_change hKind hGet with
  | kept hWorker => exact h.running k w' call' hWorker hJob hState'
  | started _ hState =>
    rw [hState, State.running.injEq] at hState'
    exact Or.inl hState'.symm
  | @flowed w call state hWorker hState hFlow =>
    have hRunning : state = .running call' := hState'
    subst hRunning
    -- nothing but a statement leads on from either call
    rcases h.running k w call hWorker hJob hState with rfl | ⟨claimed, rfl⟩
    · cases hFlow with
      | ambiguous hCall => rcases hCall with hCall | ⟨n, hCall⟩ <;> injection hCall
      | fails _ hCall => rcases hCall with hCall | ⟨n, hCall⟩ <;> injection hCall
    · cases hFlow with
      | ambiguous hCall => rcases hCall with hCall | ⟨n, hCall⟩ <;> injection hCall
      | fails _ hCall => rcases hCall with hCall | ⟨n, hCall⟩ <;> injection hCall
  | @wrote w call before state hWorker hState hCond hChecks hWritten hNext =>
    have hRunning : state = .running call' := hState'
    subst hRunning
    rcases h.running k w call hWorker hJob hState with rfl | ⟨claimed, rfl⟩
    · obtain ⟨row, hRow, hConfirmed, hSame⟩ := h.row
      have hBefore : before = row := by
        have hFound := hWritten.found
        rw [show Call.claimPublishJob.target w = j from hJob, hRow, Option.some.injEq] at hFound
        exact hFound.symm
      subst hBefore
      -- a published row cannot be claimed
      have hStatus : before.status = .remoteConfirmed := by
        rcases hConfirmed with hs | hs
        · exact hs
        · rw [Call.condition, not_claimable_of_ended (Or.inl hs)] at hCond
          injection hCond
      have hNew : (Call.claimPublishJob.set w t.clock before).status = .remoteConfirmed :=
        if_pos hStatus
      have hReference := hChecks.remoteReference (Or.inl hNew)
      generalize hEq : Call.claimPublishJob.set w t.clock before = new at hNext hNew hReference
      cases hNext with
      | recovers => exact Or.inr ⟨_, rfl⟩
      | reconciles post _ hOther =>
        refine absurd ⟨hNew, ?_, hReference.1⟩ hOther
        rw [← hEq]
        show (before.remotePostId.any fun id => id ≠ "") = true
        rw [hSame.1]
        exact hOld
      | requests post hNone =>
        have hKey := hEq ▸ hChecks.remoteRequestKey (Or.inr (Or.inl (hEq ▸ hNew)))
        rw [hNone] at hKey
        injection hKey
    · cases hNext

/-- **One step** of anything at all keeps a durable publication as it is. -/
theorem settled_step (hReach : Reachable (publishingSystem cfg) anyStep t)
    (hOld : (old.remotePostId.any fun id => id ≠ "") = true) (h : Settled s j old t)
    (hKind : StepKind cfg t e u) : Settled s j old u := by
  have hSound := (lifecycle_reachable hReach).calls
  refine ⟨?_, fun k w call => settled_running hOld h hKind, h.calls.step hKind hSound ?_,
    h.lookups.step hKind hSound ?_⟩
  · obtain ⟨row, hRow, hConfirmed, hSame⟩ := h.row
    obtain ⟨new, hNew, hChange⟩ := row_change hKind hRow
    obtain ⟨hConfirmed', hSame'⟩ :=
      (lawful_change hSound (recorded_reachable hReach) hRow hChange).confirmed_kept hConfirmed
    exact ⟨new, hNew, hConfirmed', hSame'.1.trans hSame.1, hSame'.2.trans hSame.2⟩
  · intro k w claimed job hWorker hJob hState
    rcases h.running k w _ hWorker hJob hState with hCall | ⟨claimed', hCall⟩ <;> injection hCall
  · rintro k w claimed job hWorker hJob (⟨key, hState, -⟩ | ⟨failed, hState⟩)
    · rcases h.running k w _ hWorker hJob hState with hCall | ⟨claimed', hCall⟩ <;> injection hCall
    · rcases h.running k w _ hWorker hJob hState with hCall | ⟨claimed', hCall⟩ <;> injection hCall

/-- The entry of a publication is not taken by another job. -/
theorem not_blocked (hReach : Reachable (publishingSystem cfg) anyStep t)
    (hDistinct : DistinctRemoteIds t) {row new : SocialPublishJob} {id : String}
    {claimed : ClaimedPublishJob} (hRow : t.db.job? j = some row) (hId : new.id = j)
    (hPlatform : new.platform = row.platform) (hSame : new.remotePostId = row.remotePostId)
    (hRemote : row.remotePostId = some id) : ¬ (Call.saveRecovered claimed).Blocked t.db new := by
  rintro ⟨k, other, hOther, hNe, hOtherPlatform, hOtherId⟩
  have hProvenance := provenance_reachable hReach
  obtain ⟨row', hRow', hRowPlatform, hReported⟩ := hProvenance.socialPosts k other hOther
  rw [hSame, hRemote, Option.some.injEq] at hOtherId
  refine hNe (hId ▸ hDistinct k j row' row id hRow' hRow ?_ (hOtherId ▸ hReported)
    (hProvenance.rows j row id hRow hRemote))
  rw [← hRowPlatform, hOtherPlatform, hPlatform]

/-- **The save of a recovered publication** ends the execution with the job published as it
was recorded. -/
theorem recovered_saved (hReach : Reachable (publishingSystem cfg) anyStep t)
    (h : Settled s j old t) (hDistinct : DistinctRemoteIds t) {k : Nat} {w : Worker}
    {claimed : ClaimedPublishJob} (hWorker : t.workers[k]? = some w) (hJob : w.publishJobId = j)
    (hState : w.state = .running (.saveRecovered claimed)) :
    ∃ u context row, (publishingSystem cfg).step t (.repository k .returned) = some u ∧
      u.workers[k]? = some { w with state := .ended (.resolved (some context)) } ∧
      u.db.job? j = some row ∧ row.status = .published ∧ SamePublication row old := by
  obtain ⟨row, hRow, hConfirmed, hSame⟩ := h.row
  have hSound := (lifecycle_reachable hReach).calls.running hWorker hState
  have hTarget : (Call.saveRecovered claimed).target w = j := (hSound.target rfl).trans hJob
  -- the execution holds the publication of the row
  have hHolds : SamePublication row claimed.job := by
    obtain ⟨row', hRow', -, hHolds⟩ := (recorded_reachable hReach).running hWorker hState
    rw [hJob, hRow, Option.some.injEq] at hRow'
    exact hRow' ▸ hHolds
  obtain ⟨after, hAfter⟩ : ∃ after, repositoryCall w t.clock t.db (.saveRecovered claimed) =
      some after := ⟨_, rfl⟩
  have hStep := @repository_step cfg _ _ _ _ _ hWorker hState hAfter
  have hSelf : ∀ (db : Database) (state : State),
      ({ t.setWorker k w state with db := db } : PublishingState).workers[k]? =
        some { w with state := state } := by
    intro db state
    exact List.getElem?_set_self (List.getElem?_eq_some_iff.mp hWorker).1
  cases repositoryCall_cases hAfter with
  | @wrote before db' hCond _ hWritten =>
    refine ⟨_, _, _, hStep, hSelf db' _, (hWritten.rows j).trans (if_pos hTarget.symm), rfl, ?_⟩
    exact ⟨hHolds.1.symm.trans hSame.1, hHolds.2.symm.trans hSame.2⟩
  | none hNone =>
    refine ⟨_, _, row, hStep, hSelf t.db _, hRow, ?_, hSame⟩
    -- the row is not in remote_confirmed any more
    rcases hConfirmed with hs | hs
    · have hNot := hNone row (hTarget ▸ hRow)
      simp [Call.condition, hs] at hNot
    · exact hs
  | @failed before hBefore hCond hFail =>
    exfalso
    rcases hFail with hChecks | hBlocked
    · rw [call_checks_iff hSound (Database.job?_checks hBefore) hCond, not_not] at hChecks
      obtain ⟨⟨claimed', deferred, nextRetryAt, hCall⟩, -⟩ := hChecks
      injection hCall
    · have hBeforeRow : before = row := by
        rw [hTarget, hRow, Option.some.injEq] at hBefore
        exact hBefore.symm
      subst hBeforeRow
      obtain ⟨-, hRemote⟩ := (Database.job?_checks hRow).remoteReference hConfirmed
      obtain ⟨id, hId⟩ := Option.isSome_iff_exists.mp hRemote
      refine not_blocked hReach hDistinct hRow ?_ ?_ ?_ hId hBlocked
      · exact (Call.set_id w t.clock _ before).trans (Database.job?_id hRow)
      · rfl
      · exact hHolds.1.symm

end Settled

end SocialPromotion
