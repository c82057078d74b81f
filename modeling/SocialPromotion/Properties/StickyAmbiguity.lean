import SocialPromotion.Properties.Snapshots

/-!
# Unknown outcomes

An attempt whose outcome is unknown leaves the request key on its row, and the key keeps
`retry`, `cancel` and `schedule` from touching the job. In runs whose executions of a job do
not overlap,

* `marked_reachable`: the key stays, as long as no repeated request is rejected for certain
  (and saved as such, which clears the key);
* `ambiguity_sticky`: so the operations keep refusing the job.

`rejected_repeat_clears_marker` is a run in which the rejection of a repeated request clears
the marker of the first one.
-/

namespace SocialPromotion

open LTS PublishWorkerProcessor PublishingService

/-! ## Attempts with an unknown outcome -/

/-- The call has returned an ambiguous failure, or no remote post id. -/
def PublishCall.endedAmbiguously (c : PublishCall) : Bool :=
  match c.answer with
  | some (.error error) => (classifyPublishFailure error).ambiguous
  | some (.ok result) => result.remotePostId = ""
  | none => false

/-- The execution has marked its row as requesting, and has not recorded the outcome. -/
def afterMark : Call → Bool
  | .publish .. | .adapterPublish .. | .reconcileAfter .. => true
  | .confirm .. | .savePublished .. | .saveFailed .. => true
  | _ => false

/-- The execution claimed its row without a key and has gone on to request. -/
def firstAttempt : Call → Bool
  | .markRequest claimed _ | .publish claimed _ | .adapterPublish claimed _ _
  | .saveFailed claimed _ _ _ _ _ => claimed.job.remoteRequestKey.isNone
  | _ => false

/-- An attempt for the job ended ambiguously, or its execution died after its mark. -/
def Unknown (s : PublishingState) (j : JobId) : Prop :=
  (∃ (n : Nat) (c : PublishCall), s.calls[n]? = some c ∧ c.jobId = j ∧
    c.endedAmbiguously = true) ∨
  ∃ (k : Nat) (w : Worker) (call : Call), s.workers[k]? = some w ∧ w.publishJobId = j ∧
    w.state = .crashed call ∧ afterMark call = true

/-- The step saves the definite failure of a request that an execution repeated, which
clears the request key. -/
def clearsRepeated (s : PublishingState) : Event → Bool
  | .repository i result => result.performed && (s.workers[i]?).any fun w =>
      match w.state with
      | .running (.saveFailed claimed job _ _ _ _) => claimed.job.remoteRequestKey.isSome &&
          (s.db.job? job.id).any PgPublishOutboxRepository.inFlight
      | _ => false
  | _ => false

/-- What is known of the job's marker. -/
structure Marked (s : PublishingState) (j : JobId) : Prop where
  unknown : Unknown s j → Keyed s.db j
  requesting : ∀ (k : Nat) (w : Worker) (call : Call), s.workers[k]? = some w →
    w.publishJobId = j → w.state = .running call → afterMark call = true → Keyed s.db j
  first : ∀ (k : Nat) (w : Worker) (call : Call), s.workers[k]? = some w →
    w.publishJobId = j → w.state = .running call → firstAttempt call = true → ¬ Unknown s j

section Flow

variable {cfg : Config} {w : Worker} {call call' : Call} {new : SocialPublishJob}

theorem afterMark_flow (h : Flow cfg call (.running call')) (hMark : afterMark call' = true) :
    afterMark call = true := by
  cases h with
  | ambiguous hCall => rcases hCall with rfl | ⟨n, rfl⟩ <;> rfl
  | fails _ hCall => rcases hCall with rfl | ⟨n, rfl⟩ <;> rfl
  | calls => rfl
  | succeeds => rfl
  | reconciledAfter => rfl
  | _ => injection hMark

theorem firstAttempt_flow (h : Flow cfg call (.running call'))
    (hFirst : firstAttempt call' = true) : firstAttempt call = true ∨
      ∃ claimed key, call = .reconcileFirst claimed key ∧
        claimed.job.remoteRequestKey = none := by
  cases h with
  | ambiguous hCall => injection hFirst
  | fails _ hCall => rcases hCall with rfl | ⟨n, rfl⟩ <;> exact Or.inl hFirst
  | calls => exact Or.inl hFirst
  | repeats => exact Or.inr ⟨_, _, rfl, Option.isNone_iff_eq_none.mp hFirst⟩
  | _ => injection hFirst

/-- An attempt that ended ambiguously is not a first attempt that goes on. -/
theorem not_firstAttempt_answered {claimed : ClaimedPublishJob} {job : SocialPublishJob}
    {date : Time} {answer : Except ThrownError PublishResult} {c : PublishCall}
    (hAmbiguous : ({ c with answer := some answer } : PublishCall).endedAmbiguously = true)
    (hNext : afterPublish claimed job date (publishFinish job answer) = .running call) :
    firstAttempt call = false := by
  have hFailed : ∀ error, (classifyPublishFailure error).ambiguous = true →
      afterPublish claimed job date (failedWith job error) = .running call →
      firstAttempt call = false := by
    intro error hAmbiguous hNext
    simp only [failedWith, afterPublish, if_pos hAmbiguous] at hNext
    injection hNext with hNext
    exact hNext ▸ rfl
  unfold publishFinish at hNext
  split at hNext
  · exact hFailed _ hAmbiguous hNext
  · split at hNext
    · exact hFailed _ rfl hNext
    · injection hNext with hNext
      exact hNext ▸ rfl

end Flow

section Steps

variable {cfg : Config} {s t : PublishingState} {e : Event} {j : JobId}

/-- An outcome becomes unknown when the execution that requested dies, or hears so. -/
theorem unknown_origin (hReach : Reachable (publishingSystem cfg) anyStep s)
    (hKind : StepKind cfg s e t) (h : Unknown t j) : Unknown s j ∨
      ∃ (k : Nat) (w w' : Worker) (call : Call), s.workers[k]? = some w ∧ w.publishJobId = j ∧
        w.state = .running call ∧ afterMark call = true ∧ t.workers[k]? = some w' ∧
        ∀ call', w'.state = .running call' → firstAttempt call' = false := by
  rcases h with ⟨n, c, hCall, hJob, hEnded⟩ | ⟨k, w', call, hGet, hJob, hState, hMark⟩
  · cases call_change hKind hCall with
    | kept hOld => exact Or.inl (Or.inl ⟨n, c, hOld, hJob, hEnded⟩)
    | made => injection hEnded
    | @answered i w claimed job c answer date hOld hState hMoved =>
      obtain ⟨c', hOld', hKnown⟩ := (callKnown_reachable hReach).running hMoved.1 hState
      rw [hOld, Option.some.injEq] at hOld'
      subst hOld'
      refine Or.inr ⟨i, w, _, _, hMoved.1, hKnown.symm.trans hJob, hState, rfl, hMoved.self,
        fun call' hNext => ?_⟩
      exact not_firstAttempt_answered hEnded hNext
  · cases worker_change hKind hGet with
    | kept hWorker => exact Or.inl (Or.inr ⟨k, w', call, hWorker, hJob, hState, hMark⟩)
    | started _ hClaim =>
      rw [hClaim] at hState
      injection hState
    | @flowed w call' state hWorker hRunning hFlow =>
      have hCrashed : state = .crashed call := hState
      subst hCrashed
      cases hFlow
      refine Or.inr ⟨k, w, _, call, hWorker, hJob, hRunning, hMark, hGet, fun call' hNext => ?_⟩
      injection hNext
    | @wrote _ _ _ state _ _ _ _ _ hNext =>
      have hCrashed : state = .crashed call := hState
      subst hCrashed
      cases hNext

/-- **One step** keeps what is known of the marker. -/
theorem marked_step (hReach : Reachable (publishingSystem cfg) NonOverlapping s)
    (h : Marked s j) (hAlone : NonOverlapping s e) (hGuard : clearsRepeated s e = false)
    (hKind : StepKind cfg s e t) : Marked t j := by
  -- a running execution of the job after the step is the one before it, or a new one
  have hOnly : ∀ {k k' : Nat} {w w' : Worker} {call call' : Call}, s.workers[k]? = some w →
      w.publishJobId = j → w.state = .running call → t.workers[k']? = some w' →
      w'.publishJobId = j → w'.state = .running call' → k' = k := by
    intro k k' w w' call call' hWorker hJob hState hGet hJob' hState'
    have hRuns : RunsAt s j k := ⟨w, call, hWorker, hJob, hState⟩
    rcases runsAt_origin hKind ⟨w', call', hGet, hJob', hState'⟩ with hRuns' | ⟨-, hStarted⟩
    · exact runsAt_unique hReach (fun _ _ => id) hRuns' hRuns
    · rw [NonOverlapping, hStarted] at hAlone
      exact absurd hRuns (not_runsAt_of_idle hAlone)
  by_cases hSaves : SavesFailure s j e t
  · obtain ⟨i, result, w, claimed, job, error, failure, retryPending, nextRetryAt, outcome, old,
      rfl, hPerformed, hJob, hState, hMoved, hCalls, hOld, hFlight⟩ := hSaves
    -- the execution claimed its row without a key, so nothing was unknown
    have hFirst : claimed.job.remoteRequestKey.isNone = true := by
      by_contra hKey
      simp [clearsRepeated, hPerformed, hMoved.1, hState, hOld, hFlight, hKey] at hGuard
    have hKnown : ¬ Unknown s j := h.first i w _ hMoved.1 hJob hState hFirst
    have hStopped : ∀ (k : Nat) (w' : Worker) (call' : Call), t.workers[k]? = some w' →
        w'.publishJobId = j → w'.state ≠ .running call' := by
      intro k w' call' hGet hJob' hState'
      obtain rfl := hOnly hMoved.1 hJob hState hGet hJob' hState'
      rw [hMoved.self, Option.some.injEq] at hGet
      subst hGet
      injection hState'
    refine ⟨fun hUnknown => absurd ?_ hKnown, fun k w' call' hGet hJob' hState' => ?_,
      fun k w' call' hGet hJob' hState' => ?_⟩
    · rcases hUnknown with ⟨n, c, hCall, hOf, hEnded⟩ | ⟨k, w', call', hGet, hJob', hState', hMark⟩
      · exact Or.inl ⟨n, c, hCalls ▸ hCall, hOf, hEnded⟩
      · rcases hMoved.cases hGet with ⟨-, rfl⟩ | ⟨-, hWorker⟩
        · injection hState'
        · exact Or.inr ⟨k, w', call', hWorker, hJob', hState', hMark⟩
    · exact absurd hState' (hStopped k w' call' hGet hJob')
    · exact absurd hState' (hStopped k w' call' hGet hJob')
  -- otherwise the key stays
  have hKeep : Keyed s.db j → Keyed t.db j := fun hKeyed =>
    (keyed_step hReach hKind hKeyed).resolve_right hSaves
  refine ⟨fun hUnknown => ?_, fun k w' call' hGet hJob hState hMark => ?_,
    fun k w' call' hGet hJob hState hFirst hUnknown => ?_⟩
  · rcases unknown_origin hReach.any hKind hUnknown with hOld | ⟨k, w, w', call, hWorker, hJob,
      hState, hMark, -⟩
    · exact hKeep (h.unknown hOld)
    · exact hKeep (h.requesting k w call hWorker hJob hState hMark)
  · cases worker_change hKind hGet with
    | kept hWorker => exact hKeep (h.requesting k w' call' hWorker hJob hState hMark)
    | started _ hClaim =>
      rw [hClaim] at hState
      injection hState with hState
      subst hState
      injection hMark
    | @flowed w call state hWorker hRunning hFlow =>
      have hNext : state = .running call' := hState
      subst hNext
      exact hKeep (h.requesting k w call hWorker hJob hRunning (afterMark_flow hFlow hMark))
    | @wrote w call old state hWorker hRunning hCond hChecks hWritten hNext =>
      have hNext' : state = .running call' := hState
      subst hNext'
      have hTarget : call.target w = w.publishJobId :=
        ((lifecycle_reachable hReach).calls.running hWorker hRunning).target rfl
      have hNew := (hWritten.rows w.publishJobId).trans (if_pos hTarget.symm)
      have hJob : w.publishJobId = j := hJob
      subst hJob
      cases hNext with
      | confirms => exact ⟨_, hNew, rfl⟩
      | publishes => exact ⟨_, hNew, rfl⟩
      | saves => exact hKeep (h.requesting k w _ hWorker rfl hRunning rfl)
      | _ => injection hMark
  · -- the outcome was unknown before the step, or this execution made it so
    have hKnown : ¬ Unknown s j := by
      cases worker_change hKind hGet with
      | kept hWorker => exact h.first k w' call' hWorker hJob hState hFirst
      | started _ hClaim =>
        rw [hClaim] at hState
        injection hState with hState
        subst hState
        injection hFirst
      | @flowed w call state hWorker hRunning hFlow =>
        have hNext : state = .running call' := hState
        subst hNext
        rcases firstAttempt_flow hFlow hFirst with hBefore | ⟨claimed, key, rfl, hNone⟩
        · exact h.first k w call hWorker hJob hRunning hBefore
        · have hSound := (lifecycle_reachable hReach).calls.running hWorker hRunning
          rw [hSound.2.1] at hNone
          injection hNone
      | @wrote w call old state hWorker hRunning hCond hChecks hWritten hNext =>
        have hNext' : state = .running call' := hState
        subst hNext'
        generalize hNew : call.set w s.clock old = new at hNext
        cases hNext with
        | requests post hNone =>
          -- the claim has read that no attempt is unknown
          intro hUnknown
          obtain ⟨row, hRow, hKey⟩ := h.unknown hUnknown
          have hFound : s.db.job? w.publishJobId = some old := hWritten.found
          rw [show w.publishJobId = j from hJob, hRow, Option.some.injEq] at hFound
          subst hFound hNew
          have hNone : row.remoteRequestKey = none := hNone
          rw [hNone] at hKey
          injection hKey
        | publishes => exact h.first k w _ hWorker hJob hRunning hFirst
        | _ => injection hFirst
    rcases unknown_origin hReach.any hKind hUnknown with hOld | ⟨k', w, w', call, hWorker, hJob',
      hRunning, hMark, hGet', hNot⟩
    · exact hKnown hOld
    · obtain rfl := hOnly hWorker hJob' hRunning hGet hJob hState
      rw [hGet, Option.some.injEq] at hGet'
      subst hGet'
      rw [hNot call' hState] at hFirst
      injection hFirst

end Steps

/-! ## Every run -/

/-- The step starts no overlapping execution, and saves no definite failure of a repeated
request. -/
def MarkerKept (s : PublishingState) (e : Event) : Prop :=
  NonOverlapping s e ∧ clearsRepeated s e = false

instance (s : PublishingState) (e : Event) : Decidable (MarkerKept s e) :=
  inferInstanceAs (Decidable (_ ∧ _))

theorem marked_reachable {cfg : Config} {s : PublishingState}
    (h : Reachable (publishingSystem cfg) MarkerKept s) (j : JobId) : Marked s j := by
  refine h.invariant_of (I := fun s => ∀ j, Marked s j) (fun s hInit j => ?_)
    (fun s e t hReach hInv hGuard hStep j => ?_) j
  · have hNone : ∀ (k : Nat) (w : Worker), s.workers[k]? ≠ some w := by
      intro k w hWorker
      rw [hInit.2.2.1] at hWorker
      injection hWorker
    refine ⟨fun hUnknown => ?_, fun k w _ hWorker => absurd hWorker (hNone k w),
      fun k w _ hWorker => absurd hWorker (hNone k w)⟩
    rcases hUnknown with ⟨n, c, hCall, -⟩ | ⟨k, w, _, hWorker, -⟩
    · rw [hInit.2.2.2.2.2.2.1] at hCall
      injection hCall
    · exact absurd hWorker (hNone k w)
  · exact marked_step (hReach.mono fun _ _ h => h.1) (hInv j) hGuard.1 hGuard.2 (step_kind hStep)

/-- The operation is refused. -/
def Refused (cfg : Config) (s : PublishingState) (operation : UserOperation) : Prop :=
  ∃ error, operation.perform cfg s.clock s.db = .error error

section Refused

variable {cfg : Config} {s : PublishingState} {j : JobId} {row : SocialPublishJob}

theorem refused_of_not_ok {operation : UserOperation}
    (h : ∀ record db, operation.perform cfg s.clock s.db ≠ .ok (record, db)) :
    Refused cfg s operation := by
  cases hPerform : operation.perform cfg s.clock s.db with
  | error error => exact ⟨error, hPerform⟩
  | ok result => exact absurd hPerform (h _ _)

/-- A job with a request key blocks the schedule of its post. -/
theorem refused_schedule (hRow : s.db.job? j = some row) (hKey : row.remoteRequestKey.isSome)
    (ownerId : UserId) (scheduledAt : Option Time) (revision : Nat) (date : Time) :
    Refused cfg s (.schedule ownerId row.postId scheduledAt revision date) := by
  refine refused_of_not_ok fun record db hPerform => ?_
  obtain ⟨post, next, f, hEdit, -⟩ : ∃ post next f, Edit cfg s.db row.postId post
      (.schedule ownerId row.postId scheduledAt revision date) next f ∧
      Mutated s.db row.postId post next f db := schedule_cases rfl rfl hPerform
  have hMem : row ∈ PgPostRepository.jobsOf s.db row.postId :=
    mem_jobsOf.mpr ⟨(Database.job?_id hRow).symm ▸ hRow, rfl⟩
  cases hEdit with
  | schedule _ _ hOpen =>
    have hNot := hOpen row hMem
    simp [PostService.blocksSchedule, hKey] at hNot

theorem refused_publishNow (hRow : s.db.job? j = some row) (hKey : row.remoteRequestKey.isSome)
    (ownerId : UserId) (revision : Nat) (date date' : Time) :
    Refused cfg s (.publishNow ownerId row.postId revision date date') :=
  refused_schedule hRow hKey ownerId (some (date + 1000)) revision date'

/-- A job with a request key that is not published blocks the cancellation. -/
theorem refused_cancel (hRow : s.db.job? j = some row) (hKey : row.remoteRequestKey.isSome)
    (hStatus : row.status ≠ .published) (ownerId : UserId) (revision : Nat) :
    Refused cfg s (.cancel ownerId row.postId revision) := by
  refine refused_of_not_ok fun record db hPerform => ?_
  obtain ⟨post, next, f, hEdit, -⟩ : ∃ post next f, Edit cfg s.db row.postId post
      (.cancel ownerId row.postId revision) next f ∧
      Mutated s.db row.postId post next f db := cancel_cases hPerform
  have hMem : row ∈ PgPostRepository.jobsOf s.db row.postId :=
    mem_jobsOf.mpr ⟨(Database.job?_id hRow).symm ▸ hRow, rfl⟩
  cases hEdit with
  | schedule _ hApproval => injection hApproval
  | cancel hOpen =>
    have hNot := hOpen row hMem
    simp [PostService.blocksCancel, hKey, hStatus] at hNot

/-- A job with a request key is not retried. -/
theorem refused_retry (hRow : s.db.job? j = some row) (hKey : row.remoteRequestKey.isSome)
    (ownerId : UserId) (revision : Nat) (date : Time) :
    Refused cfg s (.retry ownerId row.postId j revision date) := by
  refine refused_of_not_ok fun record db hPerform => ?_
  obtain ⟨post, next, f, hEdit, -⟩ : ∃ post next f, Edit cfg s.db row.postId post
      (.retry ownerId row.postId j revision date) next f ∧
      Mutated s.db row.postId post next f db := retry_cases hPerform
  have hId := Database.job?_id hRow
  have hMem : row ∈ PgPostRepository.jobsOf s.db row.postId :=
    mem_jobsOf.mpr ⟨hId.symm ▸ hRow, rfl⟩
  cases hEdit with
  | schedule _ hApproval => injection hApproval
  | retry job hJob hOpen =>
    have hSame := eq_of_mem_jobsOf hMem hJob hId
    subst hSame
    simp [PostService.blocksRetry, hKey] at hOpen

end Refused

/-- **Ambiguity is sticky** as long as no repeated request fails for certain: once an outcome
is unknown the request key stays, and the job is not scheduled, retried or, unless it turns
out to be published, cancelled. -/
theorem ambiguity_sticky {cfg : Config} {s : PublishingState}
    (hReach : Reachable (publishingSystem cfg) MarkerKept s) {j : JobId}
    (hUnknown : Unknown s j) : ∃ row, s.db.job? j = some row ∧ row.remoteRequestKey ≠ none ∧
      (∀ ownerId scheduledAt revision date,
        Refused cfg s (.schedule ownerId row.postId scheduledAt revision date)) ∧
      (∀ ownerId revision date date',
        Refused cfg s (.publishNow ownerId row.postId revision date date')) ∧
      (∀ ownerId revision date, Refused cfg s (.retry ownerId row.postId j revision date)) ∧
      (row.status ≠ .published →
        ∀ ownerId revision, Refused cfg s (.cancel ownerId row.postId revision)) := by
  obtain ⟨row, hRow, hKey⟩ := (marked_reachable hReach j).unknown hUnknown
  exact ⟨row, hRow, Option.isSome_iff_ne_none.mp hKey, refused_schedule hRow hKey,
    refused_publishNow hRow hKey, refused_retry hRow hKey,
    fun hStatus => refused_cancel hRow hKey hStatus⟩

open Installation in
/-- The connection is lost in the first attempt, and the outcome deferred. -/
def lostConnection : List Event :=
  approved ++ [deliver, call 0, call 0, .publish 0 1000,
    .adapterReturns 0 (.error connectionLost) 1000, .reconcile 0 noAnswer 1000, call 0]

/-- The first provider call, for job 1, ended ambiguously. -/
def firstEndedAmbiguously (s : PublishingState) : Bool :=
  (s.calls[0]?).any fun c => c.jobId = 1 && c.endedAmbiguously

theorem unknown_of_first {s : PublishingState} (h : firstEndedAmbiguously s = true) :
    Unknown s 1 := by
  obtain ⟨c, hCall, h⟩ := (Option.any_eq_true _ _).mp h
  rw [Bool.and_eq_true, decide_eq_true_eq] at h
  exact Or.inl ⟨0, c, hCall, h.1, h.2⟩

theorem ambiguity_sticky_lostConnection :
    ∃ s row, Unknown s 1 ∧ s.db.job? 1 = some row ∧ row.remoteRequestKey ≠ none := by
  obtain ⟨s, hReach, hFirst⟩ := exists_reachable_of_run
    (publishingSystem (Installation.config false false)) MarkerKept firstEndedAmbiguously
    lostConnection (Installation.start_initial _) (by decide +kernel)
  obtain ⟨row, hRow, hKey, -⟩ := ambiguity_sticky hReach (unknown_of_first hFirst)
  exact ⟨s, row, unknown_of_first hFirst, hRow, hKey⟩

open Installation in
/-- The adapter may repeat the request; the repetition is rate limited and saved as such. -/
def rejectedRepeat : List Event :=
  lostConnection ++ [.tick 30000, deliver, call 1, .reconcile 1 noAnswer 31000, call 1,
    .publish 1 31000, .adapterReturns 1 (.error rateLimited) 31000, call 1]

/-- The rejection of a repeated request does clear the marker of the first attempt. -/
theorem rejected_repeat_clears_marker :
    ¬ ∀ (cfg : Config) (s : PublishingState) (j : JobId),
      Reachable (publishingSystem cfg) NonOverlapping s → Unknown s j →
      ∃ row, s.db.job? j = some row ∧ row.remoteRequestKey ≠ none := by
  intro h
  obtain ⟨s, hReach, hEnd⟩ := exists_reachable_of_run
    (publishingSystem (Installation.config true false)) NonOverlapping
    (fun s => firstEndedAmbiguously s && (s.db.job? 1).all fun row => row.remoteRequestKey = none)
    rejectedRepeat (Installation.start_initial _) (by decide +kernel)
  rw [Bool.and_eq_true] at hEnd
  obtain ⟨row, hRow, hKey⟩ := h _ s 1 hReach (unknown_of_first hEnd.1)
  rw [hRow, Option.all_some, decide_eq_true_eq] at hEnd
  exact hKey hEnd.2

end SocialPromotion
