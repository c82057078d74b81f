import SocialPromotion.Properties.KnownSuccess

/-!
# Where remote post ids come from

A remote post id is never made up: it was in the answer to a provider call for the job, or a
lookup for the job has confirmed it.

* `held_origin`: how an execution comes to hold a publication;
* `provenance_reachable`: every remote post id that a row, an entry of `social_posts` or an
  execution carries has been reported for its job.
-/

namespace SocialPromotion

open LTS PublishWorkerProcessor PublishingService

/-! ## Provider calls and their answers -/

/-- The provider call that an execution waits for is its own, and has no answer yet. -/
def Unanswered (s : PublishingState) : Prop :=
  ∀ (k : Nat) (w : Worker) (claimed : ClaimedPublishJob) (job : SocialPublishJob) (n : Nat),
    s.workers[k]? = some w → w.state.call? = some (.adapterPublish claimed job n) →
    ∃ c, s.calls[n]? = some c ∧ c.worker = k ∧ c.jobId = job.id ∧ c.answer = none

section Answers

variable {cfg : Config} {s t : PublishingState} {e : Event}

/-- An execution that has handled an answer waits for no call. -/
theorem WorkerMoved.not_waiting {i : Nat} {w w' : Worker} {date : Time}
    {claimed claimed' : ClaimedPublishJob} {job job' : SocialPublishJob} {n : Nat}
    {execution : PublishExecution}
    (hMoved : WorkerMoved s i w (afterPublish claimed job date execution) t)
    (hGet : t.workers[i]? = some w') :
    w'.state.call? ≠ some (.adapterPublish claimed' job' n) := by
  rw [hMoved.self, Option.some.injEq] at hGet
  subst hGet
  exact afterPublish_call? execution

/-- A call stays as it is, unless the step brings its answer. -/
theorem call_kept (hKind : StepKind cfg s e t) {n : Nat} {c : PublishCall}
    (hCall : s.calls[n]? = some c)
    (hNot : ∀ (i : Nat) (w : Worker) (claimed : ClaimedPublishJob) (job : SocialPublishJob)
      (execution : PublishExecution) (date : Time),
      w.state = .running (.adapterPublish claimed job n) →
      ¬ WorkerMoved s i w (afterPublish claimed job date execution) t) :
    t.calls[n]? = some c := by
  obtain ⟨c', hNew, -⟩ := calls_kept hKind hCall
  cases call_change hKind hNew with
  | kept hOld =>
    rw [hCall, Option.some.injEq] at hOld
    rw [hNew, hOld]
  | made hIndex =>
    have hLt := (List.getElem?_eq_some_iff.mp hCall).1
    omega
  | answered _ hState hMoved => exact absurd hMoved (hNot _ _ _ _ _ _ hState)

theorem unanswered_step (hUnanswered : Unanswered s) (hKind : StepKind cfg s e t) :
    Unanswered t := by
  intro k w' claimed job n hGet hCall
  obtain ⟨w, hWorker, -, hWaits | ⟨-, rfl, post, request, -, hCalls⟩⟩ :=
    adapterPublish_origin hKind hGet hCall
  · obtain ⟨c, hOld, hOwn, hRest⟩ := hUnanswered k w claimed job n hWorker hWaits
    refine ⟨c, call_kept hKind hOld fun i w₁ claimed₁ job₁ execution date hState hMoved => ?_,
      hOwn, hRest⟩
    -- the execution that hears the answer is the one the call belongs to, and stops waiting
    obtain ⟨c₁, hOld₁, hOwn₁, -⟩ := hUnanswered i w₁ claimed₁ job₁ n hMoved.1 (by rw [hState]; rfl)
    rw [hOld, Option.some.injEq] at hOld₁
    have hSame : k = i := by rw [← hOwn, hOld₁, hOwn₁]
    exact hMoved.not_waiting (hSame ▸ hGet) hCall
  · refine ⟨⟨k, job.id, post, request, none⟩, ?_, rfl, rfl, rfl⟩
    rw [hCalls, List.getElem?_append_right le_rfl, Nat.sub_self]
    rfl

/-- In every run, the calls that executions wait for have no answers. -/
theorem unanswered_reachable {ok : PublishingState → Event → Prop}
    (h : Reachable (publishingSystem cfg) ok s) : Unanswered s := by
  refine h.invariant (I := Unanswered) (fun s hInit k w claimed job n hGet => ?_)
    fun s e t hUnanswered _ hStep => unanswered_step hUnanswered (step_kind hStep)
  rw [hInit.2.2.1] at hGet
  injection hGet

/-- An answer is final. -/
theorem answer_kept (hUnanswered : Unanswered s) (hKind : StepKind cfg s e t) {n : Nat}
    {c : PublishCall} {answer : Except ThrownError PublishResult} (hCall : s.calls[n]? = some c)
    (hAnswer : c.answer = some answer) : t.calls[n]? = some c := by
  refine call_kept hKind hCall fun i w claimed job execution date hState hMoved => ?_
  obtain ⟨c', hOwn, -, -, hNone⟩ := hUnanswered i w claimed job n hMoved.1 (by rw [hState]; rfl)
  rw [hCall, Option.some.injEq] at hOwn
  rw [hOwn, hNone] at hAnswer
  injection hAnswer

end Answers

/-! ## Lookups -/

section Lookups

variable {cfg : Config} {s t : PublishingState} {e : Event}

/-- Execution `k` is about to look up what became of `job`. -/
def Reconciles (w : Worker) (claimed : ClaimedPublishJob) (job : SocialPublishJob) : Prop :=
  (∃ key, w.state = .running (.reconcileFirst claimed key) ∧ job = claimed.job) ∨
    ∃ failed, w.state = .running (.reconcileAfter claimed job failed)

/-- A lookup is recorded with the execution that made it and the answer it got. -/
theorem lookupCall_cases (cfg : Config) (i : Nat) (claimed : ClaimedPublishJob)
    (job : SocialPublishJob) (answer : LookupAnswer) (date : Time) :
    (PublishingState.lookupCall cfg i claimed job answer date = [] ∧
        ∀ result, reconcile cfg claimed.post job answer date ≠ .ok (.confirmed result)) ∨
      ∃ l, PublishingState.lookupCall cfg i claimed job answer date = [l] ∧ l.worker = i ∧
        l.jobId = job.id ∧ reconcile cfg claimed.post job answer date = .ok l.reconciliation := by
  unfold PublishingState.lookupCall
  cases hLookup : lookupFor cfg claimed.post job with
  | error e =>
    refine Or.inl ⟨rfl, fun result hConfirmed => ?_⟩
    have hCan := canConfirm_of_confirmed hConfirmed
    simp [canConfirm, hLookup] at hCan
  | ok lookup =>
    cases lookup with
    | none =>
      refine Or.inl ⟨rfl, fun result hConfirmed => ?_⟩
      have hCan := canConfirm_of_confirmed hConfirmed
      simp [canConfirm, hLookup] at hCan
    | some lookup =>
      cases hReconcile : reconcile cfg claimed.post job answer date with
      | error e => exact Or.inl ⟨rfl, fun result hConfirmed => by injection hConfirmed⟩
      | ok reconciliation => exact Or.inr ⟨_, rfl, rfl, rfl, rfl⟩

/-- What a step adds to the lookups. -/
theorem lookup_change (hKind : StepKind cfg s e t) : t.lookups = s.lookups ∨
    ∃ (l : LookupCall) (w : Worker) (claimed : ClaimedPublishJob) (job : SocialPublishJob),
      t.lookups = s.lookups ++ [l] ∧ s.workers[l.worker]? = some w ∧ Reconciles w claimed job ∧
      l.jobId = job.id := by
  have hAdded : ∀ {i : Nat} {w : Worker} {claimed : ClaimedPublishJob} {job : SocialPublishJob}
      (answer : LookupAnswer) (date : Time), s.workers[i]? = some w → Reconciles w claimed job →
      t.lookups = s.lookups ++ PublishingState.lookupCall cfg i claimed job answer date →
      t.lookups = s.lookups ∨
        ∃ (l : LookupCall) (w : Worker) (claimed : ClaimedPublishJob) (job : SocialPublishJob),
          t.lookups = s.lookups ++ [l] ∧ s.workers[l.worker]? = some w ∧
          Reconciles w claimed job ∧ l.jobId = job.id := by
    intro i w claimed job answer date hWorker hReconciles hLookups
    rcases lookupCall_cases cfg i claimed job answer date with ⟨hNone, -⟩ | ⟨l, hOne, hIndex, hJob, -⟩
    · rw [hNone, List.append_nil] at hLookups
      exact Or.inl hLookups
    · rw [hOne] at hLookups
      exact Or.inr ⟨l, w, claimed, job, hLookups, hIndex ▸ hWorker, hReconciles, hJob⟩
  cases hKind with
  | quiet hWorkers => exact Or.inl hWorkers.lookups
  | started _ _ _ hLookups => exact Or.inl hLookups
  | created hWorkers => exact Or.inl hWorkers.lookups
  | edited hWorkers => exact Or.inl hWorkers.lookups
  | wrote _ _ _ _ _ _ _ hLookups => exact Or.inl hLookups
  | unwritten _ _ _ _ _ hLookups => exact Or.inl hLookups
  | reconcileFirst hState hMoved _ _ hLookups =>
    exact hAdded _ _ hMoved.1 (Or.inl ⟨_, hState, rfl⟩) hLookups
  | reconcileAfter hState hMoved _ _ hLookups =>
    exact hAdded _ _ hMoved.1 (Or.inr ⟨_, hState⟩) hLookups
  | publishSettled _ _ _ _ _ hLookups => exact Or.inl hLookups
  | publishCalled _ _ _ _ _ hLookups => exact Or.inl hLookups
  | adapterReturned _ _ _ _ hLookups => exact Or.inl hLookups
  | crashed _ _ _ _ hLookups => exact Or.inl hLookups

/-- Lookups are recorded once and for all. -/
theorem lookups_kept (hKind : StepKind cfg s e t) : ∃ added, t.lookups = s.lookups ++ added := by
  rcases lookup_change hKind with hSame | ⟨l, w, claimed, job, hAdded, -⟩
  · exact ⟨[], by rw [hSame, List.append_nil]⟩
  · exact ⟨[l], hAdded⟩

end Lookups

/-! ## How an execution comes to hold a publication -/

/-- The step brings execution `k` the publication `r`: as the answer to its provider call, or
by a lookup. -/
inductive Heard (s t : PublishingState) (k : Nat) (w : Worker) (r : PublishResult) : Prop
  | answered {claimed : ClaimedPublishJob} {job : SocialPublishJob} {n : Nat} {c : PublishCall}
      (hState : w.state = .running (.adapterPublish claimed job n))
      (hCall : t.calls[n]? = some c) (hJob : c.jobId = job.id)
      (hAnswer : c.answer = some (.ok r)) : Heard s t k w r
  | confirmed {claimed : ClaimedPublishJob} {job : SocialPublishJob} {l : LookupCall}
      (hReconciles : Reconciles w claimed job) (hLookups : t.lookups = s.lookups ++ [l])
      (hWorker : l.worker = k) (hJob : l.jobId = job.id)
      (hConfirmed : l.reconciliation = .confirmed r) : Heard s t k w r

/-- Execution `k` held the publication before the step, or has heard of it in the step. -/
def HeldOrHeard (s t : PublishingState) (k : Nat) (job : JobId) (r : PublishResult) : Prop :=
  ∃ w, s.workers[k]? = some w ∧ w.publishJobId = job ∧
    ((∃ call, w.state.call? = some call ∧ held call = some r) ∨ Heard s t k w r)

section Held

variable {cfg : Config} {s t : PublishingState} {e : Event} {k : Nat} {w' : Worker}
  {call' : Call} {r : PublishResult}

theorem held_afterPublish {claimed : ClaimedPublishJob} {job : SocialPublishJob} {date : Time}
    {execution : PublishExecution}
    (hCall : (afterPublish claimed job date execution).call? = some call')
    (hHeld : held call' = some r) : ∃ confirmed, execution = .ok confirmed r := by
  unfold afterPublish at hCall
  split at hCall
  · injection hCall with hCall
    subst hCall
    injection hHeld with hHeld
    exact ⟨_, by rw [hHeld]⟩
  · split at hCall
    · injection hCall with hCall
      subst hCall
      injection hHeld
    · dsimp only at hCall
      split at hCall
      · injection hCall with hCall
        subst hCall
        injection hHeld
      · injection hCall

theorem publishFinish_eq_ok {job confirmed : SocialPublishJob}
    {answer : Except ThrownError PublishResult} (h : publishFinish job answer = .ok confirmed r) :
    answer = .ok r := by
  unfold publishFinish at h
  split at h
  · injection h
  · split at h
    · injection h
    · injection h with _ hResult
      rw [hResult]

theorem publishStart_not_ok {post : Post} {job confirmed : SocialPublishJob}
    (h : publishStart cfg post job = .settled (.ok confirmed r)) : False := by
  unfold publishStart at h
  dsimp only at h
  split at h
  · injection h with h
    injection h
  · split at h
    · injection h with h
      injection h
    · split at h
      · injection h with h
        injection h
      · split at h
        · injection h with h
          injection h
        · injection h

/-- A state that is reached by a call is running. -/
theorem held_deferred {claimed : ClaimedPublishJob} {job : SocialPublishJob} {date : Time}
    (hCall : (deferAmbiguousRemoteOutcome claimed job date).call? = some call') :
    held call' = none := by
  rcases defer_cases claimed job date with hEnded | ⟨nextRetryAt, hDefers⟩
  · rw [hEnded] at hCall
    injection hCall
  · rw [hDefers] at hCall
    injection hCall with hCall
    exact hCall ▸ rfl

theorem held_afterReconcileFirst {claimed : ClaimedPublishJob} {key : RequestKey} {date : Time}
    {answer : Except ThrownError PublishReconciliation}
    (hCall : (afterReconcileFirst cfg claimed key date answer).call? = some call')
    (hHeld : held call' = some r) : answer = .ok (.confirmed r) := by
  unfold afterReconcileFirst at hCall
  split at hCall
  · injection hCall
  · injection hCall with hCall
    subst hCall
    injection hHeld with hHeld
    rw [hHeld]
  · split at hCall
    · injection hCall with hCall
      subst hCall
      injection hHeld
    · rw [held_deferred hCall] at hHeld
      injection hHeld

theorem held_afterReconcileAfter {claimed : ClaimedPublishJob} {job failed : SocialPublishJob}
    {date : Time} {answer : Except ThrownError PublishReconciliation}
    (hCall : (afterReconcileAfter claimed job failed date answer).call? = some call')
    (hHeld : held call' = some r) : answer = .ok (.confirmed r) := by
  unfold afterReconcileAfter at hCall
  split at hCall
  · injection hCall
  · injection hCall with hCall
    subst hCall
    injection hHeld with hHeld
    rw [hHeld]
  · rw [held_deferred hCall] at hHeld
    injection hHeld

/-- A statement hands a publication on, and makes none. -/
theorem held_continues {w : Worker} {call : Call} {new : SocialPublishJob} {state : State}
    (h : Continues w call new state) (hCall : state.call? = some call')
    (hHeld : held call' = some r) : held call = some r := by
  cases h with
  | ends => injection hCall
  | confirms =>
    injection hCall with hCall
    subst hCall
    exact hHeld
  | _ =>
    injection hCall with hCall
    subst hCall
    injection hHeld

theorem heard_of_reconcile {i : Nat} {w : Worker} {claimed : ClaimedPublishJob}
    {job : SocialPublishJob} {answer : LookupAnswer} {date : Time}
    (hReconciles : Reconciles w claimed job)
    (hLookups : t.lookups = s.lookups ++ PublishingState.lookupCall cfg i claimed job answer date)
    (hConfirmed : reconcile cfg claimed.post job answer date = .ok (.confirmed r)) :
    Heard s t i w r := by
  rcases lookupCall_cases cfg i claimed job answer date with
    ⟨-, hNone⟩ | ⟨l, hOne, hIndex, hJob, hAnswer⟩
  · exact absurd hConfirmed (hNone r)
  · rw [hOne] at hLookups
    rw [hConfirmed] at hAnswer
    injection hAnswer with hAnswer
    exact .confirmed hReconciles hLookups hIndex hJob hAnswer.symm

/-- **An execution that holds a publication** held it before the step, or has heard of it in
this step. -/
theorem held_origin (hUnanswered : Unanswered s) (hKind : StepKind cfg s e t)
    (hGet : t.workers[k]? = some w') (hCall : w'.state.call? = some call')
    (hHeld : held call' = some r) : HeldOrHeard s t k w'.publishJobId r := by
  have hKept : s.workers[k]? = some w' → HeldOrHeard s t k w'.publishJobId r :=
    fun hWorker => ⟨w', hWorker, rfl, Or.inl ⟨call', hCall, hHeld⟩⟩
  -- execution `i` moves, and what it holds then decides the case `k = i`
  have hMoves : ∀ {i : Nat} {w : Worker} {state : State}, WorkerMoved s i w state t →
      (state.call? = some call' → (∃ call, w.state.call? = some call ∧ held call = some r) ∨
        Heard s t i w r) → HeldOrHeard s t k w'.publishJobId r := by
    intro i w state hMoved hNew
    rcases hMoved.cases hGet with ⟨rfl, rfl⟩ | ⟨-, hWorker⟩
    · exact ⟨w, hMoved.1, rfl, hNew hCall⟩
    · exact hKept hWorker
  cases hKind with
  | quiet hWorkers => exact hKept (hWorkers.workers ▸ hGet)
  | started hClaim hWorkers =>
    rcases started_cases hWorkers hGet with ⟨-, rfl⟩ | hWorker
    · rw [hClaim] at hCall
      injection hCall with hCall
      subst hCall
      injection hHeld
    · exact hKept hWorker
  | created hWorkers => exact hKept (hWorkers.workers ▸ hGet)
  | edited hWorkers => exact hKept (hWorkers.workers ▸ hGet)
  | @wrote i result w call old state _ hState hMoved hNext hCond =>
    refine hMoves hMoved fun hNew => Or.inl ⟨call, by rw [hState]; rfl, ?_⟩
    rcases hNext with ⟨rfl, -⟩ | ⟨-, rfl⟩
    · injection hNew
    · exact held_continues (continues_matched hCond) hNew hHeld
  | @unwritten i result w call state _ hState hMoved hNext =>
    refine hMoves hMoved fun hNew => ?_
    rcases hNext with ⟨rfl, -⟩ | ⟨-, rfl, -⟩
    · injection hNew
    · obtain ⟨outcome, hEnded⟩ := call.unmatched_ended w
      rw [hEnded] at hNew
      injection hNew
  | reconcileFirst hState hMoved _ _ hLookups =>
    refine hMoves hMoved fun hNew => Or.inr ?_
    exact heard_of_reconcile (Or.inl ⟨_, hState, rfl⟩) hLookups (held_afterReconcileFirst hNew hHeld)
  | reconcileAfter hState hMoved _ _ hLookups =>
    refine hMoves hMoved fun hNew => Or.inr ?_
    exact heard_of_reconcile (Or.inr ⟨_, hState⟩) hLookups (held_afterReconcileAfter hNew hHeld)
  | publishSettled _ hStart hMoved =>
    refine hMoves hMoved fun hNew => ?_
    obtain ⟨confirmed, rfl⟩ := held_afterPublish hNew hHeld
    exact (publishStart_not_ok hStart).elim
  | publishCalled _ _ hMoved =>
    refine hMoves hMoved fun hNew => ?_
    injection hNew with hNew
    subst hNew
    injection hHeld
  | @adapterReturned i answer date w claimed job n _ hState hMoved _ hCalls =>
    refine hMoves hMoved fun hNew => Or.inr ?_
    obtain ⟨confirmed, hFinish⟩ := held_afterPublish hNew hHeld
    obtain ⟨c, hOwn, -, hJob, -⟩ := hUnanswered i w claimed job n hMoved.1 (by rw [hState]; rfl)
    refine .answered (c := { c with answer := some answer }) hState ?_ hJob ?_
    · rw [hCalls, List.getElem?_modify_eq, hOwn]
      rfl
    · rw [publishFinish_eq_ok hFinish]
  | @crashed i w call _ hState hMoved =>
    refine hMoves hMoved fun hNew => Or.inl ⟨call, by rw [hState]; rfl, ?_⟩
    injection hNew with hNew
    exact hNew ▸ hHeld

end Held

/-! ## Reported ids -/

/-- A provider has reported `id` for the job: in the answer to a call, or to a lookup. -/
def Reported (s : PublishingState) (j : JobId) (id : String) : Prop :=
  (∃ (n : Nat) (c : PublishCall) (r : PublishResult), s.calls[n]? = some c ∧ c.jobId = j ∧
      c.answer = some (.ok r) ∧ r.remotePostId = id) ∨
    ∃ l ∈ s.lookups, l.jobId = j ∧
      ∃ r : PublishResult, l.reconciliation = .confirmed r ∧ r.remotePostId = id

/-- What is carried and stored has been reported. -/
structure Provenance (s : PublishingState) : Prop where
  rows : ∀ j row id, s.db.job? j = some row → row.remotePostId = some id → Reported s j id
  held : ∀ (k : Nat) (w : Worker) (call : Call) (r : PublishResult), s.workers[k]? = some w →
    w.state.call? = some call → held call = some r → Reported s w.publishJobId r.remotePostId
  socialPosts : ∀ j entry, s.db.socialPosts.lookup j = some entry →
    ∃ row, s.db.job? j = some row ∧ entry.platform = row.platform ∧
      Reported s j entry.remotePostId

/-- An execution confirms its row with the publication that it holds. -/
def ConfirmsHeld (_ : JobId) : Call → Prop
  | .confirm _ job result => job.remotePostId = some result.remotePostId
  | _ => True

section Provenance

variable {cfg : Config} {s t : PublishingState} {e : Event} {j : JobId} {id : String}

theorem reported_kept (hUnanswered : Unanswered s) (hKind : StepKind cfg s e t)
    (h : Reported s j id) : Reported t j id := by
  rcases h with ⟨n, c, r, hCall, hJob, hAnswer, hId⟩ | ⟨l, hMem, hLookup⟩
  · exact Or.inl ⟨n, c, r, answer_kept hUnanswered hKind hCall hAnswer, hJob, hAnswer, hId⟩
  · obtain ⟨added, hAdded⟩ := lookups_kept hKind
    exact Or.inr ⟨l, hAdded ▸ List.mem_append_left added hMem, hLookup⟩

theorem confirmsHeld_reachable {ok : PublishingState → Event → Prop}
    (h : Reachable (publishingSystem cfg) ok s) : Pending ConfirmsHeld s := by
  refine h.invariant (I := Pending ConfirmsHeld) (fun s hInit => ?_)
    fun s e t hPending _ hStep => ?_
  · intro k w call hGet
    rw [hInit.2.2.1] at hGet
    injection hGet
  · refine hPending.step (step_kind hStep) (fun _ _ => id) (fun _ => trivial) ?_ ?_
    · intro _ call call' _ hFlow
      cases hFlow with
      | succeeds => rfl
      | reconciledAfter => rfl
      | _ => trivial
    · intro _ w call old call' _ _ _ _ _ _ hNext
      generalize call.set w s.clock old = new at hNext
      cases hNext with
      | confirms => rfl
      | _ => trivial

/-- What an execution hears is reported for its job. -/
theorem heard_reported {k : Nat} {w : Worker} {r : PublishResult}
    (hReach : Reachable (publishingSystem cfg) anyStep s) (hWorker : s.workers[k]? = some w)
    (h : Heard s t k w r) : Reported t w.publishJobId r.remotePostId := by
  have hCalls := (lifecycle_reachable hReach).calls
  cases h with
  | answered hState hCall hJob hAnswer =>
    have hSound := hCalls.running hWorker hState
    exact Or.inl ⟨_, _, r, hCall, hJob.trans hSound.1, hAnswer, rfl⟩
  | confirmed hReconciles hLookups _ hJob hConfirmed =>
    refine Or.inr ⟨_, hLookups ▸ List.mem_append_right _ (List.mem_singleton.mpr rfl),
      hJob.trans ?_, r, hConfirmed, rfl⟩
    rcases hReconciles with ⟨key, hState, rfl⟩ | ⟨failed, hState⟩
    · exact (hCalls.running hWorker hState).1
    · exact (hCalls.running hWorker hState).1

/-- The id of a row after a step was there before, or an execution held it. -/
theorem remotePostId_change {old new : SocialPublishJob}
    (hReach : Reachable (publishingSystem cfg) anyStep s) (hProvenance : Provenance s)
    (hOld : s.db.job? j = some old) (hChange : RowChange cfg s e old new)
    (hId : new.remotePostId = some id) : Reported s j id := by
  have hSameId : new.remotePostId = old.remotePostId → Reported s j id :=
    fun hSame => hProvenance.rows j old id hOld (hSame ▸ hId)
  cases hChange with
  | same hSame => exact hSameId (by rw [hSame])
  | edited _ hEdit _ hNew =>
    refine hSameId ?_
    rw [hNew, ← edited_writeBack hEdit old]
    rfl
  | @called i result w call _ hWorker hState hTarget hCond hNew =>
    have hJob : w.publishJobId = j := by
      rw [← ((lifecycle_reachable hReach).calls.running hWorker hState).target rfl, hTarget]
      exact Database.job?_id hOld
    have hRecorded := (recorded_reachable hReach).running hWorker hState
    rw [hJob] at hRecorded
    -- a save writes the id that its row has
    have hSaved : ∀ job : SocialPublishJob, (∃ row, s.db.job? j = some row ∧ Confirmed row ∧
        SamePublication row job) → job.remotePostId = old.remotePostId := by
      rintro job ⟨row, hRow, -, hSame⟩
      rw [hOld, Option.some.injEq] at hRow
      rw [hRow, hSame.1]
    subst hNew
    cases call with
    | confirm claimed job result =>
      have hHeld := (confirmsHeld_reachable hReach).running hWorker hState
      have hSet : job.remotePostId = some id := hId
      rw [show job.remotePostId = some result.remotePostId from hHeld, Option.some.injEq] at hSet
      rw [← hSet, ← hJob]
      exact hProvenance.held i w _ result hWorker (by rw [hState]; rfl) rfl
    | saveRecovered claimed => exact hSameId (hSaved claimed.job hRecorded)
    | savePublished claimed job result => exact hSameId (hSaved job hRecorded)
    | _ => exact hSameId rfl

/-- An entry of `social_posts` after a step was there before, or is of the row written. -/
theorem socialPosts_change (hProvenance : Provenance s) (hKind : StepKind cfg s e t)
    {entry : SocialPostRow} (hEntry : t.db.socialPosts.lookup j = some entry) :
    (s.db.socialPosts.lookup j = some entry) ∨ ∃ new, t.db.job? j = some new ∧
      new.remotePostId = some entry.remotePostId ∧ entry.platform = new.platform := by
  cases hKind with
  | quiet _ hTables => exact Or.inl (hTables.socialPosts ▸ hEntry)
  | started _ _ _ _ hTables => exact Or.inl (hTables.socialPosts ▸ hEntry)
  | created _ hCreated => exact Or.inl (hCreated.socialPosts ▸ hEntry)
  | edited _ _ hMutated => exact Or.inl (hMutated.socialPosts ▸ hEntry)
  | @wrote i result w call old state _ _ _ _ _ _ hWritten _ _ _ hFollowed =>
    cases hPublishes : call.publishes with
    | false => exact Or.inl (hFollowed.socialPosts hPublishes ▸ hEntry)
    | true =>
      obtain ⟨added, hAdded, hId, hPlatform⟩ := hFollowed.published hPublishes
      have hNewId : (call.set w s.clock old).id = call.target w :=
        (call.set_id w s.clock old).trans (Database.job?_id hWritten.found)
      rw [hAdded] at hEntry
      by_cases hj : j = (call.set w s.clock old).id
      · subst hj
        rw [AList.lookup_insert, Option.some.injEq] at hEntry
        subst hEntry
        refine Or.inr ⟨_, (hWritten.rows _).trans (if_pos hNewId), hId.symm, ?_⟩
        rcases hPlatform with hSame | ⟨before, hBefore, hSame⟩
        · exact hSame
        · -- an entry that is overwritten keeps its platform, which is that of the job
          obtain ⟨row, hRow, hRowPlatform, -⟩ := hProvenance.socialPosts _ _ hBefore
          have hFound := hWritten.found
          rw [← hNewId, hRow, Option.some.injEq] at hFound
          rw [hSame, hRowPlatform, hFound]
          exact (sameTarget_set w s.clock call old).1.symm
      · rw [AList.lookup_insert_ne hj] at hEntry
        exact Or.inl hEntry
  | unwritten _ _ _ hDb => exact Or.inl (hDb ▸ hEntry)
  | reconcileFirst _ _ hDb => exact Or.inl (hDb ▸ hEntry)
  | reconcileAfter _ _ hDb => exact Or.inl (hDb ▸ hEntry)
  | publishSettled _ _ _ hDb => exact Or.inl (hDb ▸ hEntry)
  | publishCalled _ _ _ hDb => exact Or.inl (hDb ▸ hEntry)
  | adapterReturned _ _ hDb => exact Or.inl (hDb ▸ hEntry)
  | crashed _ _ hDb => exact Or.inl (hDb ▸ hEntry)

theorem provenance_step (hReach : Reachable (publishingSystem cfg) anyStep s)
    (hProvenance : Provenance s) (hKind : StepKind cfg s e t) : Provenance t := by
  have hUnanswered := unanswered_reachable hReach
  have hRows : ∀ j row id, t.db.job? j = some row → row.remotePostId = some id →
      Reported t j id := by
    intro j row id hRow hId
    rcases row_origin hKind hRow with ⟨old, hOld, hChange⟩ | ⟨-, post, target, -, rfl⟩
    · exact reported_kept hUnanswered hKind (remotePostId_change hReach hProvenance hOld hChange hId)
    · injection hId
  refine ⟨hRows, fun k w' call' r hGet hCall hHeld => ?_, fun j entry hEntry => ?_⟩
  · obtain ⟨w, hWorker, hJob, ⟨call, hCall', hHeld'⟩ | hHeard⟩ :=
      held_origin hUnanswered hKind hGet hCall hHeld
    · rw [← hJob]
      exact reported_kept hUnanswered hKind (hProvenance.held k w call r hWorker hCall' hHeld')
    · rw [← hJob]
      exact heard_reported hReach hWorker hHeard
  · rcases socialPosts_change hProvenance hKind hEntry with
      hOld | ⟨new, hNew, hId, hPlatform⟩
    · obtain ⟨row, hRow, hPlatform, hReported⟩ := hProvenance.socialPosts j entry hOld
      obtain ⟨new, hNew, hChange⟩ := row_change hKind hRow
      exact ⟨new, hNew, hPlatform.trans (sameTarget_change hChange).1.symm,
        reported_kept hUnanswered hKind hReported⟩
    · exact ⟨new, hNew, hPlatform, hRows j new _ hNew hId⟩

end Provenance

/-- **Every remote post id** that is stored or carried has been reported for its job. -/
theorem provenance_reachable {cfg : Config} {s : PublishingState}
    (h : Reachable (publishingSystem cfg) anyStep s) : Provenance s := by
  refine h.invariant_of (I := Provenance) (fun s hInit => ?_)
    fun s e t hReach hProvenance _ hStep => provenance_step hReach hProvenance (step_kind hStep)
  obtain ⟨⟨campaigns, accounts, hDb⟩, -, hWorkers, -⟩ := hInit
  refine ⟨fun j row id hRow => ?_, fun k w call r hGet => ?_, fun j entry hEntry => ?_⟩
  · rw [hDb] at hRow
    injection hRow
  · rw [hWorkers] at hGet
    injection hGet
  · rw [hDb] at hEntry
    injection hEntry

end SocialPromotion
