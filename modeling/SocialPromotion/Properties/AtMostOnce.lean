import SocialPromotion.Properties.Snapshots

/-!
# At most one remote write

For a job on an adapter that may not repeat a request, an execution is *writing* from the
moment its request is durable until its failure is saved. The request key of the row is the
lock: as long as an execution that claimed the row without a key never takes over a row
that has got one since, then

* `exclusive_reachable`: at most one execution is writing, the key is set while one is, and
  the key stays set as long as a provider call has not failed for certain;
* `write_after_certain_failure`: a provider call is made only after every earlier one for
  the job has failed for certain.

`second_write_while_unknown` is a run with such a takeover and two outstanding writes.
-/

namespace SocialPromotion

open LTS PublishWorkerProcessor PublishingService

/-! ## Outcomes -/

/-- The call has returned a failure that is not ambiguous. -/
def PublishCall.failedForCertain (c : PublishCall) : Bool :=
  match c.answer with
  | some (.error error) => !(classifyPublishFailure error).ambiguous
  | _ => false

/-- The adapter of the job does not set `supportsIdempotentPublish`. -/
def WritesOnce (cfg : Config) (db : Database) (j : JobId) : Prop :=
  ∀ row, db.job? j = some row → canSafelyRepeatRemoteRequest cfg row.platform = false

/-- The step is a `markRemoteRequesting` before `publish` by an execution that claimed its
row without a key, on a row that is claimed with a key by now. -/
def takesOver (cfg : Config) (s : PublishingState) : Event → Bool
  | .repository i result => result.performed && (s.workers[i]?).any fun w =>
      match w.state with
      | .running (.markRequest claimed _) =>
        !canSafelyRepeatRemoteRequest cfg claimed.job.platform &&
          claimed.job.remoteRequestKey.isNone &&
          (s.db.job? claimed.job.id).any fun row =>
            row.status = .claimed && row.remoteRequestKey.isSome
      | _ => false
  | _ => false

/-! ## Writing executions -/

/-- From the durable request to the saved failure. -/
def Writing : State → Prop
  | .running (.publish ..) | .running (.adapterPublish ..) | .running (.saveFailed ..) => True
  | _ => False

/-- Execution `k` is writing for job `j`. -/
structure Writer (s : PublishingState) (j : JobId) (k : Nat) (w : Worker) : Prop where
  worker : s.workers[k]? = some w
  job : w.publishJobId = j
  writing : Writing w.state

/-- The lock that the request key is. -/
structure Exclusive (s : PublishingState) (j : JobId) : Prop where
  unique : ∀ k k' w w', Writer s j k w → Writer s j k' w' → k = k'
  keyed : ∀ k w, Writer s j k w → Keyed s.db j
  unresolved : ∀ n c, s.calls[n]? = some c → c.jobId = j → c.failedForCertain = false →
    Keyed s.db j ∧ ∀ k w, Writer s j k w →
      ∃ claimed job, w.state = .running (.adapterPublish claimed job n)

section Exclusive

variable {cfg : Config} {s t : PublishingState} {e : Event} {j : JobId}

/-- An unresolved call of the job. -/
def Unresolved (s : PublishingState) (j : JobId) (n : Nat) : Prop :=
  ∃ c, s.calls[n]? = some c ∧ c.jobId = j ∧ c.failedForCertain = false

/-- The lock survives a step that makes no execution a writer, leaves no new call
unresolved and keeps the key. -/
theorem Exclusive.mono (h : Exclusive s j) (hCalls : ∀ n, Unresolved t j n → Unresolved s j n)
    (hWriters : ∀ k w, Writer t j k w → Writer s j k w) (hKey : Keyed s.db j → Keyed t.db j) :
    Exclusive t j := by
  refine ⟨fun k k' w w' hk hk' => h.unique k k' w w' (hWriters k w hk) (hWriters k' w' hk'),
    fun k w hk => hKey (h.keyed k w (hWriters k w hk)), fun n c hCall hJob hOpen => ?_⟩
  obtain ⟨c', hCall', hJob', hOpen'⟩ := hCalls n ⟨c, hCall, hJob, hOpen⟩
  obtain ⟨hKeyed, hWaits⟩ := h.unresolved n c' hCall' hJob' hOpen'
  exact ⟨hKey hKeyed, fun k w hk => hWaits k w (hWriters k w hk)⟩

/-- A writer waits for every call that is unresolved. -/
theorem Exclusive.waits (h : Exclusive s j) {k n : Nat} {w : Worker} (hWriter : Writer s j k w)
    (hOpen : Unresolved s j n) :
    ∃ claimed job, w.state = .running (.adapterPublish claimed job n) := by
  obtain ⟨c, hCall, hJob, hOpen⟩ := hOpen
  exact (h.unresolved n c hCall hJob hOpen).2 k w hWriter

theorem unresolved_of_calls_eq (hCalls : t.calls = s.calls) (n : Nat) (h : Unresolved t j n) :
    Unresolved s j n := by
  obtain ⟨c, hCall, hOpen⟩ := h
  exact ⟨c, hCalls ▸ hCall, hOpen⟩

/-- Without a writer and without an unresolved call there is nothing to lock. -/
theorem Exclusive.idle (hWriters : ∀ k w, ¬ Writer t j k w) (hCalls : ∀ n, ¬ Unresolved t j n) :
    Exclusive t j := by
  refine ⟨fun k _ w _ hk => absurd hk (hWriters k w), fun k w hk => absurd hk (hWriters k w),
    fun n c hCall hJob hOpen => ?_⟩
  exact absurd ⟨c, hCall, hJob, hOpen⟩ (hCalls n)

/-- A writer after execution `i` moved is another writer, or execution `i`. -/
theorem Writer.of_moved {i k : Nat} {w w' : Worker} {state : State}
    (hMoved : WorkerMoved s i w state t) (h : Writer t j k w') :
    k = i ∧ w' = { w with state := state } ∧ Writing state ∧ w.publishJobId = j ∨
      k ≠ i ∧ Writer s j k w' := by
  rcases hMoved.cases h.worker with ⟨rfl, rfl⟩ | ⟨hNe, hWorker⟩
  · exact Or.inl ⟨rfl, rfl, h.writing, h.job⟩
  · exact Or.inr ⟨hNe, hWorker, h.job, h.writing⟩

/-- An execution that moved to a state without writing makes no writer. -/
theorem Writer.of_moved_idle {i k : Nat} {w w' : Worker} {state : State}
    (hMoved : WorkerMoved s i w state t) (hIdle : ¬ Writing state) (h : Writer t j k w') :
    Writer s j k w' := by
  rcases h.of_moved hMoved with ⟨-, -, hWriting, -⟩ | ⟨-, hWriter⟩
  · exact absurd hWriting hIdle
  · exact hWriter

/-- When the only writer stops writing, there is none. -/
theorem Exclusive.none_of_moved (h : Exclusive s j) {i : Nat} {w : Worker} {state : State}
    (hMoved : WorkerMoved s i w state t) (hWriter : Writer s j i w) (hIdle : ¬ Writing state)
    (k : Nat) (w' : Worker) : ¬ Writer t j k w' := by
  intro hk
  rcases hk.of_moved hMoved with ⟨-, -, hWriting, -⟩ | ⟨hNe, hk'⟩
  · exact hIdle hWriting
  · exact hNe (h.unique k i w' w hk' hWriter)

/-! ## Steps -/

/-- An execution that marks the row of a job for the first time, where the lock is free. -/
theorem Exclusive.acquire (h : Exclusive s j) (hFree : ¬ Keyed s.db j) {i : Nat} {w : Worker}
    {state : State} (hMoved : WorkerMoved s i w state t) (hCalls : t.calls = s.calls)
    (hKey : Keyed t.db j) : Exclusive t j := by
  have hWriters : ∀ k w', Writer t j k w' → k = i := by
    intro k w' hk
    rcases hk.of_moved hMoved with ⟨hEq, -⟩ | ⟨-, hk'⟩
    · exact hEq
    · exact absurd (h.keyed k w' hk') hFree
  refine ⟨fun k k' w' w'' hk hk' => (hWriters k w' hk).trans (hWriters k' w'' hk').symm,
    fun _ _ _ => hKey, fun n c hCall hJob hOpen => ?_⟩
  exact absurd (h.unresolved n c (hCalls ▸ hCall) hJob hOpen).1 hFree

/-- The row of a job on which an execution marks its first request is not keyed. -/
theorem not_keyed_of_first {i : Nat} {result : CallResult} {w : Worker}
    {claimed : ClaimedPublishJob} {key : RequestKey} {old : SocialPublishJob}
    (hReach : Reachable (publishingSystem cfg) anyStep s) (hOnce : WritesOnce cfg s.db j)
    (hWorker : s.workers[i]? = some w) (hState : w.state = .running (.markRequest claimed key))
    (hJob : w.publishJobId = j) (hPerformed : result.performed = true)
    (hGuard : takesOver cfg s (.repository i result) = false)
    (hOld : s.db.job? claimed.job.id = some old) (hClaimed : old.status = .claimed) :
    ¬ Keyed s.db j := by
  subst hJob
  have hSound := (lifecycle_reachable hReach).calls.running hWorker hState
  obtain ⟨row, hRow, hSame⟩ := (snapshot_reachable hReach).running hWorker hState claimed rfl
  have hNot := hOnce row hRow
  rw [hSame.1] at hNot
  -- an execution that claimed the key with the row would have had to repeat the request
  have hFirst : claimed.job.remoteRequestKey = none := by
    rcases hSound.2 with hNone | ⟨-, hRepeat⟩
    · exact hNone
    · rw [hNot] at hRepeat
      injection hRepeat
  rintro ⟨row', hRow', hKey⟩
  rw [← hSound.1, hOld, Option.some.injEq] at hRow'
  subst hRow'
  simp [takesOver, hPerformed, hWorker, hState, hNot, hFirst, hOld, hClaimed, hKey] at hGuard

/-- A repository call that wrote the row of the job. -/
theorem exclusive_wrote {i : Nat} {result : CallResult} {w : Worker} {call : Call}
    {old : SocialPublishJob} {state : State} (hReach : Reachable (publishingSystem cfg) anyStep s)
    (h : Exclusive s j) (hOnce : WritesOnce cfg s.db j) (hState : w.state = .running call)
    (hMoved : WorkerMoved s i w state t)
    (hGuard : takesOver cfg s (.repository i result) = false)
    (hPerformed : result.performed = true)
    (hNext : state = .ended .raised ∨ Continues w call (call.set w s.clock old) state)
    (hCond : call.condition w s.clock s.db old = true)
    (hWritten : RowWritten s.db (call.target w) old (call.set w s.clock old) t.db)
    (hCalls : t.calls = s.calls) : Exclusive t j := by
  have hSound := (lifecycle_reachable hReach).calls.running hMoved.1 hState
  have hTarget : call.target w = w.publishJobId := hSound.target rfl
  by_cases hJob : w.publishJobId = j
  · by_cases hMark : ∃ claimed key, call = .markRequest claimed key
    · obtain ⟨claimed, key, rfl⟩ := hMark
      simp only [Call.condition, decide_eq_true_eq] at hCond
      refine h.acquire (not_keyed_of_first hReach hOnce hMoved.1 hState hJob hPerformed hGuard
        hWritten.found hCond.1) hMoved hCalls ⟨_, (hWritten.rows j).trans (if_pos ?_), rfl⟩
      exact (hTarget.trans hJob).symm
    · -- any other call ends the writing of this execution, or is not part of it
      have hIdle : ¬ Writing state := by
        rcases hNext with rfl | hNext
        · exact id
        · cases hNext with
          | publishes => exact absurd ⟨_, _, rfl⟩ hMark
          | _ => exact id
      by_cases hSave : Writing w.state
      · have hWriter : Writer s j i w := ⟨hMoved.1, hJob, hSave⟩
        refine Exclusive.idle (h.none_of_moved hMoved hWriter hIdle) fun n hOpen => ?_
        obtain ⟨claimed, job, hEq⟩ := h.waits hWriter (unresolved_of_calls_eq hCalls n hOpen)
        rw [hState, State.running.injEq] at hEq
        subst hEq
        injection hCond
      · refine h.mono (unresolved_of_calls_eq hCalls) (fun _ _ => Writer.of_moved_idle hMoved hIdle)
          (keyed_written hWritten fun _ claimed job error failure retryPending nextRetryAt hEq => ?_)
        rw [hState, hEq] at hSave
        exact hSave trivial
  · refine h.mono (unresolved_of_calls_eq hCalls) (fun k w' hk => ?_) (keyed_written hWritten fun hEq =>
      absurd (hTarget.symm.trans hEq) hJob)
    rcases hk.of_moved hMoved with ⟨-, -, -, hEq⟩ | ⟨-, hk'⟩
    · exact absurd hEq hJob
    · exact hk'

theorem not_writing_reconcileFirst {claimed : ClaimedPublishJob} {key : RequestKey}
    {state : State} (h : Flow cfg (.reconcileFirst claimed key) state) : ¬ Writing state := by
  cases h with
  | ambiguous hCall => exact id
  | fails _ hCall => rcases hCall with hCall | ⟨n, hCall⟩ <;> injection hCall
  | _ => exact id

theorem not_writing_reconcileAfter {claimed : ClaimedPublishJob} {job failed : SocialPublishJob}
    {state : State} (h : Flow cfg (.reconcileAfter claimed job failed) state) :
    ¬ Writing state := by
  cases h with
  | ambiguous hCall => exact id
  | fails _ hCall => rcases hCall with hCall | ⟨n, hCall⟩ <;> injection hCall
  | _ => exact id

/-- An attempt that the provider answered is written down only if it failed for certain. -/
theorem not_writing_answered {claimed : ClaimedPublishJob} {job : SocialPublishJob} {date : Time}
    {answer : Except ThrownError PublishResult} {c : PublishCall}
    (hOpen : ({ c with answer := some answer } : PublishCall).failedForCertain = false) :
    ¬ Writing (afterPublish claimed job date (publishFinish job answer)) := by
  have hFailed : ∀ error, (classifyPublishFailure error).ambiguous = true →
      ¬ Writing (afterPublish claimed job date (failedWith job error)) := by
    intro error hAmbiguous
    simp only [failedWith, afterPublish, if_pos hAmbiguous]
    exact id
  unfold publishFinish
  split
  · rename_i error
    simp only [PublishCall.failedForCertain, Bool.not_eq_false'] at hOpen
    exact hFailed error hOpen
  · split
    · exact hFailed _ rfl
    · exact id

/-- The writer moves on between two statements. -/
theorem Exclusive.moved (h : Exclusive s j) {i : Nat} {w : Worker} {state : State}
    (hMoved : WorkerMoved s i w state t) (hWriter : Writer s j i w) (hDb : t.db = s.db)
    (hCalls : ∀ n, Unresolved t j n →
      ¬ Writing state ∨ ∃ claimed job, state = .running (.adapterPublish claimed job n)) :
    Exclusive t j := by
  have hOnly : ∀ k w', Writer t j k w' → k = i ∧ w' = { w with state := state } ∧
      Writing state := by
    intro k w' hk
    rcases hk.of_moved hMoved with ⟨hEq, hSame, hWriting, -⟩ | ⟨hNe, hk'⟩
    · exact ⟨hEq, hSame, hWriting⟩
    · exact absurd (h.unique k i w' w hk' hWriter) hNe
  have hKeyed : Keyed t.db j := hDb ▸ h.keyed i w hWriter
  refine ⟨fun k k' w' w'' hk hk' => (hOnly k w' hk).1.trans (hOnly k' w'' hk').1.symm,
    fun _ _ _ => hKeyed, fun n c hCall hJob hOpen => ⟨hKeyed, fun k w' hk => ?_⟩⟩
  obtain ⟨-, rfl, hWriting⟩ := hOnly k w' hk
  rcases hCalls n ⟨c, hCall, hJob, hOpen⟩ with hIdle | hWaits
  · exact absurd hWriting hIdle
  · exact hWaits

/-- Another job's execution moves on. -/
theorem Exclusive.moved_other (h : Exclusive s j) {i : Nat} {w : Worker} {state : State}
    (hMoved : WorkerMoved s i w state t) (hJob : w.publishJobId ≠ j) (hDb : t.db = s.db)
    (hCalls : ∀ n, Unresolved t j n → Unresolved s j n) : Exclusive t j := by
  refine h.mono hCalls (fun k w' hk => ?_) (hDb ▸ id)
  rcases hk.of_moved hMoved with ⟨-, -, -, hEq⟩ | ⟨-, hk'⟩
  · exact absurd hEq hJob
  · exact hk'

/-- **One step** keeps the lock, when it is not a takeover. -/
theorem exclusive_step (hReach : Reachable (publishingSystem cfg) anyStep s)
    (h : Exclusive s j) (hOnce : WritesOnce cfg s.db j) (hGuard : takesOver cfg s e = false)
    (hKind : StepKind cfg s e t) : Exclusive t j := by
  have hSame : t.db = s.db → Keyed s.db j → Keyed t.db j := fun hDb hKey => hDb ▸ hKey
  cases hKind with
  | quiet hWorkers hTables =>
    refine h.mono (unresolved_of_calls_eq hWorkers.calls) (fun k w hk => ?_) (keyed_of_rows hTables.rows)
    exact ⟨hWorkers.workers ▸ hk.worker, hk.job, hk.writing⟩
  | started hCall hWorkers hCalls _ hTables =>
    refine h.mono (unresolved_of_calls_eq hCalls) (fun k w' hk => ?_) (keyed_of_rows hTables.rows)
    rcases started_cases hWorkers hk.worker with ⟨-, rfl⟩ | hWorker
    · have hWriting := hk.writing
      rw [hCall] at hWriting
      exact hWriting.elim
    · exact ⟨hWorker, hk.job, hk.writing⟩
  | created hWorkers hCreated =>
    refine h.mono (unresolved_of_calls_eq hWorkers.calls) (fun k w hk => ?_)
      (keyed_created hCreated)
    exact ⟨hWorkers.workers ▸ hk.worker, hk.job, hk.writing⟩
  | edited hWorkers hEdit hMutated =>
    refine h.mono (unresolved_of_calls_eq hWorkers.calls) (fun k w hk => ?_) (keyed_edited hEdit hMutated)
    exact ⟨hWorkers.workers ▸ hk.worker, hk.job, hk.writing⟩
  | wrote hState hMoved hNext hCond _ hWritten hCalls _ hPerformed =>
    refine exclusive_wrote hReach h hOnce hState hMoved hGuard hPerformed ?_ hCond hWritten hCalls
    rcases hNext with ⟨hRaised, -⟩ | ⟨-, hEq⟩
    · exact Or.inl hRaised
    · exact Or.inr (hEq ▸ continues_matched hCond)
  | @unwritten i result w call state _ hState hMoved hNext hDb hCalls =>
    refine h.mono (unresolved_of_calls_eq hCalls)
      (fun k w' => Writer.of_moved_idle hMoved ?_) (hSame hDb)
    rcases hNext with ⟨rfl, -⟩ | ⟨-, rfl, -⟩
    · exact id
    · obtain ⟨outcome, hEnded⟩ := call.unmatched_ended w
      rw [hEnded]
      exact id
  | reconcileFirst _ hMoved hDb hCalls =>
    exact h.mono (unresolved_of_calls_eq hCalls) (fun k w' => Writer.of_moved_idle hMoved
      (not_writing_reconcileFirst (flow_reconcileFirst _ : Flow cfg _ _))) (hSame hDb)
  | reconcileAfter _ hMoved hDb hCalls =>
    exact h.mono (unresolved_of_calls_eq hCalls) (fun k w' => Writer.of_moved_idle hMoved
      (not_writing_reconcileAfter (flow_reconcileAfter _ : Flow cfg _ _))) (hSame hDb)
  | @publishSettled i _ w claimed job _ _ hState _ hMoved hDb hCalls =>
    by_cases hJob : w.publishJobId = j
    · have hWriter : Writer s j i w := ⟨hMoved.1, hJob, by rw [hState]; trivial⟩
      refine h.moved hMoved hWriter hDb fun n hOpen => ?_
      obtain ⟨_, _, hEq⟩ := h.waits hWriter (unresolved_of_calls_eq hCalls n hOpen)
      rw [hState, State.running.injEq] at hEq
      injection hEq
    · exact h.moved_other hMoved hJob hDb (unresolved_of_calls_eq hCalls)
  | @publishCalled i _ w claimed job post request _ hState _ hMoved hDb hCalls =>
    have hNumber : ∀ n, Unresolved t j n → Unresolved s j n ∨ n = s.calls.length ∧ job.id = j := by
      rintro n ⟨c, hCall, hJob, hOpen⟩
      rw [hCalls, List.getElem?_append] at hCall
      split at hCall
      · exact Or.inl ⟨c, hCall, hJob, hOpen⟩
      · have hLt := (List.getElem?_eq_some_iff.mp hCall).1
        have hMem := List.mem_singleton.mp (List.mem_of_getElem? hCall)
        rw [List.length_singleton] at hLt
        subst hMem
        exact Or.inr ⟨by omega, hJob⟩
    have hSound := (lifecycle_reachable hReach).calls.running hMoved.1 hState
    by_cases hJob : w.publishJobId = j
    · have hWriter : Writer s j i w := ⟨hMoved.1, hJob, by rw [hState]; trivial⟩
      refine h.moved hMoved hWriter hDb fun n hOpen => ?_
      rcases hNumber n hOpen with hOld | ⟨rfl, -⟩
      · obtain ⟨_, _, hEq⟩ := h.waits hWriter hOld
        rw [hState, State.running.injEq] at hEq
        injection hEq
      · exact Or.inr ⟨claimed, job, rfl⟩
    · refine h.moved_other hMoved hJob hDb fun n hOpen => ?_
      rcases hNumber n hOpen with hOld | ⟨-, hNew⟩
      · exact hOld
      · exact absurd (hSound.1.symm.trans hNew) hJob
  | @adapterReturned i answer _ w claimed job m _ hState hMoved hDb hCalls =>
    have hModified : ∀ n c, t.calls[n]? = some c → ∃ c₀, s.calls[n]? = some c₀ ∧
        (n = m ∧ c = { c₀ with answer := some answer } ∨ n ≠ m ∧ c = c₀) := by
      intro n c hCall
      rw [hCalls, List.getElem?_modify] at hCall
      obtain ⟨c₀, hOld, rfl⟩ := Option.map_eq_some_iff.mp hCall
      refine ⟨c₀, hOld, ?_⟩
      by_cases hEq : m = n
      · exact Or.inl ⟨hEq.symm, if_pos hEq⟩
      · exact Or.inr ⟨fun h => hEq h.symm, if_neg hEq⟩
    by_cases hJob : w.publishJobId = j
    · have hWriter : Writer s j i w := ⟨hMoved.1, hJob, by rw [hState]; trivial⟩
      refine h.moved hMoved hWriter hDb fun n hOpen => Or.inl ?_
      obtain ⟨c, hCall, hOf, hOpen⟩ := hOpen
      obtain ⟨c₀, hOld, ⟨rfl, rfl⟩ | ⟨hNe, rfl⟩⟩ := hModified n c hCall
      · exact not_writing_answered hOpen
      · -- the writer would have to wait for two calls
        obtain ⟨_, _, hEq⟩ := h.waits hWriter ⟨_, hOld, hOf, hOpen⟩
        rw [hState, State.running.injEq] at hEq
        injection hEq with _ _ hEq
        exact absurd hEq.symm hNe
    · refine h.moved_other hMoved hJob hDb fun n hOpen => ?_
      obtain ⟨c, hCall, hOf, hOpen⟩ := hOpen
      obtain ⟨c₀, hOld, ⟨rfl, rfl⟩ | ⟨-, rfl⟩⟩ := hModified n c hCall
      · obtain ⟨c₁, hCall₁, hJob₁⟩ := (callKnown_reachable hReach).running hMoved.1 hState
        rw [hOld, Option.some.injEq] at hCall₁
        subst hCall₁
        exact absurd (hJob₁.symm.trans hOf) hJob
      · exact ⟨_, hOld, hOf, hOpen⟩
  | crashed _ hMoved hDb hCalls =>
    exact h.mono (unresolved_of_calls_eq hCalls) (fun k w' => Writer.of_moved_idle hMoved id) (hSame hDb)

end Exclusive

/-! ## Every run -/

/-- The step is no takeover. -/
def NoTakeover (cfg : Config) (s : PublishingState) (e : Event) : Prop :=
  takesOver cfg s e = false

instance (cfg : Config) (s : PublishingState) (e : Event) : Decidable (NoTakeover cfg s e) :=
  inferInstanceAs (Decidable (_ = _))

theorem WritesOnce.of_step {cfg : Config} {s t : PublishingState} {e : Event} {j : JobId}
    (hKind : StepKind cfg s e t) (h : WritesOnce cfg t.db j) : WritesOnce cfg s.db j := by
  intro row hRow
  obtain ⟨new, hNew, hChange⟩ := row_change hKind hRow
  rw [← (sameTarget_change hChange).1]
  exact h new hNew

theorem exclusive_reachable {cfg : Config} {s : PublishingState}
    (h : Reachable (publishingSystem cfg) (NoTakeover cfg) s) {j : JobId}
    (hOnce : WritesOnce cfg s.db j) : Exclusive s j := by
  refine h.invariant_of (I := fun s => ∀ j, WritesOnce cfg s.db j → Exclusive s j)
    (fun s hInit j _ => ?_) (fun s e t hReach hInv hGuard hStep j hOnce => ?_) j hOnce
  · refine .idle (fun k w hk => ?_) fun n hOpen => ?_
    · have hWorker := hk.worker
      rw [hInit.2.2.1] at hWorker
      injection hWorker
    · obtain ⟨c, hCall, -⟩ := hOpen
      rw [hInit.2.2.2.2.2.2.1] at hCall
      injection hCall
  · have hKind := step_kind hStep
    have hOnce' := hOnce.of_step hKind
    exact exclusive_step hReach.any (hInv j hOnce') hOnce' hGuard hKind

/-- **At-most-once remote write.** In every run without a takeover, a provider call is made
only after every earlier call for its job has failed for certain. -/
theorem write_after_certain_failure {cfg : Config} {s t : PublishingState} {e : Event}
    (hReach : Reachable (publishingSystem cfg) (NoTakeover cfg) s)
    (hStep : (publishingSystem cfg).step s e = some t) {c : PublishCall}
    (hNew : t.calls[s.calls.length]? = some c) (hOnce : WritesOnce cfg s.db c.jobId) :
    ∀ c' ∈ s.calls, c'.jobId = c.jobId → c'.failedForCertain = true := by
  intro c' hMem hJob
  cases call_change (step_kind hStep) hNew with
  | kept hOld =>
    rw [List.getElem?_eq_none le_rfl] at hOld
    injection hOld
  | @made i w claimed job post request _ hState _ hMoved =>
    have hSound := (lifecycle_reachable hReach).calls.running hMoved.1 hState
    have hWriter : Writer s job.id i w := ⟨hMoved.1, hSound.1.symm, by rw [hState]; trivial⟩
    by_contra hOpen
    obtain ⟨n, hIndex⟩ := List.getElem?_of_mem hMem
    obtain ⟨_, _, hEq⟩ := (exclusive_reachable hReach hOnce).waits hWriter
      ⟨c', hIndex, hJob, Bool.eq_false_of_not_eq_true hOpen⟩
    rw [hState, State.running.injEq] at hEq
    injection hEq
  | answered hOld =>
    rw [List.getElem?_eq_none le_rfl] at hOld
    injection hOld

/-- No job of the small installation may repeat a request, when its adapters cannot. -/
theorem Installation.writesOnce (reconcilePublish : Bool) (db : Database) (j : JobId) :
    WritesOnce (Installation.config false reconcilePublish) db j :=
  fun _ _ => rfl

open Installation in
/-- The first attempt is rate limited, and the job is tried once more. -/
def secondAttempt : List Event :=
  approved ++ [deliver, call 0, call 0, .publish 0 1000,
    .adapterReturns 0 (.error rateLimited) 1000, call 0, .tick 30000, deliver, call 1, call 1]

/-- The step makes a provider call for a job that has had one already, which is answered or
not. -/
def callsAgain (cfg : Config) (s : PublishingState) (e : Event) (answered : Bool) : Bool :=
  ((publishingSystem cfg).step s e).any fun t => (t.calls[s.calls.length]?).any fun c =>
    s.calls.any fun c' => c'.jobId = c.jobId && c'.answer.isSome == answered

theorem callsAgain_iff {cfg : Config} {s : PublishingState} {e : Event} {answered : Bool} :
    callsAgain cfg s e answered = true ↔ ∃ t c c', (publishingSystem cfg).step s e = some t ∧
      t.calls[s.calls.length]? = some c ∧ c' ∈ s.calls ∧ c'.jobId = c.jobId ∧
      c'.answer.isSome = answered := by
  simp [callsAgain, Option.any_eq_true]

theorem write_after_certain_failure_retried :
    ∃ s t c c', (publishingSystem (Installation.config false false)).step s (.publish 1 31000) =
        some t ∧ t.calls[s.calls.length]? = some c ∧ c' ∈ s.calls ∧ c'.jobId = c.jobId ∧
      c'.failedForCertain = true := by
  obtain ⟨s, hReach, hAgain⟩ := exists_reachable_of_run
    (publishingSystem (Installation.config false false))
    (NoTakeover (Installation.config false false))
    (fun s => callsAgain (Installation.config false false) s (.publish 1 31000) true)
    secondAttempt (Installation.start_initial _) (by decide +kernel)
  obtain ⟨t, c, c', hStep, hNew, hMem, hJob, -⟩ := callsAgain_iff.mp hAgain
  exact ⟨s, t, c, c', hStep, hNew, hMem, hJob,
    write_after_certain_failure hReach hStep hNew (Installation.writesOnce false s.db _) c' hMem hJob⟩

open Installation in
/-- Execution 0 claims the row and stalls; execution 1 claims it, sends its request and
stalls; execution 2 claims the row with its key; and execution 0 marks it for a first
attempt. -/
def takeover : List Event :=
  approved ++ [deliver, call 0, .tick 30001, deliver, call 1, call 1, .publish 1 31001,
    .tick 30001, deliver, call 2, call 0]

/-- A stale execution does send a second write while the outcome of the first is unknown. -/
theorem second_write_while_unknown :
    ¬ ∀ (cfg : Config) (s t : PublishingState) (e : Event) (c : PublishCall),
      Reachable (publishingSystem cfg) anyStep s → (publishingSystem cfg).step s e = some t →
      t.calls[s.calls.length]? = some c → WritesOnce cfg s.db c.jobId →
      ∀ c' ∈ s.calls, c'.jobId = c.jobId → c'.failedForCertain = true := by
  intro h
  obtain ⟨s, hReach, hAgain⟩ := exists_reachable_of_run
    (publishingSystem (Installation.config false false)) anyStep
    (fun s => callsAgain (Installation.config false false) s (.publish 0 61002) false)
    takeover (Installation.start_initial _) (by decide +kernel)
  obtain ⟨t, c, c', hStep, hNew, hMem, hJob, hUnanswered⟩ := callsAgain_iff.mp hAgain
  have hCertain := h _ s t _ c hReach hStep hNew (Installation.writesOnce false s.db _) c' hMem hJob
  cases hAnswer : c'.answer with
  | none => simp [PublishCall.failedForCertain, hAnswer] at hCertain
  | some answer => simp [hAnswer] at hUnanswered

end SocialPromotion
