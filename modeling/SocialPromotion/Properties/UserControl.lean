import SocialPromotion.Properties.OptimisticConcurrency
import SocialPromotion.Properties.RowLifecycle

/-!
# When cancel and schedule take effect

Both look at the rows of the jobs alone. An execution that has marked its request and has
not called the provider yet is seen in its row only as long as no other execution clears the
request key.

* `cancelled_stays`, `scheduled_stays`: what a committed operation leaves holds over every
  run, where no execution is about to publish the job;
* `operations_take_effect`: the two operations take effect exactly then.
-/

namespace SocialPromotion

open LTS Database PublishWorkerProcessor PublishingService

/-- An execution stands between its marked request for job `j` and `adapter.publish`. -/
def AboutToPublish (cfg : Config) (s : PublishingState) (j : JobId) : Prop :=
  ∃ (i : Nat) (w : Worker) (claimed : ClaimedPublishJob) (job : SocialPublishJob)
    (post : SocialPost) (request : PublishRequest), s.workers[i]? = some w ∧
    w.state = .running (.publish claimed job) ∧ job.id = j ∧
    publishStart cfg claimed.post job = .call post request

/-- The step from `s` to `t` starts a provider call for job `j`. -/
def StartsCall (s t : PublishingState) (j : JobId) : Prop :=
  ∃ c, t.calls[s.calls.length]? = some c ∧ c.jobId = j

section Steps

variable {cfg : Config} {s t : PublishingState} {e : Event} {j : JobId}

/-- A provider call is started by an execution that was about to. -/
theorem aboutToPublish_of_startsCall (hKind : StepKind cfg s e t) (h : StartsCall s t j) :
    AboutToPublish cfg s j := by
  obtain ⟨c, hCall, rfl⟩ := h
  have hFresh : ∀ {c'}, s.calls[s.calls.length]? ≠ some c' := by
    intro c' hOld
    rw [List.getElem?_eq_none le_rfl] at hOld
    injection hOld
  cases call_change hKind hCall with
  | kept hOld => exact absurd hOld hFresh
  | made _ hState hStart hMoved => exact ⟨_, _, _, _, _, _, hMoved.1, hState, rfl, hStart⟩
  | answered hOld => exact absurd hOld hFresh

/-- An execution that is about to publish was before, or has marked a claimed row. -/
theorem aboutToPublish_origin (hKind : StepKind cfg s e t) (h : AboutToPublish cfg t j) :
    AboutToPublish cfg s j ∨ ∃ row, s.db.job? j = some row ∧ row.status = .claimed := by
  obtain ⟨i, w', claimed, job, post, request, hGet, hState, hJob, hStart⟩ := h
  cases worker_change hKind hGet with
  | kept hWorker =>
    exact Or.inl ⟨i, w', claimed, job, post, request, hWorker, hState, hJob, hStart⟩
  | started _ hClaim =>
    rw [hClaim] at hState
    injection hState with hState
    injection hState
  | @flowed _ _ state _ _ hFlow =>
    have hNext : state = .running (.publish claimed job) := hState
    subst hNext
    cases hFlow
  | @wrote w call old state _ _ hCond _ hWritten hNext =>
    have hNext' : state = .running (.publish claimed job) := hState
    subst hNext'
    refine Or.inr ⟨old, ?_, ?_⟩
    all_goals generalize hNew : call.set w s.clock old = new at hNext
    all_goals cases hNext
    · have hId : old.id = j := by
        rw [← hJob, ← hNew, Call.set_id]
      rw [← hId, job?_id hWritten.found]
      exact hWritten.found
    · simp only [Call.condition, decide_eq_true_eq] at hCond
      exact hCond.1

/-- The execution that is about to publish can do so at once. -/
theorem AboutToPublish.starts (h : AboutToPublish cfg s j) (date : Time) :
    ∃ i t, (publishingSystem cfg).step s (.publish i date) = some t ∧ StartsCall s t j := by
  obtain ⟨i, w, claimed, job, post, request, hWorker, hState, hJob, hStart⟩ := h
  have hStep : (publishingSystem cfg).step s (.publish i date) =
      some { s.setWorker i w (.running (.adapterPublish claimed job s.calls.length)) with
        calls := s.calls ++ [⟨i, job.id, post, request, none⟩] } := by
    show PublishingState.publishStep cfg s i date = _
    simp only [PublishingState.publishStep, hWorker, hState, hStart]
  exact ⟨i, _, hStep, _, List.getElem?_concat_length, hJob⟩

end Steps

/-! ## After a cancellation -/

/-- No provider call is started for the job any more. -/
def CancelHolds (cfg : Config) (t : PublishingState) (j : JobId) : Prop :=
  ∀ u e v, Steps (publishingSystem cfg) anyStep t u →
    (publishingSystem cfg).step u e = some v → ¬ StartsCall u v j

/-- A cancelled job that no execution is about to publish stays so. -/
theorem cancelled_stays {cfg : Config} {t : PublishingState} {j : JobId}
    (hReach : Reachable (publishingSystem cfg) anyStep t)
    (hRow : ∃ row, t.db.job? j = some row ∧ row.status = .cancelled)
    (hNot : ¬ AboutToPublish cfg t j) : CancelHolds cfg t j := by
  intro u e v hRun hStep hStarts
  have hStays : ¬ AboutToPublish cfg u j := by
    refine (hRun.invariant_of (I := fun u => (∃ row, u.db.job? j = some row ∧
      row.status = .cancelled) ∧ ¬ AboutToPublish cfg u j) (fun _ _ => id)
      (fun u e v hReach' hInv _ hMove => ?_) hReach ⟨hRow, hNot⟩).2.2
    have hKind := step_kind hMove
    obtain ⟨⟨row, hRow, hStatus⟩, hNot⟩ := hInv
    obtain ⟨new, hNew, hChange⟩ := row_change hKind hRow
    have hSame := (lawful_change (lifecycle_reachable hReach').calls
      (recorded_reachable hReach') hRow hChange).cancelled hStatus
    refine ⟨⟨new, hNew, hSame ▸ hStatus⟩, fun hAbout => ?_⟩
    rcases aboutToPublish_origin hKind hAbout with hBefore | ⟨row', hRow', hClaimed⟩
    · exact hNot hBefore
    · rw [hRow, Option.some.injEq] at hRow'
      rw [← hRow', hStatus] at hClaimed
      injection hClaimed
  exact hStays (aboutToPublish_of_startsCall (step_kind hStep) hStarts)

/-! ## After a schedule -/

/-- The operation schedules, publishes or retries the job. -/
def Reapproves (s : PublishingState) (j : JobId) : UserOperation → Prop
  | .schedule _ id _ _ _ | .publishNow _ id _ _ _ =>
    ∃ row, s.db.job? j = some row ∧ row.postId = id
  | .retry _ _ jobId _ _ => jobId = j
  | .create _ _ | .update _ _ _ | .cancel _ _ _ => False

/-- No such operation commits in the step. -/
def NotReapproved (cfg : Config) (j : JobId) (s : PublishingState) (e : Event) : Prop :=
  ∀ operation t, e = .user operation → Reapproves s j operation → ¬ Commits cfg s operation t

/-- No provider call is started for the job before `time`, unless it is approved again. -/
def ScheduleHolds (cfg : Config) (t : PublishingState) (j : JobId) (time : Time) : Prop :=
  ∀ u e v, Steps (publishingSystem cfg) (NotReapproved cfg j) t u →
    (publishingSystem cfg).step u e = some v → u.clock < time → ¬ StartsCall u v j

/-- The row waits for `time`, or is cancelled. -/
def Waits (time : Time) (row : SocialPublishJob) : Prop :=
  row.status = .waiting ∧ row.scheduledAt = time ∨ row.status = .cancelled

/-- The time has come, or the row waits for it and no execution is about to publish. -/
def Held (cfg : Config) (j : JobId) (time : Time) (s : PublishingState) : Prop :=
  time ≤ s.clock ∨
    (∃ row, s.db.job? j = some row ∧ Waits time row) ∧ ¬ AboutToPublish cfg s j

section Schedule

variable {cfg : Config} {s t : PublishingState} {e : Event} {j : JobId} {time : Time}

/-- No call of an execution touches a row that waits for a later time. -/
theorem not_condition_of_waits {w : Worker} {now : Time} {db : Database} {call : Call}
    {row : SocialPublishJob} (hWaits : Waits time row) (hEarly : now < time) :
    call.condition w now db row = false := by
  rcases hWaits with ⟨hStatus, hTime⟩ | hStatus
  · cases call with
    | claimPublishJob =>
      have hLater : ¬ row.scheduledAt ≤ now := hTime ▸ Nat.not_le_of_lt hEarly
      simp [Call.condition, PgPublishOutboxRepository.claimable, hLater]
    | _ => simp [Call.condition, PgPublishOutboxRepository.inFlight, hStatus]
  · exact not_condition_of_ended (Or.inr (Or.inl hStatus))

/-- An edit that does not approve the job again leaves its row waiting, or cancels it. -/
theorem waits_edited {id : PostId} {post : PostRow} {operation : UserOperation}
    {next : Post} {f : SocialPublishJob → SocialPublishJob}
    (hEdit : Edit cfg s.db id post operation next f) {row : SocialPublishJob}
    (hRow : s.db.job? j = some row) (hMem : row ∈ PgPostRepository.jobsOf s.db id)
    (hNot : ¬ Reapproves s j operation) (hWaits : Waits time row) : Waits time (f row) := by
  cases hEdit with
  | update => exact hWaits
  | schedule _ hApproval =>
    have hPost : row.postId = id := (mem_jobsOf.mp hMem).2
    refine absurd ?_ hNot
    cases operation with
    | schedule | publishNow =>
      injection hApproval with hApproval
      injection hApproval with hId
      exact ⟨row, hRow, hPost.trans hId.symm⟩
    | _ => injection hApproval
  | cancel =>
    unfold PostService.cancelJob
    split
    · exact Or.inr rfl
    · exact hWaits
  | retry job =>
    unfold PostService.retryJob
    split
    · rename_i hId
      exact absurd (hId.symm.trans (job?_id hRow)) hNot
    · exact hWaits

/-- An operation that does not commit changes nothing. -/
theorem eq_of_not_commits {operation : UserOperation}
    (hStep : (publishingSystem cfg).step s (.user operation) = some t)
    (hNot : ∀ t, ¬ Commits cfg s operation t) : t = s := by
  have hLeft : PublishingState.userStep cfg s operation = t := Option.some.inj hStep
  unfold PublishingState.userStep at hLeft
  cases hPerform : operation.perform cfg s.clock s.db with
  | error e =>
    rw [hPerform] at hLeft
    exact hLeft.symm
  | ok result =>
    have hOk : (operation.perform cfg s.clock s.db).isOk = true := by
      simp [hPerform, Except.isOk, Except.toBool]
    obtain ⟨t', hCommits⟩ := commits_of_performs hOk
    exact absurd hCommits (hNot t')

/-- A held job stays held where it is not approved again. -/
theorem held_step (h : Held cfg j time s) (hGuard : NotReapproved cfg j s e)
    (hStep : (publishingSystem cfg).step s e = some t) : Held cfg j time t := by
  by_cases hReapproves : ∃ operation, e = .user operation ∧ Reapproves s j operation
  · obtain ⟨operation, rfl, hReapproves⟩ := hReapproves
    rw [eq_of_not_commits hStep fun t => hGuard operation t rfl hReapproves]
    exact h
  by_cases hDue : time ≤ s.clock
  · exact Or.inl (hDue.trans (clock_le_of_step hStep))
  obtain ⟨⟨row, hRow, hWaits⟩, hNot⟩ := h.resolve_left hDue
  have hKind := step_kind hStep
  obtain ⟨new, hNew, hChange⟩ := row_change hKind hRow
  refine Or.inr ⟨⟨new, hNew, ?_⟩, fun hAbout => ?_⟩
  · cases hChange with
    | same hSame => exact hSame ▸ hWaits
    | called _ _ _ _ hCond =>
      rw [not_condition_of_waits hWaits (Nat.lt_of_not_le hDue)] at hCond
      injection hCond
    | edited hEvent hEdit hMem hNext =>
      exact hNext ▸ waits_edited hEdit hRow hMem
        (fun hAgain => hReapproves ⟨_, hEvent, hAgain⟩) hWaits
  · rcases aboutToPublish_origin hKind hAbout with hBefore | ⟨row', hRow', hClaimed⟩
    · exact hNot hBefore
    · rw [hRow, Option.some.injEq] at hRow'
      subst hRow'
      rcases hWaits with ⟨hStatus, -⟩ | hStatus
      · rw [hStatus] at hClaimed
        injection hClaimed
      · rw [hStatus] at hClaimed
        injection hClaimed

/-- A job that waits for `time`, and that no execution is about to publish, does so. -/
theorem scheduled_stays (h : Held cfg j time t) : ScheduleHolds cfg t j time := by
  intro u e v hRun hStep hEarly hStarts
  have hHeld : Held cfg j time u :=
    hRun.invariant (fun _ _ _ hInv hGuard hMove => held_step hInv hGuard hMove) h
  rcases hHeld with hDue | ⟨-, hNot⟩
  · exact Nat.not_le_of_lt hEarly hDue
  · exact hNot (aboutToPublish_of_startsCall (step_kind hStep) hStarts)

end Schedule

/-! ## Exactly when -/

/-- An operation moves no execution. -/
theorem aboutToPublish_commits {cfg : Config} {s t : PublishingState}
    {operation : UserOperation} {j : JobId} (h : Commits cfg s operation t) :
    AboutToPublish cfg t j ↔ AboutToPublish cfg s j := by
  obtain ⟨record, db, -, rfl⟩ := h
  exact Iff.rfl

/-- **Cancel and schedule take effect** exactly where no execution stands between its marked
request for the job and `adapter.publish`: from the commit on, over every run, a cancelled job
starts no provider call, and a scheduled one none before its time, unless that is past or the
job is approved again. -/
theorem operations_take_effect {cfg : Config} {s : PublishingState}
    (hReach : Reachable (publishingSystem cfg) anyStep s) :
    (∀ ownerId id revision t, Commits cfg s (.cancel ownerId id revision) t →
      ∀ j old new, s.db.job? j = some old → t.db.job? j = some new →
      old.status ≠ .cancelled → new.status = .cancelled →
      (CancelHolds cfg t j ↔ ¬ AboutToPublish cfg s j)) ∧
    ∀ operation id revision time t, Commits cfg s operation t →
      operation.approval = some (id, revision) → operation.scheduledTime = some time →
      ∀ j old, s.db.job? j = some old → old.postId = id → old.status ≠ .cancelled →
      (ScheduleHolds cfg t j time ↔ time ≤ s.clock ∨ ¬ AboutToPublish cfg s j) := by
  refine ⟨fun ownerId id revision t hCommit j old new hOld hNew hBefore hAfter => ?_,
    fun operation id revision time t hCommit hApproval hTime j old hOld hPost hStatus => ?_⟩
  · rw [← aboutToPublish_commits hCommit]
    constructor
    · intro hHolds hAbout
      obtain ⟨i, u, hStep, hStarts⟩ := hAbout.starts 0
      exact hHolds t _ u .refl hStep hStarts
    · exact cancelled_stays (hReach.tail trivial hCommit.step) ⟨new, hNew, hAfter⟩
  · have hClock : t.clock = s.clock := by
      obtain ⟨record, db, -, rfl⟩ := hCommit
      rfl
    rw [← aboutToPublish_commits hCommit]
    constructor
    · intro hHolds
      by_contra hNot
      rw [not_or, not_not] at hNot
      obtain ⟨i, u, hStep, hStarts⟩ := hNot.2.starts 0
      exact hHolds t _ u .refl hStep (hClock ▸ Nat.lt_of_not_le hNot.1) hStarts
    · intro hCond
      refine scheduled_stays ?_
      rcases hCond with hDue | hNot
      · exact Or.inl (hClock ▸ hDue)
      · refine Or.inr ⟨?_, hNot⟩
        have hCarried : operation.carried = some (id, revision) := by
          cases operation with
          | schedule | publishNow => exact hApproval
          | _ => injection hApproval
        obtain ⟨row, next, f, hEdit, hMutated, -⟩ := hCommit.edited hCarried
        have hNew := hMutated.rows j
        rw [hOld, Option.map_some, if_pos hPost] at hNew
        refine ⟨f old, hNew, Or.inl ?_⟩
        cases hEdit with
        | schedule scheduledAt _ _ _ _ hTime' =>
          rw [hTime, Option.some.injEq] at hTime'
          subst hTime'
          unfold PostService.scheduleJob
          rw [if_neg hStatus]
          exact ⟨rfl, rfl⟩
        | _ => injection hApproval

/-- The first execution is about to publish job 1. -/
def firstAboutToPublish (cfg : Config) (s : PublishingState) : Bool :=
  (s.workers[0]?).any fun w =>
    match w.state with
    | .running (.publish claimed job) =>
      job.id = 1 && (match publishStart cfg claimed.post job with
        | .call _ _ => true
        | .settled _ => false)
    | _ => false

theorem aboutToPublish_of_first {cfg : Config} {s : PublishingState}
    (h : firstAboutToPublish cfg s = true) : AboutToPublish cfg s 1 := by
  obtain ⟨w, hWorker, h⟩ := (Option.any_eq_true _ _).mp h
  split at h
  · rename_i claimed job hState
    rw [Bool.and_eq_true] at h
    obtain ⟨hJob, h⟩ := h
    split at h
    · rename_i post request hStart
      exact ⟨0, w, claimed, job, post, request, hWorker, hState, of_decide_eq_true hJob, hStart⟩
    · injection h
  · injection h

/-- A cancellation commits that takes job 1 to cancelled. -/
def cancelsFirst (cfg : Config) (s : PublishingState) : Bool :=
  match UserOperation.perform cfg s.clock s.db (.cancel 100 0 2) with
  | .ok (_, db) => ((s.db.job? 1).any fun old => old.status ≠ .cancelled) &&
      (db.job? 1).any fun new => new.status = .cancelled
  | .error _ => false

theorem cancelled_of_first {cfg : Config} {s : PublishingState} (h : cancelsFirst cfg s = true) :
    ∃ t old new, Commits cfg s (.cancel 100 0 2) t ∧ s.db.job? 1 = some old ∧
      t.db.job? 1 = some new ∧ old.status ≠ .cancelled ∧ new.status = .cancelled := by
  unfold cancelsFirst at h
  split at h
  · rename_i record db hPerform
    rw [Bool.and_eq_true] at h
    obtain ⟨old, hOld, hBefore⟩ := (Option.any_eq_true _ _).mp h.1
    obtain ⟨new, hNew, hAfter⟩ := (Option.any_eq_true _ _).mp h.2
    refine ⟨{ s with db := db }, old, new, ⟨record, db, ?_, rfl⟩, hOld, hNew,
      of_decide_eq_true hBefore, of_decide_eq_true hAfter⟩
    rw [UserOperation.transaction_statements, hPerform]
  · injection h

theorem operations_take_effect_approved : ∃ s t,
    Commits (Installation.config false false) s (.cancel 100 0 2) t ∧
    (CancelHolds (Installation.config false false) t 1 ↔
      ¬ AboutToPublish (Installation.config false false) s 1) := by
  obtain ⟨s, hReach, hCancels⟩ := exists_reachable_of_run
    (publishingSystem (Installation.config false false)) anyStep
    (cancelsFirst (Installation.config false false)) Installation.approved
    (Installation.start_initial _) (by decide +kernel)
  obtain ⟨t, old, new, hCommit, hOld, hNew, hBefore, hAfter⟩ := cancelled_of_first hCancels
  exact ⟨s, t, hCommit, (operations_take_effect hReach).1 100 0 2 t hCommit 1 old new hOld hNew
    hBefore hAfter⟩

open Installation in
/-- Execution 0 marks its request and stalls. Its lease expires; execution 1 takes over,
repeats the request, and saves its rejection, which clears the request key. -/
def clearedBehind : List Event :=
  approved ++ [deliver, call 0, call 0, .tick 30001, deliver, call 1, .reconcile 1 noAnswer 31001,
    call 1, .publish 1 31001, .adapterReturns 1 (.error rateLimited) 31001, call 1]

/-- A job is published after its cancellation has committed. -/
theorem published_after_cancel :
    ¬ ∀ (cfg : Config) (s t : PublishingState) (ownerId : UserId) (id : PostId) (revision : Nat)
      (j : JobId) (old new : SocialPublishJob), Reachable (publishingSystem cfg) anyStep s →
      Commits cfg s (.cancel ownerId id revision) t → s.db.job? j = some old →
      t.db.job? j = some new → old.status ≠ .cancelled → new.status = .cancelled →
      CancelHolds cfg t j := by
  intro h
  obtain ⟨s, hReach, hEnd⟩ := exists_reachable_of_run
    (publishingSystem (Installation.config true false)) anyStep
    (fun s => cancelsFirst (Installation.config true false) s &&
      firstAboutToPublish (Installation.config true false) s) clearedBehind
    (Installation.start_initial _) (by decide +kernel)
  rw [Bool.and_eq_true] at hEnd
  obtain ⟨t, old, new, hCommit, hOld, hNew, hBefore, hAfter⟩ := cancelled_of_first hEnd.1
  have hHolds := h _ s t 100 0 2 1 old new hReach hCommit hOld hNew hBefore hAfter
  have hAbout := (aboutToPublish_commits hCommit).mpr (aboutToPublish_of_first hEnd.2)
  obtain ⟨i, u, hStep, hStarts⟩ := hAbout.starts 31001
  exact hHolds t _ u .refl hStep hStarts

end SocialPromotion
