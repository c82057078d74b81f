import SocialPromotion.Steps.Executions

/-!
# The life of a job row

The eight statuses are moved by the calls of any number of executions, some of them stale,
and by the operations of the API. This module proves, for every run:

* `lifecycle_reachable`: retry counts stay within the bounds that the CHECK constraints
  need, and what an execution carries from call to call is fit to be written;
* `lawful_change`: a publication that is confirmed or published stays as it is, a cancelled row
  too, and a failed one is retried or cancelled only without a request key;
* `recorded_reachable`: an execution that saves a publication holds the one the row has.
-/

namespace SocialPromotion

open LTS PublishWorkerProcessor PublishingService PgPublishOutboxRepository

/-! ## What is written is fit to be written -/

/-- The retry count of a row: at most three while the job can still be tried. -/
def BoundedRow (row : SocialPublishJob) : Prop :=
  row.retryCount ≤ 4 ∧
    (row.status ≠ .failed → row.status ≠ .cancelled → row.retryCount ≤ 3)

/-- A publication is known: the CHECK of a referenced status will hold. -/
def Referenced (job : SocialPublishJob) : Prop :=
  job.publishedAt.isSome ∧ job.remotePostId.isSome

/-- A failure count that a failed attempt may save. -/
def Counted (job : SocialPublishJob) (retryPending : Bool) : Prop :=
  1 ≤ job.retryCount ∧ job.retryCount ≤ 4 ∧ (retryPending = true → job.retryCount ≤ 3)

/-- What an execution for job `j` carries at each call. -/
def Sound (cfg : Config) (j : JobId) : Call → Prop
  | .claimPublishJob => True
  | .saveRecovered claimed => claimed.job.id = j ∧ Referenced claimed.job
  | .reconcileFirst claimed key | .markReconciled claimed key _ =>
    claimed.job.id = j ∧ claimed.job.remoteRequestKey = some key ∧
      claimed.job.retryCount ≤ 3 ∧ claimed.job.status ≠ .failed
  | .markRequest claimed key => claimed.job.id = j ∧
      (claimed.job.remoteRequestKey = none ∨ claimed.job.remoteRequestKey = some key ∧
        canSafelyRepeatRemoteRequest cfg claimed.job.platform = true)
  | .publish _ job | .adapterPublish _ job _ => job.id = j ∧ job.status = .remoteRequesting ∧
      job.remoteRequestKey.isSome ∧ job.retryCount ≤ 3
  | .reconcileAfter _ job failed => job.id = j ∧ failed.id = j ∧ failed.status = .failed ∧
      1 ≤ failed.retryCount ∧ failed.retryCount ≤ 4
  | .confirm _ job _ | .savePublished _ job _ => job.id = j ∧ Referenced job
  | .saveFailed _ job _ _ retryPending _ => job.id = j ∧ Counted job retryPending
  | .recordAmbiguous _ deferred retryPending _ => deferred.id = j ∧ Counted deferred retryPending

theorem Sound.target {cfg : Config} {j : JobId} {call : Call} {w : Worker}
    (hJob : w.publishJobId = j) (h : Sound cfg j call) : call.target w = j := by
  cases call with
  | claimPublishJob => exact hJob
  | reconcileAfter | publish | adapterPublish => exact h.1
  | _ => exact h.1

section Sound

variable {cfg : Config} {j : JobId}

/-- The count of a deferred outcome of a job that has not failed, or has failed once more. -/
theorem counted_deferredJob {job : SocialPublishJob}
    (h : job.status ≠ .failed ∧ job.retryCount ≤ 3 ∨
      job.status = .failed ∧ 1 ≤ job.retryCount ∧ job.retryCount ≤ 4) :
    Counted (deferredJob job) (decide ((deferredJob job).retryCount ≤ 3)) := by
  have hCount : (deferredJob job).retryCount =
      job.retryCount + if job.status = .failed then 0 else 1 := rfl
  refine ⟨?_, ?_, of_decide_eq_true⟩
  all_goals
    rcases h with ⟨hStatus, hLe⟩ | ⟨hStatus, hGe, hLe⟩
    · rw [hCount, if_neg hStatus]
      omega
    · rw [hCount, if_pos hStatus]
      omega

theorem sound_flow {call call' : Call} (h : Sound cfg j call)
    (hFlow : Flow cfg call (.running call')) : Sound cfg j call' := by
  cases hFlow with
  | reconciled => exact h
  | repeats hRepeat => exact ⟨h.1, Or.inr ⟨h.2.1, hRepeat⟩⟩
  | defersFirst => exact ⟨h.1, counted_deferredJob (Or.inl ⟨h.2.2.2, h.2.2.1⟩)⟩
  | calls => exact h
  | succeeds => exact ⟨h.1, rfl, rfl⟩
  | ambiguous hCall =>
    rcases hCall with rfl | ⟨n, rfl⟩
    all_goals exact ⟨h.1, h.1, rfl, Nat.le_add_left _ _, Nat.succ_le_succ h.2.2.2⟩
  | @fails _ claimed job failed error failure _ hCall hFailed =>
    have hJob : job.id = j ∧ job.status = .remoteRequesting ∧ job.remoteRequestKey.isSome ∧
        job.retryCount ≤ 3 := by
      rcases hCall with rfl | ⟨n, rfl⟩
      all_goals exact h
    rcases hFailed with ⟨code, message, rfl⟩ | ⟨-, hNot⟩
    · refine ⟨hJob.1, Nat.le_add_left _ _, Nat.succ_le_succ hJob.2.2.2, fun hRetry => ?_⟩
      exact (shouldRetryPublish_iff.mp hRetry).2
    · exact absurd ⟨hJob.2.1, hJob.2.2.1⟩ hNot
  | reconciledAfter => exact ⟨h.1, rfl, rfl⟩
  | defersAfter => exact ⟨h.2.1, counted_deferredJob (Or.inr h.2.2)⟩

/-- A row that can be claimed is still being tried. -/
theorem claimableStatus_cases {now : Time} {row : SocialPublishJob}
    (h : claimableStatus now row = true) : row.status = .waiting ∨ row.status = .retrying ∨
      row.status = .claimed ∨ row.status = .remoteRequesting ∨ row.status = .remoteConfirmed := by
  unfold claimableStatus at h
  split at h <;> simp_all

theorem BoundedRow.of_claimable {now : Time} {row : SocialPublishJob} (h : BoundedRow row)
    (hClaim : claimableStatus now row = true) : row.retryCount ≤ 3 := by
  refine h.2 ?_ ?_
  all_goals rcases claimableStatus_cases hClaim with hs | hs | hs | hs | hs <;> simp [hs]

theorem claimableStatus_of_claimable {db : Database} {now : Time}
    {queueJobId : Option QueueJobId} {row : SocialPublishJob}
    (h : claimable db now queueJobId row = true) : claimableStatus now row = true := by
  simp only [claimable, Bool.and_eq_true] at h
  exact h.2

theorem claimRow_status (leaseMs : Nat) (now : Time) (row : SocialPublishJob) :
    (claimRow leaseMs now row).status = .claimed ∧ row.status ≠ .remoteConfirmed ∨
      (claimRow leaseMs now row).status = .remoteConfirmed ∧ row.status = .remoteConfirmed := by
  by_cases hStatus : row.status = .remoteConfirmed
  · exact Or.inr ⟨if_pos hStatus, hStatus⟩
  · exact Or.inl ⟨if_neg hStatus, hStatus⟩

theorem claimRow_not_failed (leaseMs : Nat) (now : Time) (row : SocialPublishJob) :
    (claimRow leaseMs now row).status ≠ .failed := by
  rcases claimRow_status leaseMs now row with ⟨hs, -⟩ | ⟨hs, -⟩ <;> simp [hs]

/-- What an execution carries to its next call is fit to be written, since the row it has just written
met the constraints. -/
theorem sound_continues {w : Worker} {now : Time} {db : Database} {call call' : Call}
    {old : SocialPublishJob} (h : Sound cfg w.publishJobId call) (hBound : BoundedRow old)
    (hId : old.id = call.target w) (hCond : call.condition w now db old = true)
    (hChecks : (call.set w now old).Checks)
    (hNext : Continues w call (call.set w now old) (.running call')) :
    Sound cfg w.publishJobId call' := by
  generalize hNew : call.set w now old = new at hChecks hNext
  cases hNext with
  | recovers post hStatus hRemote hPublished =>
    subst hNew
    refine ⟨hId, hPublished, ?_⟩
    obtain ⟨id, hSome, -⟩ := Option.any_eq_true _ _ |>.mp hRemote
    exact Option.isSome_iff_exists.mpr ⟨id, hSome⟩
  | reconciles post hKey =>
    subst hNew
    exact ⟨hId, hKey, hBound.of_claimable (claimableStatus_of_claimable hCond),
      claimRow_not_failed _ _ _⟩
  | requests post hKey =>
    subst hNew
    exact ⟨hId, Or.inl hKey⟩
  | confirms =>
    subst hNew
    exact ⟨hId.trans h.1, rfl, rfl⟩
  | publishes =>
    subst hNew
    refine ⟨hId.trans h.1, rfl, rfl, hBound.2 ?_ ?_⟩
    all_goals
      simp only [Call.condition, decide_eq_true_eq] at hCond
      simp [hCond.1]
  | saves =>
    subst hNew
    exact ⟨hId.trans h.1, hChecks.remoteReference (Or.inl rfl)⟩

end Sound

/-! ## Retry counts -/

section Bounds

variable {cfg : Config} {s s' : PublishingState} {e : Event} {j : JobId}
  {old new : SocialPublishJob}

/-- A call writes a count that the CHECK constraints admit. -/
theorem bounded_called {w : Worker} {call : Call} (h : BoundedRow old)
    (hSound : Sound cfg w.publishJobId call)
    (hCond : call.condition w s.clock s.db old = true) :
    BoundedRow (call.set w s.clock old) := by
  -- the row of a call in flight is still being tried
  have hFlight : inFlight old = true → old.retryCount ≤ 3 := by
    intro hFlight
    simp only [inFlight, decide_eq_true_eq] at hFlight
    exact h.2 (by rcases hFlight with hs | hs <;> simp [hs])
      (by rcases hFlight with hs | hs <;> simp [hs])
  cases call with
  | claimPublishJob =>
    have hLe := h.of_claimable (claimableStatus_of_claimable hCond)
    exact ⟨h.1, fun _ _ => hLe⟩
  | saveRecovered | savePublished | confirm =>
    simp only [Call.condition, decide_eq_true_eq] at hCond
    have hLe := h.2 (by simp [hCond]) (by simp [hCond])
    exact ⟨h.1, fun _ _ => hLe⟩
  | markReconciled | markRequest =>
    simp only [Call.condition, decide_eq_true_eq] at hCond
    have hLe := h.2 (by simp [hCond.1]) (by simp [hCond.1])
    exact ⟨h.1, fun _ _ => hLe⟩
  | saveFailed claimed job error failure retryPending nextRetryAt =>
    refine ⟨hSound.2.2.1, fun hNotFailed _ => hSound.2.2.2 ?_⟩
    by_contra hTerminal
    simp [Call.set, failedRow, hTerminal] at hNotFailed
  | recordAmbiguous claimed deferred retryPending nextRetryAt =>
    refine ⟨hSound.2.2.1, fun hNotFailed _ => hSound.2.2.2 ?_⟩
    by_contra hTerminal
    simp [Call.set, ambiguousRow, hTerminal] at hNotFailed
  | reconcileFirst | publish | adapterPublish | reconcileAfter => exact h

theorem bounded_edited {db : Database} {id : PostId} {row : PostRow}
    {operation : UserOperation} {next : Post} {f : SocialPublishJob → SocialPublishJob}
    (h : BoundedRow old) (hEdit : Edit cfg db id row operation next f)
    (hMem : old ∈ PgPostRepository.jobsOf db id) : BoundedRow (f old) := by
  cases hEdit with
  | update => exact h
  | schedule scheduledAt _ hOpen =>
    have hNot := hOpen old hMem
    unfold PostService.scheduleJob
    split
    · exact h
    · rename_i hActive
      refine ⟨h.1, fun _ _ => h.2 ?_ hActive⟩
      -- only a waiting job is rescheduled
      intro hFailed
      simp [PostService.blocksSchedule, hFailed] at hNot
  | cancel =>
    unfold PostService.cancelJob
    split
    · exact ⟨h.1, fun _ hNot => absurd rfl hNot⟩
    · exact h
  | retry =>
    unfold PostService.retryJob
    split
    · exact ⟨Nat.zero_le _, fun _ _ => Nat.zero_le _⟩
    · exact h

theorem bounded_change (h : BoundedRow old) (hCalls : Pending (Sound cfg) s)
    (hChange : RowChange cfg s e old new) : BoundedRow new := by
  cases hChange with
  | same hSame => exact hSame ▸ h
  | called _ hWorker hState _ hCond hNew =>
    exact hNew ▸ bounded_called h (hCalls.running hWorker hState) hCond
  | edited _ hEdit hMem hNew => exact hNew ▸ bounded_edited h hEdit hMem

end Bounds

/-- Retry counts are bounded, and pending calls carry what may be written. -/
structure Lifecycle (cfg : Config) (s : PublishingState) : Prop where
  rows : ∀ j row, s.db.job? j = some row → BoundedRow row
  calls : Pending (Sound cfg) s

theorem lifecycle_initial {cfg : Config} {s : PublishingState}
    (h : (publishingSystem cfg).Initial s) : Lifecycle cfg s := by
  obtain ⟨⟨campaigns, accounts, hDb⟩, -, hWorkers, -⟩ := h
  refine ⟨fun j row hRow => ?_, fun k w call hGet => ?_⟩
  · rw [hDb] at hRow
    injection hRow
  · rw [hWorkers] at hGet
    injection hGet

theorem lifecycle_step {cfg : Config} {s s' : PublishingState} {e : Event}
    (h : Lifecycle cfg s) (hStep : (publishingSystem cfg).step s e = some s') :
    Lifecycle cfg s' := by
  have hKind := step_kind hStep
  refine ⟨fun j row hRow => ?_, h.calls.step hKind (fun _ _ => id) (fun _ => trivial) ?_ ?_⟩
  · rcases row_origin hKind hRow with ⟨old, hOld, hChange⟩ | ⟨-, post, target, -, rfl⟩
    · exact bounded_change (h.rows j old hOld) h.calls hChange
    · exact ⟨Nat.zero_le _, fun _ _ => Nat.zero_le _⟩
  · exact fun j call call' hP hFlow => sound_flow hP hFlow
  · intro k w call old call' _ _ hP hCond hChecks hWritten hNext
    exact sound_continues hP (h.rows _ old hWritten.found) (Database.job?_id hWritten.found)
      hCond hChecks hNext

/-- The lifecycle invariant holds in every run. -/
theorem lifecycle_reachable {cfg : Config} {ok : PublishingState → Event → Prop}
    {s : PublishingState} (h : Reachable (publishingSystem cfg) ok s) : Lifecycle cfg s :=
  h.invariant (fun _ => lifecycle_initial) fun _ _ _ hInv _ => lifecycle_step hInv

/-! ## Confirmed publications -/

/-- The remote publication of a row is known. -/
def Confirmed (row : SocialPublishJob) : Prop :=
  row.status = .remoteConfirmed ∨ row.status = .published

def SamePublication (row job : SocialPublishJob) : Prop :=
  row.remotePostId = job.remotePostId ∧ row.publishedAt = job.publishedAt

/-- An execution about to save a publication of job `j` holds the one its row has. -/
def Recorded (db : Database) (j : JobId) : Call → Prop
  | .saveRecovered claimed =>
    ∃ row, db.job? j = some row ∧ Confirmed row ∧ SamePublication row claimed.job
  | .savePublished _ job _ => ∃ row, db.job? j = some row ∧ Confirmed row ∧ SamePublication row job
  | _ => True

/-- How a step may change a row, for the statuses that bind it. -/
structure LawfulChange (e : Event) (old new : SocialPublishJob) : Prop where
  confirmed : old.status = .remoteConfirmed →
    (new.status = .remoteConfirmed ∨ new.status = .published) ∧ SamePublication new old
  published : old.status = .published → new = old
  cancelled : old.status = .cancelled → new = old
  failed : old.status = .failed → new.status ≠ .failed → old.remoteRequestKey = none ∧
    ∃ ownerId postId revision, e = .user (.cancel ownerId postId revision) ∨
      ∃ date, e = .user (.retry ownerId postId old.id revision date)

theorem LawfulChange.same (e : Event) (row : SocialPublishJob) : LawfulChange e row row where
  confirmed h := ⟨Or.inl h, rfl, rfl⟩
  published _ := rfl
  cancelled _ := rfl
  failed h hNot := absurd h hNot

section Lawful

variable {cfg : Config} {s s' : PublishingState} {e : Event} {j : JobId}
  {old new : SocialPublishJob}

/-- Nothing claims a row whose publication has ended. -/
theorem not_claimable_of_ended {db : Database} {now : Time} {queueJobId : Option QueueJobId}
    (hStatus : old.status = .published ∨ old.status = .cancelled ∨ old.status = .failed) :
    claimable db now queueJobId old = false := by
  refine Bool.eq_false_of_not_eq_true fun hClaim => ?_
  have hCases := claimableStatus_cases (claimableStatus_of_claimable hClaim)
  rcases hStatus with hs | hs | hs <;> simp [hs] at hCases

/-- A repository call touches no row that has ended. -/
theorem not_condition_of_ended {w : Worker} {now : Time} {db : Database} {call : Call}
    (hStatus : old.status = .published ∨ old.status = .cancelled ∨ old.status = .failed) :
    call.condition w now db old = false := by
  cases call with
  | claimPublishJob => exact not_claimable_of_ended hStatus
  | _ =>
    rcases hStatus with hs | hs | hs <;> simp [Call.condition, inFlight, hs]

theorem lawful_called {w : Worker} {call : Call}
    (hRecorded : Recorded s.db old.id call) (hOld : s.db.job? old.id = some old)
    (hCond : call.condition w s.clock s.db old = true) :
    LawfulChange e old (call.set w s.clock old) := by
  -- only the first clause is left: a call touches no row that has ended
  have hEnded : ¬ (old.status = .published ∨ old.status = .cancelled ∨ old.status = .failed) := by
    intro hStatus
    rw [not_condition_of_ended hStatus] at hCond
    injection hCond
  refine ⟨fun hStatus => ?_, fun h => absurd (Or.inl h) hEnded,
    fun h => absurd (Or.inr (Or.inl h)) hEnded, fun h => absurd (Or.inr (Or.inr h)) hEnded⟩
  have hSaves : ∀ job, (∃ row, s.db.job? old.id = some row ∧ Confirmed row ∧
      SamePublication row job) → SamePublication (publishedRow job old) old := by
    rintro job ⟨row, hRow, -, hSame⟩
    rw [hOld, Option.some.injEq] at hRow
    exact hRow ▸ ⟨hSame.1.symm, hSame.2.symm⟩
  cases call with
  | claimPublishJob => exact ⟨Or.inl (if_pos hStatus), rfl, rfl⟩
  | saveRecovered claimed => exact ⟨Or.inr rfl, hSaves _ hRecorded⟩
  | savePublished claimed job result => exact ⟨Or.inr rfl, hSaves _ hRecorded⟩
  | reconcileFirst | publish | adapterPublish | reconcileAfter => injection hCond
  | _ => simp [Call.condition, inFlight, hStatus] at hCond

/-- Under the lock of its post, a job is known by its id. -/
theorem eq_of_mem_jobsOf {db : Database} {id : PostId} {job job' : SocialPublishJob}
    (h : job ∈ PgPostRepository.jobsOf db id) (h' : job' ∈ PgPostRepository.jobsOf db id)
    (hId : job.id = job'.id) : job = job' := by
  have hJob := (mem_jobsOf.mp h).1
  rw [hId, (mem_jobsOf.mp h').1, Option.some.injEq] at hJob
  exact hJob.symm

/-- An operation of the user leaves what is published, confirmed or under a request. -/
theorem lawful_edited {db : Database} {id : PostId} {row : PostRow}
    {operation : UserOperation} {next : Post} {f : SocialPublishJob → SocialPublishJob}
    (hEdit : Edit cfg db id row operation next f)
    (hMem : old ∈ PgPostRepository.jobsOf db id) :
    LawfulChange (.user operation) old (f old) := by
  cases hEdit with
  | update => exact .same _ _
  | schedule scheduledAt _ hOpen =>
    have hNot := hOpen old hMem
    by_cases hCancelled : old.status = .cancelled
    · rw [show PostService.scheduleJob scheduledAt old = old from if_pos hCancelled]
      exact .same _ _
    · -- any other status but waiting blocks the schedule
      have hWaiting : old.status = .waiting := by
        by_contra hActive
        simp [PostService.blocksSchedule, hActive, hCancelled] at hNot
      exact ⟨by simp [hWaiting], by simp [hWaiting], by simp [hWaiting], by simp [hWaiting]⟩
  | @cancel ownerId hOpen =>
    have hNot := hOpen old hMem
    by_cases hOpenStatus : old.status = .waiting ∨ old.status = .retrying ∨ old.status = .failed
    · refine ⟨?_, ?_, ?_, fun hFailed _ => ⟨?_, ownerId, id, row.revision, Or.inl rfl⟩⟩
      · rcases hOpenStatus with hs | hs | hs <;> simp [hs]
      · rcases hOpenStatus with hs | hs | hs <;> simp [hs]
      · rcases hOpenStatus with hs | hs | hs <;> simp [hs]
      · simp only [PostService.blocksCancel, decide_eq_false_iff_not] at hNot
        by_contra hKey
        refine hNot (Or.inr ⟨Option.isSome_iff_ne_none.mpr hKey, ?_⟩)
        simp [hFailed]
    · rw [show PostService.cancelJob old = old from if_neg hOpenStatus]
      exact .same _ _
  | @retry ownerId date job hJob hOpen =>
    by_cases hId : old.id = job.id
    · have hSame := eq_of_mem_jobsOf hMem hJob hId
      subst hSame
      simp only [PostService.blocksRetry, decide_eq_false_iff_not, not_or, not_not] at hOpen
      obtain ⟨hFailed, hKey, -⟩ := hOpen
      refine ⟨by simp [hFailed], by simp [hFailed], by simp [hFailed], fun _ _ => ⟨?_, ownerId, id,
        row.revision, Or.inr ⟨date, rfl⟩⟩⟩
      exact Option.not_isSome_iff_eq_none.mp hKey
    · rw [show PostService.retryJob job.id date old = old from if_neg hId]
      exact .same _ _

/-- **Every change of a row** is lawful, given what the executions hold. -/
theorem lawful_change (hCalls : Pending (Sound cfg) s) (hRecorded : Pending (Recorded s.db) s)
    (hOld : s.db.job? j = some old) (hChange : RowChange cfg s e old new) :
    LawfulChange e old new := by
  have hId : old.id = j := Database.job?_id hOld
  cases hChange with
  | same hSame => exact hSame ▸ .same e old
  | called _ hWorker hState hTarget hCond hNew =>
    have hJob := (hCalls.running hWorker hState).target rfl
    have hRec := hRecorded.running hWorker hState
    rw [← hJob, hTarget] at hRec
    exact hNew ▸ lawful_called hRec (hId ▸ hOld) hCond
  | edited hEvent hEdit hMem hNew => exact hEvent ▸ hNew ▸ lawful_edited hEdit hMem

theorem LawfulChange.confirmed_kept (h : LawfulChange e old new) (hOld : Confirmed old) :
    Confirmed new ∧ SamePublication new old := by
  rcases hOld with hStatus | hStatus
  · exact h.confirmed hStatus
  · rw [h.published hStatus]
    exact ⟨Or.inr hStatus, rfl, rfl⟩

theorem recorded_kept {call : Call} (hKind : StepKind cfg s e s')
    (hCalls : Pending (Sound cfg) s) (hRecorded : Pending (Recorded s.db) s)
    (h : Recorded s.db j call) : Recorded s'.db j call := by
  have hKept : ∀ job, (∃ row, s.db.job? j = some row ∧ Confirmed row ∧ SamePublication row job) →
      ∃ row, s'.db.job? j = some row ∧ Confirmed row ∧ SamePublication row job := by
    rintro job ⟨row, hRow, hConfirmed, hSame⟩
    obtain ⟨new, hNew, hChange⟩ := row_change hKind hRow
    obtain ⟨hConfirmed', hSame'⟩ :=
      (lawful_change hCalls hRecorded hRow hChange).confirmed_kept hConfirmed
    exact ⟨new, hNew, hConfirmed', hSame'.1.trans hSame.1, hSame'.2.trans hSame.2⟩
  cases call with
  | saveRecovered => exact hKept _ h
  | savePublished => exact hKept _ h
  | _ => trivial

end Lawful

/-- In every run, an execution that saves a publication holds the one the row has. -/
theorem recorded_reachable {cfg : Config} {ok : PublishingState → Event → Prop}
    {s : PublishingState} (h : Reachable (publishingSystem cfg) ok s) :
    Pending (Recorded s.db) s := by
  refine h.invariant_of (I := fun s => Pending (Recorded s.db) s) (fun s hInit => ?_)
    fun s e t hReach hRecorded _ hStep => ?_
  · intro k w call hGet
    rw [hInit.2.2.1] at hGet
    injection hGet
  · have hKind := step_kind hStep
    have hCalls := (lifecycle_reachable hReach).calls
    refine hRecorded.step hKind (fun j call => recorded_kept hKind hCalls hRecorded)
      (fun _ => trivial) (fun j call call' _ hFlow => ?_) ?_
    · cases hFlow <;> trivial
    · intro k w call old call' hWorker hState _ _ _ hWritten hNext
      have hRow := hWritten.rows (call.target w)
      rw [if_pos rfl, (hCalls.running hWorker hState).target rfl] at hRow
      cases hNext with
      | recovers post hStatus => exact ⟨_, hRow, Or.inl hStatus, rfl, rfl⟩
      | saves => exact ⟨_, hRow, Or.inl rfl, rfl, rfl⟩
      | _ => trivial

end SocialPromotion
