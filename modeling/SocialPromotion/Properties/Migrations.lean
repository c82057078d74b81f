import Mathlib.Data.Finmap
import SocialPromotion.Model.Migrations
import SocialPromotion.Properties.CrashRecovery

/-!
# Jobs that are in flight at a migration

Migrations 010 and 013 map the old statuses of a job to new ones, and the new state machine
asks more of a row than its status.

* `stranded_forever`: a retrying row without a time, or a claimed one without a lease, is
  never claimed again;
* `keyless_claim_publishes`: a claimed row with a lease and no request key is published
  without any reconciliation once its lease has expired;
* `in_flight_survive_iff`: hence the rows that survive the migrations are these and no others.
-/

namespace SocialPromotion

open LTS PublishWorkerProcessor PublishingService PgPublishOutboxRepository

/-! ## What is asked of the migrations -/

/-- At some later time the row of the job satisfies the status condition of
`claimPublishJob`. -/
def ClaimedLater (cfg : Config) (s : PublishingState) (j : JobId) : Prop :=
  ∃ t row, Steps (publishingSystem cfg) anyStep s t ∧ t.db.job? j = some row ∧
    claimableStatus t.clock row = true

/-- Every execution that is about to call `adapter.publish` for the job has claimed it with a
request key, so that it has reconciled first. -/
def ReconciledFirst (cfg : Config) (s : PublishingState) (j : JobId) : Prop :=
  ∀ (t : PublishingState) (i : Nat) (w : Worker) (claimed : ClaimedPublishJob)
    (job : SocialPublishJob) (post : SocialPost) (request : PublishRequest),
    Steps (publishingSystem cfg) anyStep s t → t.workers[i]? = some w →
    w.state = .running (.publish claimed job) → job.id = j →
    publishStart cfg claimed.post job = .call post request → claimed.job.remoteRequestKey.isSome

/-- The jobs in flight can be claimed again, and those whose provider write may have been sent
are not published without reconciliation. -/
def Survive (cfg : Config) (s : PublishingState) (inFlight sent : JobId → Prop) : Prop :=
  (∀ j, inFlight j → ClaimedLater cfg s j) ∧ ∀ j, sent j → ReconciledFirst cfg s j

def LegacyTables.InFlight (old : LegacyTables) (j : JobId) : Prop :=
  ∃ job, old.jobs.lookup j = some job ∧ job.status ≠ .succeeded ∧ job.status ≠ .failed ∧
    job.status ≠ .cancelled

def LegacyTables.Sent (old : LegacyTables) (j : JobId) : Prop :=
  ∃ job, old.jobs.lookup j = some job ∧ job.status = .publishing

def InterimTables.InFlight (old : InterimTables) (j : JobId) : Prop :=
  ∃ job, old.jobs.lookup j = some job ∧ job.status ≠ .published ∧ job.status ≠ .failed ∧
    job.status ≠ .cancelled

def InterimTables.Sent (old : InterimTables) (j : JobId) : Prop :=
  ∃ job, old.jobs.lookup j = some job ∧ job.status = .processing

/-! ## The job an execution works on -/

/-- The jobs that a call carries are job `j`. -/
def Aimed (j : JobId) : Call → Prop
  | .claimPublishJob => True
  | .saveRecovered claimed | .reconcileFirst claimed _ | .markReconciled claimed _ _
  | .markRequest claimed _ => claimed.job.id = j
  | .publish _ job | .adapterPublish _ job _ | .confirm _ job _ | .savePublished _ job _
  | .saveFailed _ job _ _ _ _ => job.id = j
  | .reconcileAfter _ job failed => job.id = j ∧ failed.id = j
  | .recordAmbiguous _ deferred _ _ => deferred.id = j

section Aimed

variable {cfg : Config} {s t : PublishingState} {e : Event} {j : JobId}

theorem Aimed.target {call : Call} {w : Worker} (h : Aimed w.publishJobId call) :
    call.target w = w.publishJobId := by
  cases call with
  | claimPublishJob => rfl
  | reconcileAfter => exact h.1
  | _ => exact h

theorem aimed_flow {call call' : Call} (h : Aimed j call)
    (hFlow : Flow cfg call (.running call')) : Aimed j call' := by
  cases hFlow with
  | ambiguous hCall => rcases hCall with rfl | ⟨n, rfl⟩ <;> exact ⟨h, h⟩
  | @fails _ claimed job failed _ _ _ hCall hFailed =>
    have hId : failed.id = job.id := by
      rcases hFailed with ⟨code, message, rfl⟩ | ⟨rfl, -⟩ <;> rfl
    rcases hCall with rfl | ⟨n, rfl⟩ <;> exact hId.trans h
  | reconciledAfter => exact h.1
  | defersAfter => exact h.2
  | _ => exact h

theorem aimed_continues {w : Worker} {call call' : Call} {new : SocialPublishJob}
    (h : Aimed w.publishJobId call) (hId : new.id = call.target w)
    (hNext : Continues w call new (.running call')) : Aimed w.publishJobId call' := by
  cases hNext <;> exact hId.trans h.target

end Aimed

/-! ## Jobs that cannot be claimed -/

/-- Calls work on their own jobs, and only claims are pending for those in `held`. -/
def OnlyClaims (held : JobId → Prop) (s : PublishingState) : Prop :=
  Pending (fun j call => Aimed j call ∧ (held j → call = .claimPublishJob)) s

section OnlyClaims

variable {cfg : Config} {s t : PublishingState} {e : Event} {j : JobId}
  {held held' : JobId → Prop}

/-- No row of a held job satisfies the condition of a claim. -/
def Unclaimable (held : JobId → Prop) (s : PublishingState) : Prop :=
  ∀ j row queueJobId, held j → s.db.job? j = some row →
    claimable s.db s.clock queueJobId row = false

theorem onlyClaims_step (hKind : StepKind cfg s e t) (h : OnlyClaims held s)
    (hHeld : Unclaimable held s) (hFewer : ∀ j, held' j → held j) : OnlyClaims held' t := by
  refine Pending.step hKind h (fun j call hP => ⟨hP.1, fun hj => hP.2 (hFewer j hj)⟩)
    (fun j => ⟨trivial, fun _ => rfl⟩) (fun j call call' hP hFlow => ?_) ?_
  · refine ⟨aimed_flow hP.1 hFlow, fun hj => ?_⟩
    obtain rfl := hP.2 (hFewer j hj)
    -- nothing follows a claim but by its answer
    cases hFlow with
    | ambiguous hCall => rcases hCall with hCall | ⟨n, hCall⟩ <;> injection hCall
    | fails _ hCall => rcases hCall with hCall | ⟨n, hCall⟩ <;> injection hCall
  · intro k w call row call' _ _ hP hCond _ hWritten hNext
    have hId : (call.set w s.clock row).id = call.target w :=
      (call.set_id w s.clock row).trans (Database.job?_id hWritten.found)
    refine ⟨aimed_continues hP.1 hId hNext, fun hj => ?_⟩
    obtain rfl := hP.2 (hFewer _ hj)
    have hNot := hHeld _ row w.queueJobId (hFewer _ hj) hWritten.found
    rw [show claimable s.db s.clock w.queueJobId row = true from hCond] at hNot
    injection hNot

/-- The row of a held job is changed by operations of the API alone. -/
theorem held_change (h : OnlyClaims held s) (hHeld : Unclaimable held s) (hj : held j)
    {old new : SocialPublishJob} (hOld : s.db.job? j = some old)
    (hChange : RowChange cfg s e old new) : new = old ∨
      ∃ operation id row next f, Edit cfg s.db id row operation next f ∧
        old ∈ PgPostRepository.jobsOf s.db id ∧ new = f old := by
  cases hChange with
  | same hSame => exact Or.inl hSame
  | edited _ hEdit hMem hNew => exact Or.inr ⟨_, _, _, _, _, hEdit, hMem, hNew⟩
  | @called i result w call _ hWorker hState hTarget hCond =>
    exfalso
    obtain ⟨hAimed, hClaim⟩ := h.running hWorker hState
    have hJob : w.publishJobId = j := by
      rw [← hAimed.target, hTarget]
      exact Database.job?_id hOld
    obtain rfl := hClaim (hJob ▸ hj)
    have hNot := hHeld j old w.queueJobId hj hOld
    rw [show claimable s.db s.clock w.queueJobId old = true from hCond] at hNot
    injection hNot

theorem onlyClaims_resumed (held : JobId → Prop) (h : s.workers = []) : OnlyClaims held s := by
  intro k w call hGet
  rw [h] at hGet
  injection hGet

/-- No execution publishes a held job. -/
theorem OnlyClaims.not_publishing (h : OnlyClaims held s) {i : Nat} {w : Worker}
    {claimed : ClaimedPublishJob} {job : SocialPublishJob} (hWorker : s.workers[i]? = some w)
    (hState : w.state = .running (.publish claimed job)) : ¬ held job.id := by
  intro hj
  obtain ⟨hAimed, hClaim⟩ := h.running hWorker hState
  have hJob : job.id = w.publishJobId := hAimed
  injection hClaim (hJob ▸ hj)

end OnlyClaims

/-! ## Stranded rows -/

/-- The row waits for a time that it does not have, or is cancelled. -/
def Stranded (row : SocialPublishJob) : Prop :=
  row.status = .retrying ∧ row.nextRetryAt = none ∨
    row.status = .claimed ∧ row.leaseExpiresAt = none ∨ row.status = .cancelled

section Stranded

variable {cfg : Config} {s t : PublishingState} {e : Event} {j : JobId}
  {row : SocialPublishJob}

theorem Stranded.not_claimableStatus (h : Stranded row) (now : Time) :
    claimableStatus now row = false := by
  rcases h with ⟨hStatus, hTime⟩ | ⟨hStatus, hTime⟩ | hStatus
  · simp [claimableStatus, hStatus, hTime, due]
  · simp [claimableStatus, hStatus, hTime, due]
  · simp [claimableStatus, hStatus]

/-- An operation leaves a stranded row alone or cancels it. -/
theorem Stranded.edited {db : Database} {id : PostId} {post : PostRow}
    {operation : UserOperation} {next : Post} {f : SocialPublishJob → SocialPublishJob}
    (h : Stranded row) (hEdit : Edit cfg db id post operation next f)
    (hMem : row ∈ PgPostRepository.jobsOf db id) : Stranded (f row) := by
  cases hEdit with
  | update => exact h
  | schedule scheduledAt _ hOpen =>
    have hNot := hOpen row hMem
    have hCancelled : row.status = .cancelled := by
      rcases h with ⟨hs, -⟩ | ⟨hs, -⟩ | hs
      · simp [PostService.blocksSchedule, hs] at hNot
      · simp [PostService.blocksSchedule, hs] at hNot
      · exact hs
    rwa [show PostService.scheduleJob scheduledAt row = row from if_pos hCancelled]
  | cancel =>
    unfold PostService.cancelJob
    split
    · exact Or.inr (Or.inr rfl)
    · exact h
  | @retry _ date job hJob hOpen =>
    have hNot : row.id ≠ job.id := by
      intro hId
      obtain rfl := eq_of_mem_jobsOf hMem hJob hId
      rcases h with ⟨hs, -⟩ | ⟨hs, -⟩ | hs <;> simp [PostService.blocksRetry, hs] at hOpen
    rwa [show PostService.retryJob job.id date row = row from if_neg hNot]

/-- **A stranded row** is never claimed, in any run of the resumed system. -/
theorem stranded_forever (h : Steps (publishingSystem cfg) anyStep s t) (hWorkers : s.workers = [])
    (hRow : s.db.job? j = some row) (hStranded : Stranded row) :
    OnlyClaims (· = j) t ∧ ∃ row, t.db.job? j = some row ∧ Stranded row := by
  refine h.invariant (I := fun t => OnlyClaims (· = j) t ∧ ∃ row, t.db.job? j = some row ∧
    Stranded row) (fun u e v hInv _ hStep => ?_) ⟨onlyClaims_resumed _ hWorkers, row, hRow,
    hStranded⟩
  obtain ⟨hOnly, old, hOld, hStrandedOld⟩ := hInv
  have hKind := step_kind hStep
  have hHeld : Unclaimable (· = j) u := by
    rintro _ before queueJobId rfl hBefore
    rw [hOld, Option.some.injEq] at hBefore
    refine Bool.eq_false_of_not_eq_true fun hClaim => ?_
    have hStatus := claimableStatus_of_claimable hClaim
    rw [← hBefore, hStrandedOld.not_claimableStatus] at hStatus
    injection hStatus
  obtain ⟨new, hNew, hChange⟩ := row_change hKind hOld
  refine ⟨onlyClaims_step hKind hOnly hHeld fun _ => id, new, hNew, ?_⟩
  rcases held_change hOnly hHeld rfl hOld hChange with rfl | ⟨_, _, _, _, f, hEdit, hMem, rfl⟩
  · exact hStrandedOld
  · exact hStrandedOld.edited hEdit hMem

/-- A stranded row is lost to the publishers. -/
theorem not_claimedLater_of_stranded (hWorkers : s.workers = [])
    (hRow : s.db.job? j = some row) (hStranded : Stranded row) : ¬ ClaimedLater cfg s j := by
  rintro ⟨t, old, hSteps, hOld, hClaim⟩
  obtain ⟨-, new, hNew, hStrandedNew⟩ := stranded_forever hSteps hWorkers hRow hStranded
  rw [hNew, Option.some.injEq] at hOld
  rw [← hOld, hStrandedNew.not_claimableStatus] at hClaim
  injection hClaim

/-- Once time has passed, the status condition holds of a waiting row and of one with the
time it waits for. -/
theorem claimedLater_of_timed (hRow : s.db.job? j = some row)
    (hTimed : row.status = .waiting ∨ row.status = .retrying ∧ row.nextRetryAt.isSome ∨
      row.status = .claimed ∧ row.leaseExpiresAt.isSome) : ClaimedLater cfg s j := by
  have hTick : ∀ ms, Steps (publishingSystem cfg) anyStep s { s with clock := s.clock + ms } :=
    fun ms => .single (e := .tick ms) trivial rfl
  rcases hTimed with hStatus | ⟨hStatus, hTime⟩ | ⟨hStatus, hTime⟩
  · exact ⟨s, row, .refl, hRow, by simp [claimableStatus, hStatus]⟩
  · obtain ⟨time, hTime⟩ := Option.isSome_iff_exists.mp hTime
    exact ⟨_, row, hTick time, hRow, by simp [claimableStatus, hStatus, hTime, due]⟩
  · obtain ⟨time, hTime⟩ := Option.isSome_iff_exists.mp hTime
    exact ⟨_, row, hTick time, hRow, by simp [claimableStatus, hStatus, hTime, due]⟩

end Stranded

/-! ## Claimed rows without a request key -/

/-- The post is a draft, one of its jobs is claimed, and none of them can be retried. -/
structure HeldDraft (p : PostId) (s : PublishingState) : Prop where
  draft : s.db.postStatus? p = some .draft
  claimed : ∃ j row, s.db.job? j = some row ∧ row.postId = p ∧ row.status = .claimed
  failed : ∀ j row, s.db.job? j = some row → row.postId = p → PostService.blocksRetry row = true

/-- The jobs with this id, if there are any, belong to the post. -/
def JobOf (s : PublishingState) (p : PostId) (j : JobId) : Prop :=
  ∀ row, s.db.job? j = some row → row.postId = p

section Draft

variable {cfg : Config} {s t : PublishingState} {e : Event} {p : PostId} {j : JobId}

theorem HeldDraft.unclaimable (h : HeldDraft p s) : Unclaimable (JobOf s p) s := by
  intro j row queueJobId hj hRow
  refine Bool.eq_false_of_not_eq_true fun hClaim => ?_
  obtain ⟨post, hPost, hNotDraft⟩ := exists_post_of_claimable hClaim
  have hDraft := h.draft
  rw [Database.postStatus?, ← hj row hRow, hPost] at hDraft
  exact hNotDraft (Option.some.inj hDraft)

/-- The only operation that goes through on such a post edits its text. -/
theorem HeldDraft.edited (h : HeldDraft p s) {post : PostRow} {operation : UserOperation}
    {next : Post} {f : SocialPublishJob → SocialPublishJob}
    (hEdit : Edit cfg s.db p post operation next f) :
    next.status = post.status ∧ ∀ row, f row = row := by
  obtain ⟨j, row, hRow, hOf, hClaimed⟩ := h.claimed
  have hMem : row ∈ PgPostRepository.jobsOf s.db p :=
    mem_jobsOf.mpr ⟨(Database.job?_id hRow).symm ▸ hRow, hOf⟩
  cases hEdit with
  | update => exact ⟨rfl, fun _ => rfl⟩
  | schedule _ _ hOpen =>
    have hNot := hOpen row hMem
    simp [PostService.blocksSchedule, hClaimed] at hNot
  | cancel hOpen =>
    have hNot := hOpen row hMem
    simp [PostService.blocksCancel, PostService.inProgress, hClaimed] at hNot
  | retry job hJob hOpen =>
    obtain ⟨hJobRow, hJobPost⟩ := mem_jobsOf.mp hJob
    rw [h.failed _ job hJobRow hJobPost] at hOpen
    injection hOpen

/-- A post that is held as a draft stays one, since every operation on it is refused. -/
theorem heldDraft_posts (hKind : StepKind cfg s e t) (h : HeldDraft p s) :
    t.db.postStatus? p = some .draft := by
  have hDraft := h.draft
  have hSame : t.db.posts = s.db.posts → t.db.postStatus? p = some .draft := fun hPosts => by
    rw [Database.postStatus?, hPosts]
    exact hDraft
  cases hKind with
  | quiet _ hTables => exact hSame hTables.posts
  | started _ _ _ _ hTables => exact hSame hTables.posts
  | @created _ _ post _ hCreated =>
    have hNe : p ≠ post.id := by
      rintro rfl
      simp [Database.postStatus?, hCreated.unused] at hDraft
    rw [Database.postStatus?, hCreated.posts, AList.lookup_insert_ne hNe]
    exact hDraft
  | @edited operation _ id row next f _ hEdit hMutated =>
    rw [Database.postStatus?, hMutated.posts]
    by_cases hPost : p = id
    · subst hPost
      rw [Database.postStatus?, hMutated.found] at hDraft
      rw [AList.lookup_insert]
      exact (congrArg some (h.edited hEdit).1).trans hDraft
    · rw [AList.lookup_insert_ne hPost]
      exact hDraft
  | wrote _ _ _ _ _ hWritten => exact hSame hWritten.posts
  | unwritten _ _ _ hDb => exact hSame (by rw [hDb])
  | reconcileFirst _ _ hDb => exact hSame (by rw [hDb])
  | reconcileAfter _ _ hDb => exact hSame (by rw [hDb])
  | publishSettled _ _ _ hDb => exact hSame (by rw [hDb])
  | publishCalled _ _ _ hDb => exact hSame (by rw [hDb])
  | adapterReturned _ _ hDb => exact hSame (by rw [hDb])
  | crashed _ _ hDb => exact hSame (by rw [hDb])

/-- The rows of such a post do not change. -/
theorem heldDraft_row (h : HeldDraft p s)
    (hOnly : OnlyClaims (JobOf s p) s) {old new : SocialPublishJob}
    (hOld : s.db.job? j = some old) (hOf : old.postId = p)
    (hChange : RowChange cfg s e old new) : new = old := by
  have hj : JobOf s p j := by
    intro row hRow
    rw [hOld, Option.some.injEq] at hRow
    rw [← hRow, hOf]
  rcases held_change hOnly h.unclaimable hj hOld hChange with hSame | ⟨_, id, post, _, f, hEdit,
    hMem, hNew⟩
  · exact hSame
  · obtain rfl : id = p := (mem_jobsOf.mp hMem).2.symm.trans hOf
    rw [hNew, (h.edited hEdit).2]

/-- **One step** from a state that holds such a post back. -/
theorem heldDraft_step (hKind : StepKind cfg s e t) (h : HeldDraft p s)
    (hOnly : OnlyClaims (JobOf s p) s) : HeldDraft p t ∧ OnlyClaims (JobOf t p) t := by
  have hKept : ∀ {j : JobId} {row : SocialPublishJob}, s.db.job? j = some row →
      row.postId = p → t.db.job? j = some row := by
    intro j row hRow hOf
    obtain ⟨new, hNew, hChange⟩ := row_change hKind hRow
    rwa [heldDraft_row h hOnly hRow hOf hChange] at hNew
  refine ⟨⟨heldDraft_posts hKind h, ?_, fun j new hNew hOf => ?_⟩,
    onlyClaims_step hKind hOnly h.unclaimable fun j hj row hRow => ?_⟩
  · obtain ⟨j, row, hRow, hOf, hClaimed⟩ := h.claimed
    exact ⟨j, row, hKept hRow hOf, hOf, hClaimed⟩
  · rcases row_origin hKind hNew with ⟨old, hOld, hChange⟩ | ⟨-, post, target, hCreated, rfl⟩
    · have hOldOf : old.postId = p := (sameTarget_change hChange).2.2.symm.trans hOf
      rw [heldDraft_row h hOnly hOld hOldOf hChange]
      exact h.failed j old hOld hOldOf
    · -- a new post has an unused id
      have hDraft := h.draft
      obtain rfl : post.id = p := hOf
      simp [Database.postStatus?, hCreated.unused] at hDraft
  · obtain ⟨new, hNew, hChange⟩ := row_change hKind hRow
    rw [← (sameTarget_change hChange).2.2]
    exact hj new hNew

theorem reconciledFirst_of_heldDraft (hWorkers : s.workers = []) (h : HeldDraft p s)
    {row : SocialPublishJob} (hRow : s.db.job? j = some row) (hOf : row.postId = p) :
    ReconciledFirst cfg s j := by
  rintro t i w claimed job post request hSteps hWorker hState rfl -
  obtain ⟨-, hOnly, kept, hKept, hKeptOf⟩ := hSteps.invariant
    (I := fun t => HeldDraft p t ∧ OnlyClaims (JobOf t p) t ∧
      ∃ row, t.db.job? job.id = some row ∧ row.postId = p)
    (fun u e v hInv _ hStep => by
      obtain ⟨hHeld, hOnly, old, hOld, hOldOf⟩ := hInv
      have hKind := step_kind hStep
      obtain ⟨hHeld', hOnly'⟩ := heldDraft_step hKind hHeld hOnly
      obtain ⟨new, hNew, hChange⟩ := row_change hKind hOld
      exact ⟨hHeld', hOnly', new, hNew, (sameTarget_change hChange).2.2.trans hOldOf⟩)
    ⟨h, onlyClaims_resumed _ hWorkers, row, hRow, hOf⟩
  refine absurd (fun row' hRow' => ?_) (hOnly.not_publishing hWorker hState)
  rw [hKept, Option.some.injEq] at hRow'
  rw [← hRow', hKeptOf]

end Draft

section Adapter

variable {cfg : Config} {s t : PublishingState} {e : Event} {j : JobId}
  {platform : SocialPlatform}

/-- What an execution publishes for job `j` is for the platform of its row. -/
def PublishesFor (platform : SocialPlatform) (j : JobId) (s : PublishingState) : Prop :=
  (∃ row, s.db.job? j = some row ∧ row.platform = platform) ∧
    Pending (fun k call => Aimed k call ∧
      ∀ claimed job, k = j → call = .publish claimed job → job.platform = platform) s

theorem publishesFor_step (hKind : StepKind cfg s e t) (h : PublishesFor platform j s) :
    PublishesFor platform j t := by
  obtain ⟨⟨old, hOld, hPlatform⟩, hCalls⟩ := h
  obtain ⟨new, hNew, hChange⟩ := row_change hKind hOld
  refine ⟨⟨new, hNew, (sameTarget_change hChange).1.trans hPlatform⟩,
    hCalls.step hKind (fun _ _ => id) (fun _ => ⟨trivial, fun _ _ _ hCall => ?_⟩)
    (fun k call call' hP hFlow => ⟨aimed_flow hP.1 hFlow, fun claimed job _ hCall => ?_⟩)
    fun i w call row call' _ _ hP _ _ hWritten hNext => ?_⟩
  · injection hCall
  · -- no execution comes to `publish` without a statement
    subst hCall
    cases hFlow
  · have hId : (call.set w s.clock row).id = call.target w :=
      (call.set_id w s.clock row).trans (Database.job?_id hWritten.found)
    refine ⟨aimed_continues hP.1 hId hNext, fun claimed job hj hCall => ?_⟩
    subst hCall
    have hFound := hWritten.found
    rw [hP.1.target, hj, hOld, Option.some.injEq] at hFound
    subst hFound
    generalize hSet : call.set w s.clock old = written at hNext
    cases hNext with
    | publishes =>
      subst hSet
      exact hPlatform

theorem publishStart_adapter {post : Post} {job : SocialPublishJob} {formatted : SocialPost}
    {request : PublishRequest} (h : publishStart cfg post job = .call formatted request) :
    (cfg.adapters job.platform).isSome := by
  unfold publishStart at h
  dsimp only at h
  split at h
  · injection h
  · split at h
    · injection h
    · split at h
      · injection h
      · rename_i hAdapter
        rw [hAdapter]
        rfl

theorem reconciledFirst_of_no_adapter (hWorkers : s.workers = []) {row : SocialPublishJob}
    (hRow : s.db.job? j = some row) (hNone : cfg.adapters row.platform = none) :
    ReconciledFirst cfg s j := by
  rintro t i w claimed job post request hSteps hWorker hState rfl hStart
  have hFor : PublishesFor row.platform job.id t := hSteps.invariant
    (fun u e v hInv _ hStep => publishesFor_step (step_kind hStep) hInv)
    ⟨⟨row, hRow, rfl⟩, fun k w call hGet => by
      rw [hWorkers] at hGet
      injection hGet⟩
  obtain ⟨hAimed, hPlatform⟩ := hFor.2.running hWorker hState
  have hJob : job.id = w.publishJobId := hAimed
  have hAdapter := publishStart_adapter hStart
  rw [hPlatform claimed job hJob.symm rfl, hNone] at hAdapter
  injection hAdapter

end Adapter

/-! ## The repeated write -/

section Repeated

variable {cfg : Config} {s t : PublishingState} {j : JobId} {row : SocialPublishJob}
  {post : PostRow}

/-- A post without texts of its own for the platforms can be formatted. -/
theorem format_plain (isTagChar : Char → Bool) (post : Post)
    (hBodies : post.content.platformBodies = some {}) (job : SocialPublishJob) :
    ∃ formatted, FormatterService.format isTagChar post job = .ok formatted := by
  unfold FormatterService.format FormatterService.formatAll
  rw [hBodies]
  exact ⟨_, rfl⟩

theorem publishStart_call {post : Post} {job : SocialPublishJob} {formatted : SocialPost}
    {key : RequestKey} (hStatus : job.status = .remoteRequesting)
    (hKey : job.remoteRequestKey = some key) (hAdapter : (cfg.adapters job.platform).isSome)
    (hFormat : FormatterService.format cfg.isTagChar post job = .ok formatted) :
    publishStart cfg post job = .call formatted ⟨key⟩ := by
  obtain ⟨adapter, hAdapter⟩ := Option.isSome_iff_exists.mp hAdapter
  simp [publishStart, hStatus, hKey, hAdapter, hFormat]

theorem afterClaim_keyless {post : Post} {job : SocialPublishJob}
    (hStatus : job.status ≠ .remoteConfirmed) (hKey : job.remoteRequestKey = none) :
    afterClaim (some ⟨post, job⟩) =
      .running (.markRequest ⟨post, job⟩ (.socialPublish job.id)) := by
  simp [afterClaim, hStatus, hKey]

/-- Once its lease and its schedule have passed, an execution claims the row. -/
theorem keyless_claimed (cfg : Config) (hRow : s.db.job? j = some row)
    (hStatus : row.status = .claimed) (hLease : row.leaseExpiresAt.isSome)
    (hKey : row.remoteRequestKey = none)
    (hPost : s.db.posts.lookup row.postId = some post) (hNotDraft : post.status ≠ .draft) :
    ∃ (t : PublishingState) (k : Nat) (w : Worker) (media : List PostMedia)
      (new : SocialPublishJob), Steps (publishingSystem cfg) anyStep s t ∧
      t.workers[k]? = some w ∧
      w.state = .running (.markRequest ⟨toPost row.postId post media, new⟩ (.socialPublish j)) ∧
      t.db.job? j = some new ∧ new.status = .claimed ∧ new.remoteRequestKey = none ∧
      new.platform = row.platform := by
  obtain ⟨lease, hLease⟩ := Option.isSome_iff_exists.mp hLease
  obtain rfl := Database.job?_id hRow
  -- time passes, and an execution of the job is started
  let w : Worker := ⟨row.id, 30000, 1, none, .running .claimPublishJob⟩
  let s₁ : PublishingState := { s with clock := s.clock + (lease + row.scheduledAt) }
  let s₂ : PublishingState := { s₁ with workers := s.workers ++ [w] }
  have hRun : Steps (publishingSystem cfg) anyStep s s₂ :=
    (Steps.single (e := .tick (lease + row.scheduledAt)) trivial rfl).tail
      (e := .process row.id 30000 1 none) trivial rfl
  have hWorker : s₂.workers[s.workers.length]? = some w := List.getElem?_concat_length
  have hClaim : claimable s₂.db s₂.clock none row = true := by
    have hDue : row.scheduledAt ≤ s₂.clock := (Nat.le_add_left _ lease).trans (Nat.le_add_left _ _)
    have hExpired : lease ≤ s₂.clock :=
      (Nat.le_add_right lease row.scheduledAt).trans (Nat.le_add_left _ _)
    have hPost₂ : s₂.db.posts.lookup row.postId = some post := hPost
    simp [claimable, claimableStatus, deliveryIsCurrent, Database.postStatus?, hStatus, hLease,
      due, hDue, hExpired, hPost₂, hNotDraft]
  obtain ⟨t, hStep, hMoved, hWritten, -⟩ := repository_writes cfg hWorker rfl rfl hRow
    hClaim (claimRow_checks (Database.job?_checks hRow)) id
  have hNew : (claimRow 30000 s₂.clock row).status = .claimed := if_neg (by simp [hStatus])
  have hMatched : Call.claimPublishJob.matched w s₂.db (claimRow 30000 s₂.clock row) =
      .running (.markRequest ⟨toPost row.postId post ((s.db.postMedia.lookup row.postId).getD []),
        claimRow 30000 s₂.clock row⟩ (.socialPublish row.id)) := by
    show afterClaim ((s.db.posts.lookup row.postId).map _) = _
    rw [hPost, Option.map_some]
    refine afterClaim_keyless (fun hConfirmed => ?_) hKey
    rw [hNew] at hConfirmed
    injection hConfirmed
  exact ⟨t, _, _, _, _, hRun.tail trivial hStep, hMoved, hMatched,
    (hWritten.rows row.id).trans (if_pos rfl), hNew, hKey, rfl⟩

/-- **A claimed row without a request key** is published without reconciliation, once its
lease and its schedule have passed. -/
theorem keyless_claim_publishes (hRow : s.db.job? j = some row) (hStatus : row.status = .claimed)
    (hLease : row.leaseExpiresAt.isSome) (hKey : row.remoteRequestKey = none)
    (hPost : s.db.posts.lookup row.postId = some post) (hNotDraft : post.status ≠ .draft)
    (hBodies : post.platformBodies = {}) (hAdapter : (cfg.adapters row.platform).isSome) :
    ¬ ReconciledFirst cfg s j := by
  obtain ⟨t, k, w, media, new, hRun, hWorker, hState, hNew, hClaimed, hNoKey, hPlatform⟩ :=
    keyless_claimed cfg hRow hStatus hLease hKey hPost hNotDraft
  have hId : new.id = j := Database.job?_id hNew
  have hFound : t.db.job? new.id = some new := hId.symm ▸ hNew
  have hChecks := Database.job?_checks hNew
  obtain ⟨u, hStep, hMoved, hWritten, -⟩ := repository_writes cfg hWorker hState rfl hFound
    (by simp [Call.condition, hClaimed, hNoKey])
    (checks_of_requesting rfl rfl hChecks.retryCountBound) id
  obtain ⟨formatted, hFormat⟩ := format_plain cfg.isTagChar
    (toPost row.postId post media) (by simp [toPost, hBodies])
    (requestRow (.socialPublish j) w.leaseMs t.clock new)
  intro hReconciled
  have hCall : publishStart cfg (toPost row.postId post media)
      (requestRow (.socialPublish j) w.leaseMs t.clock new) = .call formatted ⟨.socialPublish j⟩ :=
    publishStart_call rfl (by simp [requestRow, hNoKey]) (hPlatform ▸ hAdapter) hFormat
  have hSome := hReconciled u k _ _ _ formatted _ (hRun.tail trivial hStep) hMoved rfl hId hCall
  simp [hNoKey] at hSome

end Repeated

/-! ## A draft that is made due by a retry -/

section Retry

open PgPostRepository PostService

variable {cfg : Config} {db : Database} {id : PostId} {ownerId : UserId} {now : Time}
  {row : PostRow} {job : SocialPublishJob}

/-- A write-back fails by a CHECK constraint only. -/
theorem writeJobs_error {current jobs : List SocialPublishJob} {e : ServiceError}
    (h : jobs.foldlM (writeJob current) db = .error e) : e = .database .checkViolation := by
  obtain ⟨before, job, after, t, -, -, hJob⟩ := Keyed.foldlM_error h
  unfold writeJob at hJob
  split at hJob
  · injection hJob
  · cases hUpdate : t.updateJob job.id (fun _ => true) (writeBack job) with
    | ok result =>
      rw [hUpdate] at hJob
      injection hJob
    | error e' =>
      obtain ⟨rfl, -⟩ := Database.updateJob_error (id_writeBack job) hUpdate
      rw [hUpdate] at hJob
      injection hJob with hJob
      exact hJob.symm

theorem checkAccounts_ok {jobs : List SocialPublishJob} {publishing : Bool}
    (h : ∀ job ∈ jobs, checkAccount db ownerId publishing now job = .ok ()) :
    checkAccounts db ownerId jobs publishing now = .ok () := by
  unfold checkAccounts
  induction jobs with
  | nil => rfl
  | cons job rest ih =>
    show (checkAccount db ownerId publishing now job >>= fun _ => rest.forM _) = _
    rw [h job (List.mem_cons_self ..)]
    exact ih fun other hOther => h other (List.mem_cons_of_mem _ hOther)

/-- The retry of a confirmed failed request goes through where its accounts are available. -/
theorem retry_ok (hPost : db.posts.lookup id = some row) (hJob : job ∈ jobsOf db id)
    (hOpen : blocksRetry job = false) (date now : Time)
    (hAccounts : ∀ old ∈ jobsOf db id, checkAccount db row.ownerId true now old = .ok ()) :
    ∃ record db', retry row.ownerId id job.id row.revision date now db = .ok (record, db') := by
  have hRead : PgPostRepository.read db id row.ownerId =
      .ok ⟨toPost id row (mediaOf db id), jobsOf db id⟩ := by
    simp [PgPostRepository.read, ownedPost, hPost, bind, Except.bind, pure, Except.pure]
  let current : PostRecord := ⟨toPost id row (mediaOf db id), jobsOf db id⟩
  let next : PostRecord :=
    ⟨{ current.post with status := .scheduled }, current.jobs.map (retryJob job.id date)⟩
  have hWork : retryWork job.id row.revision date current = .ok next := by
    simp [retryWork, checkRevision, current, next, toPost, find?_jobsOf hJob, hOpen, bind,
      Except.bind, pure, Except.pure]
  have hCheck : checkAccounts db row.ownerId (next.jobs.filter fun job => job.status = .waiting)
      true now = .ok () := by
    refine checkAccounts_ok fun job' hJob' => ?_
    obtain ⟨old, hOld, rfl⟩ := List.mem_map.mp (List.mem_filter.mp hJob').1
    rw [← hAccounts old hOld]
    unfold retryJob
    split <;> rfl
  cases hWrite : writeRecord id row.ownerId current next db with
  | ok db' =>
    refine ⟨{ next with post := { next.post with revision := next.post.revision + 1 } }, db', ?_⟩
    unfold retry mutate
    refine Keyed.bind_eq_ok.mpr ⟨current, hRead, Keyed.bind_eq_ok.mpr ⟨next, hWork, ?_⟩⟩
    refine (if_pos (show next.post.status = .scheduled from rfl)).trans ?_
    exact Keyed.bind_eq_ok.mpr ⟨(), hCheck, Keyed.bind_eq_ok.mpr ⟨db', hWrite, rfl⟩⟩
  | error e =>
    exfalso
    have hChecks : ∀ old ∈ jobsOf db id, (retryJob job.id date old).Checks :=
      fun old hOld => retryJob_checks (Database.job?_checks (mem_jobsOf.mp hOld).1)
    unfold writeRecord at hWrite
    cases hLoop : next.jobs.foldlM (writeJob current.jobs) (writePost id next.post db) with
    | ok db' =>
      simp only [hLoop, bind, Except.bind] at hWrite
      injection hWrite
    | error e' =>
      obtain rfl := writeJobs_error hLoop
      have hRows : ∀ old ∈ jobsOf (writePost id next.post db) id,
          (retryJob job.id date old).Checks := hChecks
      exact noCheckViolation_writeJobs (retryJob_writeBack job.id date) hRows hLoop

theorem next_of_retry {jobId : JobId} {revision : Nat} {date : Time} {next : Post}
    {f : SocialPublishJob → SocialPublishJob}
    (h : Edit cfg db id row (.retry ownerId id jobId revision date) next f) :
    next = { currentPost db id row with status := .scheduled } := by
  generalize hOperation : UserOperation.retry ownerId id jobId revision date = operation at h
  cases h with
  | update => injection hOperation
  | schedule scheduledAt hApproval =>
    subst hOperation
    injection hApproval
  | cancel => injection hOperation
  | retry => rfl

/-- An account that may publish everything. -/
def ableAccount (ownerId : UserId) (platform : SocialPlatform) : SocialAccount where
  userId := ownerId
  platform := platform
  platformAccountId := ""
  status := .active
  hasAccessToken := true
  scope := ["pages_manage_posts", "instagram_content_publish", "threads_content_publish",
    "w_member_social", "tweet.read", "tweet.write", "users.read"]
  expiresAt := none

theorem checkAccount_able
    (h : db.socialAccounts.lookup job.accountId = some (ableAccount ownerId job.platform)) :
    checkAccount db ownerId true now job = .ok () := by
  have hScopes : missingPublishingScopes job.platform (ableAccount ownerId job.platform).scope "" =
      [] := by
    cases job.platform <;> rfl
  have hAble : availableAccount db ownerId job now = some (ableAccount ownerId job.platform) := by
    rw [availableAccount, h]
    simp [ableAccount]
  unfold checkAccount
  rw [hAble]
  exact if_neg fun hMissing => hMissing.2 hScopes

end Retry

/-! ## The rows after the migrations -/

/-- The post is due for publication, or a retry of one of its failed jobs makes it so. -/
def InterimTables.Releasable (old : InterimTables) (p : PostId) : Prop :=
  (∃ post, old.posts.lookup p = some post ∧ post.status ≠ .draft) ∨
    ∃ k other, old.jobs.lookup k = some other ∧ other.postId = p ∧ other.status = .failed ∧
      nonEmpty other.remotePostId = none

section Migrated

variable {cfg : Config} {s : PublishingState} {old : InterimTables} {j k : JobId} {p : PostId}

theorem migrated_job? (s : PublishingState) (old : InterimTables) (j : JobId) :
    (s.migrated old).db.job? j = (old.jobs.lookup j).map InterimJob.migratedRow := by
  show ((migration013 old.jobs).lookup j).map StoredJob.row = _
  rw [migration013, Keyed.lookup_mapValues, Option.map_map]
  rfl

theorem migrated_post (s : PublishingState) (old : InterimTables) (p : PostId) :
    (s.migrated old).db.posts.lookup p = (old.posts.lookup p).map OldPostRow.migrated :=
  Keyed.lookup_mapValues p

variable {job other : InterimJob j} {post : OldPostRow}

/-- A job can be retried after the migration when it failed without a remote post. -/
theorem blocksRetry_migratedRow : PostService.blocksRetry job.migratedRow = false ↔
    job.status = .failed ∧ nonEmpty job.remotePostId = none := by
  have hRemote : nonEmpty job.remotePostId = none ↔
      (job.remotePostId.any fun id => id ≠ "") = false := by
    rw [← isSome_nonEmpty, Option.isSome_eq_false_iff, Option.isNone_iff_eq_none]
  rw [hRemote]
  cases hStatus : job.status <;>
    simp [PostService.blocksRetry, InterimJob.migratedRow, hStatus, InterimStatus.migrated]

/-- Connected accounts for every job under migration. -/
theorem migrated_accounts (s : PublishingState) (old : InterimTables) (ownerId : UserId)
    (now : Time) (id : PostId) :
    let db := { (s.migrated old).db with
      socialAccounts := Keyed.mapValues (fun _ => ableAccount ownerId) old.accounts }
    ∀ row ∈ PgPostRepository.jobsOf db id,
      PgPostRepository.checkAccount db ownerId true now row = .ok () := by
  intro db row hRow
  have hJob : (s.migrated old).db.job? row.id = some row := (mem_jobsOf.mp hRow).1
  rw [migrated_job?] at hJob
  obtain ⟨before, hBefore, hSame⟩ := Option.map_eq_some_iff.mp hJob
  refine checkAccount_able ?_
  show (Keyed.mapValues _ old.accounts).lookup row.accountId = _
  rw [Keyed.lookup_mapValues, ← hSame]
  exact congrArg (Option.map _) (old.accountReference _ before hBefore)

/-- After the retry of a failed job of the post, the post is due, and its claimed jobs are
as they were. -/
theorem retry_releases (cfg : Config) {other : InterimJob k} (hPost : old.posts.lookup p = some post)
    (hJob : old.jobs.lookup j = some job) (hOf : job.postId = p)
    (hProcessing : job.status = .processing) (hOther : old.jobs.lookup k = some other)
    (hOtherOf : other.postId = p) (hFailed : other.status = .failed)
    (hRemote : nonEmpty other.remotePostId = none) :
    ∃ t row, Steps (publishingSystem cfg) anyStep (s.migrated old) t ∧
      t.db.job? j = some job.migratedRow ∧ t.db.posts.lookup p = some row ∧
      row.status = .scheduled ∧ row.platformBodies = {} := by
  let s₁ : PublishingState := { s.migrated old with
    db := { (s.migrated old).db with
      socialAccounts := Keyed.mapValues (fun _ => ableAccount post.ownerId) old.accounts } }
  have hConnect : (publishingSystem cfg).step (s.migrated old)
      (.connect s.db.campaigns s₁.db.socialAccounts) = some s₁ := rfl
  have hPost₁ : s₁.db.posts.lookup p = some post.migrated := by
    show (s.migrated old).db.posts.lookup p = _
    rw [migrated_post, hPost, Option.map_some]
  have hRow : s₁.db.job? j = some job.migratedRow := by
    show (s.migrated old).db.job? j = _
    rw [migrated_job?, hJob, Option.map_some]
  have hOtherRow : s₁.db.job? k = some other.migratedRow := by
    show (s.migrated old).db.job? k = _
    rw [migrated_job?, hOther, Option.map_some]
  have hMem : other.migratedRow ∈ PgPostRepository.jobsOf s₁.db p :=
    mem_jobsOf.mpr ⟨(Database.job?_id hOtherRow).symm ▸ hOtherRow, hOtherOf⟩
  have hOpen := blocksRetry_migratedRow.mpr ⟨hFailed, hRemote⟩
  obtain ⟨record, db', hRetry⟩ := retry_ok hPost₁ hMem hOpen 0 s₁.clock
    (migrated_accounts s old post.ownerId s₁.clock p)
  let operation : UserOperation := .retry post.ownerId p other.id 1 0
  have hPerform : operation.perform cfg s₁.clock s₁.db = .ok (record, db') := hRetry
  have hUser : (publishingSystem cfg).step s₁ (.user operation) = some { s₁ with db := db' } := by
    show some (PublishingState.userStep cfg s₁ operation) = _
    rw [PublishingState.userStep, hPerform]
  obtain ⟨row, next, f, hEdit, hMutated⟩ := @retry_cases cfg _ _ _ _ _ _ _ _ _ hRetry
  have hNext := next_of_retry hEdit
  have hMemJob : job.migratedRow ∈ PgPostRepository.jobsOf s₁.db p :=
    mem_jobsOf.mpr ⟨(Database.job?_id hRow).symm ▸ hRow, hOf⟩
  have hKept : f job.migratedRow = job.migratedRow := edited_inProgress hEdit hMemJob
    (by simp [InterimJob.migratedRow, hProcessing, InterimStatus.migrated,
      PostService.inProgress])
  have hSame : row = post.migrated := by
    have hFound := hMutated.found
    rw [hPost₁, Option.some.injEq] at hFound
    exact hFound.symm
  refine ⟨{ s₁ with db := db' }, PgPostRepository.updatedPost next row,
    (Steps.single trivial hConnect).tail trivial hUser, ?_, ?_, ?_, ?_⟩
  · show db'.job? j = _
    rw [hMutated.rows, hRow, Option.map_some, hKept, ite_self]
  · show db'.posts.lookup p = _
    rw [hMutated.posts, AList.lookup_insert]
  · rw [hNext]
    rfl
  · rw [hNext, hSame]
    rfl

/-- A run that breaks what is asked later breaks it from the start. -/
theorem ReconciledFirst.later {t : PublishingState} (h : ReconciledFirst cfg s j)
    (hSteps : Steps (publishingSystem cfg) anyStep s t) : ReconciledFirst cfg t j :=
  fun u i w claimed job post request hRun => h u i w claimed job post request (hSteps.trans hRun)

/-- A processing job with a lease is published without reconciliation where an adapter is
registered and its post can be released. -/
theorem processing_repeated (hJob : old.jobs.lookup j = some job)
    (hProcessing : job.status = .processing) (hLease : job.leaseExpiresAt.isSome)
    (hAdapter : (cfg.adapters job.platform).isSome) (hReleasable : old.Releasable job.postId) :
    ¬ ReconciledFirst cfg (s.migrated old) j := by
  have hStatus : job.migratedRow.status = .claimed := by
    simp [InterimJob.migratedRow, hProcessing, InterimStatus.migrated]
  have hKey : job.migratedRow.remoteRequestKey = none := by
    simp [InterimJob.migratedRow, hProcessing]
  have hRow : (s.migrated old).db.job? j = some job.migratedRow := by
    rw [migrated_job?, hJob, Option.map_some]
  have hDue : ∀ post, old.posts.lookup job.postId = some post → post.status ≠ .draft →
      ¬ ReconciledFirst cfg (s.migrated old) j := by
    intro post hPost hNotDraft
    have hPostRow : (s.migrated old).db.posts.lookup job.postId = some post.migrated := by
      rw [migrated_post, hPost, Option.map_some]
    exact keyless_claim_publishes hRow hStatus hLease hKey hPostRow hNotDraft rfl hAdapter
  rcases hReleasable with ⟨post, hPost, hNotDraft⟩ | ⟨k, other, hOther, hOf, hFailed, hRemote⟩
  · exact hDue post hPost hNotDraft
  · obtain ⟨post, hPost⟩ := Option.isSome_iff_exists.mp (old.postReference j job hJob)
    obtain ⟨t, row, hRun, hRow', hPost', hScheduled, hBodies⟩ := retry_releases cfg
      (s := s) hPost hJob rfl hProcessing hOther hOf hFailed hRemote
    intro hReconciled
    have hNotDraft : row.status ≠ .draft := by simp [hScheduled]
    exact keyless_claim_publishes hRow' hStatus hLease hKey hPost' hNotDraft hBodies hAdapter
      (hReconciled.later hRun)

/-- The post of a job that cannot be released stays a draft. -/
theorem heldDraft_of_not_releasable (hJob : old.jobs.lookup j = some job)
    (hProcessing : job.status = .processing) (h : ¬ old.Releasable job.postId) :
    HeldDraft job.postId (s.migrated old) := by
  obtain ⟨post, hPost⟩ := Option.isSome_iff_exists.mp (old.postReference j job hJob)
  have hDraft : post.status = .draft := by
    by_contra hNotDraft
    exact h (Or.inl ⟨post, hPost, hNotDraft⟩)
  refine ⟨?_, ⟨j, job.migratedRow, ?_, rfl, ?_⟩, fun k row hRow hOf => ?_⟩
  · rw [Database.postStatus?, migrated_post, hPost]
    exact congrArg some hDraft
  · rw [migrated_job?, hJob, Option.map_some]
  · simp [InterimJob.migratedRow, hProcessing, InterimStatus.migrated]
  · rw [migrated_job?] at hRow
    obtain ⟨other, hOther, rfl⟩ := Option.map_eq_some_iff.mp hRow
    by_contra hOpen
    obtain ⟨hFailed, hRemote⟩ := blocksRetry_migratedRow.mp (Bool.eq_false_of_not_eq_true hOpen)
    exact h (Or.inr ⟨k, other, hOther, hOf, hFailed, hRemote⟩)

end Migrated

/-! ## Which rows survive -/

/-- **What migration 013 needs of the rows**: a time for each retry, a lease for each job that
is processed, and no such job that the new worker could publish. -/
def InterimTables.Survivable (cfg : Config) (old : InterimTables) : Prop :=
  ∀ j job, old.jobs.lookup j = some job →
    (job.status = .retrying → job.nextRetryAt.isSome) ∧
    (job.status = .processing → job.leaseExpiresAt.isSome ∧
      ((cfg.adapters job.platform).isSome → ¬ old.Releasable job.postId))

/-- Jobs in flight and requests that were sent survive 013 where each row is survivable, and a row
that is not is stranded or can be claimed for a first attempt. -/
theorem interim_survive_iff (cfg : Config) (s : PublishingState) (old : InterimTables) :
    Survive cfg (s.migrated old) old.InFlight old.Sent ↔ old.Survivable cfg := by
  constructor
  · rintro ⟨hClaimed, hReconciled⟩ j job hJob
    have hRow : (s.migrated old).db.job? j = some job.migratedRow := by
      rw [migrated_job?, hJob, Option.map_some]
    have hLost : Stranded job.migratedRow → ¬ old.InFlight j := fun hStranded hFlight =>
      not_claimedLater_of_stranded rfl hRow hStranded (hClaimed j hFlight)
    refine ⟨fun hStatus => ?_, fun hStatus => ?_⟩
    · by_contra hNone
      refine hLost (Or.inl ⟨?_, Option.not_isSome_iff_eq_none.mp hNone⟩)
        ⟨job, hJob, by simp [hStatus]⟩
      simp [InterimJob.migratedRow, hStatus, InterimStatus.migrated]
    · have hLease : job.leaseExpiresAt.isSome := by
        by_contra hNone
        refine hLost (Or.inr (Or.inl ⟨?_, Option.not_isSome_iff_eq_none.mp hNone⟩))
          ⟨job, hJob, by simp [hStatus]⟩
        simp [InterimJob.migratedRow, hStatus, InterimStatus.migrated]
      refine ⟨hLease, fun hAdapter hReleasable => ?_⟩
      exact processing_repeated hJob hStatus hLease hAdapter hReleasable
        (hReconciled j ⟨job, hJob, hStatus⟩)
  · intro h
    refine ⟨?_, ?_⟩
    · rintro j ⟨job, hJob, hOpen⟩
      obtain ⟨hRetrying, hProcessing⟩ := h j job hJob
      have hRow : (s.migrated old).db.job? j = some job.migratedRow := by
        rw [migrated_job?, hJob, Option.map_some]
      refine claimedLater_of_timed hRow ?_
      cases hStatus : job.status with
      | waiting => exact Or.inl (congrArg InterimStatus.migrated hStatus)
      | retrying =>
        exact Or.inr (Or.inl ⟨congrArg InterimStatus.migrated hStatus, hRetrying hStatus⟩)
      | processing =>
        exact Or.inr (Or.inr ⟨congrArg InterimStatus.migrated hStatus, (hProcessing hStatus).1⟩)
      | published => exact absurd hStatus hOpen.1
      | failed => exact absurd hStatus hOpen.2.1
      | cancelled => exact absurd hStatus hOpen.2.2
    · rintro j ⟨job, hJob, hStatus⟩
      obtain ⟨hLease, hHeld⟩ := (h j job hJob).2 hStatus
      have hRow : (s.migrated old).db.job? j = some job.migratedRow := by
        rw [migrated_job?, hJob, Option.map_some]
      cases hAdapter : cfg.adapters job.platform with
      | none => exact reconciledFirst_of_no_adapter rfl hRow hAdapter
      | some adapter =>
        have hDraft := heldDraft_of_not_releasable (s := s) hJob hStatus
          (hHeld (by rw [hAdapter]; rfl))
        exact reconciledFirst_of_heldDraft rfl hDraft hRow rfl

/-- Migration 010 makes a leased or publishing job retry at no time. -/
theorem legacy_stranded (s : PublishingState) (old : LegacyTables) {j : JobId} {job : LegacyJob j}
    (hJob : old.jobs.lookup j = some job)
    (hStatus : job.status = .leased ∨ job.status = .publishing) :
    ∃ row, (s.migrated (migration010 old)).db.job? j = some row ∧ Stranded row := by
  refine ⟨job.migrated.migratedRow, ?_, Or.inl ⟨?_, rfl⟩⟩
  · rw [migrated_job?, migration010, Keyed.lookup_mapValues, hJob]
    rfl
  · rcases hStatus with hs | hs <;>
      simp [InterimJob.migratedRow, LegacyJob.migrated, hs, LegacyStatus.migrated,
        InterimStatus.migrated]

/-- A job that is leased or publishing when 010 runs is stranded, and every other one survives. -/
theorem legacy_survive_iff (cfg : Config) (s : PublishingState) (old : LegacyTables) :
    Survive cfg (s.migrated (migration010 old)) old.InFlight old.Sent ↔
      ∀ j job, old.jobs.lookup j = some job →
        job.status ≠ .leased ∧ job.status ≠ .publishing := by
  constructor
  · rintro ⟨hClaimed, -⟩ j job hJob
    rw [← not_or]
    intro hStatus
    obtain ⟨row, hRow, hStranded⟩ := legacy_stranded s old hJob hStatus
    refine not_claimedLater_of_stranded rfl hRow hStranded (hClaimed j ⟨job, hJob, ?_⟩)
    rcases hStatus with hs | hs <;> simp [hs]
  · intro h
    refine ⟨?_, ?_⟩
    · rintro j ⟨job, hJob, hOpen⟩
      obtain ⟨hLeased, hPublishing⟩ := h j job hJob
      have hRow : (s.migrated (migration010 old)).db.job? j = some job.migrated.migratedRow := by
        rw [migrated_job?, migration010, Keyed.lookup_mapValues, hJob]
        rfl
      refine claimedLater_of_timed hRow (Or.inl ?_)
      cases hStatus : job.status with
      | pending => simp [InterimJob.migratedRow, LegacyJob.migrated, hStatus,
          LegacyStatus.migrated, InterimStatus.migrated]
      | leased => exact absurd hStatus hLeased
      | publishing => exact absurd hStatus hPublishing
      | succeeded => exact absurd hStatus hOpen.1
      | failed => exact absurd hStatus hOpen.2.1
      | cancelled => exact absurd hStatus hOpen.2.2
    · rintro j ⟨job, hJob, hStatus⟩
      exact absurd hStatus (h j job hJob).2

/-- **Jobs in flight survive the migrations** from before 010 when none is leased or publishing,
and from before 013 when every row has what the new statuses wait for and the new worker can
publish no row that the old one was processing; and only then. -/
theorem in_flight_survive_iff (cfg : Config) (s : PublishingState) :
    (∀ old : LegacyTables,
      Survive cfg (s.migrated (migration010 old)) old.InFlight old.Sent ↔
        ∀ j job, old.jobs.lookup j = some job →
          job.status ≠ .leased ∧ job.status ≠ .publishing) ∧
    ∀ old : InterimTables,
      Survive cfg (s.migrated old) old.InFlight old.Sent ↔ old.Survivable cfg :=
  ⟨legacy_survive_iff cfg s, interim_survive_iff cfg s⟩

/-! ## A job under way -/

namespace Installation

/-- The columns of job 1 of post 0, leased until the time 30000. -/
def jobUnderWay {Status : Type} (status : Status) : JobColumns Status where
  id := 1
  postId := 0
  platform := .x
  accountId := 300
  status := status
  scheduledAt := 1000
  publishedAt := none
  remotePostId := none
  remotePostUrl := none
  errorCode := none
  errorMessage := none
  retryCount := 0
  leaseExpiresAt := some 30000

def postUnderWay : OldPostRow where
  campaignId := 200
  ownerId := 100
  title := []
  body := ['H', 'i']
  destinationUrl := none
  scheduledAt := 1000
  status := .scheduled

/-- The tables with this one job. -/
def underWay {Status : Type} {Job : JobId → Type} {columns : ∀ key, Job key → JobColumns Status}
    (status : Status) (job : Job 1) (hJob : columns 1 job = jobUnderWay status) :
    OldTables Job columns where
  accounts := AList.singleton 300 .x
  posts := AList.singleton 0 postUnderWay
  jobs := AList.singleton 1 job
  postReference j other hOther := by
    obtain ⟨rfl, hSame⟩ : j = 1 ∧ HEq other job := by
      have hMem := AList.mem_lookup_iff.mp hOther
      simpa [AList.singleton] using hMem
    rw [eq_of_heq hSame, hJob]
    rfl
  accountReference j other hOther := by
    obtain ⟨rfl, hSame⟩ : j = 1 ∧ HEq other job := by
      have hMem := AList.mem_lookup_iff.mp hOther
      simpa [AList.singleton] using hMem
    rw [eq_of_heq hSame, hJob]
    rfl

/-- Its provider write may have been sent when the worker was stopped before migration 010. -/
def legacyTables : LegacyTables :=
  underWay .publishing
    { jobUnderWay .publishing with
      id_eq := rfl
      checks := ⟨LegacyStatus.noConfusion, LegacyStatus.noConfusion, by decide⟩ } rfl

/-- The same before migration 013. -/
def interimTables : InterimTables :=
  underWay .processing
    { jobUnderWay .processing with
      nextRetryAt := none
      id_eq := rfl
      checks := ⟨InterimStatus.noConfusion, InterimStatus.noConfusion, by decide⟩ } rfl

end Installation

open Installation in
/-- A job that was publishing before migration 010 is lost, and one that was processing before
migration 013 is published again. -/
theorem in_flight_lost_and_repeated :
    (¬ ∀ (cfg : Config) (s : PublishingState) (old : LegacyTables),
      Survive cfg (s.migrated (migration010 old)) old.InFlight old.Sent) ∧
    ¬ ∀ (cfg : Config) (s : PublishingState) (old : InterimTables),
      Survive cfg (s.migrated old) old.InFlight old.Sent := by
  refine ⟨fun h => ?_, fun h => ?_⟩
  · obtain ⟨row, hRow, hStranded⟩ := legacy_stranded start legacyTables (j := 1)
      rfl (Or.inr rfl)
    refine not_claimedLater_of_stranded rfl hRow hStranded
      ((h (config false false) start legacyTables).1 1 ⟨_, rfl, ?_⟩)
    exact ⟨LegacyStatus.noConfusion, LegacyStatus.noConfusion, LegacyStatus.noConfusion⟩
  · exact @processing_repeated (config false false) start interimTables 1 _ rfl rfl rfl rfl
      (Or.inl ⟨postUnderWay, rfl, PostStatus.noConfusion⟩)
      ((h (config false false) start interimTables).2 1 ⟨_, rfl, rfl⟩)

end SocialPromotion
