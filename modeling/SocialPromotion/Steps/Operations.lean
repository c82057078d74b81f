import SocialPromotion.Model.System
import SocialPromotion.Steps.Mutation

/-!
# What an operation of the API does

* `Edit` lists the four ways in which an operation changes an existing post, with what the
  operation has checked under the lock of the post;
* `perform_cases`: an operation that succeeds creates a post, or is one of these edits.
-/

namespace SocialPromotion

open Database PgPostRepository PostService

/-! ## Edits of an existing post -/

/-- The post that an edit reads. -/
abbrev currentPost (db : Database) (id : PostId) (row : PostRow) : Post :=
  toPost id row (mediaOf db id)

/-- The post and the revision that an operation approves for publication. -/
def UserOperation.approval : UserOperation → Option (PostId × Nat)
  | .schedule _ id _ approvedRevision _ => some (id, approvedRevision)
  | .publishNow _ id revision _ _ => some (id, revision)
  | _ => none

/-- The time for which an operation schedules its post. -/
def UserOperation.scheduledTime : UserOperation → Option Time
  | .schedule _ _ scheduledAt _ _ => scheduledAt
  | .publishNow _ _ _ date _ => some (date + 1000)
  | _ => none

/-- The changes an operation can make to the post `id` with row `row`: the post it leaves
and the function it applies to the jobs. -/
inductive Edit (cfg : Config) (db : Database) (id : PostId) (row : PostRow) :
    UserOperation → Post → (SocialPublishJob → SocialPublishJob) → Prop
  | update {ownerId : UserId} {dto : UpdateDraftDto} (content : PostContent)
      (hRevision : row.revision = dto.revision) (hDraft : row.status = .draft) :
      Edit cfg db id row (.update ownerId id dto)
        { currentPost db id row with content := content } fun job => job
  | schedule {operation : UserOperation} (scheduledAt : Time)
      (hApproval : operation.approval = some (id, row.revision))
      (hOpen : ∀ job ∈ jobsOf db id, blocksSchedule job = false)
      (hNotCancelled : row.status ≠ .cancelled)
      (hIssues : issues cfg ⟨currentPost db id row, jobsOf db id⟩ = .ok [])
      (hTime : operation.scheduledTime = some scheduledAt) :
      Edit cfg db id row operation
        { currentPost db id row with status := .scheduled, scheduledAt := scheduledAt }
        (scheduleJob scheduledAt)
  | cancel {ownerId : UserId} (hOpen : ∀ job ∈ jobsOf db id, blocksCancel job = false) :
      Edit cfg db id row (.cancel ownerId id row.revision)
        { currentPost db id row with status := summarizeStatus ((jobsOf db id).map cancelJob) }
        cancelJob
  | retry {ownerId : UserId} {date : Time} (job : SocialPublishJob) (hJob : job ∈ jobsOf db id)
      (hOpen : blocksRetry job = false) :
      Edit cfg db id row (.retry ownerId id job.id row.revision date)
        { currentPost db id row with status := .scheduled } (retryJob job.id date)

/-- The jobs that a schedule queues are waiting. -/
theorem waiting_of_open {job : SocialPublishJob} (hOpen : blocksSchedule job = false)
    (hCancelled : job.status ≠ .cancelled) : job.status = .waiting := by
  by_contra hNot
  simp [blocksSchedule, hNot, hCancelled] at hOpen

/-- The job that a retry takes back has failed. -/
theorem failed_of_retried {db : Database} {id : PostId} {old job : SocialPublishJob}
    (hOld : old ∈ jobsOf db id) (hJob : job ∈ jobsOf db id) (hId : old.id = job.id)
    (hOpen : blocksRetry job = false) : old.status = .failed := by
  have hSame : old = job := by
    have hRow := (mem_jobsOf.mp hOld).1
    rw [hId, (mem_jobsOf.mp hJob).1, Option.some.injEq] at hRow
    exact hRow.symm
  subst hSame
  by_contra hNot
  simp [blocksRetry, hNot] at hOpen

theorem scheduleJob_writeBack (scheduledAt : Time) (old : SocialPublishJob) :
    writeBack (scheduleJob scheduledAt old) old = scheduleJob scheduledAt old := by
  unfold scheduleJob
  split_ifs <;> rfl

theorem cancelJob_writeBack (old : SocialPublishJob) :
    writeBack (cancelJob old) old = cancelJob old := by
  unfold cancelJob
  split_ifs <;> rfl

theorem retryJob_writeBack (id : JobId) (date : Time) (old : SocialPublishJob) :
    writeBack (retryJob id date old) old = retryJob id date old := by
  unfold retryJob
  split_ifs <;> rfl

/-- An edit stays within the columns that are written back. -/
theorem edited_writeBack {cfg : Config} {db : Database} {id : PostId} {row : PostRow}
    {operation : UserOperation} {next : Post} {f : SocialPublishJob → SocialPublishJob}
    (h : Edit cfg db id row operation next f) (old : SocialPublishJob) :
    writeBack (f old) old = f old := by
  cases h with
  | update => rfl
  | schedule => exact scheduleJob_writeBack _ _
  | cancel => exact cancelJob_writeBack _
  | retry => exact retryJob_writeBack _ _ _

section Edits

variable {cfg : Config} {ownerId : UserId} {id : PostId} {now : Time} {db db' : Database}
  {record : PostRecord}

theorem checkRevision_eq_ok {record : PostRecord} {n : Nat} {u : Unit}
    (h : checkRevision record n = .ok u) : n = record.post.revision := by
  unfold checkRevision at h
  split at h
  · injection h
  · rename_i hEq
    exact not_not.mp hEq

/-- A guard of a service method that did not throw. -/
theorem of_throw_unless {α : Type} {c : Prop} [Decidable c] {e : ServiceError}
    {rest : Except ServiceError α} {a : α}
    (h : (if c then throw e else rest) = .ok a) : ¬ c ∧ rest = .ok a := by
  split at h
  · injection h
  · rename_i hNot
    exact ⟨hNot, h⟩

theorem updateWork_eq_ok {dto : UpdateDraftDto} {current next : PostRecord}
    (h : updateWork cfg dto current = .ok next) :
    dto.revision = current.post.revision ∧ current.post.status = .draft ∧
      ∃ content, next = { current with post := { current.post with content := content } } := by
  unfold updateWork at h
  obtain ⟨u, hRevision, h⟩ := Keyed.bind_eq_ok.mp h
  obtain ⟨hDraft, h⟩ := of_throw_unless h
  obtain ⟨-, h⟩ := of_throw_unless h
  obtain ⟨media, -, h⟩ := Keyed.bind_eq_ok.mp h
  injection h with h
  exact ⟨checkRevision_eq_ok hRevision, not_not.mp hDraft, _, h.symm⟩

theorem scheduleWork_eq_ok {scheduledAt : Time} {approvedRevision : Nat}
    {current next : PostRecord}
    (h : scheduleWork cfg scheduledAt approvedRevision current = .ok next) :
    approvedRevision = current.post.revision ∧
      (∀ job ∈ current.jobs, blocksSchedule job = false) ∧ current.post.status ≠ .cancelled ∧
      issues cfg current = .ok [] ∧
      next = {
        post := { current.post with status := .scheduled, scheduledAt := scheduledAt }
        jobs := current.jobs.map (scheduleJob scheduledAt) } := by
  unfold scheduleWork at h
  obtain ⟨u, hRevision, h⟩ := Keyed.bind_eq_ok.mp h
  obtain ⟨hOpen, h⟩ := of_throw_unless h
  obtain ⟨hStatus, h⟩ := of_throw_unless h
  obtain ⟨found, hFound, h⟩ := Keyed.bind_eq_ok.mp h
  obtain ⟨hEmpty, h⟩ := of_throw_unless h
  injection h with h
  have hIssues : issues cfg current = .ok [] := by
    cases hEq : issues cfg current with
    | error e => simp [hEq, liftThrown] at hFound
    | ok list =>
      rw [hEq, liftThrown] at hFound
      injection hFound with hFound
      rw [hFound, not_not.mp hEmpty]
  refine ⟨checkRevision_eq_ok hRevision, fun job hJob => ?_, hStatus, hIssues, h.symm⟩
  exact Bool.eq_false_of_not_eq_true fun hBlocks => hOpen (List.any_eq_true.mpr ⟨job, hJob, hBlocks⟩)

theorem cancelWork_eq_ok {revision : Nat} {current next : PostRecord}
    (h : cancelWork revision current = .ok next) :
    revision = current.post.revision ∧ (∀ job ∈ current.jobs, blocksCancel job = false) ∧
      next = {
        post := { current.post with status := summarizeStatus (current.jobs.map cancelJob) }
        jobs := current.jobs.map cancelJob } := by
  unfold cancelWork at h
  obtain ⟨u, hRevision, h⟩ := Keyed.bind_eq_ok.mp h
  obtain ⟨hOpen, h⟩ := of_throw_unless h
  injection h with h
  refine ⟨checkRevision_eq_ok hRevision, fun job hJob => ?_, h.symm⟩
  exact Bool.eq_false_of_not_eq_true fun hBlocks => hOpen (List.any_eq_true.mpr ⟨job, hJob, hBlocks⟩)

theorem retryWork_eq_ok {jobId : JobId} {revision : Nat} {date : Time}
    {current next : PostRecord} (h : retryWork jobId revision date current = .ok next) :
    revision = current.post.revision ∧
      (∃ job ∈ current.jobs, job.id = jobId ∧ blocksRetry job = false) ∧
      next = {
        post := { current.post with status := .scheduled }
        jobs := current.jobs.map (retryJob jobId date) } := by
  unfold retryWork at h
  obtain ⟨u, hRevision, h⟩ := Keyed.bind_eq_ok.mp h
  split at h
  · injection h
  · rename_i job hFind
    obtain ⟨hOpen, h⟩ := of_throw_unless h
    injection h with h
    have hId : job.id = jobId := by simpa using List.find?_some hFind
    exact ⟨checkRevision_eq_ok hRevision, ⟨job, List.mem_of_find?_eq_some hFind, hId,
      Bool.eq_false_of_not_eq_true hOpen⟩, h.symm⟩

theorem update_cases {dto : UpdateDraftDto}
    (h : update cfg ownerId id dto now db = .ok (record, db')) :
    ∃ row next f, Edit cfg db id row (.update ownerId id dto) next f ∧
      Mutated db id row next f db' := by
  obtain ⟨row, next, -, hNext, hMutated⟩ := mutated (f := fun job => job) (fun _ => rfl)
    (fun current next hNext => by
      obtain ⟨-, -, content, rfl⟩ := updateWork_eq_ok hNext
      exact ⟨rfl, (List.map_id _).symm⟩) h
  obtain ⟨hRevision, hDraft, content, rfl⟩ := updateWork_eq_ok hNext
  exact ⟨row, _, _, .update content hRevision.symm hDraft, hMutated⟩

theorem schedule_cases {operation : UserOperation} {scheduledAt : Option Time}
    {approvedRevision : Nat} {date : Time}
    (hApproval : operation.approval = some (id, approvedRevision))
    (hTime : operation.scheduledTime = scheduledAt)
    (h : schedule cfg ownerId id scheduledAt approvedRevision date now db = .ok (record, db')) :
    ∃ row next f, Edit cfg db id row operation next f ∧ Mutated db id row next f db' := by
  unfold schedule at h
  split at h
  · injection h
  · rename_i time
    split at h
    · injection h
    · obtain ⟨row, next, -, hNext, hMutated⟩ := mutated (scheduleJob_writeBack time)
        (fun current next hNext => by
          obtain ⟨-, -, -, -, rfl⟩ := scheduleWork_eq_ok hNext
          exact ⟨rfl, rfl⟩) h
      obtain ⟨hRevision, hOpen, hStatus, hIssues, rfl⟩ := scheduleWork_eq_ok hNext
      subst hRevision
      exact ⟨row, _, _, .schedule time hApproval hOpen hStatus hIssues hTime, hMutated⟩

theorem cancel_cases {revision : Nat} (h : cancel ownerId id revision now db = .ok (record, db')) :
    ∃ row next f, Edit cfg db id row (.cancel ownerId id revision) next f ∧
      Mutated db id row next f db' := by
  obtain ⟨row, next, -, hNext, hMutated⟩ := mutated cancelJob_writeBack
    (fun current next hNext => by
      obtain ⟨-, -, rfl⟩ := cancelWork_eq_ok hNext
      exact ⟨rfl, rfl⟩) h
  obtain ⟨hRevision, hOpen, rfl⟩ := cancelWork_eq_ok hNext
  subst hRevision
  exact ⟨row, _, _, .cancel hOpen, hMutated⟩

theorem retry_cases {jobId : JobId} {revision : Nat} {date : Time}
    (h : retry ownerId id jobId revision date now db = .ok (record, db')) :
    ∃ row next f, Edit cfg db id row (.retry ownerId id jobId revision date) next f ∧
      Mutated db id row next f db' := by
  obtain ⟨row, next, -, hNext, hMutated⟩ := mutated (retryJob_writeBack jobId date)
    (fun current next hNext => by
      obtain ⟨-, -, rfl⟩ := retryWork_eq_ok hNext
      exact ⟨rfl, rfl⟩) h
  obtain ⟨hRevision, ⟨job, hJob, rfl, hOpen⟩, rfl⟩ := retryWork_eq_ok hNext
  subst hRevision
  exact ⟨row, _, _, .retry job hJob hOpen, hMutated⟩

end Edits

/-! ## Creation -/

/-- A draft was stored under an unused id, with waiting jobs under unused ids. -/
structure Created (db : Database) (post : Post) (db' : Database) : Prop where
  unused : db.posts.lookup post.id = none
  draft : post.status = .draft
  posts : db'.posts = db.posts.insert post.id (rowOf post)
  postMedia : db'.postMedia = db.postMedia.insert post.id post.content.media
  socialPosts : db'.socialPosts = db.socialPosts
  alerts : db'.alerts = db.alerts
  auditLogs : db'.auditLogs = db.auditLogs
  rows : ∀ k, db'.job? k = db.job? k ∨
    db.job? k = none ∧ ∃ target, db'.job? k = some (newJob k post target)
  outbox : db'.outbox = db.outbox
  nextUuid : db.nextUuid ≤ db'.nextUuid

section Create

variable {db db' : Database} {post : Post}

theorem insertJob_eq_ok {job : SocialPublishJob} (h : db.insertJob job = .ok db') :
    db.job? job.id = none ∧ ∃ stored, stored.row = job ∧
      db' = createSocialPublishQueueOutbox none job
        { db with jobs := db.jobs.insert job.id stored } := by
  unfold insertJob at h
  split at h
  · injection h
  · rename_i hNone
    split at h
    · injection h with h
      refine ⟨?_, _, rfl, h.symm⟩
      rw [Option.not_isSome_iff_eq_none] at hNone
      simp [job?, hNone]
    · injection h

/-- What the insertion of waiting jobs of a stored draft changes. -/
def JobsInserted (post : Post) (db db' : Database) : Prop :=
  db.postStatus? post.id = some .draft →
    db'.posts = db.posts ∧ db'.postMedia = db.postMedia ∧ db'.socialPosts = db.socialPosts ∧
    db'.alerts = db.alerts ∧ db'.auditLogs = db.auditLogs ∧ db'.outbox = db.outbox ∧
    db'.nextUuid = db.nextUuid ∧ ∀ k, db'.job? k = db.job? k ∨
      db.job? k = none ∧ ∃ target, db'.job? k = some (newJob k post target)

theorem JobsInserted.refl (post : Post) (db : Database) : JobsInserted post db db :=
  fun _ => ⟨rfl, rfl, rfl, rfl, rfl, rfl, rfl, fun _ => Or.inl rfl⟩

theorem JobsInserted.trans {a b c : Database} (h : JobsInserted post a b)
    (h' : JobsInserted post b c) : JobsInserted post a c := by
  intro hDraft
  obtain ⟨hPosts, hMedia, hSocial, hAlerts, hAudit, hOutbox, hUuid, hRows⟩ := h hDraft
  obtain ⟨hPosts', hMedia', hSocial', hAlerts', hAudit', hOutbox', hUuid', hRows'⟩ :=
    h' (by rw [postStatus?, hPosts]; exact hDraft)
  refine ⟨hPosts'.trans hPosts, hMedia'.trans hMedia, hSocial'.trans hSocial,
    hAlerts'.trans hAlerts, hAudit'.trans hAudit, hOutbox'.trans hOutbox, hUuid'.trans hUuid,
    fun k => ?_⟩
  rcases hRows k with hSame | ⟨hNone, target, hNew⟩
  · rw [← hSame]
    exact hRows' k
  · rcases hRows' k with hSame' | ⟨hNone', -⟩
    · exact Or.inr ⟨hNone, target, hSame'.trans hNew⟩
    · rw [hNew] at hNone'
      injection hNone'

theorem insertJob_inserted {id : JobId} {target : SocialTarget}
    (h : db.insertJob (newJob id post target) = .ok db') : JobsInserted post db db' := by
  intro hDraft
  obtain ⟨hNone, stored, hStored, rfl⟩ := insertJob_eq_ok h
  have hWaiting : (newJob id post target).status ≠ .cancelled := nofun
  have hPost : postStatus? { db with jobs := db.jobs.insert (newJob id post target).id stored }
      (newJob id post target).postId = some .draft := hDraft
  rw [trigger_draft _ _ hPost hWaiting]
  refine ⟨rfl, rfl, rfl, rfl, rfl, rfl, rfl, fun k => ?_⟩
  rw [job?_insert]
  by_cases hk : k = (newJob id post target).id
  · rw [if_pos hk, hStored]
    subst hk
    exact Or.inr ⟨hNone, target, rfl⟩
  · rw [if_neg hk]
    exact Or.inl rfl

theorem mem_newJobs {id : JobId} {targets : List SocialTarget} {job : SocialPublishJob}
    (h : job ∈ newJobs post id targets) : ∃ id target, job = newJob id post target := by
  induction targets generalizing id with
  | nil => exact absurd h List.not_mem_nil
  | cons target rest ih =>
    rcases List.mem_cons.mp h with rfl | hRest
    · exact ⟨id, target, rfl⟩
    · exact ih hRest

theorem liftDb_eq_ok {α : Type} {x : Except DbError α} {a : α} (h : liftDb x = .ok a) :
    x = .ok a := by
  cases x with
  | error e => injection h
  | ok b => exact congrArg Except.ok (Except.ok.inj h)

theorem insertJobs_inserted {id : JobId} {targets : List SocialTarget}
    (h : insertJobs (newJobs post id targets) db = .ok db') : JobsInserted post db db' := by
  refine Keyed.foldlM_relation (JobsInserted.refl post) (fun _ _ _ => JobsInserted.trans)
    (fun job hJob s s' hStep => ?_) h
  obtain ⟨k, target, rfl⟩ := mem_newJobs hJob
  exact insertJob_inserted (liftDb_eq_ok hStep)

theorem create_cases {cfg : Config} {ownerId : UserId} {dto : CreatePostDto} {now : Time}
    {record : PostRecord} (h : create cfg ownerId dto now db = .ok (record, db')) :
    ∃ post, Created db post db' := by
  unfold create at h
  obtain ⟨-, h⟩ := of_throw_unless h
  obtain ⟨-, h⟩ := of_throw_unless h
  obtain ⟨media, -, h⟩ := Keyed.bind_eq_ok.mp h
  obtain ⟨db₁, hSave, h⟩ := Keyed.bind_eq_ok.mp h
  injection h with h
  injection h with _ h
  subst h
  unfold save at hSave
  obtain ⟨-, hSave⟩ := of_throw_unless hSave
  obtain ⟨-, -, hSave⟩ := Keyed.bind_eq_ok.mp hSave
  obtain ⟨hUnused, hSave⟩ := of_throw_unless hSave
  obtain ⟨hPosts, hMedia, hSocial, hAlerts, hAudit, hOutbox, hUuid, hRows⟩ :=
    insertJobs_inserted hSave (by simp [postStatus?, rowOf])
  refine ⟨_, ?_, rfl, hPosts, hMedia, hSocial, hAlerts, hAudit, hRows, hOutbox, ?_⟩
  · exact Option.not_isSome_iff_eq_none.mp hUnused
  · rw [hUuid]
    exact Nat.le_trans (Nat.le_succ _) (Nat.le_add_right _ _)

end Create

/-- **An operation** that succeeds creates a post or edits one. -/
theorem perform_cases {cfg : Config} {now : Time} {db db' : Database} {record : PostRecord}
    {operation : UserOperation} (h : operation.perform cfg now db = .ok (record, db')) :
    (∃ post, Created db post db') ∨
      ∃ id row next f, Edit cfg db id row operation next f ∧ Mutated db id row next f db' := by
  cases operation with
  | create ownerId dto => exact Or.inl (create_cases h)
  | update ownerId id dto => exact Or.inr ⟨id, update_cases h⟩
  | schedule ownerId id scheduledAt approvedRevision date =>
    exact Or.inr ⟨id, schedule_cases rfl rfl h⟩
  | publishNow ownerId id revision date date' =>
    unfold UserOperation.perform publishNow at h
    exact Or.inr ⟨id, schedule_cases rfl rfl h⟩
  | cancel ownerId id revision => exact Or.inr ⟨id, cancel_cases h⟩
  | retry ownerId id jobId revision date => exact Or.inr ⟨id, retry_cases h⟩

end SocialPromotion
