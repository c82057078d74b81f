import SocialPromotion.Lib.Keyed
import SocialPromotion.Model.PostRepository
import SocialPromotion.Steps.Statements

/-!
# What a mutation of a post does

`PgPostRepository.mutate` writes the post, then loops over its jobs, then may insert outbox
rows. Its result:

* `mutated`: when the work maps the jobs by a function that only touches the columns
  written back, every job of the post is rewritten by that function, every other job is
  untouched, and each outbox row moves as `outboxAfter` says.
-/

namespace SocialPromotion

open Database PgPostRepository

/-! ## The jobs of a post -/

theorem mem_jobsOf {db : Database} {id : PostId} {job : SocialPublishJob} :
    job ∈ jobsOf db id ↔ db.job? job.id = some job ∧ job.postId = id := by
  unfold jobsOf
  rw [Keyed.mem_select]
  constructor
  · rintro ⟨k, ⟨row, rfl, hChecks⟩, hLookup, rfl, hPost⟩
    exact ⟨job?_eq_some_iff.mpr ⟨_, hLookup, rfl⟩, by simpa using hPost⟩
  · rintro ⟨hJob, hPost⟩
    obtain ⟨stored, hLookup, hRow⟩ := job?_eq_some_iff.mp hJob
    exact ⟨job.id, stored, hLookup, hRow, by simpa using hPost⟩

theorem nodup_jobsOf (db : Database) (id : PostId) :
    ((jobsOf db id).map SocialPublishJob.id).Nodup :=
  Keyed.nodup_select fun _ (stored : StoredJob _) => stored.id_eq

theorem find?_jobsOf {db : Database} {id : PostId} {job : SocialPublishJob}
    (h : job ∈ jobsOf db id) :
    (jobsOf db id).find? (fun old => old.id = job.id) = some job := by
  cases hFind : (jobsOf db id).find? (fun old => old.id = job.id) with
  | none =>
    have := List.find?_eq_none.mp hFind job h
    simp at this
  | some old =>
    have hId : old.id = job.id := by simpa using List.find?_some hFind
    have hOld := (mem_jobsOf.mp (List.mem_of_find?_eq_some hFind)).1
    have hJob := (mem_jobsOf.mp h).1
    rw [hId, hJob, Option.some.injEq] at hOld
    rw [hOld]

/-! ## Outbox rows -/

/-- A waiting job of a scheduled post whose status or schedule changed. -/
def Rescheduled (status : PostStatus) (old new : SocialPublishJob) : Prop :=
  new.status = .waiting ∧ status = .scheduled ∧
    ¬ (old.status = new.status ∧ old.scheduledAt = new.scheduledAt)

instance (status : PostStatus) (old new : SocialPublishJob) :
    Decidable (Rescheduled status old new) :=
  inferInstanceAs (Decidable (_ ∧ _ ∧ ¬ _))

/-- The outbox row of a job after its write-back, where a fresh uuid is `uuid`. -/
def triggered (status : PostStatus) (old new : SocialPublishJob) (uuid : Uuid)
    (before : Option OutboxRow) : Option OutboxRow :=
  if Rescheduled status old new then some (freshOutboxRow new.id new.scheduledAt uuid)
  else if new.status = .cancelled ∧ new ≠ old then none
  else before

/-- The outbox row of a job after the whole mutation; `approved` is a first approval. -/
def outboxAfter (approved : Prop) [Decidable approved] (status : PostStatus)
    (old new : SocialPublishJob) (uuid : Uuid) (before : Option OutboxRow) : Option OutboxRow :=
  if approved ∧ new.status = .waiting then
    some ((triggered status old new uuid before).getD
      (freshOutboxRow new.id new.scheduledAt uuid))
  else triggered status old new uuid before

/-- The trigger on a changed row of a post with this status. -/
theorem trigger_triggered {status : PostStatus} {old new : SocialPublishJob} (db : Database)
    (hStatus : db.postStatus? new.postId = some status) (hNe : new ≠ old) :
    (createSocialPublishQueueOutbox (some old) new db).outbox.lookup new.id =
        triggered status old new db.nextUuid (db.outbox.lookup new.id) ∧
      (createSocialPublishQueueOutbox (some old) new db).nextUuid =
        if Rescheduled status old new then db.nextUuid + 1 else db.nextUuid := by
  have hScheduled : (new.status = .waiting ∧ db.postStatus? new.postId = some .scheduled) ↔
      (new.status = .waiting ∧ status = .scheduled) := by
    rw [hStatus, Option.some.injEq]
  unfold createSocialPublishQueueOutbox triggered
  simp only [hScheduled, Option.any_some, decide_eq_true_eq]
  by_cases hResched : Rescheduled status old new
  · obtain ⟨hWaiting, hPost, hChanged⟩ := hResched
    rw [if_pos ⟨hWaiting, hPost⟩, if_neg hChanged, if_pos ⟨hWaiting, hPost, hChanged⟩,
      if_pos ⟨hWaiting, hPost, hChanged⟩]
    exact ⟨AList.lookup_insert _, rfl⟩
  · rw [if_neg hResched, if_neg hResched]
    by_cases hActive : new.status = .waiting ∧ status = .scheduled
    · have hSame : old.status = new.status ∧ old.scheduledAt = new.scheduledAt := by
        by_contra hChanged
        exact hResched ⟨hActive.1, hActive.2, hChanged⟩
      have hNot : ¬ (new.status = .cancelled ∧ new ≠ old) := by
        rw [hActive.1]
        exact fun h => nomatch h.1
      rw [if_pos hActive, if_pos hSame, if_neg hNot]
      exact ⟨rfl, rfl⟩
    · rw [if_neg hActive]
      by_cases hCancelled : new.status = .cancelled
      · rw [if_pos hCancelled, if_pos ⟨hCancelled, hNe⟩]
        exact ⟨AList.lookup_erase _ _, rfl⟩
      · rw [if_neg hCancelled, if_neg fun h => hCancelled h.1]
        exact ⟨rfl, rfl⟩

/-! ## One write-back -/

theorem id_writeBack (job row : SocialPublishJob) : (writeBack job row).id = row.id := rfl

/-- The row of a job with its outbox row. -/
def rowView (k : JobId) (db : Database) : Option SocialPublishJob × Option OutboxRow :=
  (db.job? k, db.outbox.lookup k)

theorem rowView_eq {k : JobId} {db db' : Database} :
    rowView k db' = rowView k db ↔
      db'.job? k = db.job? k ∧ db'.outbox.lookup k = db.outbox.lookup k :=
  Prod.mk.injEq .. |>.to_iff

theorem writeJob_cases {current : List SocialPublishJob} {job : SocialPublishJob}
    {db db' : Database} (h : writeJob current db job = .ok db') :
    (current.find? (fun old => old.id = job.id) = some job ∨ db.job? job.id = none) ∧ db' = db ∨
      current.find? (fun old => old.id = job.id) ≠ some job ∧
      ∃ old stored, db.job? job.id = some old ∧ stored.row = writeBack job old ∧
        db' = createSocialPublishQueueOutbox (some old) (writeBack job old)
          { db with jobs := db.jobs.insert job.id stored } := by
  unfold writeJob at h
  split at h
  · rename_i hFound
    injection h with h
    exact Or.inl ⟨Or.inl hFound, h.symm⟩
  · rename_i hFound
    cases hUpdate : db.updateJob job.id (fun _ => true) (writeBack job) with
    | error e => simp [hUpdate, Except.map, liftDb] at h
    | ok result =>
      obtain ⟨updated, db₁⟩ := result
      have hDb : db₁ = db' := by simpa [hUpdate, Except.map, liftDb] using h
      subst hDb
      rcases updateJob_cases (id_writeBack job) hUpdate with
        ⟨-, hSame, hNone⟩ | ⟨old, stored, hOld, -, hStored, -, hDb⟩
      · refine Or.inl ⟨Or.inr ?_, hSame⟩
        cases hJob : db.job? job.id with
        | none => rfl
        | some row => simpa using hNone row hJob
      · exact Or.inr ⟨hFound, old, stored, hOld, hStored, hDb⟩

/-- A write-back touches its own row and outbox row only. -/
theorem writeJob_frame {current : List SocialPublishJob} {job : SocialPublishJob}
    {db db' : Database} (h : writeJob current db job = .ok db') {k : JobId} (hk : k ≠ job.id) :
    rowView k db' = rowView k db := by
  rcases writeJob_cases h with ⟨-, rfl⟩ | ⟨-, old, stored, hOld, -, rfl⟩
  · rfl
  · have hId : old.id = job.id := job?_id hOld
    refine rowView_eq.mpr ⟨?_, ?_⟩
    · rw [trigger_job?, job?_insert, if_neg hk]
    · exact trigger_outbox_ne _ _ (show k ≠ old.id from hId ▸ hk)

/-- What every step of a mutation keeps: the posts, and uuids that were drawn. -/
structure Kept (db db' : Database) : Prop where
  posts : db'.posts = db.posts
  postMedia : db'.postMedia = db.postMedia
  socialPosts : db'.socialPosts = db.socialPosts
  alerts : db'.alerts = db.alerts
  auditLogs : db'.auditLogs = db.auditLogs
  nextUuid : db.nextUuid ≤ db'.nextUuid

theorem Kept.refl (db : Database) : Kept db db := ⟨rfl, rfl, rfl, rfl, rfl, le_rfl⟩

theorem Kept.trans {a b c : Database} (h : Kept a b) (h' : Kept b c) : Kept a c where
  posts := h'.posts.trans h.posts
  postMedia := h'.postMedia.trans h.postMedia
  socialPosts := h'.socialPosts.trans h.socialPosts
  alerts := h'.alerts.trans h.alerts
  auditLogs := h'.auditLogs.trans h.auditLogs
  nextUuid := h.nextUuid.trans h'.nextUuid

theorem writeJob_kept {current : List SocialPublishJob} {job : SocialPublishJob}
    {db db' : Database} (h : writeJob current db job = .ok db') : Kept db db' := by
  rcases writeJob_cases h with ⟨-, rfl⟩ | ⟨-, old, stored, hOld, -, rfl⟩
  · exact Kept.refl _
  · exact ⟨trigger_posts .., trigger_postMedia .., trigger_socialPosts .., trigger_alerts ..,
      trigger_auditLogs .., nextUuid_le_trigger _ _ { db with jobs := db.jobs.insert job.id stored }⟩

/-- A write-back of `new` over the row `old` it was computed from. -/
theorem writeJob_self {current : List SocialPublishJob} {old new : SocialPublishJob}
    {db db' : Database} {status : PostStatus} (h : writeJob current db new = .ok db')
    (hWrite : writeBack new old = new) (hOld : db.job? new.id = some old)
    (hCurrent : current.find? (fun row => row.id = new.id) = some old)
    (hStatus : db.postStatus? new.postId = some status) :
    db'.job? new.id = some new ∧
      db'.outbox.lookup new.id =
        triggered status old new db.nextUuid (db.outbox.lookup new.id) ∧
      (Rescheduled status old new → db.nextUuid < db'.nextUuid) := by
  rcases writeJob_cases h with ⟨hSkip, rfl⟩ | ⟨hFound, old', stored, hOld', hStored, rfl⟩
  · -- the JSON of the job is unchanged
    have hSame : old = new := by
      rcases hSkip with hFound | hNone
      · rw [hCurrent] at hFound
        exact Option.some.inj hFound
      · rw [hOld] at hNone
        injection hNone
    subst hSame
    have hNot : ¬ Rescheduled status old old := fun h => h.2.2 ⟨rfl, rfl⟩
    refine ⟨hOld, ?_, fun h => absurd h hNot⟩
    rw [triggered, if_neg hNot, if_neg fun h => h.2 rfl]
  · have hNe : new ≠ old := fun he => hFound (he ▸ hCurrent)
    rw [hOld, Option.some.injEq] at hOld'
    subst hOld'
    rw [hWrite] at hStored ⊢
    obtain ⟨hOutbox, hUuid⟩ := trigger_triggered
      { db with jobs := db.jobs.insert new.id stored } hStatus hNe
    refine ⟨?_, hOutbox, fun hResched => ?_⟩
    · rw [trigger_job?, job?_insert, if_pos rfl, hStored]
    · rw [hUuid, if_pos hResched]
      exact Nat.lt_succ_self _

/-! ## The loop over the jobs -/

section Loop

variable {f : SocialPublishJob → SocialPublishJob} {id : PostId} {db db' : Database}

theorem id_of_writeBack {old new : SocialPublishJob} (h : writeBack new old = new) :
    new.id = old.id := by
  rw [← h]
  rfl

theorem postId_of_writeBack {old new : SocialPublishJob} (h : writeBack new old = new) :
    new.postId = old.postId := by
  rw [← h]
  rfl

theorem map_id_of_writeBack (hf : ∀ old, writeBack (f old) old = f old)
    (jobs : List SocialPublishJob) :
    (jobs.map f).map SocialPublishJob.id = jobs.map SocialPublishJob.id := by
  rw [List.map_map]
  exact List.map_congr_left fun old _ => id_of_writeBack (hf old)

theorem writeJobs_kept {current jobs : List SocialPublishJob}
    (h : jobs.foldlM (writeJob current) db = .ok db') : Kept db db' :=
  Keyed.foldlM_relation Kept.refl (fun _ _ _ => Kept.trans) (fun _ _ _ _ => writeJob_kept) h

theorem writeJobs_frame {current jobs : List SocialPublishJob}
    (h : jobs.foldlM (writeJob current) db = .ok db') {k : JobId}
    (hk : ∀ job ∈ jobs, job.id ≠ k) : rowView k db' = rowView k db :=
  Keyed.foldlM_view_frame SocialPublishJob.id rowView
    (fun _ _ _ _ hStep hNe => writeJob_frame hStep hNe) h hk

/-- Jobs of other posts are not written. -/
theorem writeJobs_other (hf : ∀ old, writeBack (f old) old = f old)
    (h : ((jobsOf db id).map f).foldlM (writeJob (jobsOf db id)) db = .ok db') {k : JobId}
    (hk : ∀ old, db.job? k = some old → old.postId ≠ id) : rowView k db' = rowView k db := by
  refine writeJobs_frame h fun job hJob he => ?_
  obtain ⟨old, hOld, rfl⟩ := List.mem_map.mp hJob
  rw [id_of_writeBack (hf old)] at he
  obtain ⟨hRow, hPost⟩ := mem_jobsOf.mp hOld
  exact hk old (he ▸ hRow) hPost

/-- Each job of the post is written once, from the row it had. -/
theorem writeJobs_self (hf : ∀ old, writeBack (f old) old = f old) {status : PostStatus}
    (hStatus : db.postStatus? id = some status)
    (h : ((jobsOf db id).map f).foldlM (writeJob (jobsOf db id)) db = .ok db')
    {old : SocialPublishJob} (hOld : old ∈ jobsOf db id) :
    db'.job? old.id = some (f old) ∧ ∃ uuid, db.nextUuid ≤ uuid ∧
      db'.outbox.lookup old.id =
        triggered status old (f old) uuid (db.outbox.lookup old.id) ∧
      (Rescheduled status old (f old) → uuid < db'.nextUuid) := by
  have hId := id_of_writeBack (hf old)
  have hDistinct : (((jobsOf db id).map f).map SocialPublishJob.id).Nodup := by
    rw [map_id_of_writeBack hf]
    exact nodup_jobsOf db id
  obtain ⟨before, after, t, t', hBefore, hStep, hAfter, hBeforeNe, hAfterNe⟩ :=
    Keyed.foldlM_visit h hDistinct (List.mem_map_of_mem hOld)
  obtain ⟨hRow, hOutbox⟩ := rowView_eq.mp (writeJobs_frame hBefore hBeforeNe)
  obtain ⟨hRow', hOutbox'⟩ := rowView_eq.mp (writeJobs_frame hAfter hAfterNe)
  have hKept := writeJobs_kept hBefore
  have hKept' := writeJobs_kept hAfter
  -- the iteration on this job starts from the row and the post that the loop started from
  have hRowHere : t.job? (f old).id = some old := by
    rw [hRow, hId]
    exact (mem_jobsOf.mp hOld).1
  have hStatusHere : t.postStatus? (f old).postId = some status := by
    rw [postId_of_writeBack (hf old), (mem_jobsOf.mp hOld).2, postStatus?, hKept.posts]
    exact hStatus
  have hCurrent : (jobsOf db id).find? (fun row => row.id = (f old).id) = some old := by
    rw [hId]
    exact find?_jobsOf hOld
  obtain ⟨hNew, hMoved, hFresh⟩ := writeJob_self hStep (hf old) hRowHere hCurrent hStatusHere
  rw [hOutbox, hId] at hMoved
  rw [hId] at hNew hRow' hOutbox'
  exact ⟨hRow'.trans hNew, t.nextUuid, hKept.nextUuid, hOutbox'.trans hMoved,
    fun hResched => (hFresh hResched).trans_le hKept'.nextUuid⟩

end Loop

/-! ## The explicit outbox INSERT -/

section Insert

variable {db : Database} {id : PostId}

theorem insertOutboxRow_ne (db : Database) (job : SocialPublishJob) {k : JobId}
    (hk : k ≠ job.id) : (insertOutboxRow db job).outbox.lookup k = db.outbox.lookup k := by
  unfold insertOutboxRow
  dsimp only
  split_ifs
  · rfl
  · exact AList.lookup_insert_ne hk

theorem insertOutboxRow_self (db : Database) (job : SocialPublishJob) :
    (insertOutboxRow db job).outbox.lookup job.id =
      some ((db.outbox.lookup job.id).getD
        (freshOutboxRow job.id job.scheduledAt db.nextUuid)) := by
  unfold insertOutboxRow
  cases hRow : db.outbox.lookup job.id with
  | none => simp
  | some row => simp [hRow]

/-- The INSERT changes the outbox and the uuid counter only. -/
def OutboxOnly (db db' : Database) : Prop :=
  (∀ k, db'.job? k = db.job? k) ∧ Kept db db'

theorem OutboxOnly.trans {a b c : Database} (h : OutboxOnly a b) (h' : OutboxOnly b c) :
    OutboxOnly a c :=
  ⟨fun k => (h'.1 k).trans (h.1 k), h.2.trans h'.2⟩

/-- The INSERT as a fallible loop, to which the loop rules apply. -/
theorem insertOutboxRows_loop (db : Database) (id : PostId) :
    ((jobsOf db id).filter fun job => job.status = .waiting).foldlM
      (fun db job => Except.ok (ε := Unit) (insertOutboxRow db job)) db =
      .ok (insertOutboxRows db id) :=
  List.foldlM_pure

theorem insertLoop_outboxOnly {jobs : List SocialPublishJob} {db db' : Database}
    (h : jobs.foldlM (fun db job => Except.ok (ε := Unit) (insertOutboxRow db job)) db =
      .ok db') : OutboxOnly db db' := by
  refine Keyed.foldlM_relation (R := OutboxOnly) (fun s => ⟨fun _ => rfl, Kept.refl s⟩)
    (fun _ _ _ => OutboxOnly.trans) (fun job _ s s' hStep => ?_) h
  injection hStep with hStep
  subst hStep
  exact ⟨fun _ => rfl, ⟨rfl, rfl, rfl, rfl, rfl, Nat.le_succ _⟩⟩

theorem insertLoop_frame {jobs : List SocialPublishJob} {db db' : Database}
    (h : jobs.foldlM (fun db job => Except.ok (ε := Unit) (insertOutboxRow db job)) db =
      .ok db') {k : JobId} (hk : ∀ job ∈ jobs, job.id ≠ k) :
    db'.outbox.lookup k = db.outbox.lookup k := by
  refine Keyed.foldlM_view_frame SocialPublishJob.id (fun k (db : Database) => db.outbox.lookup k)
    (fun s job s' k hStep hk => ?_) h hk
  injection hStep with hStep
  subst hStep
  exact insertOutboxRow_ne s job hk

theorem insertOutboxRows_outboxOnly (db : Database) (id : PostId) :
    OutboxOnly db (insertOutboxRows db id) :=
  insertLoop_outboxOnly (insertOutboxRows_loop db id)

theorem insertOutboxRows_frame {k : JobId}
    (hk : ∀ job ∈ jobsOf db id, job.status = .waiting → job.id ≠ k) :
    (insertOutboxRows db id).outbox.lookup k = db.outbox.lookup k := by
  refine insertLoop_frame (insertOutboxRows_loop db id) fun job hJob => ?_
  obtain ⟨hMem, hWaiting⟩ := List.mem_filter.mp hJob
  exact hk job hMem (by simpa using hWaiting)

theorem insertOutboxRows_self {job : SocialPublishJob} (hJob : job ∈ jobsOf db id)
    (hWaiting : job.status = .waiting) :
    ∃ uuid, db.nextUuid ≤ uuid ∧ uuid < (insertOutboxRows db id).nextUuid ∧
      (insertOutboxRows db id).outbox.lookup job.id =
        some ((db.outbox.lookup job.id).getD
          (freshOutboxRow job.id job.scheduledAt uuid)) := by
  have hMem : job ∈ (jobsOf db id).filter fun job => job.status = .waiting :=
    List.mem_filter.mpr ⟨hJob, by simpa using hWaiting⟩
  have hDistinct : (((jobsOf db id).filter fun job => job.status = .waiting).map
      SocialPublishJob.id).Nodup :=
    (nodup_jobsOf db id).sublist (List.filter_sublist.map _)
  obtain ⟨before, after, t, t', hBefore, hStep, hAfter, hBeforeNe, hAfterNe⟩ :=
    Keyed.foldlM_visit (insertOutboxRows_loop db id) hDistinct hMem
  injection hStep with hStep
  subst hStep
  have hLower := (insertLoop_outboxOnly hBefore).2.nextUuid
  have hUpper := (insertLoop_outboxOnly hAfter).2.nextUuid
  refine ⟨t.nextUuid, hLower, Nat.lt_of_succ_le hUpper, ?_⟩
  rw [insertLoop_frame hAfter hAfterNe, insertOutboxRow_self,
    insertLoop_frame hBefore hBeforeNe]

end Insert

/-! ## The mutation as a whole -/

/-- What a mutation of the post `id` with row `row` does, where the work leaves `next` and
maps the jobs by `f`. -/
structure Mutated (db : Database) (id : PostId) (row : PostRow) (next : Post)
    (f : SocialPublishJob → SocialPublishJob) (db' : Database) : Prop where
  found : db.posts.lookup id = some row
  posts : db'.posts = db.posts.insert id (updatedPost next row)
  postMedia : db'.postMedia = db.postMedia.insert id next.content.media
  socialPosts : db'.socialPosts = db.socialPosts
  alerts : db'.alerts = db.alerts
  auditLogs : db'.auditLogs = db.auditLogs ++ [postUpdated row.ownerId id next]
  rows : ∀ k, db'.job? k =
    (db.job? k).map fun old => if old.postId = id then f old else old
  otherOutbox : ∀ k, (∀ old, db.job? k = some old → old.postId ≠ id) →
    db'.outbox.lookup k = db.outbox.lookup k
  outbox : ∀ old ∈ jobsOf db id, ∃ uuid, db.nextUuid ≤ uuid ∧
    db'.outbox.lookup old.id =
      outboxAfter (row.status = .draft ∧ next.status = .scheduled) next.status old (f old) uuid
        (db.outbox.lookup old.id) ∧
    (uuid < db'.nextUuid ∨ db'.outbox.lookup old.id = none ∨
      db'.outbox.lookup old.id = db.outbox.lookup old.id)
  nextUuid : db.nextUuid ≤ db'.nextUuid

section Mutate

variable {id : PostId} {ownerId : UserId} {work : PostRecord → Except ServiceError PostRecord}
  {now : Time} {db db' : Database} {record : PostRecord}
  {f : SocialPublishJob → SocialPublishJob}

theorem ownedPost_eq_ok {row : PostRow} (h : ownedPost db id ownerId = .ok row) :
    db.posts.lookup id = some row ∧ row.ownerId = ownerId := by
  unfold ownedPost at h
  split at h
  · rename_i hRow
    split at h
    · rename_i hOwner
      injection h with h
      subst h
      exact ⟨hRow, hOwner⟩
    · injection h
  · injection h

/-- What a mutation that commits has done: it found the post of its owner, wrote what `work` made of it,
and wrote the outbox rows with the first approval. -/
theorem mutate_eq_ok (h : mutate id ownerId work now db = .ok (record, db')) :
    ∃ row next db₂, db.posts.lookup id = some row ∧ row.ownerId = ownerId ∧
      work ⟨toPost id row (mediaOf db id), jobsOf db id⟩ = .ok next ∧
      next.jobs.foldlM (writeJob (jobsOf db id)) (writePost id next.post db) = .ok db₂ ∧
      db' = insertAudit (postUpdated ownerId id next.post)
        (if row.status = .draft ∧ next.post.status = .scheduled
          then insertOutboxRows db₂ id else db₂) := by
  unfold mutate PgPostRepository.read at h
  simp only [Keyed.bind_eq_ok] at h
  obtain ⟨current, ⟨row, hRow, hCurrent⟩, next, hNext, h⟩ := h
  injection hCurrent with hCurrent
  subst hCurrent
  obtain ⟨hFound, hOwner⟩ := ownedPost_eq_ok hRow
  have hWrite : writeRecord id ownerId ⟨toPost id row (mediaOf db id), jobsOf db id⟩ next db =
      .ok db' := by
    split at h
    · rw [Keyed.bind_eq_ok] at h
      obtain ⟨-, -, h⟩ := h
      rw [Keyed.bind_eq_ok] at h
      obtain ⟨db₁, hDb, h⟩ := h
      injection h with h
      injection h with _ h
      exact h ▸ hDb
    · rw [Keyed.bind_eq_ok] at h
      obtain ⟨db₁, hDb, h⟩ := h
      injection h with h
      injection h with _ h
      exact h ▸ hDb
  unfold writeRecord at hWrite
  rw [Keyed.bind_eq_ok] at hWrite
  obtain ⟨db₂, hLoop, hDb⟩ := hWrite
  injection hDb with hDb
  exact ⟨row, next, db₂, hFound, hOwner, hNext, hLoop, hDb.symm⟩

/-- The rows after the loop. -/
theorem writeJobs_rows (hf : ∀ old, writeBack (f old) old = f old) {status : PostStatus}
    (hStatus : db.postStatus? id = some status)
    (h : ((jobsOf db id).map f).foldlM (writeJob (jobsOf db id)) db = .ok db') (k : JobId) :
    db'.job? k = (db.job? k).map fun old => if old.postId = id then f old else old := by
  cases hRow : db.job? k with
  | none =>
    refine (rowView_eq.mp (writeJobs_other hf h fun old hOld => ?_)).1.trans hRow
    rw [hRow] at hOld
    injection hOld
  | some old =>
    rw [Option.map_some]
    by_cases hPost : old.postId = id
    · have hId : old.id = k := job?_id hRow
      have hMem : old ∈ jobsOf db id := mem_jobsOf.mpr ⟨hId ▸ hRow, hPost⟩
      rw [if_pos hPost, ← hId]
      exact (writeJobs_self hf hStatus h hMem).1
    · rw [if_neg hPost]
      refine (rowView_eq.mp (writeJobs_other hf h fun old' hOld => ?_)).1.trans hRow
      rw [hRow, Option.some.injEq] at hOld
      exact hOld ▸ hPost

/-- The outbox rows after the loop and the INSERT of a first approval. -/
theorem approved_outbox (hf : ∀ old, writeBack (f old) old = f old) {status : PostStatus}
    (hStatus : db.postStatus? id = some status)
    (h : ((jobsOf db id).map f).foldlM (writeJob (jobsOf db id)) db = .ok db')
    {old : SocialPublishJob} (hOld : old ∈ jobsOf db id) :
    ∃ uuid, db.nextUuid ≤ uuid ∧
      (insertOutboxRows db' id).outbox.lookup old.id =
        (if (f old).status = .waiting then
          some ((triggered status old (f old) uuid (db.outbox.lookup old.id)).getD
            (freshOutboxRow (f old).id (f old).scheduledAt uuid))
        else triggered status old (f old) uuid (db.outbox.lookup old.id)) ∧
      (uuid < (insertOutboxRows db' id).nextUuid ∨
        (insertOutboxRows db' id).outbox.lookup old.id = none ∨
        (insertOutboxRows db' id).outbox.lookup old.id = db.outbox.lookup old.id) := by
  obtain ⟨hRow, u, hLower, hOutbox, hUpper⟩ := writeJobs_self hf hStatus h hOld
  have hId := id_of_writeBack (hf old)
  have hKept := (insertOutboxRows_outboxOnly db' id).2.nextUuid
  by_cases hWaiting : (f old).status = .waiting
  · have hMem : f old ∈ jobsOf db' id := by
      refine mem_jobsOf.mpr ⟨hId ▸ hRow, ?_⟩
      rw [postId_of_writeBack (hf old)]
      exact (mem_jobsOf.mp hOld).2
    obtain ⟨u', hLower', hUpper', hInsert⟩ := insertOutboxRows_self hMem hWaiting
    rw [hId, hOutbox] at hInsert
    by_cases hResched : Rescheduled status old (f old)
    · -- the trigger has made the row, so the INSERT conflicts
      refine ⟨u, hLower, ?_, Or.inl ((hUpper hResched).trans_le hKept)⟩
      rw [if_pos hWaiting, hInsert]
      simp only [triggered, if_pos hResched, Option.getD_some]
    · refine ⟨u', (writeJobs_kept h).nextUuid.trans hLower', ?_, Or.inl hUpper'⟩
      rw [if_pos hWaiting, hInsert, hId]
      simp only [triggered, if_neg hResched]
  · have hFrame : (insertOutboxRows db' id).outbox.lookup old.id = db'.outbox.lookup old.id := by
      refine insertOutboxRows_frame fun job hJob hWait he => hWaiting ?_
      have hJobRow := (mem_jobsOf.mp hJob).1
      rw [he, hRow, Option.some.injEq] at hJobRow
      exact hJobRow ▸ hWait
    have hResched : ¬ Rescheduled status old (f old) := fun hR => hWaiting hR.1
    refine ⟨u, hLower, ?_, Or.inr ?_⟩
    · rw [if_neg hWaiting, hFrame, hOutbox]
    · rw [hFrame, hOutbox, triggered, if_neg hResched]
      split_ifs
      · exact Or.inl rfl
      · exact Or.inr rfl

/-- **A mutation** whose work maps the jobs by `f`, within the columns written back. -/
theorem mutated (hf : ∀ old, writeBack (f old) old = f old)
    (hWork : ∀ current next, work current = .ok next →
      next.post.id = current.post.id ∧ next.jobs = current.jobs.map f)
    (h : mutate id ownerId work now db = .ok (record, db')) :
    ∃ row next, row.ownerId = ownerId ∧
      work ⟨toPost id row (mediaOf db id), jobsOf db id⟩ = .ok next ∧
      Mutated db id row next.post f db' := by
  obtain ⟨row, next, db₂, hFound, hOwner, hNext, hLoop, rfl⟩ := mutate_eq_ok h
  obtain ⟨hPostId, hJobs⟩ := hWork _ _ hNext
  subst hOwner
  refine ⟨row, next, rfl, hNext, ?_⟩
  have hPosts : (writePost id next.post db).posts =
      db.posts.insert id (updatedPost next.post row) := by
    simp only [writePost, hFound]
  have hStatus : (writePost id next.post db).postStatus? id = some next.post.status := by
    simp [postStatus?, hPosts, updatedPost]
  rw [hJobs] at hLoop
  have hLoop' : ((jobsOf (writePost id next.post db) id).map f).foldlM
      (writeJob (jobsOf (writePost id next.post db) id)) (writePost id next.post db) = .ok db₂ :=
    hLoop
  have hRows := writeJobs_rows hf hStatus hLoop'
  have hKept := writeJobs_kept hLoop'
  have hInsert := insertOutboxRows_outboxOnly db₂ id
  have hMedia : (writePost id next.post db).postMedia =
      db.postMedia.insert id next.post.content.media := by
    have hNextId : next.post.id = id := hPostId
    simp only [writePost, hNextId]
  by_cases hApproved : row.status = .draft ∧ next.post.status = .scheduled
  · rw [if_pos hApproved]
    refine ⟨hFound, ?_, ?_, ?_, ?_, ?_, ?_, ?_, ?_, ?_⟩
    · exact hInsert.2.posts.trans (hKept.posts.trans hPosts)
    · exact hInsert.2.postMedia.trans (hKept.postMedia.trans hMedia)
    · exact hInsert.2.socialPosts.trans hKept.socialPosts
    · exact hInsert.2.alerts.trans hKept.alerts
    · exact congrArg (· ++ [_]) (hInsert.2.auditLogs.trans hKept.auditLogs)
    · exact fun k => (hInsert.1 k).trans (hRows k)
    · intro k hk
      have hFrame := (rowView_eq.mp (writeJobs_other hf hLoop' hk)).2
      refine (insertOutboxRows_frame fun job hJob _ he => ?_).trans hFrame
      obtain ⟨hJobRow, hJobPost⟩ := mem_jobsOf.mp hJob
      rw [he, hRows] at hJobRow
      obtain ⟨old, hOld, hEq⟩ := Option.map_eq_some_iff.mp hJobRow
      rw [if_neg (hk old hOld)] at hEq
      exact hk old hOld (hEq ▸ hJobPost)
    · intro old hOld
      obtain ⟨u, hLower, hOutbox, hUpper⟩ := approved_outbox hf hStatus hLoop' hOld
      refine ⟨u, hLower, hOutbox.trans ?_, hUpper⟩
      unfold outboxAfter
      simp only [hApproved, true_and]
      rfl
    · exact hKept.nextUuid.trans hInsert.2.nextUuid
  · rw [if_neg hApproved]
    refine ⟨hFound, hKept.posts.trans hPosts, hKept.postMedia.trans hMedia, hKept.socialPosts,
      hKept.alerts, congrArg (· ++ [_]) hKept.auditLogs, hRows, ?_, ?_, hKept.nextUuid⟩
    · exact fun k hk => (rowView_eq.mp (writeJobs_other hf hLoop' hk)).2
    · intro old hOld
      obtain ⟨-, u, hLower, hOutbox, hUpper⟩ := writeJobs_self hf hStatus hLoop' hOld
      refine ⟨u, hLower, ?_, ?_⟩
      · rw [outboxAfter, if_neg fun h => hApproved h.1]
        exact hOutbox
      · by_cases hResched : Rescheduled next.post.status old (f old)
        · exact Or.inl (hUpper hResched)
        · refine Or.inr ?_
          show db₂.outbox.lookup old.id = none ∨ db₂.outbox.lookup old.id = _
          rw [hOutbox, triggered, if_neg hResched]
          split_ifs
          · exact Or.inl rfl
          · exact Or.inr rfl

end Mutate

end SocialPromotion
