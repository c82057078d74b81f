import SocialPromotion.Properties.FrozenContent
import SocialPromotion.Properties.OptimisticConcurrency

/-!
# What was previewed is what is published

`preview` reads the post, the jobs and the media one after another, so what it shows can be a
mixture that was never stored. Such a mixture cannot be approved: a preview in the stored
revision shows the post as it is stored.

* `preview_change`: how a preview comes by what it has read;
* `still_read_reachable`: what a preview has read is stored for as long as its revision is;
* `published_as_previewed`, `approved_is_published`: after the approval of a previewed revision,
  every provider call for the post carries the item that the preview has shown for its job.
-/

namespace SocialPromotion

open LTS Database PgPostRepository

-- ---------------------------------------------------------------------------
-- One read
-- ---------------------------------------------------------------------------

/-- What a step does to the previews. -/
inductive PreviewChange (s t : PublishingState) (i : Nat) (p : PreviewRun) : Prop
  | kept (hBefore : s.previews[i]? = some p)
  | begun (hReading : p.reading = .selectPost)
  | read {before : PreviewRun} (hBefore : s.previews[i]? = some before)
      (hOwner : p.ownerId = before.ownerId) (hPost : p.postId = before.postId)
      (hRead : findOwned s.db before.postId before.ownerId before.reading = some p.reading)
      (hDb : t.db = s.db)

section Reads

variable {cfg : Config} {s t : PublishingState} {e : Event}

theorem previewReadStep_change {i k : Nat} {p : PreviewRun} (h : s.previewReadStep i = some t)
    (hGet : t.previews[k]? = some p) : PreviewChange s t k p := by
  unfold PublishingState.previewReadStep at h
  split at h
  · rename_i before hBefore
    obtain ⟨reading, hRead, rfl⟩ := Option.map_eq_some_iff.mp h
    rw [List.getElem?_set] at hGet
    split at hGet
    · rename_i hSame
      subst hSame
      rw [if_pos (List.getElem?_eq_some_iff.mp hBefore).1, Option.some.injEq] at hGet
      subst hGet
      exact .read hBefore rfl rfl hRead rfl
    · exact .kept hGet
  · cases h

/-- Only the events of previews touch them. -/
theorem previews_kept (h : (publishingSystem cfg).step s e = some t)
    (hBegun : ∀ ownerId postId, e ≠ .preview ownerId postId) (hRead : ∀ i, e ≠ .previewRead i) :
    t.previews = s.previews := by
  cases e with
  | preview ownerId postId => exact absurd rfl (hBegun ownerId postId)
  | previewRead i => exact absurd rfl (hRead i)
  | tick | connect | process | dispatch | dispatchAlerts =>
    injection h with h
    exact h ▸ rfl
  | user operation =>
    injection h with h
    subst h
    unfold PublishingState.userStep
    split
    · rfl
    · rfl
  | repository i result =>
    simp only [publishingSystem, PublishingState.step, PublishingState.repositoryStep] at h
    split at h
    · split at h
      · obtain ⟨after, -, rfl⟩ := Option.map_eq_some_iff.mp h
        rfl
      · cases h
    · cases h
  | dispatcher i result date locked =>
    simp only [publishingSystem, PublishingState.step, PublishingState.dispatcherStep] at h
    split at h
    · obtain ⟨after, -, rfl⟩ := Option.map_eq_some_iff.mp h
      rfl
    · cases h
  | alertDispatcher i result locked =>
    simp only [publishingSystem, PublishingState.step, PublishingState.alertStep] at h
    split at h
    · obtain ⟨after, -, rfl⟩ := Option.map_eq_some_iff.mp h
      rfl
    · cases h
  | reconcile i answer date =>
    simp only [publishingSystem, PublishingState.step, PublishingState.reconcileStep] at h
    split at h
    · split at h
      · injection h with h
        exact h ▸ rfl
      · injection h with h
        exact h ▸ rfl
      · cases h
    · cases h
  | publish i date =>
    simp only [publishingSystem, PublishingState.step, PublishingState.publishStep] at h
    split at h
    · split at h
      · split at h
        · injection h with h
          exact h ▸ rfl
        · injection h with h
          exact h ▸ rfl
      · cases h
    · cases h
  | adapterReturns i answer date =>
    simp only [publishingSystem, PublishingState.step, PublishingState.adapterReturnsStep] at h
    split at h
    · split at h
      · injection h with h
        exact h ▸ rfl
      · cases h
    · cases h
  | crash i =>
    simp only [publishingSystem, PublishingState.step, PublishingState.crashStep] at h
    split at h
    · split at h
      · injection h with h
        exact h ▸ rfl
      · cases h
    · cases h
  | take q leaseMs date =>
    simp only [publishingSystem, PublishingState.step, PublishingState.takeStep] at h
    split at h
    · split at h
      · injection h with h
        exact h ▸ rfl
      · cases h
    · cases h
  | settle q date =>
    simp only [publishingSystem, PublishingState.step, PublishingState.settleStep] at h
    split at h
    · split at h
      · injection h with h
        exact h ▸ rfl
      · cases h
    · cases h
  | stalled q again =>
    simp only [publishingSystem, PublishingState.step, PublishingState.stalledStep] at h
    split at h
    · split at h
      · injection h with h
        exact h ▸ rfl
      · cases h
    · cases h
  | remove q =>
    simp only [publishingSystem, PublishingState.step, PublishingState.removeStep] at h
    split at h
    · split at h
      · injection h with h
        exact h ▸ rfl
      · cases h
    · cases h

theorem preview_change (h : (publishingSystem cfg).step s e = some t) {k : Nat} {p : PreviewRun}
    (hGet : t.previews[k]? = some p) : PreviewChange s t k p := by
  by_cases hBegun : ∃ ownerId postId, e = .preview ownerId postId
  · obtain ⟨ownerId, postId, rfl⟩ := hBegun
    injection h with h
    subst h
    rw [List.getElem?_append] at hGet
    split at hGet
    · exact .kept hGet
    · rw [List.mem_singleton.mp (List.mem_of_getElem? hGet)]
      exact .begun rfl
  · by_cases hRead : ∃ i, e = .previewRead i
    · obtain ⟨i, rfl⟩ := hRead
      exact previewReadStep_change h hGet
    · have hSame := previews_kept h (fun ownerId postId he => hBegun ⟨ownerId, postId, he⟩)
        fun i he => hRead ⟨i, he⟩
      exact .kept (hSame ▸ hGet)

/-- A preview that has ended stays as it is. -/
theorem ended_kept (h : (publishingSystem cfg).step s e = some t) {i : Nat} {p : PreviewRun}
    (hGet : s.previews[i]? = some p) {result : Except ServiceError PostRecord}
    (hEnded : p.reading = .ended result) : t.previews[i]? = some p := by
  by_cases hBegun : ∃ ownerId postId, e = .preview ownerId postId
  · obtain ⟨ownerId, postId, rfl⟩ := hBegun
    injection h with h
    subst h
    exact (List.getElem?_append_left (List.getElem?_eq_some_iff.mp hGet).1).trans hGet
  · by_cases hRead : ∃ k, e = .previewRead k
    · obtain ⟨k, rfl⟩ := hRead
      simp only [publishingSystem, PublishingState.step, PublishingState.previewReadStep] at h
      split at h
      · rename_i before hBefore
        obtain ⟨reading, hFound, rfl⟩ := Option.map_eq_some_iff.mp h
        have hNe : k ≠ i := by
          rintro rfl
          rw [hGet, Option.some.injEq] at hBefore
          subst hBefore
          rw [hEnded] at hFound
          cases hFound
        exact (List.getElem?_set_ne hNe).trans hGet
      · cases h
    · have hSame := previews_kept h (fun ownerId postId he => hBegun ⟨ownerId, postId, he⟩)
        fun k he => hRead ⟨k, he⟩
      rw [hSame]
      exact hGet

theorem ended_kept_run (h : Steps (publishingSystem cfg) anyStep s t) {i : Nat} {p : PreviewRun}
    (hGet : s.previews[i]? = some p) {result : Except ServiceError PostRecord}
    (hEnded : p.reading = .ended result) : t.previews[i]? = some p := by
  induction h with
  | refl => exact hGet
  | tail _ _ hMove ih => exact ended_kept hMove ih hEnded

end Reads

-- ---------------------------------------------------------------------------
-- What has been read
-- ---------------------------------------------------------------------------

/-- The post was read in the row `row`. While its revision is the stored one, the row is the stored
one, and so are the jobs and the media that were read; the jobs only as long as the post is a
draft, since after that they move without it. -/
def StillRead (db : Database) (id : PostId) (row : PostRow) (jobs : Option (List SocialPublishJob))
    (media : Option (List PostMedia)) : Prop :=
  ∃ now, db.posts.lookup id = some now ∧ row.revision ≤ now.revision ∧
    (row.revision = now.revision → now = row ∧
      (∀ read, jobs = some read → now.status = .draft →
        ∀ job, job ∈ read ↔ job ∈ jobsOf db id) ∧
      ∀ read, media = some read → mediaOf db id = read)

/-- What a preview of the post `id` has read by now. -/
def SoundReading (db : Database) (id : PostId) : Reading → Prop
  | .selectPost => True
  | .selectJobs row => StillRead db id row none none
  | .selectMedia row jobs => StillRead db id row (some jobs) none
  | .ended (.error _) => True
  | .ended (.ok record) => ∃ row, record.post = toPost id row record.post.content.media ∧
    StillRead db id row (some record.jobs) (some record.post.content.media)

section StillRead

variable {cfg : Config} {s t : PublishingState} {e : Event} {id : PostId} {row : PostRow}
  {jobs : Option (List SocialPublishJob)} {media : Option (List PostMedia)}

/-- **One step** leaves what was read as it is, or raises the revision. -/
theorem stillRead_step (hConsistent : OutboxConsistent s.db) (hStep : TableStep cfg s e t)
    (h : StillRead s.db id row jobs media) : StillRead t.db id row jobs media := by
  obtain ⟨now, hNow, hRevision, hSame⟩ := h
  cases post_change hConsistent hStep hNow with
  | kept hPost hMedia hJobs =>
    refine ⟨now, hPost, hRevision, fun hEq => ?_⟩
    obtain ⟨hRow, hReadJobs, hReadMedia⟩ := hSame hEq
    refine ⟨hRow, fun read hRead hDraft job => ?_, fun read hRead => ?_⟩
    · exact (hReadJobs read hRead hDraft job).trans (hJobs hDraft job).symm
    · exact hMedia.trans (hReadMedia read hRead)
  | @edited operation _ next f hEdit hMutated =>
    have hPost : t.db.posts.lookup id = some (updatedPost next now) := by
      rw [hMutated.posts, AList.lookup_insert]
    have hNext : (updatedPost next now).revision = now.revision + 1 := rfl
    exact ⟨_, hPost, by omega, fun hEq => by omega⟩

theorem stillRead_more (h : StillRead s.db id row jobs media)
    {jobs' : Option (List SocialPublishJob)} {media' : Option (List PostMedia)}
    (hJobs : jobs' = jobs ∨ jobs' = some (jobsOf s.db id))
    (hMedia : media' = media ∨ media' = some (mediaOf s.db id)) :
    StillRead s.db id row jobs' media' := by
  obtain ⟨now, hNow, hRevision, hSame⟩ := h
  refine ⟨now, hNow, hRevision, fun hEq => ?_⟩
  obtain ⟨hRow, hReadJobs, hReadMedia⟩ := hSame hEq
  refine ⟨hRow, fun read hRead hDraft job => ?_, fun read hRead => ?_⟩
  · rcases hJobs with rfl | rfl
    · exact hReadJobs read hRead hDraft job
    · obtain rfl := Option.some.inj hRead
      rfl
  · rcases hMedia with rfl | rfl
    · exact hReadMedia read hRead
    · exact Option.some.inj hRead

/-- One SELECT of `findOwned` reads what is stored. -/
theorem soundReading_read {ownerId : UserId} {reading reading' : Reading}
    (h : SoundReading s.db id reading) (hRead : findOwned s.db id ownerId reading = some reading') :
    SoundReading s.db id reading' := by
  cases reading with
  | selectPost =>
    dsimp only [findOwned] at hRead
    split at hRead
    · rename_i row hOwned
      obtain rfl := Option.some.inj hRead
      have hRow := (ownedPost_eq_ok hOwned).1
      refine ⟨row, hRow, le_rfl, fun _ => ⟨rfl, fun read h => ?_, fun read h => ?_⟩⟩
      · cases h
      · cases h
    · obtain rfl := Option.some.inj hRead
      trivial
  | selectJobs row =>
    obtain rfl := Option.some.inj hRead
    exact stillRead_more h (Or.inr rfl) (Or.inl rfl)
  | selectMedia row jobs =>
    obtain rfl := Option.some.inj hRead
    exact ⟨row, rfl, stillRead_more h (Or.inl rfl) (Or.inr rfl)⟩
  | ended result => cases hRead

theorem soundReading_step (hConsistent : OutboxConsistent s.db) (hStep : TableStep cfg s e t)
    {reading : Reading} (h : SoundReading s.db id reading) : SoundReading t.db id reading := by
  cases reading with
  | selectPost => trivial
  | selectJobs row => exact stillRead_step hConsistent hStep h
  | selectMedia row jobs => exact stillRead_step hConsistent hStep h
  | ended result =>
    cases result with
    | error e => trivial
    | ok record =>
      obtain ⟨row, hPost, hRead⟩ := h
      exact ⟨row, hPost, stillRead_step hConsistent hStep hRead⟩

/-- **What a preview has read is stored** for as long as its revision is, in every run. -/
theorem still_read_reachable {ok : PublishingState → Event → Prop}
    (hReach : Reachable (publishingSystem cfg) ok s) {i : Nat} {p : PreviewRun}
    (hPreview : s.previews[i]? = some p) : SoundReading s.db p.postId p.reading := by
  refine hReach.invariant_of (I := fun s => ∀ (i : Nat) (p : PreviewRun),
    s.previews[i]? = some p → SoundReading s.db p.postId p.reading) (fun s hInit i p hGet => ?_)
    (fun s e t hBefore h _ hMove i p hGet => ?_) i p hPreview
  · rw [hInit.2.2.2.2.2.1] at hGet
    cases hGet
  · cases preview_change hMove hGet with
    | kept hOld =>
      exact soundReading_step (consistent_reachable hBefore) (table_step hMove) (h i p hOld)
    | begun hReading =>
      rw [hReading]
      trivial
    | @read before hOld hOwner hPost hRead hDb =>
      rw [hDb, hPost]
      exact soundReading_read (h i before hOld) hRead

end StillRead

-- ---------------------------------------------------------------------------
-- From the preview to the provider
-- ---------------------------------------------------------------------------

section Published

variable {cfg : Config} {s t u : PublishingState} {id : PostId}

/-- The content of a post with a job is fixed over a run, once it is no draft any more. -/
theorem content_kept_run (hReach : Reachable (publishingSystem cfg) anyStep s)
    (h : Steps (publishingSystem cfg) anyStep s t) {j : JobId} {job : SocialPublishJob}
    (hJob : s.db.job? j = some job) {status : PostStatus}
    (hStatus : s.db.postStatus? job.postId = some status) (hDraft : status ≠ .draft) :
    contentOf t.db job.postId = contentOf s.db job.postId := by
  have hAll : contentOf t.db job.postId = contentOf s.db job.postId ∧
      (∃ job', t.db.job? j = some job' ∧ job'.postId = job.postId) ∧
      ∃ status', t.db.postStatus? job.postId = some status' ∧ status' ≠ .draft := by
    induction h with
    | refl => exact ⟨rfl, ⟨job, hJob, rfl⟩, status, hStatus, hDraft⟩
    | @tail t u e hRun _ hMove ih =>
      obtain ⟨hContent, ⟨job', hJob', hPost⟩, status', hStatus', hDraft'⟩ := ih
      have hConsistent := consistent_reachable (hReach.steps hRun)
      have hJobs : jobsOf t.db job.postId ≠ [] :=
        List.ne_nil_of_mem (mem_jobsOf.mpr ⟨(job?_id hJob').symm ▸ hJob', hPost⟩)
      obtain ⟨hKept, hAfter⟩ :=
        content_kept hConsistent (table_step hMove) hJobs hStatus' hDraft'
      obtain ⟨job'', hJob'', hTarget⟩ := target_kept (step_kind hMove) hJob'
      exact ⟨hKept.trans hContent, ⟨job'', hJob'', hTarget.2.2.trans hPost⟩, hAfter⟩
  exact hAll.1

theorem getElem?_mapM {α β ε : Type} {f : α → Except ε β} {l : List α} {r : List β}
    (h : l.mapM f = .ok r) {n : Nat} {a : α} (hGet : l[n]? = some a) :
    ∃ b, f a = .ok b ∧ r[n]? = some b := by
  induction l generalizing r n with
  | nil => cases hGet
  | cons x rest ih =>
    rw [List.mapM_cons] at h
    obtain ⟨b, hHead, h⟩ := Keyed.bind_eq_ok.mp h
    obtain ⟨tail, hTail, h⟩ := Keyed.bind_eq_ok.mp h
    injection h with h
    subst h
    cases n with
    | zero =>
      obtain rfl := Option.some.inj hGet
      exact ⟨b, hHead, rfl⟩
    | succ n => exact ih hTail hGet

/-- The item of a job in a preview. -/
theorem item_of_preview {record : PostRecord} {preview : PostService.Preview}
    (hShown : PostService.preview cfg record = .ok preview) :
    preview.revision = record.post.revision ∧
      ∀ (n : Nat) (job : SocialPublishJob), record.jobs[n]? = some job → ∃ formatted,
        FormatterService.format cfg.isTagChar record.post job = .ok formatted ∧
          preview.items[n]? = some ⟨job.accountId, formatted⟩ := by
  unfold PostService.preview at hShown
  obtain ⟨items, hItems, hShown⟩ := Keyed.bind_eq_ok.mp hShown
  obtain ⟨found, hFound, hShown⟩ := Keyed.bind_eq_ok.mp hShown
  injection hShown with hShown
  subst hShown
  refine ⟨rfl, fun n job hJob => ?_⟩
  obtain ⟨item, hItem, hGet⟩ := getElem?_mapM hItems hJob
  unfold PostService.previewItem at hItem
  obtain ⟨formatted, hFormat, hItem⟩ := Keyed.bind_eq_ok.mp hItem
  injection hItem with hItem
  exact ⟨formatted, hFormat, hItem ▸ hGet⟩

theorem approval_carried {operation : UserOperation} {revision : Nat}
    (h : operation.approval = some (id, revision)) : operation.carried = some (id, revision) := by
  cases operation with
  | schedule | publishNow => exact h
  | _ => cases h

/-- A preview that is approved in its revision has read what is stored: the content, and the jobs
of a draft. -/
theorem stored_of_preview {i : Nat} {p : PreviewRun} {record : PostRecord}
    {operation : UserOperation} (hReach : Reachable (publishingSystem cfg) anyStep s)
    (hPreview : s.previews[i]? = some p) (hEnded : p.reading = .ended (.ok record))
    (hCommit : Commits cfg s operation t)
    (hApproval : operation.approval = some (p.postId, record.post.revision))
    (hDraft : s.db.postStatus? p.postId = some .draft) :
    record.post.id = p.postId ∧ contentOf s.db p.postId = some record.post.content ∧
      ∀ job ∈ jobsOf s.db p.postId, ∃ n : Nat, record.jobs[n]? = some job := by
  obtain ⟨row, next, f, hEdit, hMutated, hRow⟩ := hCommit.edited (approval_carried hApproval)
  have hSound := still_read_reachable hReach hPreview
  rw [hEnded] at hSound
  obtain ⟨read, hReadPost, now, hNow, -, hSame⟩ := hSound
  rw [hMutated.found, Option.some.injEq] at hNow
  subst hNow
  have hReadRevision : read.revision = row.revision := by
    rw [hRow, hReadPost]
    rfl
  obtain ⟨rfl, hReadJobs, hReadMedia⟩ := hSame hReadRevision
  have hRowDraft : row.status = .draft := by
    rw [postStatus?, hMutated.found, Option.map_some, Option.some.injEq] at hDraft
    exact hDraft
  refine ⟨by rw [hReadPost]; rfl, ?_, fun job hMem => ?_⟩
  · rw [contentOf, hMutated.found, Option.map_some, currentPost, hReadMedia _ rfl, ← hReadPost]
  · exact List.getElem?_of_mem ((hReadJobs _ rfl hRowDraft job).mpr hMem)

/-- After an approval every provider call for the post carries what the formatter makes of the
content that was stored then, for a job that was there then. -/
theorem formatted_of_approved {operation : UserOperation} {revision : Nat} {post : Post}
    (hReach : Reachable (publishingSystem cfg) anyStep s) (hCommit : Commits cfg s operation t)
    (hApproval : operation.approval = some (post.id, revision))
    (hContent : contentOf s.db post.id = some post.content)
    (hRun : Steps (publishingSystem cfg) anyStep t u) {c : PublishCall} (hCall : c ∈ u.calls)
    {job : SocialPublishJob} (hJob : u.db.job? c.jobId = some job) (hPost : job.postId = post.id) :
    ∃ old ∈ jobsOf s.db post.id, (old.id = job.id ∧ old.accountId = job.accountId) ∧
      FormatterService.format cfg.isTagChar post old = .ok c.post := by
  obtain ⟨n, hGet⟩ := List.getElem?_of_mem hCall
  have hMove := hCommit.step
  have hReachT : Reachable (publishingSystem cfg) anyStep t := hReach.tail trivial hMove
  have hReachU := hReachT.steps hRun
  obtain ⟨row, next, f, hEdit, hMutated, -⟩ := hCommit.edited (approval_carried hApproval)
  -- the approval writes the content back as it is
  have hApproved : contentOf t.db post.id = contentOf s.db post.id ∧ next.status = .scheduled := by
    cases hEdit with
    | schedule => exact ⟨content_mutated hMutated rfl, rfl⟩
    | _ => cases hApproval
  -- the job was there when the post was approved
  have hStored : (s.db.posts.lookup job.postId).isSome := by
    rw [hPost, hMutated.found]
    rfl
  have hRunS : Steps (publishingSystem cfg) anyStep s u := (Steps.single trivial hMove).trans hRun
  obtain ⟨old, hOld, hTarget⟩ := target_origin_run hRunS hJob hStored
  have hOldPost : old.postId = post.id := hTarget.2.2.symm.trans hPost
  have hMem : old ∈ jobsOf s.db post.id :=
    mem_jobsOf.mpr ⟨(job?_id hOld).symm ▸ hOld, hOldPost⟩
  -- and the call carries what is stored since
  obtain ⟨job', carried, hStoredFor, hFormat⟩ := (sends_stored_reachable hReachU).calls n c hGet
  obtain ⟨now, status, hNow, hJobId, hTarget', hId, hNowContent, -⟩ := hStoredFor
  rw [hJob, Option.some.injEq] at hNow
  subst hNow
  obtain ⟨mid, hMid, hMidTarget⟩ := target_kept (step_kind hMove) hOld
  have hMidPost : mid.postId = post.id := hMidTarget.2.2.trans hOldPost
  have hMidStatus : t.db.postStatus? mid.postId = some .scheduled := by
    rw [hMidPost, status_mutated hMutated, hApproved.2]
  have hFixed : contentOf u.db post.id = some post.content := by
    have hKept := content_kept_run hReachT hRun hMid hMidStatus fun h => by cases h
    rw [hMidPost] at hKept
    exact hKept.trans (hApproved.1.trans hContent)
  rw [hPost, hFixed, Option.some.injEq] at hNowContent
  have hSameFormat := FormatterService.format_congr cfg.isTagChar (hId.trans hPost)
    hNowContent.symm (hTarget'.1.symm.trans hTarget.1) (hTarget'.2.1.symm.trans hTarget.2.1)
  exact ⟨old, hMem, ⟨(job?_id hOld).trans (job?_id hJob).symm, hTarget.2.1.symm⟩,
    hSameFormat ▸ hFormat⟩

/-- **What was previewed and approved is what is published.** Between the preview and the approval
of its revision, and after it, any operations, executions and other previews may come; every
provider call for a job of the post was given the item shown for this job. -/
theorem published_as_previewed {i : Nat} {p : PreviewRun} {record : PostRecord}
    {preview : PostService.Preview} {operation : UserOperation}
    (hReach : Reachable (publishingSystem cfg) anyStep s) (hPreview : s.previews[i]? = some p)
    (hEnded : p.reading = .ended (.ok record)) (hShown : PostService.preview cfg record = .ok preview)
    (hCommit : Commits cfg s operation t)
    (hApproval : operation.approval = some (p.postId, preview.revision))
    (hDraft : s.db.postStatus? p.postId = some .draft)
    (hRun : Steps (publishingSystem cfg) anyStep t u) :
    ∀ c ∈ u.calls, ∀ job, u.db.job? c.jobId = some job → job.postId = p.postId →
      ∃ (n : Nat) (shown : SocialPublishJob), record.jobs[n]? = some shown ∧ shown.id = c.jobId ∧
        preview.items[n]? = some ⟨shown.accountId, c.post⟩ := by
  intro c hCall job hJob hPost
  obtain ⟨hRevision, hItems⟩ := item_of_preview hShown
  rw [hRevision] at hApproval
  obtain ⟨hId, hContent, hJobs⟩ :=
    stored_of_preview hReach hPreview hEnded hCommit hApproval hDraft
  rw [← hId] at hApproval hContent hJobs hPost
  obtain ⟨old, hMem, ⟨hOldId, -⟩, hFormat⟩ :=
    formatted_of_approved hReach hCommit hApproval hContent hRun hCall hJob hPost
  obtain ⟨m, hShownJob⟩ := hJobs old hMem
  obtain ⟨formatted, hShownFormat, hItem⟩ := hItems m old hShownJob
  rw [hShownFormat, Except.ok.injEq] at hFormat
  exact ⟨m, old, hShownJob, hOldId.trans (job?_id hJob), hFormat ▸ hItem⟩

/-- **What was approved is what is published.** A preview ends with some revision and items; whatever
comes then, an operation approves this revision of the post, which is a draft; and however the run
goes on, every provider call for a job of the post was given the item of this job. -/
theorem approved_is_published {r : PublishingState} {i : Nat} {p : PreviewRun}
    {record : PostRecord} {preview : PostService.Preview} {operation : UserOperation}
    (hReach : Reachable (publishingSystem cfg) anyStep r) (hPreview : r.previews[i]? = some p)
    (hEnded : p.reading = .ended (.ok record))
    (hReturned : PostService.preview cfg record = .ok preview)
    (hMeanwhile : Steps (publishingSystem cfg) anyStep r s) (hCommit : Commits cfg s operation t)
    (hApproval : operation.approval = some (p.postId, preview.revision))
    (hDraft : s.db.postStatus? p.postId = some .draft)
    (hRun : Steps (publishingSystem cfg) anyStep t u) :
    ∀ c ∈ u.calls, ∀ job, u.db.job? c.jobId = some job → job.postId = p.postId →
      ∃ (n : Nat) (shown : SocialPublishJob) (item : PostService.PreviewItem),
        record.jobs[n]? = some shown ∧ shown.id = job.id ∧ preview.items[n]? = some item ∧
          item.accountId = job.accountId ∧ item.formatted = c.post := by
  intro c hCall job hJob hPost
  have hReachS := hReach.steps hMeanwhile
  obtain ⟨hRevision, hItems⟩ := item_of_preview hReturned
  rw [hRevision] at hApproval
  obtain ⟨hId, hContent, hJobs⟩ := stored_of_preview hReachS
    (ended_kept_run hMeanwhile hPreview hEnded) hEnded hCommit hApproval hDraft
  rw [← hId] at hApproval hContent hJobs hPost
  obtain ⟨old, hOld, hTarget, hFormat⟩ :=
    formatted_of_approved hReachS hCommit hApproval hContent hRun hCall hJob hPost
  obtain ⟨n, hShown⟩ := hJobs old hOld
  obtain ⟨formatted, hFormatted, hItem⟩ := hItems n old hShown
  rw [hFormat, Except.ok.injEq] at hFormatted
  exact ⟨n, old, _, hShown, hTarget.1, hItem, hTarget.2, hFormatted.symm⟩

end Published

/-- What a finished preview has read. -/
def PreviewRun.record? (p : PreviewRun) : Option PostRecord :=
  match p.reading with
  | .ended (.ok record) => some record
  | _ => none

theorem PreviewRun.of_record? {p : PreviewRun} {record : PostRecord}
    (h : p.record? = some record) : p.reading = .ended (.ok record) := by
  unfold PreviewRun.record? at h
  split at h
  · rename_i hReading
    rw [hReading, Option.some.inj h]
  · cases h

section Example

open Installation

/-- The approval of post 0 in the revision of its preview, after another preview has begun, and the
execution of job 1 up to the provider call. -/
def approves : Event := .user (.schedule 100 0 (some 1000) 1 0)

def publishesFirst : List Event := [.tick 1000, deliver, call 0, call 0, .publish 0 1000]

/-- The preview of post 0 has ended. -/
def previewedFirst (cfg : Config) (r : PublishingState) : Bool :=
  (r.previews[0]?).any fun p => p.postId = 0 && (p.record?.any fun record =>
    (PostService.preview cfg record).toOption.any fun preview => preview.revision = 1)

/-- Its approval leads to a provider call. -/
def approvedFirst (cfg : Config) (s : PublishingState) : Bool :=
  s.db.postStatus? 0 = some .draft &&
  (UserOperation.perform cfg s.clock s.db (.schedule 100 0 (some 1000) 1 0)).isOk &&
  ((publishingSystem cfg).step s approves).any fun t =>
    (guardedRun (publishingSystem cfg) anyStep t publishesFirst).any fun u =>
      (u.calls[0]?).any fun c => (u.db.job? c.jobId).any fun job => job.postId = 0

/-- A preview in `r`, its approval in `s` and a provider call in `u`. -/
structure PreviewedRun (cfg : Config) (r s t u : PublishingState) (p : PreviewRun)
    (record : PostRecord) (preview : PostService.Preview) (c : PublishCall)
    (job : SocialPublishJob) : Prop where
  reach : Reachable (publishingSystem cfg) anyStep r
  ended : r.previews[0]? = some p ∧ p.reading = .ended (.ok record)
  returned : PostService.preview cfg record = .ok preview
  revision : preview.revision = 1
  post : p.postId = 0
  meanwhile : Steps (publishingSystem cfg) anyStep r s
  commit : Commits cfg s (.schedule 100 0 (some 1000) 1 0) t
  draft : s.db.postStatus? 0 = some .draft
  run : Steps (publishingSystem cfg) anyStep t u
  call : c ∈ u.calls
  stored : u.db.job? c.jobId = some job
  jobPost : job.postId = 0

/-- There is such a run. -/
theorem exists_previewed : ∃ r s t u p record preview c job,
    PreviewedRun (config false false) r s t u p record preview c job := by
  have hRun : (guardedRun (publishingSystem (config false false)) anyStep start
      [.user (.create 100 ⟨200, content, [⟨.x, 300⟩], 1000⟩), .preview 100 0, .previewRead 0,
        .previewRead 0, .previewRead 0]).any (fun r => previewedFirst (config false false) r &&
      (guardedRun (publishingSystem (config false false)) anyStep r [.preview 100 0]).any
        (approvedFirst (config false false))) = true := by
    decide +kernel
  obtain ⟨r, hReach, hAll⟩ := (Option.any_eq_true _ _).mp hRun
  obtain ⟨hShown, hLater⟩ := (Bool.and_eq_true _ _).mp hAll
  obtain ⟨s, hMeanwhile, hLater⟩ := (Option.any_eq_true _ _).mp hLater
  unfold previewedFirst at hShown
  unfold approvedFirst at hLater
  rw [Bool.and_eq_true, Bool.and_eq_true] at hLater
  obtain ⟨⟨hDraft, hPerforms⟩, hLater⟩ := hLater
  obtain ⟨p, hPreview, hShown⟩ := (Option.any_eq_true _ _).mp hShown
  obtain ⟨hId, hShown⟩ := (Bool.and_eq_true _ _).mp hShown
  obtain ⟨record, hRecord, hShown⟩ := (Option.any_eq_true _ _).mp hShown
  obtain ⟨preview, hPreviewed, hRevision⟩ := (Option.any_eq_true _ _).mp hShown
  have hOk : PostService.preview (config false false) record = .ok preview := by
    cases hResult : PostService.preview (config false false) record with
    | error e =>
      rw [hResult] at hPreviewed
      cases hPreviewed
    | ok other =>
      rw [hResult] at hPreviewed
      exact congrArg Except.ok (Option.some.inj hPreviewed)
  obtain ⟨t, hCommit⟩ := commits_of_performs hPerforms
  obtain ⟨t', hMove, hRun⟩ := (Option.any_eq_true _ _).mp hLater
  have hSameState : t' = t := by
    rw [show (publishingSystem (config false false)).step s approves = some t from hCommit.step]
      at hMove
    exact (Option.some.inj hMove).symm
  subst hSameState
  obtain ⟨u, hRun, hCalls⟩ := (Option.any_eq_true _ _).mp hRun
  obtain ⟨c, hCall, hJob⟩ := (Option.any_eq_true _ _).mp hCalls
  obtain ⟨job, hJob, hJobPost⟩ := (Option.any_eq_true _ _).mp hJob
  exact ⟨r, s, t', u, p, record, preview, c, job, {
    reach := ⟨start, start_initial _, guardedRun_sound hReach⟩
    ended := ⟨hPreview, PreviewRun.of_record? hRecord⟩
    returned := hOk
    revision := of_decide_eq_true hRevision
    post := of_decide_eq_true hId
    meanwhile := guardedRun_sound hMeanwhile
    commit := hCommit
    draft := of_decide_eq_true hDraft
    run := guardedRun_sound hRun
    call := List.mem_of_getElem? hCall
    stored := hJob
    jobPost := of_decide_eq_true hJobPost }⟩

theorem published_as_previewed_first : ∃ (u : PublishingState) (c : PublishCall)
    (preview : PostService.Preview) (n : Nat) (account : AccountId), c ∈ u.calls ∧
    preview.revision = 1 ∧ preview.items[n]? = some ⟨account, c.post⟩ := by
  obtain ⟨r, s, t, u, p, record, preview, c, job, h⟩ := exists_previewed
  obtain ⟨hPreview, hEnded⟩ := h.ended
  obtain ⟨n, shown, -, -, hItem⟩ := published_as_previewed (h.reach.steps h.meanwhile)
    (ended_kept_run h.meanwhile hPreview hEnded) hEnded h.returned h.commit
    (by rw [h.post, h.revision]; rfl) (by rw [h.post]; exact h.draft) h.run c h.call job h.stored
    (h.jobPost.trans h.post.symm)
  exact ⟨u, c, preview, n, shown.accountId, h.call, h.revision, hItem⟩

/-- Another preview begins between the preview and its approval. -/
theorem approved_is_published_first : ∃ (u : PublishingState) (c : PublishCall)
    (job : SocialPublishJob) (preview : PostService.Preview) (n : Nat)
    (item : PostService.PreviewItem), c ∈ u.calls ∧ u.db.job? c.jobId = some job ∧
    preview.revision = 1 ∧ preview.items[n]? = some item ∧ item.accountId = job.accountId ∧
      item.formatted = c.post := by
  obtain ⟨r, s, t, u, p, record, preview, c, job, h⟩ := exists_previewed
  obtain ⟨hPreview, hEnded⟩ := h.ended
  obtain ⟨n, shown, item, -, -, hItem, hAccount, hPost⟩ := approved_is_published h.reach hPreview
    hEnded h.returned h.meanwhile h.commit (by rw [h.post, h.revision]; rfl)
    (by rw [h.post]; exact h.draft) h.run c h.call job h.stored (h.jobPost.trans h.post.symm)
  exact ⟨u, c, job, preview, n, item, h.call, h.stored, h.revision, hItem, hAccount, hPost⟩

end Example

end SocialPromotion
