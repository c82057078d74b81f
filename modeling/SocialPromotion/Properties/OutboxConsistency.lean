import SocialPromotion.Steps.Tables

/-!
# Outbox rows, jobs and posts

Outbox rows are made by a trigger, which fires on some write-backs of `mutate`, and by the
INSERT of a first approval, which skips the rows that the trigger has made. Whichever made it:

* `consistent_reachable`: a waiting job of an approved post has an outbox row for its time, and
  a draft or a cancelled job has none;
* `outbox_moves`: a job that is approved or queued anew gets a row under an id that nothing had
  used, and other rows stand for the hand-offs they stood for;
* `outbox_consistency`: both, in every run;
* `outbox_rows_follow_jobs`: what commits do to the rows, by what they do to the jobs.
-/

namespace SocialPromotion

open LTS Database PgPostRepository PostService PublishWorkerProcessor PgPublishOutboxRepository

-- ---------------------------------------------------------------------------
-- One job
-- ---------------------------------------------------------------------------

/-- What a job, the status of its post and its outbox row say of each other. -/
structure JobConsistent (status : PostStatus) (job : SocialPublishJob) (row : Option OutboxRow) :
    Prop where
  draft : status = .draft → job.status = .waiting ∧ row = none
  cancelled : job.status = .cancelled → row = none
  waiting : job.status = .waiting → status ≠ .draft →
    status = .scheduled ∧ ∃ r, row = some r ∧ r.scheduledAt = job.scheduledAt

section Job

variable {status : PostStatus} {old new job : SocialPublishJob} {row row' : Option OutboxRow}

/-- The columns that the dispatchers write do not matter. -/
theorem JobConsistent.of_delivery (h : JobConsistent status job row)
    (hRow : row'.map OutboxRow.delivery = row.map OutboxRow.delivery) :
    JobConsistent status job row' := by
  have hNone : row = none → row' = none := by
    rintro rfl
    exact Option.map_eq_none_iff.mp hRow
  refine ⟨fun hDraft => ⟨(h.draft hDraft).1, hNone (h.draft hDraft).2⟩,
    fun hCancelled => hNone (h.cancelled hCancelled), fun hWaiting hDraft => ?_⟩
  obtain ⟨hScheduled, r, rfl, hTime⟩ := h.waiting hWaiting hDraft
  obtain ⟨r', rfl, hDelivery⟩ := Option.map_eq_some_iff.mp hRow
  have hSame : r'.scheduledAt = r.scheduledAt := congrArg Prod.snd hDelivery
  exact ⟨hScheduled, r', rfl, hSame.trans hTime⟩

/-- A status that an execution writes, where the post is no draft. -/
theorem JobConsistent.of_busy (hDraft : status ≠ .draft) (hWaiting : job.status ≠ .waiting)
    (hCancelled : job.status ≠ .cancelled) : JobConsistent status job row :=
  ⟨fun h => absurd h hDraft, fun h => absurd h hCancelled, fun h => absurd h hWaiting⟩

/-- A write of an execution finds the post of its job approved. -/
theorem not_draft_of_condition {w : Worker} {now : Time} {db : Database} {call : Call}
    (h : JobConsistent status job row) (hStatus : db.postStatus? job.postId = some status)
    (hCond : call.condition w now db job = true) : status ≠ .draft := by
  rintro rfl
  have hWaiting := (h.draft rfl).1
  cases call with
  | claimPublishJob =>
    -- a claim asks the post itself
    simp [Call.condition, claimable, hStatus] at hCond
  | reconcileFirst | publish | adapterPublish | reconcileAfter => simp [Call.condition] at hCond
  | saveFailed | recordAmbiguous => simp [Call.condition, inFlight, hWaiting] at hCond
  | _ => simp [Call.condition, hWaiting] at hCond

/-- A job that is cancelled, or not waiting, or waiting as before, is not queued anew. -/
theorem triggered_same {uuid : Uuid} (h : new = old) :
    triggered status old new uuid row = row := by
  subst h
  have hNot : ¬ Rescheduled status new new := fun h => h.2.2 ⟨rfl, rfl⟩
  rw [triggered, if_neg hNot, if_neg fun h => h.2 rfl]

theorem triggered_cancelled {uuid : Uuid} (hNew : new.status = .cancelled) (hNe : new ≠ old) :
    triggered status old new uuid row = none := by
  have hNot : ¬ Rescheduled status old new := by
    intro h
    have hWaiting : new.status = .waiting := h.1
    rw [hNew] at hWaiting
    cases hWaiting
  rw [triggered, if_neg hNot, if_pos ⟨hNew, hNe⟩]

/-- A waiting job of a scheduled post, after the trigger. -/
theorem triggered_waiting {uuid : Uuid} (hNew : new.status = .waiting) :
    triggered .scheduled old new uuid row =
      if old.status = .waiting ∧ old.scheduledAt = new.scheduledAt then row
      else some (freshOutboxRow new.id new.scheduledAt uuid) := by
  have hNotCancelled : ¬ (new.status = .cancelled ∧ new ≠ old) := by
    rw [hNew]
    exact fun h => by cases h.1
  unfold triggered
  rw [if_neg hNotCancelled]
  by_cases hSame : old.status = .waiting ∧ old.scheduledAt = new.scheduledAt
  · have hNot : ¬ Rescheduled .scheduled old new := by
      intro h
      exact h.2.2 ⟨hSame.1.trans hNew.symm, hSame.2⟩
    rw [if_neg hNot, if_pos hSame]
  · have hResched : Rescheduled .scheduled old new := by
      refine ⟨hNew, rfl, fun h => hSame ⟨h.1.trans hNew, h.2⟩⟩
    rw [if_pos hResched, if_neg hSame]

end Job

-- ---------------------------------------------------------------------------
-- One edit
-- ---------------------------------------------------------------------------

/-- The job is queued anew: it is waiting under a new time, or was not waiting before. -/
def Requeued (old new : SocialPublishJob) : Prop :=
  new.status = .waiting ∧ ¬ (old.status = .waiting ∧ old.scheduledAt = new.scheduledAt)

instance (old new : SocialPublishJob) : Decidable (Requeued old new) :=
  inferInstanceAs (Decidable (_ ∧ ¬ _))

/-- The outbox row of a job whose row went from `old` to `new`: a renewed one where it is queued
anew, and else one that stands for the hand-off it stood for, unless the job is cancelled. A row
that was not there is that of a waiting job, and new. -/
structure RowMoved (old new : SocialPublishJob) (uuid : Uuid) (row row' : Option OutboxRow) :
    Prop where
  renewed : Requeued old new → row' = some (freshOutboxRow new.id new.scheduledAt uuid)
  appeared : row = none → ∀ r, row' = some r → new.status = .waiting ∧
    r = freshOutboxRow new.id new.scheduledAt uuid
  kept : ¬ Requeued old new → ∀ r, row = some r → row' = none ∧ new.status = .cancelled ∨
    row'.map OutboxRow.delivery = some r.delivery

section Edits

variable {cfg : Config} {db : Database} {id : PostId} {row : PostRow} {operation : UserOperation}
  {next : Post} {f : SocialPublishJob → SocialPublishJob} {old new : SocialPublishJob}
  {uuid : Uuid} {before row' : Option OutboxRow}

/-- The columns that the dispatchers write do not matter. -/
theorem RowMoved.of_delivery (h : ¬ Requeued old new)
    (hRow : row'.map OutboxRow.delivery = before.map OutboxRow.delivery) :
    RowMoved old new uuid before row' := by
  refine ⟨fun hRequeued => absurd hRequeued h, fun hNone r hSome => ?_, fun _ r hBefore => ?_⟩
  · rw [hNone, hSome] at hRow
    cases hRow
  · rw [hRow, hBefore]
    exact Or.inr rfl

theorem RowMoved.unchanged (h : ¬ Requeued old new) : RowMoved old new uuid before before :=
  .of_delivery h rfl

theorem RowMoved.dropped (h : new.status = .cancelled) : RowMoved old new uuid before none := by
  refine ⟨fun hRequeued => ?_, fun _ r hRow => ?_, fun _ _ _ => Or.inl ⟨rfl, h⟩⟩
  · have hWaiting := hRequeued.1
    rw [h] at hWaiting
    cases hWaiting
  · cases hRow

theorem not_requeued_same (old : SocialPublishJob) : ¬ Requeued old old :=
  fun h => h.2 ⟨h.1, rfl⟩

/-- A job that an operation leaves waiting under a scheduled post. -/
theorem edit_waiting {status : PostStatus} (h : JobConsistent status old before)
    (hNew : new.status = .waiting) :
    JobConsistent .scheduled new
      (outboxAfter (status = .draft ∧ PostStatus.scheduled = .scheduled) .scheduled old new uuid
        before) ∧
    RowMoved old new uuid before
      (outboxAfter (status = .draft ∧ PostStatus.scheduled = .scheduled) .scheduled old new uuid
        before) := by
  -- in both cases there is a row, and it is for the time of the job
  have hConsistent : ∀ r : OutboxRow, r.scheduledAt = new.scheduledAt →
      JobConsistent .scheduled new (some r) := by
    intro r hTime
    refine ⟨fun h => ?_, fun h => ?_, fun _ _ => ⟨rfl, r, rfl, hTime⟩⟩
    · cases h
    · rw [hNew] at h
      cases h
  unfold outboxAfter
  rw [triggered_waiting hNew]
  by_cases hSame : old.status = .waiting ∧ old.scheduledAt = new.scheduledAt
  · have hNot : ¬ Requeued old new := fun h => h.2 hSame
    rw [if_pos hSame]
    by_cases hDraft : status = .draft
    · -- the INSERT of the first approval makes the row
      obtain rfl := (h.draft hDraft).2
      rw [if_pos ⟨⟨hDraft, rfl⟩, hNew⟩, Option.getD_none]
      refine ⟨hConsistent _ rfl, fun h => absurd h hNot, fun _ r hRow => ⟨hNew, ?_⟩,
        fun _ r hRow => ?_⟩
      · exact (Option.some.inj hRow).symm
      · cases hRow
    · obtain ⟨-, r, rfl, hTime⟩ := h.waiting hSame.1 hDraft
      rw [if_neg fun h => hDraft h.1.1]
      exact ⟨hConsistent r (hTime.trans hSame.2), .unchanged hNot⟩
  · have hRequeued : Requeued old new := ⟨hNew, hSame⟩
    rw [if_neg hSame, Option.getD_some, ite_self]
    exact ⟨hConsistent _ rfl, fun _ => rfl, fun _ r hRow => ⟨hNew, (Option.some.inj hRow).symm⟩,
      fun h => absurd hRequeued h⟩

/-- A job that an operation leaves as it is, not waiting. -/
theorem edit_other {status status' : PostStatus} (h : JobConsistent status old before)
    (hOld : old.status ≠ .waiting) (hDraft : status' ≠ .draft) {approved : Prop}
    [Decidable approved] :
    JobConsistent status' old (outboxAfter approved status' old old uuid before) ∧
      RowMoved old old uuid before (outboxAfter approved status' old old uuid before) := by
  unfold outboxAfter
  rw [if_neg fun hApproved => hOld hApproved.2, triggered_same rfl]
  exact ⟨⟨fun h => absurd h hDraft, h.cancelled, fun h => absurd h hOld⟩,
    .unchanged (not_requeued_same old)⟩

/-- A job that an operation cancels. -/
theorem edit_cancelled {status' : PostStatus} (hNew : new.status = .cancelled) (hNe : new ≠ old)
    (hDraft : status' ≠ .draft) {approved : Prop} [Decidable approved] :
    JobConsistent status' new (outboxAfter approved status' old new uuid before) ∧
      RowMoved old new uuid before (outboxAfter approved status' old new uuid before) := by
  have hNotWaiting : new.status ≠ .waiting := by
    rw [hNew]
    exact fun h => by cases h
  unfold outboxAfter
  rw [if_neg fun hApproved => hNotWaiting hApproved.2, triggered_cancelled hNew hNe]
  exact ⟨⟨fun h => absurd h hDraft, fun _ => rfl, fun h => absurd h hNotWaiting⟩,
    .dropped hNew⟩

/-- A post with a job is a draft after `cancel` for no job at all. -/
theorem summarizeStatus_ne_draft {jobs : List SocialPublishJob} (h : jobs ≠ []) :
    summarizeStatus jobs ≠ .draft := by
  have hSome : ¬ jobs.isEmpty = true := by simpa using h
  unfold summarizeStatus
  rw [if_neg hSome]
  split_ifs
  all_goals exact fun h => by cases h

/-- **One edit**, for each job of the post. -/
theorem edited_consistent (hEdit : Edit cfg db id row operation next f)
    (hOld : old ∈ jobsOf db id) (h : JobConsistent row.status old before) :
    JobConsistent next.status (f old)
        (outboxAfter (row.status = .draft ∧ next.status = .scheduled) next.status old (f old) uuid
          before) ∧
      RowMoved old (f old) uuid before
        (outboxAfter (row.status = .draft ∧ next.status = .scheduled) next.status old (f old) uuid
          before) := by
  cases hEdit with
  | update content hRevision hDraft =>
    have hStatus : (currentPost db id row).status = .draft := hDraft
    have hNot : ¬ ((row.status = .draft ∧ (currentPost db id row).status = .scheduled) ∧
        old.status = .waiting) := by
      rw [hStatus]
      exact fun h => by cases h.1.2
    show JobConsistent (currentPost db id row).status old (outboxAfter (row.status = .draft ∧
        (currentPost db id row).status = .scheduled) (currentPost db id row).status old old uuid
        before) ∧ RowMoved old old uuid before (outboxAfter (row.status = .draft ∧
        (currentPost db id row).status = .scheduled) (currentPost db id row).status old old uuid
        before)
    unfold outboxAfter
    rw [if_neg hNot, triggered_same rfl]
    exact ⟨h, .unchanged (not_requeued_same old)⟩
  | schedule scheduledAt hApproval hOpen hNotCancelled hIssues hTime =>
    by_cases hCancelled : old.status = .cancelled
    · have hSame : scheduleJob scheduledAt old = old := if_pos hCancelled
      have hOldStatus : old.status ≠ .waiting := by
        rw [hCancelled]
        exact fun h => by cases h
      rw [hSame]
      exact edit_other h hOldStatus fun h => by cases h
    · have hWaiting : (scheduleJob scheduledAt old).status = .waiting := by
        rw [scheduleJob, if_neg hCancelled]
      exact edit_waiting h hWaiting
  | cancel hOpen =>
    have hJobs : (jobsOf db id).map cancelJob ≠ [] := by
      rw [Ne, List.map_eq_nil_iff]
      exact List.ne_nil_of_mem hOld
    have hDraft := summarizeStatus_ne_draft hJobs
    by_cases hCancels : old.status = .waiting ∨ old.status = .retrying ∨ old.status = .failed
    · have hNew : cancelJob old = { old with status := .cancelled, nextRetryAt := none } :=
        if_pos hCancels
      have hNe : cancelJob old ≠ old := by
        intro hSame
        have hStatus : (cancelJob old).status = .cancelled := by rw [hNew]
        rw [hSame] at hStatus
        rw [hStatus] at hCancels
        rcases hCancels with hEq | hEq | hEq
        · cases hEq
        · cases hEq
        · cases hEq
      exact edit_cancelled (by rw [hNew]) hNe hDraft
    · have hSame : cancelJob old = old := if_neg hCancels
      rw [hSame]
      exact edit_other h (fun hWaiting => hCancels (Or.inl hWaiting)) hDraft
  | @retry _ date job hJob hBlocks =>
    by_cases hId : old.id = job.id
    · have hWaiting : (retryJob job.id date old).status = .waiting := by
        rw [retryJob, if_pos hId]
      exact edit_waiting h hWaiting
    · have hSame : retryJob job.id date old = old := if_neg hId
      rw [hSame]
      by_cases hWaiting : old.status = .waiting
      · exact edit_waiting h hWaiting
      · exact edit_other h hWaiting fun h => by cases h

end Edits

-- ---------------------------------------------------------------------------
-- The ids of the hand-offs
-- ---------------------------------------------------------------------------

/-- The id is that of an outbox row, of a record that a run holds, or of a job of the queue. -/
inductive UsesQueueId (s : PublishingState) (id : QueueJobId) : Prop
  | row {j : JobId} {row : OutboxRow} (hRow : s.db.outbox.lookup j = some row)
      (hId : row.queueJobId = id) : UsesQueueId s id
  | held {i : Nat} {state : PublishingQueue.State} {record : PublishQueueRecord}
      (hState : s.dispatchers[i]? = some state) (hHeld : record ∈ state.held)
      (hId : record.queueJobId = id) : UsesQueueId s id
  | queued {job : QueuedJob} (hJob : job ∈ s.queue) (hId : job.jobId = id) : UsesQueueId s id

section Ids

variable {cfg : Config} {s t : PublishingState} {e : Event} {id : QueueJobId}

/-- An id in use after a step was in use before it, or the step has drawn it. -/
theorem usesQueueId_origin (hStep : DispatchStep cfg s e t) (h : UsesQueueId t id) :
    UsesQueueId s id ∨ s.db.nextUuid ≤ id.uuid ∧ id.uuid < t.db.nextUuid := by
  cases h with
  | row hRow hId =>
    subst hId
    cases outbox_origin hStep hRow with
    | kept hOld hSame => exact Or.inl (.row hOld hSame.1.symm)
    | marked hOld hSame => exact Or.inl (.row hOld hSame.1.symm)
    | fresh hLower hUpper => exact Or.inr ⟨hLower, hUpper⟩
  | held hState hHeld hId =>
    subst hId
    rcases heldRecord_origin hStep hState hHeld with ⟨state, hBefore, hHeld⟩ | ⟨j, hTaken⟩
    · exact Or.inl (.held hBefore hHeld rfl)
    · obtain ⟨row, job, post, hRow, -, -, rfl⟩ := hTaken
      exact Or.inl (.row hRow rfl)
  | @queued job hJob hId =>
    subst hId
    have hAdded : job.added ∈ t.queue.map QueuedJob.added := List.mem_map_of_mem hJob
    rw [queue_added hStep, List.mem_append] at hAdded
    rcases hAdded with hBefore | hNew
    · obtain ⟨job', hJob', hSame⟩ := List.mem_map.mp hBefore
      exact Or.inl (.queued hJob' (congrArg Prod.fst hSame))
    · obtain ⟨addition, hAddition, hSame⟩ := List.mem_map.mp hNew
      obtain ⟨i, state, hState, hHeld⟩ := of_mem_additions hAddition
      exact Or.inl (.held hState hHeld (congrArg Prod.fst hSame))

/-- Every id in use has been drawn. -/
theorem usesQueueId_lt {ok : PublishingState → Event → Prop}
    (hReach : Reachable (publishingSystem cfg) ok s) (h : UsesQueueId s id) :
    id.uuid < s.db.nextUuid := by
  refine hReach.invariant (I := fun s => ∀ id, UsesQueueId s id → id.uuid < s.db.nextUuid)
    (fun s hInit id h => ?_) (fun s e t hBefore _ hMove id h => ?_) id h
  · obtain ⟨⟨campaigns, accounts, hDb⟩, hQueue, -, hRuns, -⟩ := hInit
    cases h with
    | row hRow =>
      rw [hDb] at hRow
      cases hRow
    | held hState =>
      rw [hRuns] at hState
      cases hState
    | queued hJob =>
      rw [hQueue] at hJob
      cases hJob
  · rcases usesQueueId_origin (dispatch_step hMove) h with hOld | ⟨-, hUpper⟩
    · exact (hBefore id hOld).trans_le (nextUuid_le_of_step (table_step hMove))
    · exact hUpper

/-- An id that is drawn now was not in use in any state up to now. -/
theorem unused_of_le {r : PublishingState} (hReach : Reachable (publishingSystem cfg) anyStep r)
    (hRun : Steps (publishingSystem cfg) anyStep r s) (hDrawn : s.db.nextUuid ≤ id.uuid) :
    ¬ UsesQueueId r id := by
  intro hUses
  have hLower : id.uuid < r.db.nextUuid := usesQueueId_lt hReach hUses
  have hUpper := (nextUuid_le_of_steps hRun).trans hDrawn
  exact Nat.lt_irrefl _ (hLower.trans_le hUpper)

end Ids

-- ---------------------------------------------------------------------------
-- All jobs
-- ---------------------------------------------------------------------------

/-- What the three tables say of each other. -/
structure OutboxConsistent (db : Database) : Prop where
  known : ∀ j row, db.outbox.lookup j = some row → ∃ job, db.job? j = some job
  job : ∀ j job, db.job? j = some job → ∃ status, db.postStatus? job.postId = some status ∧
    JobConsistent status job (db.outbox.lookup j)

section Tables

variable {cfg : Config} {s t : PublishingState} {e : Event}

theorem outboxConsistent_empty (campaigns : AList fun _ : CampaignId => UserId)
    (accounts : AList fun _ : AccountId => SocialAccount) :
    OutboxConsistent (Database.empty campaigns accounts) where
  known j row h := by cases h
  job j job h := by cases h

/-- An edit leaves the tables consistent, and moves each outbox row as its job was moved. -/
theorem consistent_edited {db db' : Database} {id : PostId} {row : PostRow}
    {operation : UserOperation} {next : Post} {f : SocialPublishJob → SocialPublishJob}
    (h : OutboxConsistent db) (hEdit : Edit cfg db id row operation next f)
    (hMutated : Mutated db id row next f db') : OutboxConsistent db' := by
  have hStatus : ∀ k, k ≠ id → db'.postStatus? k = db.postStatus? k := by
    intro k hk
    rw [postStatus?, hMutated.posts, AList.lookup_insert_ne hk, postStatus?]
  have hSelf : db'.postStatus? id = some next.status := by
    rw [postStatus?, hMutated.posts, AList.lookup_insert]
    rfl
  have hRow : db.postStatus? id = some row.status := by
    rw [postStatus?, hMutated.found]
    rfl
  constructor
  · -- no job row goes away, so a row that was there still has its job
    intro j r hRow
    have hOld : ∃ old, db.job? j = some old := by
      by_contra hNone
      have hOther : ∀ old, db.job? j = some old → old.postId ≠ id :=
        fun old hOld => absurd ⟨old, hOld⟩ hNone
      rw [hMutated.otherOutbox j hOther] at hRow
      exact hNone (h.known j r hRow)
    obtain ⟨old, hOld⟩ := hOld
    exact ⟨_, by rw [hMutated.rows, hOld, Option.map_some]⟩
  · intro j job hJob
    rw [hMutated.rows] at hJob
    obtain ⟨old, hOld, hNew⟩ := Option.map_eq_some_iff.mp hJob
    obtain ⟨status, hPost, hConsistent⟩ := h.job j old hOld
    by_cases hId : old.postId = id
    · rw [if_pos hId] at hNew
      have hOldId : old.id = j := job?_id hOld
      have hMem : old ∈ jobsOf db id := mem_jobsOf.mpr ⟨hOldId.symm ▸ hOld, hId⟩
      rw [hId, hRow, Option.some.injEq] at hPost
      subst hPost hOldId hNew
      obtain ⟨uuid, -, hAfter, -⟩ := hMutated.outbox old hMem
      rw [hAfter]
      refine ⟨next.status, ?_, (edited_consistent hEdit hMem hConsistent).1⟩
      rw [postId_of_writeBack (edited_writeBack hEdit old), hId, hSelf]
    · rw [if_neg hId] at hNew
      subst hNew
      have hOther : ∀ old', db.job? j = some old' → old'.postId ≠ id := by
        intro old' hOld'
        rw [hOld, Option.some.injEq] at hOld'
        exact hOld' ▸ hId
      rw [hMutated.otherOutbox j hOther]
      exact ⟨status, (hStatus _ hId).trans hPost, hConsistent⟩

/-- A new post has jobs and no outbox rows. -/
theorem consistent_created {db db' : Database} {post : Post} (h : OutboxConsistent db)
    (hCreated : Created db post db') : OutboxConsistent db' := by
  have hKept : ∀ k status, db.postStatus? k = some status → db'.postStatus? k = some status := by
    intro k status hStatus
    have hNe : k ≠ post.id := by
      rintro rfl
      simp [postStatus?, hCreated.unused] at hStatus
    rw [postStatus?, hCreated.posts, AList.lookup_insert_ne hNe, ← hStatus, postStatus?]
  constructor
  · intro j row hRow
    rw [hCreated.outbox] at hRow
    obtain ⟨job, hJob⟩ := h.known j row hRow
    rcases hCreated.rows j with hSame | ⟨hNone, -⟩
    · exact ⟨job, hSame.trans hJob⟩
    · rw [hJob] at hNone
      cases hNone
  · intro j job hJob
    rw [hCreated.outbox]
    rcases hCreated.rows j with hSame | ⟨hNone, target, hNew⟩
    · obtain ⟨status, hPost, hConsistent⟩ := h.job j job (hSame ▸ hJob)
      exact ⟨status, hKept _ _ hPost, hConsistent⟩
    · -- a job of the new draft, which had no row under its id
      rw [hNew, Option.some.injEq] at hJob
      subst hJob
      have hNoRow : db.outbox.lookup j = none := by
        by_contra hSome
        obtain ⟨row, hRow⟩ := Option.ne_none_iff_exists'.mp hSome
        obtain ⟨job, hJob⟩ := h.known j row hRow
        rw [hJob] at hNone
        cases hNone
      refine ⟨.draft, ?_, fun _ => ⟨rfl, hNoRow⟩, fun _ => hNoRow,
        fun _ hDraft => absurd rfl hDraft⟩
      show db'.postStatus? post.id = some .draft
      rw [postStatus?, hCreated.posts, AList.lookup_insert, ← hCreated.draft]
      rfl

/-- Every step keeps the tables consistent. -/
theorem consistent_step (h : OutboxConsistent s.db) (hStep : TableStep cfg s e t) :
    OutboxConsistent t.db := by
  cases hStep with
  | kept hRows hPosts _ hDeliveries =>
    constructor
    · intro j row hRow
      have hDelivery := hDeliveries j
      rw [hRow, Option.map_some] at hDelivery
      obtain ⟨row', hRow', -⟩ := Option.map_eq_some_iff.mp hDelivery.symm
      rw [hRows]
      exact h.known j row' hRow'
    · intro j job hJob
      rw [hRows] at hJob
      obtain ⟨status, hPost, hConsistent⟩ := h.job j job hJob
      exact ⟨status, by rw [postStatus?, hPosts]; exact hPost,
        hConsistent.of_delivery (hDeliveries j)⟩
  | @wrote i result w call old _ hWorker hState hCond hWritten =>
    have hPostId : (call.set w s.clock old).postId = old.postId := by
      cases call <;> rfl
    obtain ⟨status, hPost, hConsistent⟩ := h.job _ old hWritten.found
    have hDraft := not_draft_of_condition hConsistent hPost hCond
    obtain ⟨hWaiting, hCancelled⟩ := call.set_status w s.clock s.db old hCond
    constructor
    · intro j row hRow
      rw [hWritten.outbox] at hRow
      obtain ⟨job, hJob⟩ := h.known j row hRow
      rw [hWritten.rows]
      split
      · exact ⟨_, rfl⟩
      · exact ⟨job, hJob⟩
    · intro j job hJob
      rw [hWritten.rows] at hJob
      rw [hWritten.outbox, postStatus?, hWritten.posts]
      split at hJob
      · obtain rfl := Option.some.inj hJob
        rw [hPostId]
        exact ⟨status, hPost, .of_busy hDraft hWaiting hCancelled⟩
      · exact h.job j job hJob
  | created hCreated => exact consistent_created h hCreated
  | edited hEdit hMutated => exact consistent_edited h hEdit hMutated

/-- **The tables agree** in every run. -/
theorem consistent_reachable {ok : PublishingState → Event → Prop}
    (h : Reachable (publishingSystem cfg) ok s) : OutboxConsistent s.db := by
  refine h.invariant (I := fun s => OutboxConsistent s.db) (fun s hInit => ?_)
    fun s e t hBefore _ hMove => consistent_step hBefore (table_step hMove)
  obtain ⟨⟨campaigns, accounts, hDb⟩, -⟩ := hInit
  rw [hDb]
  exact outboxConsistent_empty campaigns accounts

/-- **One step** moves the outbox row of a job as it moved the job. -/
theorem outbox_moves (h : OutboxConsistent s.db) (hStep : TableStep cfg s e t) {j : JobId}
    {old new : SocialPublishJob} (hOld : s.db.job? j = some old) (hNew : t.db.job? j = some new) :
    ∃ uuid, s.db.nextUuid ≤ uuid ∧
      RowMoved old new uuid (s.db.outbox.lookup j) (t.db.outbox.lookup j) := by
  obtain ⟨status, hPost, hConsistent⟩ := h.job j old hOld
  have hUnchanged : ¬ Requeued old new → (t.db.outbox.lookup j).map OutboxRow.delivery =
      (s.db.outbox.lookup j).map OutboxRow.delivery → ∃ uuid, s.db.nextUuid ≤ uuid ∧
        RowMoved old new uuid (s.db.outbox.lookup j) (t.db.outbox.lookup j) := by
    exact fun hNot hDelivery => ⟨_, le_rfl, .of_delivery hNot hDelivery⟩
  cases hStep with
  | kept hRows _ _ hDeliveries =>
    rw [hRows, hOld, Option.some.injEq] at hNew
    subst hNew
    exact hUnchanged (not_requeued_same old) (hDeliveries j)
  | @wrote i result w call row _ hWorker hState hCond hWritten =>
    rw [hWritten.rows] at hNew
    have hStatus := (call.set_status w s.clock s.db row hCond).1
    refine hUnchanged (fun hRequeued => ?_) (by rw [hWritten.outbox])
    split at hNew
    · obtain rfl := Option.some.inj hNew
      exact hStatus hRequeued.1
    · rw [hOld, Option.some.injEq] at hNew
      subst hNew
      exact not_requeued_same old hRequeued
  | created hCreated =>
    refine hUnchanged ?_ (by rw [hCreated.outbox])
    rcases hCreated.rows j with hSame | ⟨hNone, -⟩
    · rw [hSame, hOld, Option.some.injEq] at hNew
      exact hNew ▸ not_requeued_same old
    · rw [hOld] at hNone
      cases hNone
  | @edited operation _ id row next f hEdit hMutated =>
    rw [hMutated.rows, hOld, Option.map_some, Option.some.injEq] at hNew
    by_cases hId : old.postId = id
    · rw [if_pos hId] at hNew
      have hOldId : old.id = j := job?_id hOld
      have hMem : old ∈ jobsOf s.db id := mem_jobsOf.mpr ⟨hOldId.symm ▸ hOld, hId⟩
      have hStatus : row.status = status := by
        rw [hId, postStatus?, hMutated.found] at hPost
        exact Option.some.inj hPost
      subst hStatus hOldId hNew
      obtain ⟨uuid, hLower, hAfter, -⟩ := hMutated.outbox old hMem
      rw [hAfter]
      exact ⟨uuid, hLower, (edited_consistent hEdit hMem hConsistent).2⟩
    · rw [if_neg hId] at hNew
      subst hNew
      refine hUnchanged (not_requeued_same old) ?_
      rw [hMutated.otherOutbox j fun old' hOld' => ?_]
      rw [hOld, Option.some.injEq] at hOld'
      exact hOld' ▸ hId

/-- The first approval of the post: it was a draft, and is scheduled with the job waiting. -/
def Approved (s t : PublishingState) (old new : SocialPublishJob) : Prop :=
  s.db.postStatus? old.postId = some .draft ∧ t.db.postStatus? new.postId = some .scheduled ∧
    new.status = .waiting

instance (s t : PublishingState) (old new : SocialPublishJob) : Decidable (Approved s t old new) :=
  inferInstanceAs (Decidable (_ ∧ _ ∧ _))

/-- What a step does to the outbox row of a job that it takes from `old` to `new`. -/
structure OutboxMoved (cfg : Config) (s t : PublishingState) (j : JobId)
    (old new : SocialPublishJob) : Prop where
  renewed : Approved s t old new ∨ Requeued old new → ∃ row, t.db.outbox.lookup j = some row ∧
    row.enqueuedAt = none ∧ row.dispatchLeaseExpiresAt = none ∧
    row.scheduledAt = new.scheduledAt ∧
    ∀ r, Reachable (publishingSystem cfg) anyStep r → Steps (publishingSystem cfg) anyStep r s →
      ¬ UsesQueueId r row.queueJobId
  kept : ¬ Requeued old new → ∀ row, s.db.outbox.lookup j = some row →
    t.db.outbox.lookup j = none ∧ new.status = .cancelled ∨
    ∃ row', t.db.outbox.lookup j = some row' ∧ row'.queueJobId = row.queueJobId ∧
      row'.scheduledAt = row.scheduledAt
  absent : ¬ Approved s t old new → ¬ Requeued old new → s.db.outbox.lookup j = none →
    t.db.outbox.lookup j = none

/-- A row that was not there comes with an approval, or with a hand-off anew. -/
theorem approved_of_appeared {old new : SocialPublishJob} {j : JobId} {r : OutboxRow}
    (hBefore : OutboxConsistent s.db) (hAfter : OutboxConsistent t.db)
    (hOld : s.db.job? j = some old) (hNew : t.db.job? j = some new)
    (hNone : s.db.outbox.lookup j = none) (hRow : t.db.outbox.lookup j = some r)
    (hWaiting : new.status = .waiting) : Approved s t old new ∨ Requeued old new := by
  obtain ⟨status, hPost, hConsistent⟩ := hBefore.job j old hOld
  obtain ⟨status', hPost', hConsistent'⟩ := hAfter.job j new hNew
  by_cases hDraft : status = .draft
  · have hDraft' : status' ≠ .draft := by
      intro hDraft'
      have hNoRow := (hConsistent'.draft hDraft').2
      rw [hRow] at hNoRow
      cases hNoRow
    obtain ⟨hScheduled, -⟩ := hConsistent'.waiting hWaiting hDraft'
    exact Or.inl ⟨hDraft ▸ hPost, hScheduled ▸ hPost', hWaiting⟩
  · refine Or.inr ⟨hWaiting, fun hSame => ?_⟩
    -- a waiting job of an approved post has its row
    obtain ⟨-, r', hSome, -⟩ := hConsistent.waiting hSame.1 hDraft
    rw [hNone] at hSome
    cases hSome

/-- The row after an approval or a hand-off anew. -/
theorem RowMoved.fresh {old new : SocialPublishJob} {j : JobId} {uuid : Uuid}
    (hMoved : RowMoved old new uuid (s.db.outbox.lookup j) (t.db.outbox.lookup j))
    (hBefore : OutboxConsistent s.db) (hAfter : OutboxConsistent t.db)
    (hOld : s.db.job? j = some old) (hNew : t.db.job? j = some new)
    (h : Approved s t old new ∨ Requeued old new) :
    t.db.outbox.lookup j = some (freshOutboxRow new.id new.scheduledAt uuid) := by
  rcases h with ⟨hDraft, hScheduled, hWaiting⟩ | hRequeued
  · obtain ⟨status, hPost, hConsistent⟩ := hBefore.job j old hOld
    obtain ⟨status', hPost', hConsistent'⟩ := hAfter.job j new hNew
    have hStatus : status = .draft := Option.some.inj (hPost.symm.trans hDraft)
    have hStatus' : status' = .scheduled := Option.some.inj (hPost'.symm.trans hScheduled)
    have hNotDraft : status' ≠ .draft := by
      rw [hStatus']
      exact fun h => by cases h
    obtain ⟨-, r, hRow, -⟩ := hConsistent'.waiting hWaiting hNotDraft
    obtain ⟨-, rfl⟩ := hMoved.appeared (hConsistent.draft hStatus).2 r hRow
    exact hRow
  · exact hMoved.renewed hRequeued

/-- **The outbox keeps up** with the jobs and posts in every run: the tables agree in every state,
and every step makes new outbox rows for the jobs that it approves or queues anew, under ids that
were never in use, and for no others. -/
theorem outbox_consistency (hReach : Reachable (publishingSystem cfg) anyStep s) :
    OutboxConsistent s.db ∧ ∀ e t, (publishingSystem cfg).step s e = some t →
      ∀ j old new, s.db.job? j = some old → t.db.job? j = some new →
        OutboxMoved cfg s t j old new := by
  have hConsistent := consistent_reachable hReach
  refine ⟨hConsistent, fun e t hStep j old new hOld hNew => ?_⟩
  have hConsistent' := consistent_reachable (hReach.tail trivial hStep)
  obtain ⟨uuid, hLower, hMoved⟩ := outbox_moves hConsistent (table_step hStep) hOld hNew
  constructor
  · intro hRenews
    have hRow := hMoved.fresh hConsistent hConsistent' hOld hNew hRenews
    exact ⟨_, hRow, rfl, rfl, rfl, fun r hReachable hRun => unused_of_le hReachable hRun hLower⟩
  · intro hNot row hRow
    rcases hMoved.kept hNot row hRow with hNone | hDelivery
    · exact Or.inl hNone
    · obtain ⟨row', hRow', hSame⟩ := Option.map_eq_some_iff.mp hDelivery
      exact Or.inr ⟨row', hRow', congrArg Prod.fst hSame, congrArg Prod.snd hSame⟩
  · intro hNotApproved hNotRequeued hNone
    by_contra hSome
    obtain ⟨r, hRow⟩ := Option.ne_none_iff_exists'.mp hSome
    have hWaiting := (hMoved.appeared hNone r hRow).1
    rcases approved_of_appeared hConsistent hConsistent' hOld hNew hNone hRow hWaiting with
      hApproved | hRequeued
    · exact hNotApproved hApproved
    · exact hNotRequeued hRequeued

/-- The commit changes the time of a waiting job, or takes a failed one back to waiting. -/
def QueuesAnew (old new : SocialPublishJob) : Prop :=
  old.status = .waiting ∧ new.scheduledAt ≠ old.scheduledAt ∨
    old.status = .failed ∧ new.status = .waiting

instance (old new : SocialPublishJob) : Decidable (QueuesAnew old new) :=
  inferInstanceAs (Decidable (_ ∨ _))

/-- These are the hand-offs anew. -/
theorem queuesAnew_iff {old new : SocialPublishJob} (h : RowChange cfg s e old new) :
    QueuesAnew old new ↔ Requeued old new := by
  have hSame : ¬ QueuesAnew old old := by
    rintro (⟨-, hTime⟩ | ⟨hFailed, hWaiting⟩)
    · exact hTime rfl
    · rw [hFailed] at hWaiting
      cases hWaiting
  cases h with
  | same hNew =>
    subst hNew
    exact iff_of_false hSame (not_requeued_same _)
  | @called _ _ w call _ _ _ _ hCond hNew =>
    subst hNew
    have hNotWaiting := (call.set_status w s.clock s.db old hCond).1
    refine iff_of_false ?_ fun h => hNotWaiting h.1
    rintro (⟨-, hTime⟩ | ⟨-, hWaiting⟩)
    · exact hTime (call.set_scheduledAt w s.clock old)
    · exact hNotWaiting hWaiting
  | edited _ hEdit hMem hNew =>
    subst hNew
    cases hEdit with
    | update => exact iff_of_false hSame (not_requeued_same _)
    | schedule scheduledAt _ hOpen =>
      by_cases hCancelled : old.status = .cancelled
      · rw [show scheduleJob scheduledAt old = old from if_pos hCancelled]
        exact iff_of_false hSame (not_requeued_same _)
      · have hWaiting := waiting_of_open (hOpen old hMem) hCancelled
        rw [show scheduleJob scheduledAt old =
          { old with scheduledAt := scheduledAt, status := .waiting } from if_neg hCancelled]
        simp [QueuesAnew, Requeued, hWaiting, eq_comm]
    | cancel =>
      have hTime : (cancelJob old).scheduledAt = old.scheduledAt := by
        unfold cancelJob
        split <;> rfl
      have hNotFailed : old.status = .failed → (cancelJob old).status = .cancelled := by
        intro hFailed
        rw [cancelJob, if_pos (Or.inr (Or.inr hFailed))]
      refine iff_of_false ?_ ?_
      · rintro (⟨-, hOther⟩ | ⟨hFailed, hWaiting⟩)
        · exact hOther hTime
        · rw [hNotFailed hFailed] at hWaiting
          cases hWaiting
      · rintro ⟨hWaiting, hNot⟩
        unfold cancelJob at hWaiting
        split at hWaiting
        · cases hWaiting
        · exact hNot ⟨hWaiting, hTime.symm⟩
    | @retry _ date job hJob hOpen =>
      by_cases hId : old.id = job.id
      · have hFailed := failed_of_retried hMem hJob hId hOpen
        have hNew : (retryJob job.id date old).status = .waiting := by
          rw [retryJob, if_pos hId]
        refine iff_of_true (Or.inr ⟨hFailed, hNew⟩) ⟨hNew, fun h => ?_⟩
        rw [hFailed] at h
        cases h.1
      · rw [show retryJob job.id date old = old from if_neg hId]
        exact iff_of_false hSame (not_requeued_same _)

/-- **Drafts and cancelled jobs have no outbox row**, a waiting job of any other post has one for its
time, in every state of every run. A commit that changes the time of a waiting job or takes a failed
one back leaves a row that is not handed over, under an id that no state up to then had in use, and
any other step leaves the id of a row as it is. -/
theorem outbox_rows_follow_jobs (hReach : Reachable (publishingSystem cfg) anyStep s) :
    (∀ j job, s.db.job? j = some job → s.db.postStatus? job.postId = some .draft →
      s.db.outbox.lookup j = none) ∧
    (∀ j job, s.db.job? j = some job → job.status = .cancelled → s.db.outbox.lookup j = none) ∧
    (∀ j job status, s.db.job? j = some job → job.status = .waiting →
      s.db.postStatus? job.postId = some status → status ≠ .draft →
      status = .scheduled ∧ ∃ row, s.db.outbox.lookup j = some row ∧
        row.scheduledAt = job.scheduledAt) ∧
    ∀ e t j old new, (publishingSystem cfg).step s e = some t → s.db.job? j = some old →
      t.db.job? j = some new →
      (QueuesAnew old new → ∃ row, t.db.outbox.lookup j = some row ∧ row.enqueuedAt = none ∧
        ∀ r, Reachable (publishingSystem cfg) anyStep r →
          Steps (publishingSystem cfg) anyStep r s → ¬ UsesQueueId r row.queueJobId) ∧
      (¬ QueuesAnew old new → ∀ row row', s.db.outbox.lookup j = some row →
        t.db.outbox.lookup j = some row' → row'.queueJobId = row.queueJobId) := by
  have hConsistent := consistent_reachable hReach
  have hStored : ∀ {j job status}, s.db.job? j = some job →
      s.db.postStatus? job.postId = some status →
      JobConsistent status job (s.db.outbox.lookup j) := by
    intro j job status hJob hStatus
    obtain ⟨status', hStatus', hJobConsistent⟩ := hConsistent.job j job hJob
    rw [hStatus, Option.some.injEq] at hStatus'
    exact hStatus' ▸ hJobConsistent
  refine ⟨fun j job hJob hDraft => ((hStored hJob hDraft).draft rfl).2,
    fun j job hJob hCancelled => ?_, fun j job status hJob hWaiting hStatus hDraft =>
    (hStored hJob hStatus).waiting hWaiting hDraft, fun e t j old new hStep hOld hNew => ?_⟩
  · obtain ⟨status, -, hJobConsistent⟩ := hConsistent.job j job hJob
    exact hJobConsistent.cancelled hCancelled
  · obtain ⟨uuid, hLower, hMoved⟩ := outbox_moves hConsistent (table_step hStep) hOld hNew
    obtain ⟨new', hNew', hChange⟩ := row_change (step_kind hStep) hOld
    rw [hNew, Option.some.injEq] at hNew'
    subst hNew'
    rw [queuesAnew_iff hChange]
    refine ⟨fun hRequeued => ?_, fun hNot row row' hRow hRow' => ?_⟩
    · exact ⟨_, hMoved.renewed hRequeued, rfl, fun r hReachable hRun =>
        unused_of_le hReachable hRun hLower⟩
    · rcases hMoved.kept hNot row hRow with ⟨hNone, -⟩ | hSame
      · rw [hRow'] at hNone
        cases hNone
      · rw [hRow', Option.map_some, Option.some.injEq] at hSame
        exact congrArg Prod.fst hSame

end Tables

/-- Approved for the time that the draft had, and rescheduled after the approval. -/
theorem outbox_consistency_rescheduled :
    (∃ s t old new, OutboxConsistent s.db ∧ s.db.job? 1 = some old ∧ t.db.job? 1 = some new ∧
      Approved s t old new ∧ ¬ Requeued old new ∧
      OutboxMoved (Installation.config false false) s t 1 old new) ∧
    ∃ s t old new, OutboxConsistent s.db ∧ s.db.job? 1 = some old ∧ t.db.job? 1 = some new ∧
      Requeued old new ∧ OutboxMoved (Installation.config false false) s t 1 old new := by
  constructor
  · have hRun : (guardedRun (publishingSystem (Installation.config false false)) anyStep
        Installation.start (Installation.approved.take 1)).any
        (Installation.moves (Installation.config false false)
          (.user (.schedule 100 0 (some 1000) 1 0))
          fun s t old new => Approved s t old new ∧ ¬ Requeued old new) = true := by
      decide +kernel
    obtain ⟨s, t, old, new, hReach, hStep, hOld, hNew, hMoves⟩ := Installation.exists_moved hRun
    obtain ⟨hApproved, hNot⟩ := of_decide_eq_true hMoves
    obtain ⟨hConsistent, hSteps⟩ := outbox_consistency hReach
    exact ⟨s, t, old, new, hConsistent, hOld, hNew, hApproved, hNot,
      hSteps _ t hStep 1 old new hOld hNew⟩
  · have hRun : (guardedRun (publishingSystem (Installation.config false false)) anyStep
        Installation.start Installation.approved).any
        (Installation.moves (Installation.config false false)
          (.user (.schedule 100 0 (some 5000) 2 0)) fun _ _ old new => Requeued old new) =
        true := by
      decide +kernel
    obtain ⟨s, t, old, new, hReach, hStep, hOld, hNew, hMoves⟩ := Installation.exists_moved hRun
    obtain ⟨hConsistent, hSteps⟩ := outbox_consistency hReach
    exact ⟨s, t, old, new, hConsistent, hOld, hNew, of_decide_eq_true hMoves,
      hSteps _ t hStep 1 old new hOld hNew⟩

/-- The row of job 1 was handed over; after rescheduling the job has another, which was not. -/
theorem outbox_rows_follow_jobs_rescheduled : ∃ (s t : PublishingState) (row row' : OutboxRow),
    s.db.outbox.lookup 1 = some row ∧ row.enqueuedAt.isSome ∧
      t.db.outbox.lookup 1 = some row' ∧ row'.enqueuedAt = none ∧
      row'.queueJobId ≠ row.queueJobId := by
  have hRun : (guardedRun (publishingSystem (Installation.config false false)) anyStep
      Installation.start (Installation.approved ++ [.dispatch 10 30000,
        .dispatcher 0 .returned 1000 [], .dispatcher 0 .returned 1000 [],
        .dispatcher 0 .returned 1000 []])).any
      (Installation.moves (Installation.config false false)
        (.user (.schedule 100 0 (some 5000) 2 0)) fun s _ old new => QueuesAnew old new ∧
          (s.db.outbox.lookup 1).any fun row => row.enqueuedAt.isSome) = true := by
    decide +kernel
  obtain ⟨s, t, old, new, hReach, hStep, hOld, hNew, hMoves⟩ := Installation.exists_moved hRun
  obtain ⟨hQueues, hMarked⟩ := of_decide_eq_true hMoves
  obtain ⟨row, hRow, hMarked⟩ := (Option.any_eq_true _ _).mp hMarked
  obtain ⟨-, -, -, hCommits⟩ := outbox_rows_follow_jobs hReach
  obtain ⟨row', hRow', hNone, hUnused⟩ := (hCommits _ t 1 old new hStep hOld hNew).1 hQueues
  refine ⟨s, t, row, row', hRow, hMarked, hRow', hNone, fun hSame => ?_⟩
  exact hUnused s hReach .refl (.row hRow hSame.symm)

end SocialPromotion
