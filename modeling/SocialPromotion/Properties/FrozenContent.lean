import SocialPromotion.Properties.OutboxConsistency
import SocialPromotion.Properties.Snapshots

/-!
# The content that is published

* `post_change`: a step leaves a post alone, with its media and the jobs of a draft, or it is an
  edit of this post;
* `content_kept`: the content of a post is fixed once it is no draft any more;
* `target_kept`, `target_origin`: a job keeps its post and its target, and no job is added to a
  post later on;
* `sends_stored_reachable`: every provider call was given the content that is stored for the post
  of its job, formatted for the target of the job.
-/

namespace SocialPromotion

open LTS Database PgPostRepository PublishWorkerProcessor PgPublishOutboxRepository

-- ---------------------------------------------------------------------------
-- Posts
-- ---------------------------------------------------------------------------

/-- What a step does to the post `id` with row `row`. -/
inductive PostChange (cfg : Config) (s : PublishingState) (id : PostId) (row : PostRow) :
    Event → PublishingState → Prop
  | kept {e : Event} {t : PublishingState} (hPost : t.db.posts.lookup id = some row)
      (hMedia : mediaOf t.db id = mediaOf s.db id)
      (hJobs : row.status = .draft → ∀ job, job ∈ jobsOf t.db id ↔ job ∈ jobsOf s.db id) :
      PostChange cfg s id row e t
  | edited {operation : UserOperation} {t : PublishingState} {next : Post}
      {f : SocialPublishJob → SocialPublishJob} (hEdit : Edit cfg s.db id row operation next f)
      (hMutated : Mutated s.db id row next f t.db) : PostChange cfg s id row (.user operation) t

section Posts

variable {cfg : Config} {s t : PublishingState} {e : Event} {id : PostId} {row : PostRow}

/-- The jobs of a post are those of the rows that are its own. -/
theorem mem_jobsOf_congr {db db' : Database}
    (h : ∀ k job, job.postId = id → (db'.job? k = some job ↔ db.job? k = some job))
    (job : SocialPublishJob) : job ∈ jobsOf db' id ↔ job ∈ jobsOf db id := by
  rw [mem_jobsOf, mem_jobsOf]
  exact and_congr_left fun hPost => h job.id job hPost

/-- An execution does not write the jobs of a draft. -/
theorem jobsOf_wrote (hConsistent : OutboxConsistent s.db) (hRow : s.db.posts.lookup id = some row)
    {w : Worker} {call : Call} {old : SocialPublishJob}
    (hCond : call.condition w s.clock s.db old = true)
    (hWritten : RowWritten s.db (call.target w) old (call.set w s.clock old) t.db)
    (hDraft : row.status = .draft) (job : SocialPublishJob) :
    job ∈ jobsOf t.db id ↔ job ∈ jobsOf s.db id := by
  have hPostId : (call.set w s.clock old).postId = old.postId := by
    cases call <;> rfl
  have hOther : old.postId ≠ id := by
    intro hSame
    obtain ⟨status, hStatus, hJob⟩ := hConsistent.job _ old hWritten.found
    have hNotDraft := not_draft_of_condition hJob hStatus hCond
    rw [hSame, postStatus?, hRow, Option.map_some, Option.some.injEq] at hStatus
    exact hNotDraft (hStatus.symm.trans hDraft)
  refine mem_jobsOf_congr (fun k job hPost => ?_) job
  rw [hWritten.rows]
  split
  · rename_i hTarget
    subst hTarget
    rw [hWritten.found]
    -- the written row is of another post, before and after
    constructor
    · intro h
      obtain rfl := Option.some.inj h
      exact absurd (hPostId.symm.trans hPost) hOther
    · intro h
      obtain rfl := Option.some.inj h
      exact absurd hPost hOther
  · rfl

/-- The jobs of a new draft are its own. -/
theorem jobsOf_created {post : Post} {db db' : Database} (hCreated : Created db post db')
    (hId : id ≠ post.id) (job : SocialPublishJob) : job ∈ jobsOf db' id ↔ job ∈ jobsOf db id := by
  refine mem_jobsOf_congr (fun k job hPost => ?_) job
  rcases hCreated.rows k with hSame | ⟨hNone, target, hNew⟩
  · rw [hSame]
  · rw [hNew, hNone]
    constructor
    · intro h
      obtain rfl := Option.some.inj h
      exact absurd hPost.symm hId
    · intro h
      cases h

/-- An edit writes the jobs of its own post. -/
theorem jobsOf_edited {id' : PostId} {row' : PostRow} {operation : UserOperation} {next : Post}
    {f : SocialPublishJob → SocialPublishJob} (hEdit : Edit cfg s.db id' row' operation next f)
    (hMutated : Mutated s.db id' row' next f t.db) (hId : id ≠ id') (job : SocialPublishJob) :
    job ∈ jobsOf t.db id ↔ job ∈ jobsOf s.db id := by
  refine mem_jobsOf_congr (fun k job hPost => ?_) job
  rw [hMutated.rows, Option.map_eq_some_iff]
  constructor
  · rintro ⟨old, hOld, hNew⟩
    split at hNew
    · rename_i hOwn
      have hKept := postId_of_writeBack (edited_writeBack hEdit old)
      rw [hNew, hPost, hOwn] at hKept
      exact absurd hKept hId
    · exact hNew ▸ hOld
  · intro hJob
    exact ⟨job, hJob, if_neg fun hOwn => hId (hPost.symm.trans hOwn)⟩

/-- **One post** in one step. -/
theorem post_change (hConsistent : OutboxConsistent s.db) (hStep : TableStep cfg s e t)
    (hRow : s.db.posts.lookup id = some row) : PostChange cfg s id row e t := by
  cases hStep with
  | kept hRows hPosts hMedia =>
    refine .kept (by rw [hPosts, hRow]) (by rw [mediaOf, hMedia, mediaOf]) fun _ job => ?_
    exact mem_jobsOf_congr (fun k job _ => by rw [hRows]) job
  | wrote hWorker hState hCond hWritten =>
    refine .kept (by rw [hWritten.posts, hRow]) (by rw [mediaOf, hWritten.postMedia, mediaOf]) ?_
    exact jobsOf_wrote hConsistent hRow hCond hWritten
  | @created operation _ post hCreated =>
    have hId : id ≠ post.id := by
      rintro rfl
      rw [hCreated.unused] at hRow
      cases hRow
    refine .kept ?_ ?_ fun _ => jobsOf_created hCreated hId
    · rw [hCreated.posts, AList.lookup_insert_ne hId, hRow]
    · rw [mediaOf, hCreated.postMedia, AList.lookup_insert_ne hId, mediaOf]
  | @edited operation _ id' row' next f hEdit hMutated =>
    by_cases hId : id = id'
    · subst hId
      have hSame := hMutated.found
      rw [hRow, Option.some.injEq] at hSame
      subst hSame
      exact .edited hEdit hMutated
    · refine .kept ?_ ?_ fun _ => jobsOf_edited hEdit hMutated hId
      · rw [hMutated.posts, AList.lookup_insert_ne hId, hRow]
      · rw [mediaOf, hMutated.postMedia, AList.lookup_insert_ne hId, mediaOf]

/-! ## The content of a post -/

/-- The content that is stored for a post. -/
def contentOf (db : Database) (id : PostId) : Option PostContent :=
  (db.posts.lookup id).map fun row => (currentPost db id row).content

/-- Every edit but `update` writes back the content that it has read. -/
theorem content_mutated {db db' : Database} {next : Post}
    {f : SocialPublishJob → SocialPublishJob} (hMutated : Mutated db id row next f db')
    (hContent : next.content = (currentPost db id row).content) :
    contentOf db' id = contentOf db id := by
  have hMedia : mediaOf db' id = next.content.media := by
    rw [mediaOf, hMutated.postMedia, AList.lookup_insert]
    rfl
  rw [contentOf, contentOf, hMutated.posts, hMutated.found, AList.lookup_insert, Option.map_some,
    Option.map_some]
  show some (PostContent.mk _ _ _ (mediaOf db' id) _) = _
  rw [hMedia, updatedPost, hContent]
  rfl

theorem status_mutated {db db' : Database} {next : Post}
    {f : SocialPublishJob → SocialPublishJob} (hMutated : Mutated db id row next f db') :
    db'.postStatus? id = some next.status := by
  rw [postStatus?, hMutated.posts, AList.lookup_insert]
  rfl

/-- An edit of a post with a job leaves a draft only where it found one. -/
theorem edited_not_draft {db : Database} {operation : UserOperation} {next : Post}
    {f : SocialPublishJob → SocialPublishJob} (hEdit : Edit cfg db id row operation next f)
    (hJobs : jobsOf db id ≠ []) (hDraft : row.status ≠ .draft) :
    next.status ≠ .draft ∧ next.content = (currentPost db id row).content := by
  cases hEdit with
  | update content _ hStatus => exact absurd hStatus hDraft
  | schedule =>
    refine ⟨fun h => ?_, rfl⟩
    cases h
  | cancel =>
    refine ⟨summarizeStatus_ne_draft ?_, rfl⟩
    exact fun h => hJobs (List.map_eq_nil_iff.mp h)
  | retry =>
    refine ⟨fun h => ?_, rfl⟩
    cases h

/-- **The content is fixed** once a post with a job is no draft any more. -/
theorem content_kept (hConsistent : OutboxConsistent s.db) (hStep : TableStep cfg s e t)
    (hJobs : jobsOf s.db id ≠ []) {status : PostStatus} (hStatus : s.db.postStatus? id = some status)
    (hDraft : status ≠ .draft) :
    contentOf t.db id = contentOf s.db id ∧
      ∃ status', t.db.postStatus? id = some status' ∧ status' ≠ .draft := by
  obtain ⟨row, hRow, rfl⟩ := Option.map_eq_some_iff.mp hStatus
  cases post_change hConsistent hStep hRow with
  | kept hPost hMedia =>
    refine ⟨?_, row.status, by rw [postStatus?, hPost, Option.map_some], hDraft⟩
    rw [contentOf, contentOf, hPost, hRow, Option.map_some, Option.map_some, currentPost, hMedia]
  | @edited operation _ next f hEdit hMutated =>
    obtain ⟨hNext, hContent⟩ := edited_not_draft hEdit hJobs hDraft
    exact ⟨content_mutated hMutated hContent, next.status,
      status_mutated hMutated, hNext⟩

end Posts

-- ---------------------------------------------------------------------------
-- Targets
-- ---------------------------------------------------------------------------

section Targets

variable {cfg : Config} {s t : PublishingState} {e : Event} {j : JobId}
  {old new : SocialPublishJob}

/-- A job keeps its target. -/
theorem target_kept (hKind : StepKind cfg s e t) (hOld : s.db.job? j = some old) :
    ∃ new, t.db.job? j = some new ∧ SameTarget new old := by
  obtain ⟨new, hNew, hChange⟩ := row_change hKind hOld
  exact ⟨new, hNew, sameTarget_change hChange⟩

/-- A job of a post that was there before was there before, too. -/
theorem target_origin (hKind : StepKind cfg s e t) (hNew : t.db.job? j = some new)
    (hPost : (s.db.posts.lookup new.postId).isSome) :
    ∃ old, s.db.job? j = some old ∧ SameTarget new old := by
  rcases row_origin hKind hNew with ⟨old, hOld, hChange⟩ | ⟨-, post, target, hCreated, rfl⟩
  · exact ⟨old, hOld, sameTarget_change hChange⟩
  · -- the post of a new job is new itself
    have hUnused : s.db.posts.lookup (PostService.newJob j post target).postId = none :=
      hCreated.unused
    rw [hUnused] at hPost
    cases hPost

/-- Posts are not deleted. -/
theorem post_isSome_kept (hStep : TableStep cfg s e t) {id : PostId}
    (hPost : (s.db.posts.lookup id).isSome) : (t.db.posts.lookup id).isSome := by
  have hInsert : ∀ {posts : AList fun _ : PostId => PostRow} (k : PostId) (row : PostRow),
      (posts.lookup id).isSome → ((posts.insert k row).lookup id).isSome := by
    intro posts k row h
    by_cases hk : id = k
    · rw [hk, AList.lookup_insert]
      rfl
    · rw [AList.lookup_insert_ne hk]
      exact h
  cases hStep with
  | kept _ hPosts => rwa [hPosts]
  | wrote _ _ _ hWritten => rwa [hWritten.posts]
  | created hCreated =>
    rw [hCreated.posts]
    exact hInsert _ _ hPost
  | edited _ hMutated =>
    rw [hMutated.posts]
    exact hInsert _ _ hPost

/-- No job is added to a post in a run. -/
theorem target_origin_run (h : Steps (publishingSystem cfg) anyStep s t)
    (hNew : t.db.job? j = some new) (hPost : (s.db.posts.lookup new.postId).isSome) :
    ∃ old, s.db.job? j = some old ∧ SameTarget new old := by
  induction h generalizing new with
  | refl => exact ⟨new, hNew, .refl new⟩
  | @tail t u e hRun _ hMove ih =>
    have hKept : (t.db.posts.lookup new.postId).isSome :=
      hRun.relation (R := fun _ t => (t.db.posts.lookup new.postId).isSome) hPost
        fun _ _ _ hBefore _ hMove => post_isSome_kept (table_step hMove) hBefore
    obtain ⟨old, hOld, hSame⟩ := target_origin (step_kind hMove) hNew hKept
    obtain ⟨first, hFirst, hSame'⟩ := ih hOld (hSame.2.2 ▸ hPost)
    exact ⟨first, hFirst, hSame.trans hSame'⟩

end Targets

-- ---------------------------------------------------------------------------
-- Executions and provider calls
-- ---------------------------------------------------------------------------

/-- What an execution has claimed. -/
def PublishWorkerProcessor.State.claimed? (state : State) : Option ClaimedPublishJob :=
  state.call?.bind Call.claimed?

/-- The content of `post` is the one stored for the post of job `j`, which is no draft, and `job`
is a snapshot of the job. -/
def StoredFor (db : Database) (j : JobId) (job : SocialPublishJob) (post : Post) : Prop :=
  ∃ row status, db.job? j = some row ∧ job.id = j ∧ SameTarget row job ∧ post.id = row.postId ∧
    contentOf db row.postId = some post.content ∧ db.postStatus? row.postId = some status ∧
    status ≠ .draft

section Sends

variable {cfg : Config} {s t : PublishingState} {e : Event} {j : JobId} {k : Nat}
  {claimed : ClaimedPublishJob} {job : SocialPublishJob} {post : Post}

/-- **One step** keeps what is stored for a snapshot. -/
theorem storedFor_step (hConsistent : OutboxConsistent s.db) (hKind : StepKind cfg s e t)
    (hStep : TableStep cfg s e t) (h : StoredFor s.db j job post) : StoredFor t.db j job post := by
  obtain ⟨row, status, hRow, hJob, hTarget, hId, hContent, hStatus, hDraft⟩ := h
  obtain ⟨row', hRow', hKept⟩ := target_kept hKind hRow
  have hJobs : jobsOf s.db row.postId ≠ [] :=
    List.ne_nil_of_mem (mem_jobsOf.mpr ⟨(job?_id hRow).symm ▸ hRow, rfl⟩)
  obtain ⟨hSame, status', hStatus', hDraft'⟩ := content_kept hConsistent hStep hJobs hStatus hDraft
  rw [← hKept.2.2] at hId hSame hContent hStatus'
  exact ⟨row', status', hRow', hJob, hKept.trans hTarget, hId, hSame.trans hContent, hStatus',
    hDraft'⟩

theorem flow_claimed {call : Call} {state : State} (h : Flow cfg call state)
    (hClaimed : state.claimed? = some claimed) : call.claimed? = some claimed := by
  cases h with
  | ends => cases hClaimed
  | ambiguous hCall | fails _ hCall =>
    rcases hCall with rfl | ⟨n, rfl⟩
    · exact hClaimed
    · exact hClaimed
  | _ => exact hClaimed

/-- What the claim of an execution reads. -/
theorem storedFor_claim {w : Worker} {old : SocialPublishJob}
    (hCond : Call.claimPublishJob.condition w s.clock s.db old = true)
    (hWritten : RowWritten s.db w.publishJobId old (claimRow w.leaseMs s.clock old) t.db)
    (hClaimed : State.claimed? (Call.matched w s.db .claimPublishJob
      (claimRow w.leaseMs s.clock old)) = some claimed) :
    StoredFor t.db w.publishJobId claimed.job claimed.post := by
  obtain ⟨post, hPost, hDraft⟩ := exists_post_of_claimable hCond
  have hMatched : Call.matched w s.db .claimPublishJob (claimRow w.leaseMs s.clock old) =
      afterClaim (some ⟨currentPost s.db old.postId post, claimRow w.leaseMs s.clock old⟩) := by
    show afterClaim ((s.db.posts.lookup old.postId).map _) = _
    rw [hPost]
    rfl
  have hRead : claimed = ⟨currentPost s.db old.postId post, claimRow w.leaseMs s.clock old⟩ := by
    rw [hMatched] at hClaimed
    unfold afterClaim at hClaimed
    dsimp only at hClaimed
    split at hClaimed
    · exact (Option.some.inj hClaimed).symm
    · split at hClaimed
      · exact (Option.some.inj hClaimed).symm
      · exact (Option.some.inj hClaimed).symm
  subst hRead
  have hOldId : old.id = w.publishJobId := job?_id hWritten.found
  refine ⟨claimRow w.leaseMs s.clock old, post.status, ?_, hOldId, .refl _, rfl, ?_,
    ?_, hDraft⟩
  · rw [hWritten.rows, if_pos rfl]
  · show contentOf t.db old.postId = _
    rw [contentOf, hWritten.posts, hPost, Option.map_some, currentPost, mediaOf,
      hWritten.postMedia]
    rfl
  · show t.db.postStatus? old.postId = _
    rw [postStatus?, hWritten.posts, hPost, Option.map_some]

/-- What executions have claimed, are about to send, and have sent is what is stored. -/
structure SendsStored (cfg : Config) (s : PublishingState) : Prop where
  claims : ∀ (k : Nat) (w : Worker) (claimed : ClaimedPublishJob), s.workers[k]? = some w →
    w.state.claimed? = some claimed → StoredFor s.db w.publishJobId claimed.job claimed.post
  sends : ∀ (k : Nat) (w : Worker) (claimed : ClaimedPublishJob) (job : SocialPublishJob),
    s.workers[k]? = some w → w.state = .running (.publish claimed job) →
    StoredFor s.db w.publishJobId job claimed.post
  calls : ∀ (n : Nat) (c : PublishCall), s.calls[n]? = some c → ∃ job post,
    StoredFor s.db c.jobId job post ∧ FormatterService.format cfg.isTagChar post job = .ok c.post

/-- What `publish` hands to the adapter is the formatted post. -/
theorem format_of_publishStart {formatted : SocialPost} {request : PublishRequest}
    (h : PublishingService.publishStart cfg post job = .call formatted request) :
    FormatterService.format cfg.isTagChar post job = .ok formatted := by
  unfold PublishingService.publishStart at h
  dsimp only at h
  split at h
  · cases h
  · split at h
    · cases h
    · split at h
      · cases h
      · split at h
        · cases h
        · rename_i hFormat
          cases h
          exact hFormat

/-- An execution claims what is stored, and keeps it. -/
theorem claims_step (hConsistent : OutboxConsistent s.db) (h : SendsStored cfg s)
    (hKind : StepKind cfg s e t) (hStep : TableStep cfg s e t) {w' : Worker}
    (hGet : t.workers[k]? = some w') (hClaimed : w'.state.claimed? = some claimed) :
    StoredFor t.db w'.publishJobId claimed.job claimed.post := by
  have hKept : ∀ {w : Worker}, s.workers[k]? = some w → w.state.claimed? = some claimed →
      w'.publishJobId = w.publishJobId →
      StoredFor t.db w'.publishJobId claimed.job claimed.post := by
    intro w hWorker hBefore hJob
    rw [hJob]
    exact storedFor_step hConsistent hKind hStep (h.claims k w claimed hWorker hBefore)
  have hFlowed : ∀ {i : Nat} {w : Worker} {call : Call} {state : State},
      w.state = .running call → WorkerMoved s i w state t → Flow cfg call state →
      StoredFor t.db w'.publishJobId claimed.job claimed.post := by
    intro i w call state hState hMoved hFlow
    rcases hMoved.cases hGet with ⟨rfl, rfl⟩ | ⟨-, hWorker⟩
    · refine hKept hMoved.1 ?_ rfl
      rw [hState]
      exact flow_claimed hFlow hClaimed
    · exact hKept hWorker hClaimed rfl
  cases hKind with
  | quiet hWorkers | created hWorkers | edited hWorkers =>
    exact hKept (hWorkers.workers ▸ hGet) hClaimed rfl
  | started hCall hWorkers =>
    rcases started_cases hWorkers hGet with ⟨-, rfl⟩ | hWorker
    · rw [hCall] at hClaimed
      cases hClaimed
    · exact hKept hWorker hClaimed rfl
  | @unwritten i result w call state _ hState hMoved hNext =>
    refine hFlowed hState hMoved ?_
    rcases hNext with ⟨rfl, -⟩ | ⟨-, rfl, -⟩
    · exact .ends _
    · obtain ⟨outcome, hEnds⟩ := call.unmatched_ended w
      exact hEnds ▸ .ends outcome
  | reconcileFirst hState hMoved => exact hFlowed hState hMoved (flow_reconcileFirst _)
  | reconcileAfter hState hMoved => exact hFlowed hState hMoved (flow_reconcileAfter _)
  | publishSettled hState hStart hMoved => exact hFlowed hState hMoved (flow_settled hStart)
  | publishCalled hState _ hMoved => exact hFlowed hState hMoved (.calls _)
  | adapterReturned hState hMoved => exact hFlowed hState hMoved (flow_adapterReturned _)
  | crashed hState hMoved => exact hFlowed hState hMoved .dies
  | @wrote i result w call old state _ hState hMoved hNext hCond _ hWritten =>
    rcases hMoved.cases hGet with ⟨rfl, rfl⟩ | ⟨-, hWorker⟩
    · rcases hNext with ⟨rfl, -⟩ | ⟨-, rfl⟩
      · cases hClaimed
      · by_cases hCall : call = .claimPublishJob
        · subst hCall
          exact storedFor_claim hCond hWritten hClaimed
        · refine hKept hMoved.1 ?_ rfl
          rw [hState]
          cases call with
          | claimPublishJob => exact absurd rfl hCall
          | reconcileFirst | publish | adapterPublish | reconcileAfter =>
            simp [Call.condition] at hCond
          | saveRecovered | savePublished | saveFailed | recordAmbiguous => cases hClaimed
          | markReconciled | markRequest | confirm => exact hClaimed
    · exact hKept hWorker hClaimed rfl

/-- What an execution is about to send is the row that it has marked. -/
theorem sends_step (hConsistent : OutboxConsistent s.db) (h : SendsStored cfg s)
    (hKind : StepKind cfg s e t) (hStep : TableStep cfg s e t) {w' : Worker}
    (hGet : t.workers[k]? = some w') (hState' : w'.state = .running (.publish claimed job)) :
    StoredFor t.db w'.publishJobId job claimed.post := by
  cases worker_change hKind hGet with
  | kept hWorker => exact storedFor_step hConsistent hKind hStep (h.sends k w' claimed job hWorker hState')
  | started _ hState =>
    rw [hState] at hState'
    cases hState'
  | @flowed w call state hWorker hState hFlow hDb =>
    rw [show state = .running (.publish claimed job) from hState'] at hFlow
    cases hFlow
  | @wrote w call old state hWorker hState hCond hChecks hWritten hNext =>
    rw [show state = .running (.publish claimed job) from hState'] at hNext
    cases hNext with
    | @publishes _ key _ =>
      have hBefore := h.claims k w claimed hWorker (by rw [hState]; rfl)
      obtain ⟨row, status, hRow, hJob, hTarget, hId, hContent, hStatus, hDraft⟩ :=
        storedFor_step hConsistent hKind hStep hBefore
      -- the snapshot is of the job that the execution is for, so it marks that row
      have hMarked := hWritten.rows w.publishJobId
      rw [if_pos (show w.publishJobId = Call.target w (.markRequest claimed key) from hJob.symm),
        hRow, Option.some.injEq] at hMarked
      have hNewId : (Call.set w s.clock (.markRequest claimed key) old).id = w.publishJobId := by
        rw [← hMarked]
        exact job?_id hRow
      exact ⟨row, status, hRow, hNewId, hMarked ▸ .refl row, hId, hContent, hStatus, hDraft⟩

/-- Every provider call keeps being what is stored. -/
theorem calls_step (hConsistent : OutboxConsistent s.db) (h : SendsStored cfg s)
    (hKind : StepKind cfg s e t) (hStep : TableStep cfg s e t)
    (hTarget : ∀ (k : Nat) (w : Worker) (claimed : ClaimedPublishJob) (job : SocialPublishJob),
      s.workers[k]? = some w → w.state = .running (.publish claimed job) → job.id = w.publishJobId)
    {n : Nat} {c : PublishCall} (hCall : t.calls[n]? = some c) : ∃ job post,
      StoredFor t.db c.jobId job post ∧
        FormatterService.format cfg.isTagChar post job = .ok c.post := by
  cases call_change hKind hCall with
  | kept hBefore =>
    obtain ⟨job, post, hStored, hFormat⟩ := h.calls n c hBefore
    exact ⟨job, post, storedFor_step hConsistent hKind hStep hStored, hFormat⟩
  | @made i w claimed job post request hIndex hState hStart hMoved hDb =>
    have hStored := h.sends i w claimed job hMoved.1 hState
    refine ⟨job, claimed.post, ?_, format_of_publishStart hStart⟩
    rw [show job.id = w.publishJobId from hTarget i w claimed job hMoved.1 hState]
    exact storedFor_step hConsistent hKind hStep hStored
  | @answered i w claimed job c answer date hBefore =>
    obtain ⟨job, post, hStored, hFormat⟩ := h.calls n c hBefore
    exact ⟨job, post, storedFor_step hConsistent hKind hStep hStored, hFormat⟩

/-- **Provider calls carry what is stored**, in every run. -/
theorem sends_stored_reachable {ok : PublishingState → Event → Prop}
    (hReach : Reachable (publishingSystem cfg) ok s) : SendsStored cfg s := by
  refine hReach.invariant_of (fun s hInit => ?_) fun s e t hBefore h _ hMove => ?_
  · obtain ⟨-, -, hWorkers, -, -, -, hCalls, -⟩ := hInit
    constructor
    · intro k w claimed hWorker
      rw [hWorkers] at hWorker
      cases hWorker
    · intro k w claimed job hWorker
      rw [hWorkers] at hWorker
      cases hWorker
    · intro n c hCall
      rw [hCalls] at hCall
      cases hCall
  · have hConsistent := consistent_reachable hBefore
    have hKind := step_kind hMove
    have hStep := table_step hMove
    refine ⟨fun k w claimed => claims_step hConsistent h hKind hStep,
      fun k w claimed job => sends_step hConsistent h hKind hStep,
      fun n c => calls_step hConsistent h hKind hStep fun k w claimed job hWorker hState => ?_⟩
    obtain ⟨row, -, -, hJob, -⟩ := h.sends k w claimed job hWorker hState
    exact hJob

end Sends

end SocialPromotion
