import SocialPromotion.Properties.FrozenContent
import SocialPromotion.Model.Connections

/-!
# Posts of different owners

Every statement of the API on a post asks for its owner.

* `perform_owner`: an operation that succeeds creates a post of its caller, for accounts of its
  caller, or edits one;
* `moved_by_execution`: a step that is neither its owner's nor one of its executions' leaves a job
  as it is;
* `untouched_by_others`: over a run in which its owner asks for nothing, a post and its approval
  stay as they are, and its jobs are moved by their executions alone;
* `published_by_owner`: every provider call is for an account of the owner of the post.
-/

namespace SocialPromotion

open LTS Database PgPostRepository PostService PublishWorkerProcessor Installation

-- ---------------------------------------------------------------------------
-- One operation
-- ---------------------------------------------------------------------------

/-- The caller of an operation. -/
def UserOperation.ownerId : UserOperation → UserId
  | .create ownerId _ | .update ownerId _ _ | .schedule ownerId _ _ _ _
  | .publishNow ownerId _ _ _ _ | .cancel ownerId _ _ | .retry ownerId _ _ _ _ => ownerId

/-- The account of a target is one of the user's on the platform of the target. -/
def OwnAccount (db : Database) (ownerId : UserId) (platform : SocialPlatform)
    (accountId : AccountId) : Prop :=
  ∃ account, db.socialAccounts.lookup accountId = some account ∧ account.userId = ownerId ∧
    account.platform = platform

section Operations

variable {cfg : Config} {now : Time} {db db' : Database} {record : PostRecord}
  {operation : UserOperation} {ownerId : UserId}

theorem ownAccount_of_available {job : SocialPublishJob} {account : SocialAccount}
    (h : availableAccount db ownerId job now = some account) :
    OwnAccount db ownerId job.platform job.accountId := by
  unfold availableAccount at h
  obtain ⟨hLookup, hSelected⟩ := Option.filter_eq_some_iff.mp h
  have hSelected := of_decide_eq_true hSelected
  exact ⟨account, hLookup, hSelected.1, hSelected.2.1⟩

theorem ownAccount_of_check {publishing : Bool} {job : SocialPublishJob} {u : Unit}
    (h : checkAccount db ownerId publishing now job = .ok u) :
    OwnAccount db ownerId job.platform job.accountId := by
  unfold checkAccount at h
  split at h
  · cases h
  · rename_i account hAvailable
    exact ownAccount_of_available hAvailable

theorem ownAccount_of_checks {publishing : Bool} {jobs : List SocialPublishJob} {u : Unit}
    (h : checkAccounts db ownerId jobs publishing now = .ok u) :
    ∀ job ∈ jobs, OwnAccount db ownerId job.platform job.accountId := by
  induction jobs with
  | nil =>
    intro job hMem
    cases hMem
  | cons first rest ih =>
    obtain ⟨_, hFirst, hRest⟩ := Keyed.bind_eq_ok.mp h
    intro job hMem
    rcases List.mem_cons.mp hMem with rfl | hMem
    · exact ownAccount_of_check hFirst
    · exact ih hRest job hMem

/-- An inserted job is one of those that were checked, or was there before. -/
theorem insertJobs_rows {jobs : List SocialPublishJob} (h : insertJobs jobs db = .ok db') :
    ∀ k row, db'.job? k = some row → db.job? k = some row ∨ row ∈ jobs := by
  refine Keyed.foldlM_relation (R := fun db db' => ∀ k row, db'.job? k = some row →
    db.job? k = some row ∨ row ∈ jobs) (fun s k row hRow => Or.inl hRow)
    (fun a b c hab hbc k row hRow => ?_) (fun job hJob s s' hStep k row hRow => ?_) h
  · rcases hbc k row hRow with hBefore | hNew
    · exact hab k row hBefore
    · exact Or.inr hNew
  · obtain ⟨-, stored, hStored, rfl⟩ := insertJob_eq_ok (liftDb_eq_ok hStep)
    rw [trigger_job?, job?_insert] at hRow
    split at hRow
    · obtain rfl := Option.some.inj hRow
      rw [hStored]
      exact Or.inr hJob
    · exact Or.inl hRow

/-- A post that is created is the caller's, and so are the accounts of its jobs. -/
structure CreatedBy (db : Database) (ownerId : UserId) (post : Post) (db' : Database) : Prop where
  created : Created db post db'
  owner : post.ownerId = ownerId
  campaign : db.campaigns.lookup post.campaignId = some ownerId
  targets : ∀ k row, db'.job? k = some row → db.job? k = some row ∨
    row.postId = post.id ∧ OwnAccount db ownerId row.platform row.accountId

theorem create_by {dto : CreatePostDto} (h : create cfg ownerId dto now db = .ok (record, db')) :
    ∃ post, CreatedBy db ownerId post db' := by
  unfold create at h
  obtain ⟨-, h⟩ := of_throw_unless h
  obtain ⟨-, h⟩ := of_throw_unless h
  obtain ⟨media, -, h⟩ := Keyed.bind_eq_ok.mp h
  obtain ⟨db₁, hSave, h⟩ := Keyed.bind_eq_ok.mp h
  injection h with h
  injection h with _ h
  subst h
  unfold save at hSave
  obtain ⟨hCampaign, hSave⟩ := of_throw_unless hSave
  obtain ⟨_, hAccounts, hSave⟩ := Keyed.bind_eq_ok.mp hSave
  obtain ⟨hUnused, hSave⟩ := of_throw_unless hSave
  obtain ⟨hPosts, hMedia, hSocial, hAlerts, hAudit, hOutbox, hUuid, hRows⟩ :=
    insertJobs_inserted hSave (by simp [postStatus?, rowOf])
  refine ⟨_, ⟨?_, rfl, hPosts, hMedia, hSocial, hAlerts, hAudit, hRows, hOutbox, ?_⟩, rfl,
    not_not.mp hCampaign, fun k row hRow => ?_⟩
  · exact Option.not_isSome_iff_eq_none.mp hUnused
  · rw [hUuid]
    exact Nat.le_trans (Nat.le_succ _) (Nat.le_add_right _ _)
  · rcases insertJobs_rows hSave k row hRow with hBefore | hNew
    · exact Or.inl hBefore
    · obtain ⟨id, target, rfl⟩ := mem_newJobs hNew
      exact Or.inr ⟨rfl, ownAccount_of_checks hAccounts _ hNew⟩

/-- An edit found the post among those of its caller. -/
theorem owner_of_mutate {id : PostId} {work : PostRecord → Except ServiceError PostRecord}
    (h : mutate id ownerId work now db = .ok (record, db')) :
    ∃ row, db.posts.lookup id = some row ∧ row.ownerId = ownerId := by
  obtain ⟨row, next, db₂, hFound, hOwner, -⟩ := mutate_eq_ok h
  exact ⟨row, hFound, hOwner⟩

theorem owner_of_schedule {id : PostId} {scheduledAt : Option Time} {revision : Nat} {date : Time}
    (h : schedule cfg ownerId id scheduledAt revision date now db = .ok (record, db')) :
    ∃ row, db.posts.lookup id = some row ∧ row.ownerId = ownerId := by
  unfold schedule at h
  split at h
  · cases h
  · split at h
    · cases h
    · exact owner_of_mutate h

theorem edited_by_owner {id : PostId}
    (hEdited : ∃ row next f, Edit cfg db id row operation next f ∧ Mutated db id row next f db')
    (hOwner : ∃ row, db.posts.lookup id = some row ∧ row.ownerId = operation.ownerId) :
    ∃ id row next f, row.ownerId = operation.ownerId ∧ Edit cfg db id row operation next f ∧
      Mutated db id row next f db' := by
  obtain ⟨row, next, f, hEdit, hMutated⟩ := hEdited
  obtain ⟨row', hRow', hOwner⟩ := hOwner
  rw [hMutated.found, Option.some.injEq] at hRow'
  exact ⟨id, row, next, f, hRow' ▸ hOwner, hEdit, hMutated⟩

/-- **An operation that succeeds** is about posts and accounts of its caller. -/
theorem perform_owner (h : operation.perform cfg now db = .ok (record, db')) :
    (∃ post dto, operation = .create operation.ownerId dto ∧
      CreatedBy db operation.ownerId post db') ∨
      ∃ id row next f, row.ownerId = operation.ownerId ∧ Edit cfg db id row operation next f ∧
        Mutated db id row next f db' := by
  cases operation with
  | create ownerId dto =>
    obtain ⟨post, hCreated⟩ := create_by h
    exact Or.inl ⟨post, dto, rfl, hCreated⟩
  | update ownerId id dto => exact Or.inr (edited_by_owner (update_cases h) (owner_of_mutate h))
  | schedule ownerId id scheduledAt approvedRevision date =>
    exact Or.inr (edited_by_owner (schedule_cases rfl rfl h) (owner_of_schedule h))
  | publishNow ownerId id revision date date' =>
    unfold UserOperation.perform publishNow at h
    exact Or.inr (edited_by_owner (schedule_cases rfl rfl h) (owner_of_schedule h))
  | cancel ownerId id revision =>
    exact Or.inr (edited_by_owner (cancel_cases h) (owner_of_mutate h))
  | retry ownerId id jobId revision date =>
    exact Or.inr (edited_by_owner (retry_cases h) (owner_of_mutate h))

end Operations

/-- What an operation of the API does, and to whose post. -/
inductive UserStep (cfg : Config) (s : PublishingState) (operation : UserOperation)
    (t : PublishingState) : Prop
  | failed (hSame : t = s)
  | created {post : Post} {dto : CreatePostDto} (hCreate : operation = .create operation.ownerId dto)
      (hCreated : CreatedBy s.db operation.ownerId post t.db)
  | edited {id : PostId} {row : PostRow} {next : Post} {f : SocialPublishJob → SocialPublishJob}
      (hOwner : row.ownerId = operation.ownerId) (hEdit : Edit cfg s.db id row operation next f)
      (hMutated : Mutated s.db id row next f t.db)

theorem user_step {cfg : Config} {s t : PublishingState} {operation : UserOperation}
    (h : (publishingSystem cfg).step s (.user operation) = some t) :
    UserStep cfg s operation t := by
  injection h with h
  subst h
  unfold PublishingState.userStep
  split
  · rename_i record db hPerform
    rcases perform_owner hPerform with ⟨post, dto, hCreate, hCreated⟩ |
      ⟨id, row, next, f, hOwner, hEdit, hMutated⟩
    · exact .created hCreate hCreated
    · exact .edited hOwner hEdit hMutated
  · exact .failed rfl

-- ---------------------------------------------------------------------------
-- A post whose owner asks for nothing
-- ---------------------------------------------------------------------------

/-- The user who asks for the step. -/
def Event.ownerId? : Event → Option UserId
  | .user operation => some operation.ownerId
  | _ => none

/-- The owner asks for nothing. -/
def OthersOnly (ownerId : UserId) (_ : PublishingState) (e : Event) : Prop :=
  e.ownerId? ≠ some ownerId

instance (ownerId : UserId) (s : PublishingState) (e : Event) :
    Decidable (OthersOnly ownerId s e) :=
  inferInstanceAs (Decidable (e.ownerId? ≠ some ownerId))

/-- The job has moved on at most: it is for the same target, at the same time, by the same
hand-off, and neither cancelled nor queued anew. -/
structure MovedOn (db db' : Database) (j : JobId) (old new : SocialPublishJob) : Prop where
  target : SameTarget new old
  scheduledAt : new.scheduledAt = old.scheduledAt
  waiting : new.status = .waiting → old.status = .waiting
  cancelled : new.status = .cancelled ↔ old.status = .cancelled
  delivery : (db'.outbox.lookup j).map OutboxRow.delivery =
    (db.outbox.lookup j).map OutboxRow.delivery

/-- The post and what was decided about it are as before. -/
structure Untouched (db : Database) (id : PostId) (row : PostRow) (db' : Database) : Prop where
  post : db'.posts.lookup id = some row
  media : mediaOf db' id = mediaOf db id
  jobs : ∀ j old, db.job? j = some old → old.postId = id →
    ∃ new, db'.job? j = some new ∧ MovedOn db db' j old new
  noOthers : ∀ j new, db'.job? j = some new → new.postId = id →
    ∃ old, db.job? j = some old ∧ old.postId = id

/-- The step is a call of one of the executions of the job to the repository. -/
def ExecutionOf (s : PublishingState) (e : Event) (j : JobId) : Prop :=
  ∃ i result w, e = .repository i result ∧ s.workers[i]? = some w ∧ w.publishJobId = j

section Untouched

variable {cfg : Config} {s t : PublishingState} {e : Event} {id : PostId} {row : PostRow}

theorem MovedOn.refl {db db' : Database} {j : JobId} (job : SocialPublishJob)
    (h : (db'.outbox.lookup j).map OutboxRow.delivery =
      (db.outbox.lookup j).map OutboxRow.delivery) : MovedOn db db' j job job :=
  ⟨.refl job, rfl, id, Iff.rfl, h⟩

theorem MovedOn.trans {a b c : Database} {j : JobId} {x y z : SocialPublishJob}
    (h : MovedOn a b j x y) (h' : MovedOn b c j y z) :
    MovedOn a c j x z where
  target := h'.target.trans h.target
  scheduledAt := h'.scheduledAt.trans h.scheduledAt
  waiting hWaiting := h.waiting (h'.waiting hWaiting)
  cancelled := h'.cancelled.trans h.cancelled
  delivery := h'.delivery.trans h.delivery

theorem Untouched.trans {a b c : Database} (h : Untouched a id row b) (h' : Untouched b id row c) :
    Untouched a id row c where
  post := h'.post
  media := h'.media.trans h.media
  jobs j old hOld hPost := by
    obtain ⟨mid, hMid, hMoved⟩ := h.jobs j old hOld hPost
    obtain ⟨new, hNew, hMoved'⟩ := h'.jobs j mid hMid (hMoved.target.2.2.trans hPost)
    exact ⟨new, hNew, hMoved.trans hMoved'⟩
  noOthers j new hNew hPost := by
    obtain ⟨mid, hMid, hMidPost⟩ := h'.noOthers j new hNew hPost
    exact h.noOthers j mid hMid hMidPost

theorem Untouched.refl {db : Database} (h : db.posts.lookup id = some row) :
    Untouched db id row db :=
  ⟨h, rfl, fun _ old hOld _ => ⟨old, hOld, .refl old rfl⟩, fun _ new hNew hPost => ⟨new, hNew, hPost⟩⟩

/-- An operation of another user leaves the jobs of a post and their hand-offs alone. -/
theorem jobs_kept_by_others {operation : UserOperation} (hUser : UserStep cfg s operation t)
    (hRow : s.db.posts.lookup id = some row) (hOthers : operation.ownerId ≠ row.ownerId)
    {j : JobId} {old : SocialPublishJob} (hOld : s.db.job? j = some old) (hPost : old.postId = id) :
    t.db.job? j = some old ∧ t.db.outbox.lookup j = s.db.outbox.lookup j := by
  cases hUser with
  | failed hSame =>
    subst hSame
    exact ⟨hOld, rfl⟩
  | @created post dto hCreate hCreated =>
    rcases hCreated.created.rows j with hSame | ⟨hNone, -⟩
    · exact ⟨hSame.trans hOld, by rw [hCreated.created.outbox]⟩
    · rw [hOld] at hNone
      cases hNone
  | @edited id' row' next f hOwner hEdit hMutated =>
    have hId : old.postId ≠ id' := by
      rintro rfl
      rw [← hPost, hMutated.found, Option.some.injEq] at hRow
      exact hOthers (hRow ▸ hOwner).symm
    constructor
    · rw [hMutated.rows, hOld, Option.map_some, if_neg hId]
    · refine hMutated.otherOutbox j fun old' hOld' h => ?_
      rw [hOld, Option.some.injEq] at hOld'
      subst hOld'
      exact hId h

/-- **One step** that is not its owner's leaves a post alone. -/
theorem untouched_step (hConsistent : OutboxConsistent s.db)
    (hStep : (publishingSystem cfg).step s e = some t) (hRow : s.db.posts.lookup id = some row)
    (hOthers : OthersOnly row.ownerId s e) : Untouched s.db id row t.db := by
  by_cases hUser : ∃ operation, e = .user operation
  · obtain ⟨operation, rfl⟩ := hUser
    have hOperation := user_step hStep
    have hNotOwner : operation.ownerId ≠ row.ownerId := fun h => hOthers (congrArg some h)
    have hJobs : ∀ j old, s.db.job? j = some old → old.postId = id →
        ∃ new, t.db.job? j = some new ∧ MovedOn s.db t.db j old new := by
      intro j old hOld hPost
      obtain ⟨hSame, hOutbox⟩ := jobs_kept_by_others hOperation hRow hNotOwner hOld hPost
      exact ⟨old, hSame, .refl old (by rw [hOutbox])⟩
    cases hOperation with
    | failed hSame =>
      subst hSame
      exact .refl hRow
    | @created post dto hCreate hCreated =>
      have hId : id ≠ post.id := by
        rintro rfl
        rw [hCreated.created.unused] at hRow
        cases hRow
      refine ⟨?_, ?_, hJobs, fun j new hNew hPost => ?_⟩
      · rw [hCreated.created.posts, AList.lookup_insert_ne hId, hRow]
      · rw [mediaOf, hCreated.created.postMedia, AList.lookup_insert_ne hId, mediaOf]
      · rcases hCreated.created.rows j with hSame | ⟨-, target, hRow'⟩
        · exact ⟨new, hSame.symm.trans hNew, hPost⟩
        · -- the jobs that were created are the new post's
          rw [hRow', Option.some.injEq] at hNew
          subst hNew
          exact absurd hPost.symm hId
    | @edited id' row' next f hOwner hEdit hMutated =>
      have hId : id ≠ id' := by
        rintro rfl
        rw [hMutated.found, Option.some.injEq] at hRow
        exact hNotOwner (hRow ▸ hOwner).symm
      refine ⟨?_, ?_, hJobs, fun j new hNew hPost => ?_⟩
      · rw [hMutated.posts, AList.lookup_insert_ne hId, hRow]
      · rw [mediaOf, hMutated.postMedia, AList.lookup_insert_ne hId, mediaOf]
      · rw [hMutated.rows] at hNew
        obtain ⟨old, hOld, hEq⟩ := Option.map_eq_some_iff.mp hNew
        refine ⟨old, hOld, ?_⟩
        split at hEq
        · rw [← postId_of_writeBack (edited_writeBack hEdit old), hEq, hPost]
        · exact hEq ▸ hPost
  · cases table_step hStep with
    | kept hRows hPosts hMedia hDeliveries =>
      refine ⟨by rw [hPosts, hRow], by rw [mediaOf, hMedia, mediaOf], fun j old hOld _ => ?_,
        fun j new hNew hPost => ⟨new, by rw [← hRows, hNew], hPost⟩⟩
      exact ⟨old, by rw [hRows, hOld], .refl old (hDeliveries j)⟩
    | @wrote i result w call old _ hWorker hState hCond hWritten =>
      refine ⟨by rw [hWritten.posts, hRow], by rw [mediaOf, hWritten.postMedia, mediaOf],
        fun j old' hOld hPost => ?_, fun j new hNew hPost => ?_⟩
      · have hDelivery : (t.db.outbox.lookup j).map OutboxRow.delivery =
            (s.db.outbox.lookup j).map OutboxRow.delivery := by rw [hWritten.outbox]
        rw [hWritten.rows]
        split
        · rename_i hTarget
          have hFound := hWritten.found
          rw [← hTarget, hOld, Option.some.injEq] at hFound
          subst hFound
          obtain ⟨hWaiting, hCancelled⟩ := call.set_status w s.clock s.db old' hCond
          have hOldStatus : old'.status ≠ .cancelled := by
            intro hStatus
            rw [not_condition_of_ended (Or.inr (Or.inl hStatus))] at hCond
            cases hCond
          have hTime : (call.set w s.clock old').scheduledAt = old'.scheduledAt := by
            cases call
            all_goals rfl
          exact ⟨_, rfl, ⟨sameTarget_set w s.clock call old', hTime,
            fun h => absurd h hWaiting, iff_of_false hCancelled hOldStatus, hDelivery⟩⟩
        · exact ⟨old', hOld, .refl old' hDelivery⟩
      · rw [hWritten.rows] at hNew
        split at hNew
        · rename_i hTarget
          obtain rfl := Option.some.inj hNew
          refine ⟨old, hTarget ▸ hWritten.found, ?_⟩
          exact (sameTarget_set w s.clock call old).2.2.symm.trans hPost
        · exact ⟨new, hNew, hPost⟩
    | created | edited => exact absurd ⟨_, rfl⟩ hUser

/-- **A step** that is neither its owner's nor one of its executions' leaves a job as it is. -/
theorem moved_by_execution (hReach : Reachable (publishingSystem cfg) anyStep s)
    (hMove : (publishingSystem cfg).step s e = some t) (hRow : s.db.posts.lookup id = some row)
    (hOthers : OthersOnly row.ownerId s e) {j : JobId} {old : SocialPublishJob}
    (hOld : s.db.job? j = some old) (hPost : old.postId = id) :
    t.db.job? j = some old ∨ ExecutionOf s e j := by
  by_cases hUser : ∃ operation, e = .user operation
  · obtain ⟨operation, rfl⟩ := hUser
    exact Or.inl (jobs_kept_by_others (user_step hMove) hRow
      (fun h => hOthers (congrArg some h)) hOld hPost).1
  · cases table_step hMove with
    | kept hRows => exact Or.inl (by rw [hRows, hOld])
    | @wrote i result w call found _ hWorker hState hCond hWritten =>
      have hTarget : call.target w = w.publishJobId :=
        ((lifecycle_reachable hReach).calls.running hWorker hState).target rfl
      rw [hWritten.rows]
      split
      · rename_i hJob
        exact Or.inr ⟨i, result, w, rfl, hWorker, (hJob.trans hTarget).symm⟩
      · exact Or.inl hOld
    | created | edited => exact absurd ⟨_, rfl⟩ hUser

/-- **Others leave a post alone**: over a run in which its owner asks for nothing, its row, its
media, the times of its jobs and their hand-offs stay, no job is cancelled or queued anew, and
none is added; and what moves a job in a next step is one of its executions. -/
theorem untouched_by_others (hReach : Reachable (publishingSystem cfg) anyStep s)
    (hRow : s.db.posts.lookup id = some row)
    (hRun : Steps (publishingSystem cfg) (OthersOnly row.ownerId) s t) :
    Untouched s.db id row t.db ∧ ∀ e u, OthersOnly row.ownerId t e →
      (publishingSystem cfg).step t e = some u → ∀ j old, t.db.job? j = some old →
        old.postId = id → u.db.job? j = some old ∨ ExecutionOf t e j := by
  have hAll : Reachable (publishingSystem cfg) anyStep t ∧ Untouched s.db id row t.db := by
    refine hRun.invariant_of (I := fun t => Untouched s.db id row t.db) (fun _ _ _ => trivial)
      (fun t e u hReachT h hOthers hMove => ?_) hReach (.refl hRow)
    exact h.trans (untouched_step (consistent_reachable hReachT) hMove h.post hOthers)
  exact ⟨hAll.2, fun e u hOthers hMove j old hOld hPost =>
    moved_by_execution hAll.1 hMove hAll.2.post hOthers hOld hPost⟩

end Untouched

/-- Job 1 is published, and user 101 asks in vain for what is user 100's. -/
def othersMeddle : List Event :=
  [deliver, call 0, call 0, .user (.cancel 101 0 2), .publish 0 1000,
    .user (.schedule 101 0 (some 5000) 2 0), .adapterReturns 0 (.ok ⟨"5", none, 1000⟩) 1000,
    call 0, call 0, .user (.retry 101 0 1 2 1000)]

theorem untouched_by_others_published : ∃ (s t : PublishingState) (row : PostRow),
    (t.db.job? 1).any (fun job => job.status = .published) ∧ Untouched s.db 0 row t.db ∧
    ∀ e u, OthersOnly row.ownerId t e →
      (publishingSystem (config false false)).step t e = some u → ∀ j old,
        t.db.job? j = some old → old.postId = 0 → u.db.job? j = some old ∨ ExecutionOf t e j := by
  obtain ⟨s, hReach, hEnd⟩ := exists_reachable_of_run (publishingSystem (config false false))
    anyStep (fun s => ((s.db.posts.lookup 0).any fun row => row.ownerId = 100) &&
      (guardedRun (publishingSystem (config false false)) (OthersOnly 100) s othersMeddle).any
        fun t => (t.db.job? 1).any fun job => job.status = .published)
    approved (start_initial _) (by decide +kernel)
  rw [Bool.and_eq_true] at hEnd
  obtain ⟨row, hRow, hOwner⟩ := (Option.any_eq_true _ _).mp hEnd.1
  obtain ⟨t, hRun, hPublished⟩ := (Option.any_eq_true _ _).mp hEnd.2
  have hOwner' : row.ownerId = 100 := of_decide_eq_true hOwner
  exact ⟨s, t, row, hPublished,
    untouched_by_others hReach hRow (hOwner' ▸ guardedRun_sound hRun)⟩

-- ---------------------------------------------------------------------------
-- The accounts that are published through
-- ---------------------------------------------------------------------------

/-- A connected account stays its user's, on its platform: rows of `social_accounts` are not
deleted, and no statement writes these two columns. -/
def AccountsOf (holder : AccountId → UserId × SocialPlatform) (s : PublishingState) (_ : Event) :
    Prop :=
  ∀ entry ∈ s.db.socialAccounts.entries, holder entry.1 = (entry.2.userId, entry.2.platform)

instance (holder : AccountId → UserId × SocialPlatform) (s : PublishingState) (e : Event) :
    Decidable (AccountsOf holder s e) :=
  inferInstanceAs (Decidable (∀ entry ∈ s.db.socialAccounts.entries,
    holder entry.1 = (entry.2.userId, entry.2.platform)))

/-- An account that is connected again keeps its id, its user and its platform. -/
theorem holders_upsert {holder : AccountId → UserId × SocialPlatform}
    {credential : SocialAccountCredential} {db : Database}
    (h : ∀ entry ∈ db.socialAccounts.entries,
      holder entry.1 = (entry.2.userId, entry.2.platform))
    (hNew : PgOAuthAccountRepository.connectedId credential db = none →
      holder db.nextUuid = (credential.userId, credential.platform)) :
    ∀ entry ∈ (PgOAuthAccountRepository.upsertSocialAccount credential db).socialAccounts.entries,
      holder entry.1 = (entry.2.userId, entry.2.platform) := by
  intro ⟨id, account⟩ hEntry
  have hLookup := AList.mem_lookup_iff.mpr hEntry
  have hKept : db.socialAccounts.lookup id = some account →
      holder id = (account.userId, account.platform) :=
    fun hBefore => h ⟨id, account⟩ (AList.mem_lookup_iff.mp hBefore)
  cases hConnected : PgOAuthAccountRepository.connectedId credential db with
  | some connected =>
    obtain ⟨⟨id', old⟩, hFound, rfl⟩ := Option.map_eq_some_iff.mp hConnected
    simp only [PgOAuthAccountRepository.upsertSocialAccount, hConnected] at hLookup
    by_cases hId : id = id'
    · subst hId
      obtain rfl := Option.some.inj ((AList.lookup_insert _).symm.trans hLookup)
      have hOld := h ⟨id, old⟩ (List.mem_of_find?_eq_some hFound)
      have hSelected := List.find?_some hFound
      have hKey := of_decide_eq_true hSelected
      rw [hOld, hKey.1, hKey.2.1]
    · exact hKept ((AList.lookup_insert_ne hId).symm.trans hLookup)
  | none =>
    simp only [PgOAuthAccountRepository.upsertSocialAccount, hConnected] at hLookup
    by_cases hId : id = db.nextUuid
    · subst hId
      obtain rfl := Option.some.inj ((AList.lookup_insert _).symm.trans hLookup)
      exact hNew hConnected
    · exact hKept ((AList.lookup_insert_ne hId).symm.trans hLookup)

/-- The account of the job is one of the owner of its post. -/
def OwnersAccount (holder : AccountId → UserId × SocialPlatform) (db : Database)
    (job : SocialPublishJob) : Prop :=
  ∃ row, db.posts.lookup job.postId = some row ∧
    holder job.accountId = (row.ownerId, job.platform)

section Accounts

variable {cfg : Config} {s t : PublishingState} {e : Event}
  {holder : AccountId → UserId × SocialPlatform}

/-- A post keeps its owner. -/
theorem owner_kept (hConsistent : OutboxConsistent s.db) (hStep : TableStep cfg s e t)
    {id : PostId} {row : PostRow} (hRow : s.db.posts.lookup id = some row) :
    ∃ row', t.db.posts.lookup id = some row' ∧ row'.ownerId = row.ownerId := by
  cases post_change hConsistent hStep hRow with
  | kept hPost => exact ⟨row, hPost, rfl⟩
  | @edited operation _ next f hEdit hMutated =>
    exact ⟨updatedPost next row, by rw [hMutated.posts, AList.lookup_insert], rfl⟩

/-- **One step** keeps the accounts of the jobs among those of the owners. -/
theorem ownersAccount_step (hConsistent : OutboxConsistent s.db)
    (hMove : (publishingSystem cfg).step s e = some t) (hHolders : AccountsOf holder s e)
    (h : ∀ j job, s.db.job? j = some job → OwnersAccount holder s.db job) {j : JobId}
    {job : SocialPublishJob} (hJob : t.db.job? j = some job) : OwnersAccount holder t.db job := by
  have hKept : ∀ {old : SocialPublishJob}, s.db.job? j = some old → SameTarget job old →
      OwnersAccount holder t.db job := by
    intro old hOld hTarget
    obtain ⟨row, hRow, hHolder⟩ := h j old hOld
    obtain ⟨row', hRow', hOwner⟩ := owner_kept hConsistent (table_step hMove) hRow
    refine ⟨row', by rw [hTarget.2.2, hRow'], ?_⟩
    rw [hTarget.2.1, hHolder, hOwner, hTarget.1]
  rcases row_origin (step_kind hMove) hJob with ⟨old, hOld, hChange⟩ | ⟨hNone, -⟩
  · exact hKept hOld (sameTarget_change hChange)
  · -- the job is new, so the step is the creation of its post
    by_cases hUser : ∃ operation, e = .user operation
    · obtain ⟨operation, rfl⟩ := hUser
      cases user_step hMove with
      | failed hSame =>
        rw [hSame, hNone] at hJob
        cases hJob
      | @created post dto hCreate hCreated =>
        rcases hCreated.targets j job hJob with hBefore | ⟨hPost, account, hAccount, hUser, hPlatform⟩
        · rw [hNone] at hBefore
          cases hBefore
        · refine ⟨rowOf post, ?_, ?_⟩
          · rw [hPost, hCreated.created.posts, AList.lookup_insert]
          · rw [hHolders ⟨_, account⟩ (AList.mem_lookup_iff.mp hAccount), hUser, hPlatform,
              ← hCreated.owner]
            rfl
      | edited hOwner hEdit hMutated =>
        rw [hMutated.rows, hNone] at hJob
        cases hJob
    · cases table_step hMove with
      | kept hRows =>
        rw [hRows, hNone] at hJob
        cases hJob
      | wrote hWorker hState hCond hWritten =>
        rw [hWritten.rows] at hJob
        split at hJob
        · rename_i hTarget
          rw [hTarget, hWritten.found] at hNone
          cases hNone
        · rw [hNone] at hJob
          cases hJob
      | created | edited => exact absurd ⟨_, rfl⟩ hUser

theorem ownersAccount_reachable (hReach : Reachable (publishingSystem cfg) (AccountsOf holder) s) :
    ∀ j job, s.db.job? j = some job → OwnersAccount holder s.db job := by
  refine hReach.invariant_of (I := fun s => ∀ j job, s.db.job? j = some job →
    OwnersAccount holder s.db job) (fun s hInit j job hJob => ?_)
    fun s e t hBefore h hHolders hMove j job hJob =>
      ownersAccount_step (consistent_reachable hBefore) hMove hHolders h hJob
  obtain ⟨⟨campaigns, accounts, hDb⟩, -⟩ := hInit
  rw [hDb] at hJob
  cases hJob

theorem format_target {isTagChar : Char → Bool} {post : Post} {job : SocialPublishJob}
    {formatted : SocialPost} (h : FormatterService.format isTagChar post job = .ok formatted) :
    formatted.localPostId = post.id ∧ formatted.socialAccountId = job.accountId ∧
      formatted.platform = job.platform := by
  unfold FormatterService.format at h
  obtain ⟨contents, -, h⟩ := Keyed.bind_eq_ok.mp h
  injection h with h
  subst h
  exact ⟨rfl, rfl, rfl⟩

/-- **Nothing is published through another user's account**: in every run in which accounts stay
with their users, every provider call is for an account of the owner of the post, on the platform
of the account. -/
theorem published_by_owner (hReach : Reachable (publishingSystem cfg) (AccountsOf holder) s) :
    ∀ c ∈ s.calls, ∃ row, s.db.posts.lookup c.post.localPostId = some row ∧
      holder c.post.socialAccountId = (row.ownerId, c.post.platform) := by
  intro c hCall
  obtain ⟨n, hGet⟩ := List.getElem?_of_mem hCall
  obtain ⟨job, post, ⟨stored, status, hStored, -, hTarget, hId, -⟩, hFormat⟩ :=
    (sends_stored_reachable hReach).calls n c hGet
  obtain ⟨row, hRow, hHolder⟩ := ownersAccount_reachable hReach c.jobId stored hStored
  obtain ⟨hPost, hAccount, hPlatform⟩ := format_target hFormat
  refine ⟨row, by rw [hPost, hId, hRow], ?_⟩
  rw [hAccount, hPlatform, ← hTarget.2.1, ← hTarget.1, hHolder]

end Accounts

theorem published_by_owner_first : ∃ s : PublishingState, s.calls.length = 1 ∧
    ∀ c ∈ s.calls, ∃ row, s.db.posts.lookup c.post.localPostId = some row ∧
      (100, SocialPlatform.x) = (row.ownerId, c.post.platform) := by
  obtain ⟨s, hReach, hCalls⟩ := exists_reachable_of_run (publishingSystem (config false false))
    (AccountsOf fun _ => (100, .x)) (fun s => s.calls.length = 1)
    (approved ++ [deliver, call 0, call 0, .publish 0 1000]) (start_initial _) (by decide +kernel)
  exact ⟨s, of_decide_eq_true hCalls, published_by_owner hReach⟩

end SocialPromotion
