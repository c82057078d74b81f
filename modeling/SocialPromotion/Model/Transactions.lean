import SocialPromotion.Lib.Transaction
import SocialPromotion.Model.System

/-!
# Transactions, statement by statement

The two transactions that write several tables, `mutate` and `saveExecution` of a success,
as the statements that they send. The repositories are modelled with one function for each
transaction:

* `transaction_mutate`, `transaction_savePublished`: that function is what the transaction
  does, whichever of its statements throws;
* `transaction_statements`: so is `UserOperation.perform`.
-/

namespace SocialPromotion

open Database Transaction

namespace PgPostRepository

/-- `UPDATE posts SET ... WHERE id`. -/
def updatePost (id : PostId) (next : Post) (db : Database) : Database :=
  { db with
    posts := match db.posts.lookup id with
      | some row => db.posts.insert id (updatedPost next row)
      | none => db.posts }

/-- `DELETE FROM post_media WHERE post_id`. -/
def deleteMedia (id : PostId) (db : Database) : Database :=
  { db with postMedia := db.postMedia.insert id [] }

/-- `INSERT INTO post_media` with the next `sort_order`. -/
def insertMedia (id : PostId) (db : Database) (item : PostMedia) : Database :=
  { db with postMedia := db.postMedia.insert id ((db.postMedia.lookup id).getD [] ++ [item]) }

/-- The statements of `mutate`. -/
def mutateStatements (id : PostId) (ownerId : UserId)
    (work : PostRecord → Except ServiceError PostRecord) (now : Time) :
    Work Database ServiceError PostRecord := do
  let row ← query fun db => ownedPost db id ownerId
  let jobs ← query fun db => .ok (jobsOf db id)
  let media ← query fun db => .ok (mediaOf db id)
  let current : PostRecord := { post := toPost id row media, jobs }
  let next ← query fun _ => work current
  Work.when (next.post.status = .scheduled) <| query fun db =>
    checkAccounts db ownerId (next.jobs.filter fun job => job.status = .waiting) true now
  write (updatePost id next.post)
  write (deleteMedia next.post.id)
  next.post.content.media.forM fun item => write fun db => insertMedia next.post.id db item
  next.jobs.forM fun job => statement fun db =>
    (writeJob current.jobs db job).map fun db => ((), db)
  Work.when (current.post.status = .draft ∧ next.post.status = .scheduled) <|
    write fun db => insertOutboxRows db id
  write (insertAudit (postUpdated ownerId id next.post))
  return { next with post := { next.post with revision := next.post.revision + 1 } }

/-- The rewriting of the media leaves the new list. -/
theorem foldl_insertMedia (id : PostId) (items before : List PostMedia) (db : Database) :
    items.foldl (insertMedia id) { db with postMedia := db.postMedia.insert id before } =
      { db with postMedia := db.postMedia.insert id (before ++ items) } := by
  induction items generalizing before with
  | nil => rw [List.append_nil, List.foldl_nil]
  | cons item rest ih =>
    have hStep : insertMedia id { db with postMedia := db.postMedia.insert id before } item =
        { db with postMedia := db.postMedia.insert id (before ++ [item]) } := by
      simp [insertMedia, AList.insert_insert]
    rw [List.foldl_cons, hStep, ih, List.append_assoc, List.singleton_append]

/-- The three writes to the post and its media are `writePost`. -/
theorem foldl_writePost (id : PostId) (next : Post) (db : Database) :
    next.content.media.foldl (insertMedia next.id) (deleteMedia next.id (updatePost id next db)) =
      writePost id next db := by
  unfold deleteMedia
  rw [foldl_insertMedia, List.nil_append]
  rfl

/-- The loop over the media of a post. -/
theorem performs_media (id : PostId) (items : List PostMedia) : Performs
    (items.forM fun item => write (ε := ServiceError) fun db => insertMedia id db item)
    fun db => (Except.ok (items.foldl (insertMedia id) db)).map fun db => ((), db) := by
  have hStep : ∀ item, Performs (write (ε := ServiceError) fun db => insertMedia id db item)
      fun db => (Except.ok (insertMedia id db item)).map fun db => ((), db) :=
    fun _ => performs_statement _
  refine (performs_forM hStep items).congr fun db => ?_
  rw [show items.foldlM (fun db item => Except.ok (ε := ServiceError) (insertMedia id db item)) db =
    .ok (items.foldl (insertMedia id) db) from List.foldlM_pure]

/-- The loop over the jobs of a post. -/
theorem performs_writeJobs (current jobs : List SocialPublishJob) : Performs
    (jobs.forM fun job => statement fun db =>
      (writeJob current db job).map fun db => ((), db))
    fun db => (jobs.foldlM (writeJob current) db).map fun db => ((), db) :=
  performs_forM (fun _ => performs_statement _) jobs

theorem performs_mutate (id : PostId) (ownerId : UserId)
    (work : PostRecord → Except ServiceError PostRecord) (now : Time) :
    Performs (mutateStatements id ownerId work now) (mutate id ownerId work now) := by
  refine (Performs.query_bind fun row => Performs.query_bind fun jobs =>
    Performs.query_bind fun media => Performs.query_bind fun next =>
    Performs.when_query_bind <| Performs.write_bind <| Performs.write_bind <|
    (performs_media _ _).unit_bind <| (performs_writeJobs _ _).unit_bind <|
    Performs.when_write_bind <| Performs.write_bind <| performs_pure _).congr fun db => ?_
  unfold mutate PgPostRepository.read writeRecord
  cases hRow : ownedPost db id ownerId with
  | error e => rfl
  | ok row =>
    simp only [foldl_writePost, bind, Except.bind, pure, Except.pure]
    cases hNext : work ⟨toPost id row (mediaOf db id), jobsOf db id⟩ with
    | error e => rfl
    | ok next =>
      -- the checks of the accounts, then the loop over the jobs
      dsimp only
      split
      · cases checkAccounts db ownerId _ true now with
        | error e => rfl
        | ok _ =>
          dsimp only
          cases next.jobs.foldlM (writeJob (jobsOf db id)) (writePost id next.post db) <;> rfl
      · cases next.jobs.foldlM (writeJob (jobsOf db id)) (writePost id next.post db) <;> rfl

/-- **The transaction of `mutate`** commits what `mutate` computes, and changes nothing where
`mutate` throws. -/
theorem transaction_mutate (id : PostId) (ownerId : UserId)
    (work : PostRecord → Except ServiceError PostRecord) (now : Time) (db : Database) :
    transaction (mutateStatements id ownerId work now) db =
      match mutate id ownerId work now db with
      | .ok (record, db') => (.ok record, db')
      | .error e => (.error e, db) := by
  rw [(performs_mutate id ownerId work now).transaction_eq]
  cases mutate id ownerId work now db <;> rfl

end PgPostRepository

namespace PgPublishOutboxRepository

/-- The INSERT ... ON CONFLICT DO UPDATE into `social_posts`. The columns are NOT NULL, and
`(platform, remote_post_id)` is UNIQUE. -/
def upsertSocialPost (row : SocialPublishJob) (db : Database) : Except DbError (Unit × Database) :=
  match row.remotePostId, row.publishedAt with
  | some remotePostId, some publishedAt =>
    let taken := db.socialPosts.entries.any fun e =>
      e.1 ≠ row.id ∧ e.2.platform = row.platform ∧ e.2.remotePostId = remotePostId
    if taken then .error .uniqueViolation
    else
      let inserted : SocialPostRow := (db.socialPosts.lookup row.id).elim
        { postId := row.postId, socialAccountId := row.accountId, platform := row.platform,
          remotePostId, remotePostUrl := row.remotePostUrl, publishedAt }
        fun old => { old with remotePostId, remotePostUrl := row.remotePostUrl, publishedAt }
      .ok ((), { db with socialPosts := db.socialPosts.insert row.id inserted })
  | _, _ => .error .checkViolation

/-- The INSERT INTO `audit_logs` ... SELECT of a publication. -/
def insertPublishedAudit (row : SocialPublishJob) (db : Database) : Database :=
  let entry (post : PostRow) : AuditLog := {
    userId := post.ownerId
    action := .socialPostPublished
    entityId := row.id
    status := none
    revision := none
    platform := some row.platform
    errorCode := none
    retryCount := none }
  { db with auditLogs := db.auditLogs ++ ((db.posts.lookup row.postId).map entry).toList }

/-- The statements of the `ok` branch of `saveExecution`. -/
def publishedStatements (job : SocialPublishJob) : Work Database DbError Unit := do
  let updated ← statement fun db =>
    db.updateJob job.id (fun row => row.status = .remoteConfirmed) (publishedRow job)
  match updated with
  | none => return
  | some row =>
    statement (upsertSocialPost row)
    write (insertPublishedAudit row)

theorem performs_insertSocialPost (row : SocialPublishJob) : Performs
    (do statement (upsertSocialPost row); write (insertPublishedAudit row))
    fun db => (insertSocialPost row db).map fun db => ((), db) := by
  refine ((performs_statement _).bind fun _ => performs_statement _).congr fun db => ?_
  unfold insertSocialPost upsertSocialPost
  cases row.remotePostId with
  | none => rfl
  | some remotePostId =>
    cases row.publishedAt with
    | none => rfl
    | some publishedAt =>
      dsimp only
      split_ifs <;> rfl

theorem performs_savePublished (job : SocialPublishJob) :
    Performs (publishedStatements job) fun db =>
      (savePublished job db).map fun db => ((), db) := by
  refine ((performs_statement _).bind (g := fun updated db =>
    (match updated with
      | some row => insertSocialPost row db
      | none => .ok db).map fun db => ((), db)) fun updated => ?_).congr fun db => ?_
  · cases updated with
    | none => exact performs_pure ()
    | some row => exact performs_insertSocialPost row
  · unfold savePublished
    cases hUpdate : db.updateJob job.id (fun row => row.status = .remoteConfirmed)
        (publishedRow job) with
    | error e => rfl
    | ok result =>
      obtain ⟨updated, db'⟩ := result
      cases updated <;> rfl

/-- **The transaction of a success** commits what `savePublished` computes, and changes
nothing where one of its statements throws. -/
theorem transaction_savePublished (job : SocialPublishJob) (db : Database) :
    transaction (publishedStatements job) db =
      match savePublished job db with
      | .ok db' => (.ok (), db')
      | .error e => (.error e, db) := by
  rw [(performs_savePublished job).transaction_eq]
  cases savePublished job db <;> rfl

end PgPublishOutboxRepository

/-! ## Operations of the API -/

namespace UserOperation

/-- The statements of an operation behind what it checks before them. The transaction of a
creation, `save`, is taken as one statement. -/
def statements (cfg : Config) (now : Time) : UserOperation → Work Database ServiceError PostRecord
  | .create ownerId dto => statement (PostService.create cfg ownerId dto now)
  | .update ownerId id dto =>
    PgPostRepository.mutateStatements id ownerId (PostService.updateWork cfg dto) now
  | .schedule ownerId id scheduledAt approvedRevision date =>
    scheduleStatements ownerId id scheduledAt approvedRevision date
  | .publishNow ownerId id revision date date' =>
    scheduleStatements ownerId id (some (date + 1000)) revision date'
  | .cancel ownerId id revision =>
    PgPostRepository.mutateStatements id ownerId (PostService.cancelWork revision) now
  | .retry ownerId id jobId revision date =>
    PgPostRepository.mutateStatements id ownerId (PostService.retryWork jobId revision date) now
where
  scheduleStatements (ownerId : UserId) (id : PostId) (scheduledAt : Option Time)
      (approvedRevision : Nat) (date : Time) : Work Database ServiceError PostRecord :=
    match scheduledAt with
    | none => throw (.badRequest "Schedule must be in the future.")
    | some scheduledAt =>
      if scheduledAt ≤ date then throw (.badRequest "Schedule must be in the future.")
      else PgPostRepository.mutateStatements id ownerId
        (PostService.scheduleWork cfg scheduledAt approvedRevision) now

variable (cfg : Config) (now : Time)

theorem performs_schedule (ownerId : UserId) (id : PostId) (scheduledAt : Option Time)
    (approvedRevision : Nat) (date : Time) :
    Performs (statements.scheduleStatements cfg now ownerId id scheduledAt approvedRevision date)
      (PostService.schedule cfg ownerId id scheduledAt approvedRevision date now) := by
  cases scheduledAt with
  | none => exact performs_throw _
  | some time =>
    unfold statements.scheduleStatements PostService.schedule
    dsimp only
    split
    · exact performs_throw _
    · exact PgPostRepository.performs_mutate _ _ _ _

theorem performs_statements (operation : UserOperation) :
    Performs (operation.statements cfg now) fun db => operation.perform cfg now db := by
  cases operation with
  | create => exact performs_statement _
  | update => exact PgPostRepository.performs_mutate _ _ _ _
  | schedule => exact performs_schedule cfg now _ _ _ _ _
  | publishNow ownerId id revision date date' =>
    unfold statements perform PostService.publishNow
    exact performs_schedule cfg now ownerId id (some (date + 1000)) revision date'
  | cancel => exact PgPostRepository.performs_mutate _ _ _ _
  | retry => exact PgPostRepository.performs_mutate _ _ _ _

/-- **The transaction of an operation** commits what the operation computes, and changes
nothing where one of its statements or checks throws. -/
theorem transaction_statements (operation : UserOperation) (db : Database) :
    transaction (operation.statements cfg now) db =
      match operation.perform cfg now db with
      | .ok (record, db') => (.ok record, db')
      | .error e => (.error e, db) := by
  rw [(performs_statements cfg now operation).transaction_eq]
  cases operation.perform cfg now db <;> rfl

end UserOperation

end SocialPromotion
