import SocialPromotion.Model.OutboxRepository

/-!
# The post repository

`pg-post.repository.ts`. `save` and `mutate` are transactions that lock what they write, so
each is one function from the database to its result and the next database. `findOwned`
takes no locks: its three SELECTs are separate functions, because under READ COMMITTED each
of them may see a different committed state.
-/

namespace SocialPromotion

/-- What the API methods on posts throw. -/
inductive ServiceError
  | badRequest (message : String)
  | conflict (message : String)
  | notFound (message : String)
  | thrown (error : ThrownError)
  | database (error : DbError)
deriving DecidableEq, Repr

/-- The scopes each platform needs for publishing, from `publishing-permissions.ts`. -/
def missingPublishingScopes (platform : SocialPlatform) (scope : List String)
    (externalId : String) : List String :=
  let required : List String := match platform with
    | .facebook => ["pages_manage_posts"]
    | .instagram => ["instagram_content_publish"]
    | .threads => ["threads_content_publish"]
    | .linkedin =>
      if "urn:li:organization:".toList.isPrefixOf externalId.toList then ["w_organization_social"]
      else ["w_member_social"]
    | .x => ["tweet.read", "tweet.write", "users.read"]
  required.filter fun s => !scope.contains s

def SocialPlatform.text : SocialPlatform → String
  | .linkedin => "linkedin"
  | .facebook => "facebook"
  | .instagram => "instagram"
  | .threads => "threads"
  | .x => "x"

namespace PgPostRepository

/-- The account of a job, when it passes the SELECT of `checkAccounts`. -/
def availableAccount (db : Database) (ownerId : UserId) (job : SocialPublishJob) (now : Time) :
    Option SocialAccount :=
  (db.socialAccounts.lookup job.accountId).filter fun account =>
    account.userId = ownerId ∧ account.platform = job.platform ∧ account.status = .active ∧
      account.hasAccessToken ∧ account.expiresAt.all fun time => now < time

def checkAccount (db : Database) (ownerId : UserId) (publishing : Bool) (now : Time)
    (job : SocialPublishJob) : Except ServiceError Unit :=
  match availableAccount db ownerId job now with
  | none => .error (.conflict "Selected account is unavailable. Reconnect the account.")
  | some account =>
    let missing := missingPublishingScopes job.platform account.scope account.platformAccountId
    if publishing ∧ missing ≠ [] then
      .error (.conflict (job.platform.text ++ ": 게시 권한이 부족합니다. 계정을 다시 연결하세요. (" ++
        ", ".intercalate missing ++ ")"))
    else .ok ()

def checkAccounts (db : Database) (ownerId : UserId) (jobs : List SocialPublishJob)
    (publishing : Bool) (now : Time) : Except ServiceError Unit :=
  jobs.forM (checkAccount db ownerId publishing now)

/-! ## Reading -/

/-- `SELECT * FROM posts WHERE id AND owner_id`. -/
def ownedPost (db : Database) (id : PostId) (ownerId : UserId) : Except ServiceError PostRow :=
  match db.posts.lookup id with
  | some row => if row.ownerId = ownerId then .ok row else .error (.notFound "Post not found.")
  | none => .error (.notFound "Post not found.")

/-- `SELECT * FROM social_publish_jobs WHERE post_id ORDER BY id`. -/
def jobsOf (db : Database) (id : PostId) : List SocialPublishJob :=
  Keyed.select (fun _ (stored : StoredJob _) => stored.row) (fun job => job.postId = id)
    SocialPublishJob.id db.jobs

/-- `SELECT ... FROM post_media WHERE post_id ORDER BY sort_order`. -/
def mediaOf (db : Database) (id : PostId) : List PostMedia :=
  (db.postMedia.lookup id).getD []

/-- `read` under the locks of `mutate`, where the three SELECTs see one state. -/
def read (db : Database) (id : PostId) (ownerId : UserId) : Except ServiceError PostRecord := do
  let row ← ownedPost db id ownerId
  return { post := toPost id row (mediaOf db id), jobs := jobsOf db id }

/-- `findOwned` between its SELECTs. -/
inductive Reading
  | selectPost
  | selectJobs (row : PostRow)
  | selectMedia (row : PostRow) (jobs : List SocialPublishJob)
  | ended (record : Except ServiceError PostRecord)

/-- The next SELECT of `findOwned`, on the state committed by then. -/
def findOwned (db : Database) (id : PostId) (ownerId : UserId) : Reading → Option Reading
  | .selectPost => match ownedPost db id ownerId with
    | .ok row => some (.selectJobs row)
    | .error e => some (.ended (.error e))
  | .selectJobs row => some (.selectMedia row (jobsOf db id))
  | .selectMedia row jobs => some (.ended (.ok { post := toPost id row (mediaOf db id), jobs }))
  | .ended _ => none

/-! ## Writing -/

/-- The row of a post as an INSERT or UPDATE writes it from the entity. -/
def rowOf (post : Post) : PostRow where
  campaignId := post.campaignId
  ownerId := post.ownerId
  title := post.content.title
  body := post.content.body
  destinationUrl := post.content.url
  scheduledAt := post.scheduledAt
  status := post.status
  revision := post.revision
  platformBodies := post.content.platformBodies.getD {}

def liftDb {α : Type} : Except DbError α → Except ServiceError α
  | .ok a => .ok a
  | .error e => .error (.database e)

def insertJobs (jobs : List SocialPublishJob) (db : Database) : Except ServiceError Database :=
  jobs.foldlM (fun db job => liftDb (db.insertJob job)) db

/-- The columns default as the table declares; the entity of a new job holds the same. -/
def save (post : Post) (jobs : List SocialPublishJob) (now : Time) (db : Database) :
    Except ServiceError Database := do
  if db.campaigns.lookup post.campaignId ≠ some post.ownerId then
    throw (.notFound "Campaign not found.")
  checkAccounts db post.ownerId jobs false now
  if (db.posts.lookup post.id).isSome then throw (.database .uniqueViolation)
  insertJobs jobs { db with
    posts := db.posts.insert post.id (rowOf post)
    postMedia := db.postMedia.insert post.id post.content.media }

/-- The columns of a job that `mutate` writes back. -/
def writeBack (job : SocialPublishJob) (row : SocialPublishJob) : SocialPublishJob :=
  { row with
    status := job.status
    scheduledAt := job.scheduledAt
    nextRetryAt := job.nextRetryAt
    errorCode := job.errorCode
    errorMessage := job.errorMessage
    retryCount := job.retryCount }

/-- One iteration of the loop over `next.jobs`: a job whose JSON is unchanged is skipped. -/
def writeJob (current : List SocialPublishJob) (db : Database) (job : SocialPublishJob) :
    Except ServiceError Database :=
  if current.find? (fun old => old.id = job.id) = some job then .ok db
  else liftDb ((db.updateJob job.id (fun _ => true) (writeBack job)).map Prod.snd)

/-- One row of the explicit outbox INSERT ... ON CONFLICT DO NOTHING. -/
def insertOutboxRow (db : Database) (job : SocialPublishJob) : Database :=
  { db with
    outbox := if (db.outbox.lookup job.id).isSome then db.outbox
      else db.outbox.insert job.id (Database.freshOutboxRow job.id job.scheduledAt db.nextUuid)
    nextUuid := db.nextUuid + 1 }

/-- The explicit outbox INSERT of a first approval, over the waiting jobs of the post. -/
def insertOutboxRows (db : Database) (id : PostId) : Database :=
  ((jobsOf db id).filter fun job => job.status = .waiting).foldl insertOutboxRow db

/-- The SET clause of the post: everything but the campaign and the owner is written, and
the revision grows by one whatever `next` holds. -/
def updatedPost (next : Post) (row : PostRow) : PostRow :=
  { row with
    title := next.content.title
    body := next.content.body
    destinationUrl := next.content.url
    scheduledAt := next.scheduledAt
    status := next.status
    revision := row.revision + 1
    platformBodies := next.content.platformBodies.getD {} }

/-- The UPDATE of the post row and the rewriting of its media. -/
def writePost (id : PostId) (next : Post) (db : Database) : Database :=
  { db with
    posts := match db.posts.lookup id with
      | some row => db.posts.insert id (updatedPost next row)
      | none => db.posts
    postMedia := db.postMedia.insert next.id next.content.media }

def postUpdated (ownerId : UserId) (id : PostId) (next : Post) : AuditLog where
  userId := ownerId
  action := .postUpdated
  entityId := id
  status := some next.status
  revision := some (next.revision + 1)
  platform := none
  errorCode := none
  retryCount := none

def insertAudit (entry : AuditLog) (db : Database) : Database :=
  { db with auditLogs := db.auditLogs ++ [entry] }

/-- The statements of `mutate` after its checks. -/
def writeRecord (id : PostId) (ownerId : UserId) (current next : PostRecord) (db : Database) :
    Except ServiceError Database := do
  let db ← next.jobs.foldlM (writeJob current.jobs) (writePost id next.post db)
  let db := if current.post.status = .draft ∧ next.post.status = .scheduled
    then insertOutboxRows db id else db
  return insertAudit (postUpdated ownerId id next.post) db

/-- `mutate`: one transaction on the locked post and its jobs. -/
def mutate (id : PostId) (ownerId : UserId)
    (work : PostRecord → Except ServiceError PostRecord) (now : Time) (db : Database) :
    Except ServiceError (PostRecord × Database) := do
  let current ← read db id ownerId
  let next ← work current
  if next.post.status = .scheduled then
    checkAccounts db ownerId (next.jobs.filter fun job => job.status = .waiting) true now
  let db' ← writeRecord id ownerId current next db
  return ({ next with post := { next.post with revision := next.post.revision + 1 } }, db')

end PgPostRepository

end SocialPromotion
