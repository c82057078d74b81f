import Mathlib.Data.List.AList
import SocialPromotion.Model.Entities

/-!
# The database

The tables that publishing reads and writes, after migration 015, with the outbox trigger
of migration 014. A table is an association list over its primary key, so a key has at most
one row; `social_publish_jobs` holds `StoredJob`s, so no stored row violates a CHECK.

`gen_random_uuid()` and `randomUUID()` draw from one counter: a uuid is never drawn twice.
The value of `now()` is an argument of the statements that read it.
-/

namespace SocialPromotion

/-- The text `'publish-' || job || '-' || uuid`. -/
structure QueueJobId where
  job : JobId
  uuid : Uuid
deriving DecidableEq, Repr

/-- `posts`, without `created_at` and `updated_at`, which nothing here reads. -/
structure PostRow where
  campaignId : CampaignId
  ownerId : UserId
  title : Text
  body : Text
  destinationUrl : Option Text
  scheduledAt : Time
  status : PostStatus
  revision : Nat
  platformBodies : PlatformBodies

/-- `social_publish_queue_outbox`, keyed by `publish_job_id`. -/
structure OutboxRow where
  scheduledAt : Time
  queueJobId : QueueJobId
  enqueuedAt : Option Time
  dispatchAttemptCount : Nat
  dispatchLeaseExpiresAt : Option Time
  lastDispatchError : Option String

inductive AlertStatus
  | pending | processing | delivered | failed
deriving DecidableEq, Repr

/-- `social_publish_failure_alerts`, keyed by its UNIQUE `social_publish_job_id`, which
also stands for the alert's own id. -/
structure FailureAlertRow where
  postId : PostId
  platform : SocialPlatform
  errorCode : ErrorCode
  errorMessage : String
  retryCount : Nat
  status : AlertStatus
  createdAt : Time
  deliveredAt : Option Time
  deliveryAttempts : Nat
  nextDeliveryAt : Time
  leaseExpiresAt : Option Time
  lastDeliveryError : Option String
  retryCountCheck : 1 ≤ retryCount

/-- `social_posts`, keyed by its UNIQUE `social_publish_job_id`. -/
structure SocialPostRow where
  postId : PostId
  socialAccountId : AccountId
  platform : SocialPlatform
  remotePostId : String
  remotePostUrl : Option String
  publishedAt : Time
deriving DecidableEq

inductive AuditAction
  | postUpdated | socialPostPublished | socialPublishJobFailed
deriving DecidableEq, Repr

/-- `audit_logs`: `entityId` is the post of a `post.updated` entry and the job of the
other two; the metadata hold what the inserting statement puts there. -/
structure AuditLog where
  userId : UserId
  action : AuditAction
  entityId : Uuid
  status : Option PostStatus
  revision : Option Nat
  platform : Option SocialPlatform
  errorCode : Option ErrorCode
  retryCount : Option Nat
deriving DecidableEq

inductive AccountStatus
  | active | expired | revoked | disabled
deriving DecidableEq, Repr

/-- The columns of `social_accounts` that `checkAccounts` reads. -/
structure SocialAccount where
  userId : UserId
  platform : SocialPlatform
  platformAccountId : String
  status : AccountStatus
  hasAccessToken : Bool
  scope : List String
  expiresAt : Option Time

structure Database where
  campaigns : AList fun _ : CampaignId => UserId
  socialAccounts : AList fun _ : AccountId => SocialAccount
  posts : AList fun _ : PostId => PostRow
  /-- The media of a post in `sort_order`. -/
  postMedia : AList fun _ : PostId => List PostMedia
  jobs : AList StoredJob
  outbox : AList fun _ : JobId => OutboxRow
  alerts : AList fun _ : JobId => FailureAlertRow
  socialPosts : AList fun _ : JobId => SocialPostRow
  auditLogs : List AuditLog
  nextUuid : Uuid

inductive DbError
  | checkViolation
  | uniqueViolation
  /-- `Publish job has no post.` -/
  | missingPost
deriving DecidableEq, Repr

namespace Database

/-- The database once the migrations are applied and users have connected accounts. -/
def empty (campaigns : AList fun _ : CampaignId => UserId)
    (socialAccounts : AList fun _ : AccountId => SocialAccount) : Database where
  campaigns := campaigns
  socialAccounts := socialAccounts
  posts := ∅
  postMedia := ∅
  jobs := ∅
  outbox := ∅
  alerts := ∅
  socialPosts := ∅
  auditLogs := []
  nextUuid := 0

/-- The row of a job. -/
def job? (db : Database) (id : JobId) : Option SocialPublishJob :=
  (db.jobs.lookup id).map StoredJob.row

def postStatus? (db : Database) (id : PostId) : Option PostStatus :=
  (db.posts.lookup id).map PostRow.status

/-! ## The outbox trigger -/

/-- A row as `INSERT INTO social_publish_queue_outbox` leaves it, and as the trigger's
`ON CONFLICT DO UPDATE` resets it. -/
def freshOutboxRow (job : JobId) (scheduledAt : Time) (uuid : Uuid) : OutboxRow where
  scheduledAt := scheduledAt
  queueJobId := ⟨job, uuid⟩
  enqueuedAt := none
  dispatchAttemptCount := 0
  dispatchLeaseExpiresAt := none
  lastDispatchError := none

/-- `create_social_publish_queue_outbox()`, fired for each row after an INSERT (`old` is
`none`) or an UPDATE that sets `status` or `scheduled_at`. -/
def createSocialPublishQueueOutbox (old : Option SocialPublishJob) (new : SocialPublishJob)
    (db : Database) : Database :=
  if new.status = .waiting ∧ db.postStatus? new.postId = some .scheduled then
    if old.any fun old => old.status = new.status ∧ old.scheduledAt = new.scheduledAt then db
    else { db with
      outbox := db.outbox.insert new.id (freshOutboxRow new.id new.scheduledAt db.nextUuid)
      nextUuid := db.nextUuid + 1 }
  else if new.status = .cancelled then { db with outbox := db.outbox.erase new.id }
  else db

/-! ## Statements on `social_publish_jobs` -/

/-- `INSERT INTO social_publish_jobs`. -/
def insertJob (job : SocialPublishJob) (db : Database) : Except DbError Database :=
  if (db.jobs.lookup job.id).isSome then .error .uniqueViolation
  else if h : job.Checks then
    .ok (createSocialPublishQueueOutbox none job
      { db with jobs := db.jobs.insert job.id ⟨job, rfl, h⟩ })
  else .error .checkViolation

/-- `UPDATE social_publish_jobs SET set WHERE id = id AND condition RETURNING`: the row
returned, if one matches, with the database after the trigger. Each statement of the code
sets `status`, so each fires the trigger. -/
def updateJob (id : JobId) (condition : SocialPublishJob → Bool)
    (set : SocialPublishJob → SocialPublishJob) (db : Database) :
    Except DbError (Option SocialPublishJob × Database) :=
  match db.jobs.lookup id with
  | none => .ok (none, db)
  | some old =>
    if condition old.row then
      let new : SocialPublishJob := { set old.row with id := id }
      if h : new.Checks then
        .ok (some new, createSocialPublishQueueOutbox (some old.row) new
          { db with jobs := db.jobs.insert id ⟨new, rfl, h⟩ })
      else .error .checkViolation
    else .ok (none, db)

end Database

end SocialPromotion
