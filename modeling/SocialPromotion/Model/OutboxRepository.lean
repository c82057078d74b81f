import SocialPromotion.Lib.Keyed
import SocialPromotion.Model.Database
import SocialPromotion.Model.Failures

/-!
# The publish outbox repository

`pg-publish-outbox.repository.ts`: the statements behind the dispatcher and the publish
worker. Every method is one statement or one transaction, so it is one function from the
database to its result and the next database; an error leaves the database as it was.
-/

namespace SocialPromotion

/-- The BullMQ message with the two columns the dispatcher adds to it. -/
structure PublishQueueRecord where
  publishJobId : JobId
  campaignId : CampaignId
  postId : PostId
  platform : SocialPlatform
  socialAccountId : AccountId
  remotePostId : Option String
  queueJobId : QueueJobId
  scheduledAt : Time
deriving DecidableEq, Repr

structure ClaimedPublishJob where
  post : Post
  job : SocialPublishJob
deriving DecidableEq, Repr

structure PublishResult where
  remotePostId : String
  remotePostUrl : Option String
  publishedAt : Time
deriving DecidableEq, Repr

/-- `PublishExecution`; the thrown value of a failed one is kept by its message alone. -/
inductive PublishExecution
  | ok (job : SocialPublishJob) (result : PublishResult)
  | failed (job : SocialPublishJob) (error : ThrownError) (failure : PublishFailure)
deriving DecidableEq, Repr

def PublishExecution.job : PublishExecution → SocialPublishJob
  | .ok job _ => job
  | .failed job _ _ => job

/-- `column <= now()`, which is not true of a NULL column. -/
def due (column : Option Time) (now : Time) : Bool :=
  column.any fun time => time ≤ now

/-- `toPost`: the post of a row and its media. -/
def toPost (id : PostId) (row : PostRow) (media : List PostMedia) : Post where
  id := id
  campaignId := row.campaignId
  ownerId := row.ownerId
  content := {
    title := row.title
    body := row.body
    url := row.destinationUrl
    media := media
    platformBodies := some row.platformBodies }
  scheduledAt := row.scheduledAt
  status := row.status
  revision := row.revision

namespace PgPublishOutboxRepository

/-! ## Dispatch -/

/-- The rows `claimOutbox` may take: not handed over, and under no live dispatch lease. -/
def claimableOutbox (now : Time) (row : OutboxRow) : Bool :=
  row.enqueuedAt.isNone &&
    (row.dispatchLeaseExpiresAt.isNone || due row.dispatchLeaseExpiresAt now)

/-- The ids of the candidate rows in dispatch order. `locked` are the rows that another
transaction holds, which `SKIP LOCKED` passes over. -/
def outboxCandidates (db : Database) (limit : Nat) (now : Time) (locked : List JobId) :
    List JobId :=
  let open_ := db.outbox.entries.filter fun e =>
    claimableOutbox now e.2 && !locked.contains e.1
  let ordered := open_.insertionSort fun a b =>
    a.2.scheduledAt < b.2.scheduledAt ∨ (a.2.scheduledAt = b.2.scheduledAt ∧ a.1 ≤ b.1)
  (ordered.map Sigma.fst).take limit

/-- The UPDATE and RETURNING of `claimOutbox` for one candidate, joined with its job and
its post. -/
def claimOutboxRow (leaseMs : Nat) (now : Time) (acc : List PublishQueueRecord × Database)
    (id : JobId) : List PublishQueueRecord × Database :=
  let db := acc.2
  match db.outbox.lookup id, db.job? id with
  | some row, some job =>
    match db.posts.lookup job.postId with
    | some post =>
      let row' : OutboxRow := { row with
        dispatchLeaseExpiresAt := some (now + leaseMs)
        dispatchAttemptCount := row.dispatchAttemptCount + 1 }
      let record : PublishQueueRecord := {
        publishJobId := id
        campaignId := post.campaignId
        postId := job.postId
        platform := job.platform
        socialAccountId := job.accountId
        remotePostId := job.remotePostId
        queueJobId := row.queueJobId
        scheduledAt := row.scheduledAt }
      (acc.1 ++ [record], { db with outbox := db.outbox.insert id row' })
    | none => acc
  | _, _ => acc

def claimOutbox (limit leaseMs : Nat) (now : Time) (locked : List JobId) (db : Database) :
    List PublishQueueRecord × Database :=
  (outboxCandidates db limit now locked).foldl (claimOutboxRow leaseMs now) ([], db)

/-- The UPDATE by `publish_job_id` and `queue_job_id` that both `markOutboxEnqueued` and
`releaseOutbox` perform. -/
def updateOutboxRecord (record : PublishQueueRecord) (set : OutboxRow → OutboxRow)
    (db : Database) : Database :=
  match db.outbox.lookup record.publishJobId with
  | some row =>
    if row.queueJobId = record.queueJobId then
      { db with outbox := db.outbox.insert record.publishJobId (set row) }
    else db
  | none => db

def markOutboxEnqueued (record : PublishQueueRecord) (now : Time) (db : Database) : Database :=
  updateOutboxRecord record (fun row => { row with
    enqueuedAt := some now, dispatchLeaseExpiresAt := none, lastDispatchError := none }) db

def releaseOutbox (record : PublishQueueRecord) (errorMessage : String) (db : Database) :
    Database :=
  updateOutboxRecord record (fun row => { row with
    dispatchLeaseExpiresAt := none
    lastDispatchError := some (sliceMessage errorMessage 500) }) db

/-! ## Publish jobs -/

/-- The status part of the WHERE clause of `claimPublishJob`. -/
def claimableStatus (now : Time) (job : SocialPublishJob) : Bool :=
  match job.status with
  | .waiting => true
  | .retrying => due job.nextRetryAt now
  | .claimed => due job.leaseExpiresAt now
  | .remoteRequesting => due job.nextRetryAt now || due job.leaseExpiresAt now
  | .remoteConfirmed => job.leaseExpiresAt.isNone || due job.leaseExpiresAt now
  | .published | .failed | .cancelled => false

/-- `$3::text IS NULL OR EXISTS (SELECT 1 FROM social_publish_queue_outbox ...)`. -/
def deliveryIsCurrent (db : Database) (id : JobId) (queueJobId : Option QueueJobId) : Bool :=
  match queueJobId with
  | none => true
  | some queueJobId => (db.outbox.lookup id).any fun row => row.queueJobId = queueJobId

/-- The WHERE clause of `claimPublishJob`. -/
def claimable (db : Database) (now : Time) (queueJobId : Option QueueJobId)
    (job : SocialPublishJob) : Bool :=
  job.scheduledAt ≤ now &&
    (db.postStatus? job.postId).any (fun status => status ≠ .draft) &&
    deliveryIsCurrent db job.id queueJobId &&
    claimableStatus now job

def claimRow (leaseMs : Nat) (now : Time) (job : SocialPublishJob) : SocialPublishJob :=
  { job with
    status := if job.status = .remoteConfirmed then .remoteConfirmed else .claimed
    leaseExpiresAt := some (now + leaseMs)
    nextRetryAt := none }

/-- `claimPublishJob`: the claim and the two content reads are one transaction. -/
def claimPublishJob (jobId : JobId) (leaseMs : Nat) (queueJobId : Option QueueJobId)
    (now : Time) (db : Database) : Except DbError (Option ClaimedPublishJob × Database) := do
  let (row, db') ← db.updateJob jobId (claimable db now queueJobId) (claimRow leaseMs now)
  match row with
  | none => return (none, db')
  | some job =>
    match db'.posts.lookup job.postId with
    | none => throw .missingPost
    | some post =>
      let media := (db'.postMedia.lookup job.postId).getD []
      return (some ⟨toPost job.postId post media, job⟩, db')

def requestRow (idempotencyKey : RequestKey) (leaseMs : Nat) (now : Time)
    (job : SocialPublishJob) : SocialPublishJob :=
  { job with
    status := .remoteRequesting
    remoteRequestKey := some (job.remoteRequestKey.getD idempotencyKey)
    remoteRequestStartedAt := some (job.remoteRequestStartedAt.getD now)
    leaseExpiresAt := some (now + leaseMs)
    nextRetryAt := none }

/-- `markRemoteRequesting`; `none` is the error `could not enter remote_requesting`. -/
def markRemoteRequesting (jobId : JobId) (idempotencyKey : RequestKey) (leaseMs : Nat)
    (now : Time) (db : Database) : Except DbError (Option SocialPublishJob × Database) :=
  db.updateJob jobId
    (fun job => job.status = .claimed ∧
      (job.remoteRequestKey = none ∨ job.remoteRequestKey = some idempotencyKey))
    (requestRow idempotencyKey leaseMs now)

def confirmRow (confirmed : SocialPublishJob) (job : SocialPublishJob) : SocialPublishJob :=
  { job with
    status := .remoteConfirmed
    publishedAt := confirmed.publishedAt
    remotePostId := confirmed.remotePostId
    remotePostUrl := confirmed.remotePostUrl
    errorCode := none
    errorMessage := none
    leaseExpiresAt := none
    nextRetryAt := none }

/-- `confirmRemotePublication`; `none` is the error `could not confirm its remote
publication`. -/
def confirmRemotePublication (job : SocialPublishJob) (db : Database) :
    Except DbError (Option SocialPublishJob × Database) :=
  db.updateJob job.id (fun row => row.status = .remoteRequesting) (confirmRow job)

/-- `insertFinalFailureAudit`: the alert row and the audit entry of a terminal failure. -/
def insertFinalFailureAudit (row : SocialPublishJob) (now : Time) (db : Database) :
    Except DbError Database :=
  if hCount : 1 ≤ row.retryCount then
    let alert : FailureAlertRow := {
      postId := row.postId
      platform := row.platform
      errorCode := row.errorCode.getD (.failure .unknownError)
      errorMessage := row.errorMessage.getD ""
      retryCount := row.retryCount
      status := .pending
      createdAt := now
      deliveredAt := none
      deliveryAttempts := 0
      nextDeliveryAt := now
      leaseExpiresAt := none
      lastDeliveryError := none
      retryCountCheck := hCount }
    let alerts := if (db.alerts.lookup row.id).isSome then db.alerts
      else db.alerts.insert row.id alert
    let entry (post : PostRow) : AuditLog := {
      userId := post.ownerId
      action := .socialPublishJobFailed
      entityId := row.id
      status := none
      revision := none
      platform := some row.platform
      errorCode := row.errorCode
      retryCount := some row.retryCount }
    .ok { db with
      alerts := alerts
      auditLogs := db.auditLogs ++ ((db.posts.lookup row.postId).map entry).toList }
  else .error .checkViolation

/-- The tail of both failure transactions: a terminal failure that matched its row raises
an alert. -/
def finishFailure (retryPending : Bool) (now : Time) :
    Option SocialPublishJob × Database → Except DbError Database
  | (some row, db) => if retryPending then .ok db else insertFinalFailureAudit row now db
  | (none, db) => .ok db

def ambiguousRow (deferred : SocialPublishJob) (retryPending : Bool)
    (nextRetryAt : Option Time) (job : SocialPublishJob) : SocialPublishJob :=
  { job with
    status := if retryPending then .remoteRequesting else .failed
    errorCode := some .ambiguousRemoteOutcome
    errorMessage := some (deferred.errorMessage.getD "Remote publish outcome could not be confirmed.")
    retryCount := deferred.retryCount
    nextRetryAt := nextRetryAt
    leaseExpiresAt := none }

/-- `status IN ('claimed', 'remote_requesting')`. -/
def inFlight (job : SocialPublishJob) : Bool :=
  job.status = .claimed ∨ job.status = .remoteRequesting

def recordAmbiguousRemoteOutcome (deferred : SocialPublishJob) (retryPending : Bool)
    (nextRetryAt : Option Time) (now : Time) (db : Database) : Except DbError Database := do
  let updated ← db.updateJob deferred.id inFlight (ambiguousRow deferred retryPending nextRetryAt)
  finishFailure retryPending now updated

def publishedRow (confirmed : SocialPublishJob) (job : SocialPublishJob) : SocialPublishJob :=
  { job with
    status := .published
    publishedAt := confirmed.publishedAt
    remotePostId := confirmed.remotePostId
    remotePostUrl := confirmed.remotePostUrl
    errorCode := none
    errorMessage := none
    leaseExpiresAt := none
    nextRetryAt := none }

/-- The upsert into `social_posts` and the audit entry of a publication. The upsert fails
where another job's row has the same platform and remote post id. -/
def insertSocialPost (row : SocialPublishJob) (db : Database) : Except DbError Database :=
  match row.remotePostId, row.publishedAt with
  | some remotePostId, some publishedAt =>
    let taken := db.socialPosts.entries.any fun e =>
      e.1 ≠ row.id ∧ e.2.platform = row.platform ∧ e.2.remotePostId = remotePostId
    if taken then .error .uniqueViolation
    else
      let inserted : SocialPostRow := (db.socialPosts.lookup row.id).elim
        { postId := row.postId, socialAccountId := row.accountId, platform := row.platform,
          remotePostId, remotePostUrl := row.remotePostUrl, publishedAt }
        fun old => { old with remotePostId, remotePostUrl := row.remotePostUrl, publishedAt }
      let entry (post : PostRow) : AuditLog := {
        userId := post.ownerId
        action := .socialPostPublished
        entityId := row.id
        status := none
        revision := none
        platform := some row.platform
        errorCode := none
        retryCount := none }
      .ok { db with
        socialPosts := db.socialPosts.insert row.id inserted
        auditLogs := db.auditLogs ++ ((db.posts.lookup row.postId).map entry).toList }
  | _, _ => .error .checkViolation

/-- The `ok` branch of `saveExecution`. -/
def savePublished (job : SocialPublishJob) (db : Database) : Except DbError Database := do
  match ← db.updateJob job.id (fun row => row.status = .remoteConfirmed) (publishedRow job) with
  | (some row, db) => insertSocialPost row db
  | (none, db) => return db

def failedRow (failed : SocialPublishJob) (retryPending : Bool) (nextRetryAt : Option Time)
    (job : SocialPublishJob) : SocialPublishJob :=
  { job with
    status := if retryPending then .retrying else .failed
    errorCode := some (failed.errorCode.getD (.failure .unknownError))
    errorMessage := some (failed.errorMessage.getD "Publishing failed.")
    retryCount := failed.retryCount
    nextRetryAt := nextRetryAt
    leaseExpiresAt := none
    remoteRequestKey := none
    remoteRequestStartedAt := none }

/-- The failure branch of `saveExecution`. -/
def saveFailed (job : SocialPublishJob) (retryPending : Bool) (nextRetryAt : Option Time)
    (now : Time) (db : Database) : Except DbError Database := do
  let updated ← db.updateJob job.id inFlight (failedRow job retryPending nextRetryAt)
  finishFailure retryPending now updated

def saveExecution (execution : PublishExecution) (retryPending : Bool)
    (nextRetryAt : Option Time) (now : Time) (db : Database) : Except DbError Database :=
  match execution with
  | .ok job _ => savePublished job db
  | .failed job _ _ => saveFailed job retryPending nextRetryAt now db

end PgPublishOutboxRepository

end SocialPromotion
