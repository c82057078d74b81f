import SocialPromotion.Model.OutboxRepository

/-!
# The queue and the dispatchers

`bullmq-publish.queue.ts`, `publishing.queue.ts` and `failure-alert.service.ts`. Both
dispatchers loop over what they have claimed and call a second system for each item, so a
run is a state machine over its calls: any call can throw, with or without its effect, and
a run that takes no further step has crashed or stalled.
-/

namespace SocialPromotion

/-- How a call to the database, to Redis or to the webhook goes. -/
inductive CallResult
  | returned
  /-- It throws; `performed` tells whether it took effect before. -/
  | threw (error : ThrownError) (performed : Bool)
deriving DecidableEq, Repr

namespace CallResult

def performed : CallResult → Bool
  | .returned => true
  | .threw _ performed => performed

/-- What a call leaves behind where its effect takes `old` to `new`. -/
def leaves {α : Type} (result : CallResult) (old new : α) : α :=
  if result.performed then new else old

end CallResult

/-! ## BullMQ -/

structure PublishQueueMessage where
  publishJobId : JobId
  campaignId : CampaignId
  postId : PostId
  platform : SocialPlatform
  socialAccountId : AccountId
  remotePostId : Option String
deriving DecidableEq, Repr

inductive DeliveryState
  /-- Delayed, or ready to be taken. -/
  | waiting
  /-- Its processor runs as the numbered worker. -/
  | active (worker : Nat)
  | finished
  /-- Deleted by `removeOnComplete` or `removeOnFail`. -/
  | removed
deriving DecidableEq, Repr

/-- A job of the publish queue with its options. -/
structure QueuedJob where
  jobId : QueueJobId
  data : PublishQueueMessage
  timestamp : Time
  delay : Nat
  attempts : Nat
  attemptsMade : Nat
  /-- When its delay or its backoff is over. -/
  availableAt : Time
  state : DeliveryState
deriving DecidableEq, Repr

namespace BullMqPublishQueue

/-- `Math.max(0, scheduledAt - Date.now())`. -/
def delayOf (scheduledAt date : Time) : Nat := scheduledAt - date

def queuedJob (record : PublishQueueRecord) (date : Time) : QueuedJob where
  jobId := record.queueJobId
  data := {
    publishJobId := record.publishJobId
    campaignId := record.campaignId
    postId := record.postId
    platform := record.platform
    socialAccountId := record.socialAccountId
    remotePostId := record.remotePostId }
  timestamp := date
  delay := delayOf record.scheduledAt date
  attempts := PUBLISH_MAX_ATTEMPTS
  attemptsMade := 0
  availableAt := date + delayOf record.scheduledAt date
  state := .waiting

/-- `enqueue`: BullMQ ignores an `add` under the id of a job that it still keeps. -/
def enqueue (record : PublishQueueRecord) (date : Time) (queue : List QueuedJob) :
    List QueuedJob :=
  if queue.any fun q => q.jobId = record.queueJobId ∧ q.state ≠ .removed then queue
  else queue ++ [queuedJob record date]

end BullMqPublishQueue

/-! ## PublishingQueue.dispatchPending -/

namespace PublishingQueue

inductive Call
  | claimOutbox (limit leaseMs : Nat)
  | enqueue (record : PublishQueueRecord)
  | markOutboxEnqueued (record : PublishQueueRecord)
  | releaseOutbox (record : PublishQueueRecord) (errorMessage : String)
deriving DecidableEq, Repr

inductive State
  /-- The next call, the records after the current one, and the two counters. -/
  | running (call : Call) (rest : List PublishQueueRecord) (enqueued failed : Nat)
  | resolved (enqueued failed : Nat)
  | raised
deriving DecidableEq, Repr

/-- `dispatchPending(limit, leaseMs)`. -/
def dispatchPending (limit leaseMs : Nat) : State := .running (.claimOutbox limit leaseMs) [] 0 0

/-- The next iteration of the loop. -/
def nextRecord (enqueued failed : Nat) : List PublishQueueRecord → State
  | [] => .resolved enqueued failed
  | record :: rest => .running (.enqueue record) rest enqueued failed

/-- The catch clause. -/
def caught (record : PublishQueueRecord) (rest : List PublishQueueRecord)
    (enqueued failed : Nat) (error : ThrownError) : State :=
  .running (.releaseOutbox record (error.message.getD "Queue enqueue failed.")) rest enqueued
    (failed + 1)

/-- One call of a run; `date` is `Date.now()`. -/
def step (result : CallResult) (now date : Time) (locked : List JobId) (db : Database)
    (queue : List QueuedJob) : State → Option (State × Database × List QueuedJob)
  | .running (.claimOutbox limit leaseMs) _ enqueued failed =>
    let claimed := PgPublishOutboxRepository.claimOutbox limit leaseMs now locked db
    let state := match result with
      | .returned => nextRecord enqueued failed claimed.1
      | .threw _ _ => .raised
    some (state, result.leaves db claimed.2, queue)
  | .running (.enqueue record) rest enqueued failed =>
    let state := match result with
      | .returned => .running (.markOutboxEnqueued record) rest enqueued failed
      | .threw error _ => caught record rest enqueued failed error
    some (state, db, result.leaves queue (BullMqPublishQueue.enqueue record date queue))
  | .running (.markOutboxEnqueued record) rest enqueued failed =>
    let state := match result with
      | .returned => nextRecord (enqueued + 1) failed rest
      | .threw error _ => caught record rest enqueued failed error
    some (state, result.leaves db (PgPublishOutboxRepository.markOutboxEnqueued record now db),
      queue)
  | .running (.releaseOutbox record errorMessage) rest enqueued failed =>
    let state := match result with
      | .returned => nextRecord enqueued failed rest
      | .threw _ _ => .raised
    some (state, result.leaves db (PgPublishOutboxRepository.releaseOutbox record errorMessage db),
      queue)
  | .resolved _ _ | .raised => none

end PublishingQueue

/-! ## FailureAlertService.dispatchPending -/

/-- What the webhook is told about an alert. -/
structure FailureAlert where
  jobId : JobId
  postId : PostId
  platform : SocialPlatform
  errorCode : ErrorCode
  retryCount : Nat
  createdAt : Time
deriving DecidableEq, Repr

namespace FailureAlertService

/-- The WHERE clause of `claim`. -/
def claimable (now : Time) (row : FailureAlertRow) : Bool :=
  ((row.status = .pending ∨ row.status = .failed) ∧ row.nextDeliveryAt ≤ now) ∨
    (row.status = .processing ∧ row.leaseExpiresAt.any fun time => time < now)

/-- `next_delivery_at, created_at, id`. -/
def deliveryOrder (a b : (_ : JobId) × FailureAlertRow) : Prop :=
  a.2.nextDeliveryAt < b.2.nextDeliveryAt ∨ a.2.nextDeliveryAt = b.2.nextDeliveryAt ∧
    (a.2.createdAt < b.2.createdAt ∨ a.2.createdAt = b.2.createdAt ∧ a.1 ≤ b.1)

instance : DecidableRel deliveryOrder := fun _ _ =>
  inferInstanceAs (Decidable (_ ∨ _ ∧ (_ ∨ _ ∧ _)))

def candidates (db : Database) (limit : Nat) (now : Time) (locked : List JobId) : List JobId :=
  let open_ := db.alerts.entries.filter fun e => claimable now e.2 && !locked.contains e.1
  ((open_.insertionSort deliveryOrder).map Sigma.fst).take limit

def claimRow (now : Time) (row : FailureAlertRow) : FailureAlertRow :=
  { row with
    status := .processing
    deliveryAttempts := row.deliveryAttempts + 1
    leaseExpiresAt := some (now + 30000)
    lastDeliveryError := none }

/-- `UPDATE social_publish_failure_alerts SET set WHERE id = id AND condition`. -/
def updateAlert (id : JobId) (condition : FailureAlertRow → Bool)
    (set : FailureAlertRow → FailureAlertRow) (db : Database) : Database :=
  match db.alerts.lookup id with
  | some row => if condition row then { db with alerts := db.alerts.insert id (set row) } else db
  | none => db

/-- The UPDATE and RETURNING of `claim` for one candidate. -/
def claimAlert (now : Time) (acc : List FailureAlert × Database) (id : JobId) :
    List FailureAlert × Database :=
  match acc.2.alerts.lookup id with
  | some row =>
    let alert : FailureAlert := {
      jobId := id
      postId := row.postId
      platform := row.platform
      errorCode := row.errorCode
      retryCount := row.retryCount
      createdAt := row.createdAt }
    (acc.1 ++ [alert], updateAlert id (fun _ => true) (claimRow now) acc.2)
  | none => acc

/-- `claim`; `Math.max(1, Math.min(100, Math.trunc(limit)))` bounds its candidates. -/
def claim (limit : Int) (now : Time) (locked : List JobId) (db : Database) :
    List FailureAlert × Database :=
  (candidates db (max 1 (min 100 limit.toNat)) now locked).foldl (claimAlert now) ([], db)

def processing (row : FailureAlertRow) : Bool := row.status = .processing

def markDelivered (id : JobId) (now : Time) (db : Database) : Database :=
  updateAlert id processing (fun row => { row with
    status := .delivered
    deliveredAt := some now
    leaseExpiresAt := none }) db

def markFailed (id : JobId) (error : String) (now : Time) (db : Database) : Database :=
  updateAlert id processing (fun row => { row with
    status := .failed
    nextDeliveryAt := now + 300000
    leaseExpiresAt := none
    lastDeliveryError := some error }) db

def safeError (reason : ThrownError) : String :=
  match reason.message with
  | some message => sliceMessage message 300
  | none => "Failure alert delivery failed."

inductive Call
  | claim (limit : Int)
  /-- The webhook request; an answer that is not `ok` throws. -/
  | fetch (alert : FailureAlert)
  | markDelivered (alert : FailureAlert)
  | markFailed (alert : FailureAlert) (error : String)
deriving DecidableEq, Repr

inductive State
  | running (call : Call) (rest : List FailureAlert) (delivered failed : Nat)
  | resolved (delivered failed : Nat)
  | raised
deriving DecidableEq, Repr

/-- `dispatchPending(limit)` with a webhook configured. -/
def dispatchPending (limit : Int) : State := .running (.claim limit) [] 0 0

def nextAlert (delivered failed : Nat) : List FailureAlert → State
  | [] => .resolved delivered failed
  | alert :: rest => .running (.fetch alert) rest delivered failed

/-- One call of a run. -/
def step (result : CallResult) (now : Time) (locked : List JobId) (db : Database) :
    State → Option (State × Database)
  | .running (.claim limit) _ delivered failed =>
    let claimed := claim limit now locked db
    let state := match result with
      | .returned => nextAlert delivered failed claimed.1
      | .threw _ _ => .raised
    some (state, result.leaves db claimed.2)
  | .running (.fetch alert) rest delivered failed =>
    let call := match result with
      | .returned => .markDelivered alert
      | .threw error _ => .markFailed alert (safeError error)
    some (.running call rest delivered failed, db)
  | .running (.markDelivered alert) rest delivered failed =>
    let state := match result with
      | .returned => nextAlert (delivered + 1) failed rest
      | .threw error _ => .running (.markFailed alert (safeError error)) rest delivered failed
    some (state, result.leaves db (markDelivered alert.jobId now db))
  | .running (.markFailed alert error) rest delivered failed =>
    let state := match result with
      | .returned => nextAlert delivered (failed + 1) rest
      | .threw _ _ => .raised
    some (state, result.leaves db (markFailed alert.jobId error now db))
  | .resolved _ _ | .raised => none

end FailureAlertService

end SocialPromotion
