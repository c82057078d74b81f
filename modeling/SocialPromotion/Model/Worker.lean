import SocialPromotion.Model.PublishingService

/-!
# The publish worker

`publish-worker.processor.ts`. One execution of `process` is a state machine: its state is
the next repository or provider call, with the local variables that the rest of the method
uses, and the code between two calls is the function from the result of the first to the
second. An execution can stop for good at any call.
-/

namespace SocialPromotion

structure PublishWorkerLogContext where
  campaignId : CampaignId
  postId : PostId
  publishJobId : JobId
  platform : SocialPlatform
  socialAccountId : AccountId
  remotePostId : Option String
  attempt : Nat
  errorCode : Option ErrorCode
deriving DecidableEq, Repr

namespace PublishWorkerProcessor

/-- The call an execution makes next. -/
inductive Call
  | claimPublishJob
  /-- `saveExecution` of a row claimed as remote_confirmed. -/
  | saveRecovered (claimed : ClaimedPublishJob)
  | reconcileFirst (claimed : ClaimedPublishJob) (key : RequestKey)
  /-- `markRemoteRequesting` of a confirmed reconciliation. -/
  | markReconciled (claimed : ClaimedPublishJob) (key : RequestKey) (result : PublishResult)
  /-- `markRemoteRequesting` before `publish`. -/
  | markRequest (claimed : ClaimedPublishJob) (key : RequestKey)
  | publish (claimed : ClaimedPublishJob) (job : SocialPublishJob)
  /-- `adapter.publish` is in flight as the numbered provider call. -/
  | adapterPublish (claimed : ClaimedPublishJob) (job : SocialPublishJob) (call : Nat)
  | reconcileAfter (claimed : ClaimedPublishJob) (job failed : SocialPublishJob)
  | confirm (claimed : ClaimedPublishJob) (job : SocialPublishJob) (result : PublishResult)
  | savePublished (claimed : ClaimedPublishJob) (job : SocialPublishJob) (result : PublishResult)
  | saveFailed (claimed : ClaimedPublishJob) (job : SocialPublishJob) (error : ThrownError)
      (failure : PublishFailure) (retryPending : Bool) (nextRetryAt : Option Time)
  | recordAmbiguous (claimed : ClaimedPublishJob) (deferred : SocialPublishJob)
      (retryPending : Bool) (nextRetryAt : Option Time)
deriving DecidableEq, Repr

/-- How `process` ends. -/
inductive Outcome
  /-- It resolves; `none` is the `null` of a claim that matched no row. -/
  | resolved (context : Option PublishWorkerLogContext)
  | jobFailed (context : PublishWorkerLogContext) (message : String)
  /-- An `UnrecoverableError`. -/
  | jobTerminal (context : PublishWorkerLogContext) (message : String)
  /-- Any other error. -/
  | raised
deriving DecidableEq, Repr

inductive State
  | running (call : Call)
  | ended (outcome : Outcome)
  /-- The process died before the answer of this call was handled. -/
  | crashed (call : Call)
deriving DecidableEq, Repr

/-- One execution of `process` with its arguments. -/
structure Worker where
  publishJobId : JobId
  leaseMs : Nat
  attempt : Nat
  queueJobId : Option QueueJobId
  state : State
deriving DecidableEq, Repr

def logContext (claimed : ClaimedPublishJob) (job : SocialPublishJob) (attempt : Nat)
    (errorCode : Option ErrorCode) : PublishWorkerLogContext where
  campaignId := claimed.post.campaignId
  postId := job.postId
  publishJobId := job.id
  platform := job.platform
  socialAccountId := job.accountId
  remotePostId := job.remotePostId
  attempt := attempt
  errorCode := errorCode

def executionMessage (job : SocialPublishJob) (error : ThrownError) : String :=
  job.errorMessage.getD (error.message.getD "Social publishing failed.")

/-! ## Between two calls -/

/-- From the result of `claimPublishJob` on. -/
def afterClaim : Option ClaimedPublishJob → State
  -- a duplicate delivery, or a job that is cancelled or done, is acknowledged
  | none => .ended (.resolved none)
  | some claimed =>
    let job := claimed.job
    if job.status = .remoteConfirmed ∧ (nonEmpty job.remotePostId).isSome ∧
        job.publishedAt.isSome then
      .running (.saveRecovered claimed)
    else match job.remoteRequestKey with
      | some key => .running (.reconcileFirst claimed key)
      | none => .running (.markRequest claimed (.socialPublish job.id))

def ambiguousMessage : String :=
  "Remote publish outcome could not be confirmed; reconciliation is required before another write."

/-- `deferredJob`. -/
def deferredJob (job : SocialPublishJob) : SocialPublishJob :=
  { job with
    status := .remoteRequesting
    errorCode := some .ambiguousRemoteOutcome
    errorMessage := some ambiguousMessage
    retryCount := job.retryCount + if job.status = .failed then 0 else 1
    leaseExpiresAt := none }

/-- The delay of a pending retry, which may raise a `RangeError`. -/
def nextRetry (retryPending : Bool) (date : Time) (failureCount : Nat) :
    Except ThrownError (Option Time) :=
  if retryPending then (retryDelayForFailure failureCount).map fun delay => some (date + delay)
  else .ok none

/-- `deferAmbiguousRemoteOutcome` up to its repository call; `date` is `Date.now()`. -/
def deferAmbiguousRemoteOutcome (claimed : ClaimedPublishJob) (job : SocialPublishJob)
    (date : Time) : State :=
  let deferred := deferredJob job
  let retryPending : Bool := deferred.retryCount ≤ 3
  match nextRetry retryPending date deferred.retryCount with
  | .ok nextRetryAt => .running (.recordAmbiguous claimed deferred retryPending nextRetryAt)
  | .error _ => .ended .raised

/-- From the result of the first `reconcile` on. -/
def afterReconcileFirst (cfg : Config) (claimed : ClaimedPublishJob) (key : RequestKey)
    (date : Time) : Except ThrownError PublishReconciliation → State
  | .error _ => .ended .raised
  | .ok (.confirmed result) => .running (.markReconciled claimed key result)
  | .ok _ =>
    if PublishingService.canSafelyRepeatRemoteRequest cfg claimed.job.platform then
      .running (.markRequest claimed key)
    else deferAmbiguousRemoteOutcome claimed claimed.job date

/-- From the execution that `publish` returned for the marked `job` on. -/
def afterPublish (claimed : ClaimedPublishJob) (job : SocialPublishJob) (date : Time) :
    PublishExecution → State
  | .ok confirmed result => .running (.confirm claimed confirmed result)
  | .failed failed error failure =>
    if failure.ambiguous then .running (.reconcileAfter claimed job failed)
    else
      let retryPending := shouldRetryPublish failure failed.retryCount
      match nextRetry retryPending date failed.retryCount with
      | .ok nextRetryAt =>
        .running (.saveFailed claimed failed error failure retryPending nextRetryAt)
      | .error _ => .ended .raised

/-- From the result of the second `reconcile` on. -/
def afterReconcileAfter (claimed : ClaimedPublishJob) (job failed : SocialPublishJob)
    (date : Time) : Except ThrownError PublishReconciliation → State
  | .error _ => .ended .raised
  | .ok (.confirmed result) =>
    .running (.confirm claimed (PublishingService.confirmedBy result job) result)
  | .ok _ => deferAmbiguousRemoteOutcome claimed failed date

/-- The end of an execution whose failure has been recorded. -/
def failureOutcome (retryPending : Bool) (context : PublishWorkerLogContext) (message : String) :
    Outcome :=
  if retryPending then .jobFailed context message else .jobTerminal context message

/-! ## Repository calls -/

/-- A transaction that answers the execution; an error ends it and changes nothing. -/
def answered {α : Type} (db : Database) (next : α → State) :
    Except DbError (α × Database) → State × Database
  | .ok (a, db') => (next a, db')
  | .error _ => (.ended .raised, db)

/-- A repository method that throws where it matches no row. -/
def orRaise {α : Type} (next : α → State) : Option α → State
  | some a => next a
  | none => .ended .raised

/-- The repository call of an execution at the database clock `now`: the next state of the
execution and the next database. -/
def repositoryCall (w : Worker) (now : Time) (db : Database) : Call → Option (State × Database)
  | .claimPublishJob =>
    some (answered db afterClaim
      (PgPublishOutboxRepository.claimPublishJob w.publishJobId w.leaseMs w.queueJobId now db))
  | .saveRecovered claimed =>
    let context := logContext claimed claimed.job w.attempt none
    some (answered db (fun _ => .ended (.resolved (some context)))
      ((PgPublishOutboxRepository.savePublished claimed.job db).map fun db' => ((), db')))
  | .markReconciled claimed key result =>
    some (answered db
      (orRaise fun job =>
        .running (.confirm claimed (PublishingService.confirmedBy result job) result))
      (PgPublishOutboxRepository.markRemoteRequesting claimed.job.id key w.leaseMs now db))
  | .markRequest claimed key =>
    some (answered db (orRaise fun job => .running (.publish claimed job))
      (PgPublishOutboxRepository.markRemoteRequesting claimed.job.id key w.leaseMs now db))
  | .confirm claimed job result =>
    some (answered db
      (orRaise fun confirmed => .running (.savePublished claimed confirmed result))
      (PgPublishOutboxRepository.confirmRemotePublication job db))
  | .savePublished claimed job _ =>
    let context := logContext claimed job w.attempt none
    some (answered db (fun _ => .ended (.resolved (some context)))
      ((PgPublishOutboxRepository.savePublished job db).map fun db' => ((), db')))
  | .saveFailed claimed job error _ retryPending nextRetryAt =>
    let context := logContext claimed job w.attempt
      (some (job.errorCode.getD (.failure .unknownError)))
    some (answered db
      (fun _ => .ended (failureOutcome retryPending context (executionMessage job error)))
      ((PgPublishOutboxRepository.saveFailed job retryPending nextRetryAt now db).map
        fun db' => ((), db')))
  | .recordAmbiguous claimed deferred retryPending nextRetryAt =>
    let context := logContext claimed deferred w.attempt (some .ambiguousRemoteOutcome)
    some (answered db
      (fun _ => .ended (failureOutcome retryPending context
        (deferred.errorMessage.getD "Remote outcome is ambiguous.")))
      ((PgPublishOutboxRepository.recordAmbiguousRemoteOutcome deferred retryPending nextRetryAt
        now db).map fun db' => ((), db')))
  | .reconcileFirst .. | .publish .. | .adapterPublish .. | .reconcileAfter .. => none

end PublishWorkerProcessor

end SocialPromotion
