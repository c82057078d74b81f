import SocialPromotion.Model.PostService

/-!
# The publishing service

`publishing.service.ts`. Provider calls are not made here: `publish` is split at
`adapter.publish` into what happens before the call and what happens with its answer, and
`reconcile` takes the answers its one lookup may give.
-/

namespace SocialPromotion

structure PublishRequest where
  idempotencyKey : RequestKey
deriving DecidableEq, Repr

inductive RemoteStatus
  | published | notFound | deleted | unknown
deriving DecidableEq, Repr

structure SocialPostResult where
  remotePostId : String
  remotePostUrl : Option String
  status : RemoteStatus
deriving DecidableEq, Repr

inductive PublishReconciliation
  | confirmed (result : PublishResult)
  | notFound
  | unknown
  | unsupported
deriving DecidableEq, Repr

/-- A provider lookup that `reconcile` performs. -/
inductive Lookup
  | getPost (remotePostId : String) (socialAccountId : AccountId)
  | reconcilePublish (post : SocialPost) (request : PublishRequest)
deriving DecidableEq, Repr

/-- What the provider would answer to either lookup. -/
structure LookupAnswer where
  getPost : Except ThrownError SocialPostResult
  reconcilePublish : Except ThrownError PublishReconciliation

/-- `Boolean(text)` of a nullable text. -/
def nonEmpty (text : Option String) : Option String := text.filter fun t => t ≠ ""

namespace PublishingService

def fail (job : SocialPublishJob) (errorCode : PublishFailureCode) (errorMessage : String) :
    SocialPublishJob :=
  { job with
    status := .failed
    errorCode := some (.failure errorCode)
    errorMessage := some errorMessage
    retryCount := job.retryCount + 1
    leaseExpiresAt := none
    nextRetryAt := none }

/-- The job of a successful execution. -/
def confirmedBy (result : PublishResult) (job : SocialPublishJob) : SocialPublishJob :=
  { job with
    status := .remoteConfirmed
    publishedAt := some result.publishedAt
    remotePostId := some result.remotePostId
    remotePostUrl := result.remotePostUrl
    errorCode := none
    errorMessage := none
    leaseExpiresAt := none }

/-- The catch clause of `publish`. -/
def failedWith (job : SocialPublishJob) (error : ThrownError) : PublishExecution :=
  let failure := classifyPublishFailure error
  .failed (fail job failure.code failure.message) error failure

def invalidRequest (message : String) : PublishFailure :=
  ⟨.invalidRequest, false, false, message⟩

inductive PublishStart
  /-- The execution is over without a provider call. -/
  | settled (execution : PublishExecution)
  | call (post : SocialPost) (request : PublishRequest)

/-- `publish` up to the call of `adapter.publish`. -/
def publishStart (cfg : Config) (post : Post) (job : SocialPublishJob) : PublishStart :=
  let notRequesting : PublishStart :=
    let message := "Only a remote-requesting job with a stable request key may be published."
    .settled (.failed job (.error message) (invalidRequest message))
  if job.status ≠ .remoteRequesting then notRequesting
  else match job.remoteRequestKey with
    | none => notRequesting
    | some key =>
      match cfg.adapters job.platform with
      | none =>
        let message := "No platform adapter is registered."
        .settled (.failed (fail job .invalidRequest message) (.error message)
          (invalidRequest message))
      | some _ =>
        match FormatterService.format cfg.isTagChar post job with
        | .error error => .settled (failedWith job error)
        | .ok formatted => .call formatted ⟨key⟩

/-- `publish` from the answer of `adapter.publish` on. -/
def publishFinish (job : SocialPublishJob) (answer : Except ThrownError PublishResult) :
    PublishExecution :=
  match answer with
  | .error error => failedWith job error
  | .ok result =>
    if result.remotePostId = "" then failedWith job (.error "Adapter returned no remotePostId.")
    else .ok (confirmedBy result job) result

/-- The lookup that `reconcile` performs, if any. -/
def lookupFor (cfg : Config) (post : Post) (job : SocialPublishJob) :
    Except ThrownError (Option Lookup) :=
  match cfg.adapters job.platform, job.remoteRequestKey with
  | some adapter, some key => do
    let formatted ← FormatterService.format cfg.isTagChar post job
    match nonEmpty job.remotePostId with
    | some remotePostId => return some (.getPost remotePostId job.accountId)
    | none =>
      if adapter.reconcilePublish then return some (.reconcilePublish formatted ⟨key⟩)
      else return none
  | _, _ => return none

/-- `reconcile`; `date` is `new Date()`. -/
def reconcile (cfg : Config) (post : Post) (job : SocialPublishJob) (answer : LookupAnswer)
    (date : Time) : Except ThrownError PublishReconciliation := do
  match ← lookupFor cfg post job with
  | none => return .unsupported
  | some (.getPost _ _) =>
    match answer.getPost with
    | .error _ => return .unknown
    | .ok remote =>
      match remote.status with
      | .published => return .confirmed {
          remotePostId := remote.remotePostId
          remotePostUrl := nonEmpty remote.remotePostUrl
          publishedAt := job.publishedAt.getD date }
      | .notFound | .deleted => return .notFound
      | .unknown => return .unknown
  | some (.reconcilePublish _ _) =>
    match answer.reconcilePublish with
    | .error _ => return .unknown
    | .ok reconciliation => return reconciliation

def canSafelyRepeatRemoteRequest (cfg : Config) (platform : SocialPlatform) : Bool :=
  (cfg.adapters platform).any SocialAdapter.supportsIdempotentPublish

end PublishingService

end SocialPromotion
