import Mathlib.Logic.Basic

/-!
# Posts, publish jobs and their columns

The entities of `post.entity.ts` and the columns that PostgreSQL keeps for them. A
timestamp is a number of milliseconds, as `Date.getTime()` reports it; a uuid is a number,
since only the equality of uuids matters; a text the formatters look into is a list of
code points, the iteration order of `[...text]`.
-/

namespace SocialPromotion

/-- Milliseconds since the epoch. -/
abbrev Time := Nat
/-- The code points of a text. -/
abbrev Text := List Char
abbrev Uuid := Nat
abbrev UserId := Uuid
abbrev CampaignId := Uuid
abbrev AccountId := Uuid
abbrev PostId := Uuid
abbrev JobId := Uuid

inductive SocialPlatform
  | linkedin | facebook | instagram | threads | x
deriving DecidableEq, Repr

inductive PublishJobStatus
  | waiting | claimed | remoteRequesting | remoteConfirmed
  | published | failed | retrying | cancelled
deriving DecidableEq, Repr

inductive PostStatus
  | draft | scheduled | publishing | completed | partiallyFailed | failed | cancelled
deriving DecidableEq, Repr

inductive MediaType
  | image | video
deriving DecidableEq, Repr

structure PostMedia where
  type : MediaType
  url : Text
deriving DecidableEq, Repr

/-- One member of `platformBodies`: left out, JSON `null`, or a text. -/
inductive PlatformBody
  | absent
  | null
  | text (body : Text)
deriving DecidableEq, Repr

structure PlatformBodies where
  linkedin : PlatformBody := .absent
  instagram : PlatformBody := .absent
  facebook : PlatformBody := .absent
  threads : PlatformBody := .absent
  x : PlatformBody := .absent
deriving DecidableEq, Repr

def PlatformBodies.get (bodies : PlatformBodies) : SocialPlatform → PlatformBody
  | .linkedin => bodies.linkedin
  | .facebook => bodies.facebook
  | .instagram => bodies.instagram
  | .threads => bodies.threads
  | .x => bodies.x

/-- `platformBodies` is `none` where the request leaves it out or sends `null`. -/
structure PostContent where
  title : Text
  body : Text
  url : Option Text
  media : List PostMedia
  platformBodies : Option PlatformBodies
deriving DecidableEq, Repr

structure SocialTarget where
  platform : SocialPlatform
  accountId : AccountId
deriving DecidableEq, Repr

structure Post where
  id : PostId
  campaignId : CampaignId
  ownerId : UserId
  content : PostContent
  scheduledAt : Time
  status : PostStatus
  revision : Nat
deriving DecidableEq, Repr

/-! ## Publish jobs -/

/-- The text of `remote_request_key`: `social-publish:<job>`, or `legacy:<job>` on rows
published before migration 013. -/
inductive RequestKey
  | socialPublish (job : JobId)
  | legacy (job : JobId)
deriving DecidableEq, Repr

inductive PublishFailureCode
  | tokenExpired | permissionDenied | rateLimited | upstreamServerError
  | networkError | invalidRequest | unknownError
deriving DecidableEq, Repr

/-- The texts stored in `error_code`. -/
inductive ErrorCode
  | failure (code : PublishFailureCode)
  | ambiguousRemoteOutcome
deriving DecidableEq, Repr

structure SocialPublishJob where
  id : JobId
  postId : PostId
  platform : SocialPlatform
  accountId : AccountId
  status : PublishJobStatus
  scheduledAt : Time
  publishedAt : Option Time
  remotePostId : Option String
  remotePostUrl : Option String
  errorCode : Option ErrorCode
  errorMessage : Option String
  retryCount : Nat
  leaseExpiresAt : Option Time
  nextRetryAt : Option Time
  remoteRequestKey : Option RequestKey
  remoteRequestStartedAt : Option Time
deriving DecidableEq, Repr

namespace SocialPublishJob

/-- The statuses in which a row must carry a request key. -/
def KeyedStatus (status : PublishJobStatus) : Prop :=
  status = .remoteRequesting ∨ status = .remoteConfirmed ∨ status = .published

/-- The statuses in which a row must carry its remote reference. -/
def ReferencedStatus (status : PublishJobStatus) : Prop :=
  status = .remoteConfirmed ∨ status = .published

instance (status : PublishJobStatus) : Decidable (KeyedStatus status) :=
  inferInstanceAs (Decidable (_ ∨ _ ∨ _))

instance (status : PublishJobStatus) : Decidable (ReferencedStatus status) :=
  inferInstanceAs (Decidable (_ ∨ _))

/-- The CHECK constraints of `social_publish_jobs` after migration 013: the request key of
013, the remote references of 010 and 013, and the error code and retry bound of 001. -/
structure Checks (job : SocialPublishJob) : Prop where
  remoteRequestKey : KeyedStatus job.status → job.remoteRequestKey.isSome
  remoteReference : ReferencedStatus job.status →
    job.publishedAt.isSome ∧ job.remotePostId.isSome
  failureHasError : job.status = .failed → job.errorCode.isSome
  retryCountBound : job.retryCount ≤ 10

theorem checks_iff (job : SocialPublishJob) :
    job.Checks ↔ (KeyedStatus job.status → job.remoteRequestKey.isSome) ∧
      (ReferencedStatus job.status → job.publishedAt.isSome ∧ job.remotePostId.isSome) ∧
      (job.status = .failed → job.errorCode.isSome) ∧ job.retryCount ≤ 10 :=
  ⟨fun h => ⟨h.1, h.2, h.3, h.4⟩, fun h => ⟨h.1, h.2.1, h.2.2.1, h.2.2.2⟩⟩

instance (job : SocialPublishJob) : Decidable job.Checks :=
  decidable_of_iff' _ job.checks_iff

end SocialPublishJob

/-- A row of `social_publish_jobs` under its primary key. PostgreSQL stores no row that
violates a CHECK constraint, so neither does this type. -/
structure StoredJob (id : JobId) where
  row : SocialPublishJob
  id_eq : row.id = id
  checks : row.Checks

structure PostRecord where
  post : Post
  jobs : List SocialPublishJob
deriving DecidableEq, Repr

end SocialPromotion
