import Mathlib.Algebra.GroupWithZero.Nat
import SocialPromotion.Model.Formatting
import SocialPromotion.Model.PostRepository

/-!
# The post service

`post.service.ts` with `MediaService.validate`: what the API does to a post and its jobs.
`Config` collects what the application takes from outside these sources: the adapter
registry, the character class of the hashtag expressions and the WHATWG URL parser.
-/

namespace SocialPromotion

structure Url where
  protocol : String
  pathname : Text
deriving DecidableEq, Repr

/-- The members of `SocialAdapter` that decide control flow. -/
structure SocialAdapter where
  supportsIdempotentPublish : Bool
  /-- Whether the optional `reconcilePublish` is defined. -/
  reconcilePublish : Bool
deriving DecidableEq, Repr

structure Config where
  /-- `adaptersByPlatform`. -/
  adapters : SocialPlatform → Option SocialAdapter
  /-- `[\p{L}\p{N}_]`. -/
  isTagChar : Char → Bool
  /-- `new URL(text)`, where `none` is a thrown `TypeError`. -/
  parseUrl : Text → Option Url

structure CreatePostDto where
  campaignId : CampaignId
  content : PostContent
  targets : List SocialTarget
  scheduledAt : Time

structure UpdateDraftDto where
  revision : Nat
  content : PostContent

/-! ## post.dto.ts

`isUrl` stands for the `@IsUrl` of class-validator with its options. -/

def isVariationSelector (c : Char) : Bool := c.toNat = 0xFE0E ∨ c.toNat = 0xFE0F

/-- What `@MaxLength` bounds: the code points, where a variation selector counts with the character
before it. -/
def validatedLength : Text → Nat
  | [] => 0
  | [_] => 1
  | c :: d :: rest =>
    if isVariationSelector d ∧ ¬ isVariationSelector c then validatedLength rest + 1
    else validatedLength (d :: rest) + 1

/-- `@IsOptional() @IsString() @MaxLength(maxLength)`: `null` passes like `undefined`. -/
def optionalString (maxLength : Nat) : PlatformBody → Bool
  | .absent => true
  | .null => true
  | .text body => validatedLength body ≤ maxLength

def PlatformBodiesDto.validate (bodies : PlatformBodies) : Bool :=
  optionalString 3000 bodies.linkedin ∧ optionalString 2200 bodies.instagram ∧
    optionalString 10000 bodies.facebook ∧ optionalString 500 bodies.threads ∧
    optionalString 280 bodies.x

def CreatePostContentDto.validate (isUrl : Text → Bool) (content : PostContent) : Bool :=
  content.platformBodies.all PlatformBodiesDto.validate ∧ validatedLength content.title ≤ 300 ∧
    content.body ≠ [] ∧ validatedLength content.body ≤ 10000 ∧ content.url.all isUrl ∧
    content.media.length ≤ 4 ∧ content.media.all fun item => isUrl item.url

/-- `MediaService.validate`. -/
def validateMedia (cfg : Config) (media : List PostMedia) : Except ServiceError (List PostMedia) :=
  if media.all fun item => (cfg.parseUrl item.url).any fun url => url.protocol = "https:" then
    .ok media
  else .error (.thrown (.typeError "Media URL must be a valid HTTPS URL."))

namespace PostService

/-! ## Presentation -/

def inProgress (status : PublishJobStatus) : Bool :=
  status = .claimed ∨ status = .remoteRequesting ∨ status = .remoteConfirmed

def failedOrCancelled (status : PublishJobStatus) : Bool :=
  status = .failed ∨ status = .cancelled

def summarizeStatus (jobs : List SocialPublishJob) : PostStatus :=
  if jobs.isEmpty then .draft
  else if jobs.all fun j => j.status = .cancelled then .cancelled
  else if jobs.all fun j => j.status = .published then .completed
  else if jobs.any fun j => inProgress j.status then .publishing
  else if jobs.all fun j => failedOrCancelled j.status then .failed
  else if jobs.any fun j => failedOrCancelled j.status then .partiallyFailed
  else .scheduled

def lengthLimit : SocialPlatform → Nat
  | .linkedin => 3000
  | .instagram => 2200
  | .facebook => 10000
  | .threads => 500
  | .x => 280

/-- The weight of a code point in the length check. -/
def weight (platform : SocialPlatform) (c : Char) : Nat :=
  if platform = .x ∧ c.toNat > 127 then 2 else 1

/-- The room for the link; an empty URL is falsy. -/
def linkLength (platform : SocialPlatform) (url : Option Text) : Nat :=
  match url with
  | some (c :: rest) =>
    match platform with
    | .x => 24
    | .threads => (c :: rest).length + 1
    | _ => 0
  | _ => 0

/-- `new URL(url).pathname.toLowerCase().endsWith('.png')`. -/
def isPng (cfg : Config) (url : Text) : Except ThrownError Bool :=
  match cfg.parseUrl url with
  | some parsed => .ok (".png".toList.isSuffixOf (parsed.pathname.map Char.toLower))
  | none => .error (.typeError "Invalid URL")

/-- `media.some(m => m.type === 'image' && isPng(m.url))`, which stops at the first hit. -/
def anyPng (cfg : Config) : List PostMedia → Except ThrownError Bool
  | [] => .ok false
  | m :: rest => do
    if m.type = .image then
      if ← isPng cfg m.url then return true
    anyPng cfg rest

def issuesOf (cfg : Config) (post : Post) (job : SocialPublishJob) :
    Except ThrownError (List String) := do
  let formatted ← FormatterService.format cfg.isTagChar post job
  let media := post.content.media
  let bodyLength := (formatted.body.map (weight job.platform)).sum
  let tooLong := bodyLength + linkLength job.platform post.content.url > lengthLimit job.platform
  let png ← if job.platform = .instagram then anyPng cfg media else pure false
  return (if tooLong then
      [job.platform.text ++ ": 링크를 포함한 최종 문구가 너무 깁니다. SNS별 문구를 줄여주세요."] else []) ++
    (if job.platform = .instagram ∧ media.length ≠ 1 then
      ["Instagram: 이미지 또는 동영상 1개가 필요합니다."] else []) ++
    (if png then
      ["Instagram: PNG 대신 JPEG 이미지를 사용하세요. 정사각형 업로드는 JPEG로 변환합니다."] else []) ++
    (if job.platform = .linkedin ∧ media ≠ [] then
      ["LinkedIn: 현재 텍스트·링크 게시만 지원합니다. 미디어를 제거하거나 별도 초안으로 작성하세요."] else []) ++
    (if job.platform ≠ .x ∧ media.length > 1 then
      [job.platform.text ++ ": 현재 미디어 1개까지만 지원합니다."] else [])

def issues (cfg : Config) (record : PostRecord) : Except ThrownError (List String) := do
  let perJob ← record.jobs.mapM (issuesOf cfg record.post)
  return perJob.flatten.eraseDups

structure PreviewItem where
  accountId : AccountId
  formatted : SocialPost
deriving DecidableEq, Repr

structure Preview where
  revision : Nat
  items : List PreviewItem
  issues : List String
deriving DecidableEq, Repr

def previewItem (cfg : Config) (post : Post) (job : SocialPublishJob) :
    Except ThrownError PreviewItem := do
  return ⟨job.accountId, ← FormatterService.format cfg.isTagChar post job⟩

/-- `preview` from the record that `findOwned` read on. -/
def preview (cfg : Config) (record : PostRecord) : Except ThrownError Preview := do
  let items ← record.jobs.mapM (previewItem cfg record.post)
  let found ← issues cfg record
  return { revision := record.post.revision, items, issues := found }

/-! ## Changes -/

def liftThrown {α : Type} : Except ThrownError α → Except ServiceError α
  | .ok a => .ok a
  | .error e => .error (.thrown e)

/-- `revision(record, n)`. -/
def checkRevision (record : PostRecord) (n : Nat) : Except ServiceError Unit :=
  if n ≠ record.post.revision then
    .error (.conflict "Content changed. Reload and review the latest version.")
  else .ok ()

def newJob (id : JobId) (post : Post) (target : SocialTarget) : SocialPublishJob where
  id := id
  postId := post.id
  platform := target.platform
  accountId := target.accountId
  status := .waiting
  scheduledAt := post.scheduledAt
  publishedAt := none
  remotePostId := none
  remotePostUrl := none
  errorCode := none
  errorMessage := none
  retryCount := 0
  leaseExpiresAt := none
  nextRetryAt := none
  remoteRequestKey := none
  remoteRequestStartedAt := none

/-- The jobs of a new post under consecutive fresh uuids. -/
def newJobs (post : Post) : JobId → List SocialTarget → List SocialPublishJob
  | _, [] => []
  | id, target :: rest => newJob id post target :: newJobs post (id + 1) rest

/-- The uuids drawn here come from the database's counter, which moves past them. -/
def create (cfg : Config) (ownerId : UserId) (dto : CreatePostDto) (now : Time)
    (db : Database) : Except ServiceError (PostRecord × Database) := do
  if (trim dto.content.body).isEmpty ∨ dto.targets.isEmpty then
    throw (.badRequest "Content and targets are required.")
  if ¬ dto.targets.Nodup then throw (.badRequest "Duplicate social target.")
  let media ← validateMedia cfg dto.content.media
  let post : Post := {
    id := db.nextUuid
    campaignId := dto.campaignId
    ownerId := ownerId
    content := { dto.content with media := media }
    scheduledAt := dto.scheduledAt
    status := .draft
    revision := 1 }
  let jobs := newJobs post (db.nextUuid + 1) dto.targets
  let db := { db with nextUuid := db.nextUuid + 1 + dto.targets.length }
  let db ← PgPostRepository.save post jobs now db
  return ({ post, jobs }, db)

def updateWork (cfg : Config) (dto : UpdateDraftDto) (record : PostRecord) :
    Except ServiceError PostRecord := do
  checkRevision record dto.revision
  if record.post.status ≠ .draft then
    throw (.conflict "Only drafts can be edited. Copy this post to create a new draft.")
  if (trim dto.content.body).isEmpty then throw (.badRequest "Content is required.")
  let media ← validateMedia cfg dto.content.media
  return { record with post := { record.post with content := { dto.content with media := media } } }

def update (cfg : Config) (ownerId : UserId) (id : PostId) (dto : UpdateDraftDto) (now : Time)
    (db : Database) : Except ServiceError (PostRecord × Database) :=
  PgPostRepository.mutate id ownerId (updateWork cfg dto) now db

def scheduleJob (scheduledAt : Time) (job : SocialPublishJob) : SocialPublishJob :=
  if job.status = .cancelled then job
  else { job with scheduledAt := scheduledAt, status := .waiting }

/-- `!['waiting','cancelled'].includes(j.status) || j.remoteRequestKey`. -/
def blocksSchedule (job : SocialPublishJob) : Bool :=
  ¬ (job.status = .waiting ∨ job.status = .cancelled) ∨ job.remoteRequestKey.isSome

def scheduleWork (cfg : Config) (scheduledAt : Time) (approvedRevision : Nat)
    (record : PostRecord) : Except ServiceError PostRecord := do
  checkRevision record approvedRevision
  if record.jobs.any blocksSchedule then
    throw (.conflict "Processing or completed posts cannot be rescheduled.")
  if record.post.status = .cancelled then
    throw (.conflict "Copy the cancelled post to a new draft.")
  let found ← liftThrown (issues cfg record)
  if found ≠ [] then throw (.badRequest (" ".intercalate found))
  return {
    post := { record.post with status := .scheduled, scheduledAt := scheduledAt }
    jobs := record.jobs.map (scheduleJob scheduledAt) }

/-- `scheduledAt` is `none` where the text is no date; `date` is `new Date()`. -/
def schedule (cfg : Config) (ownerId : UserId) (id : PostId) (scheduledAt : Option Time)
    (approvedRevision : Nat) (date now : Time) (db : Database) :
    Except ServiceError (PostRecord × Database) :=
  match scheduledAt with
  | none => .error (.badRequest "Schedule must be in the future.")
  | some scheduledAt =>
    if scheduledAt ≤ date then .error (.badRequest "Schedule must be in the future.")
    else PgPostRepository.mutate id ownerId (scheduleWork cfg scheduledAt approvedRevision) now db

/-- `date` and `date'` are the two readings of the clock, here and in `schedule`. -/
def publishNow (cfg : Config) (ownerId : UserId) (id : PostId) (revision : Nat)
    (date date' now : Time) (db : Database) : Except ServiceError (PostRecord × Database) :=
  schedule cfg ownerId id (some (date + 1000)) revision date' now db

/-- In progress, or `j.remoteRequestKey && j.status !== 'published'`. -/
def blocksCancel (job : SocialPublishJob) : Bool :=
  inProgress job.status ∨ (job.remoteRequestKey.isSome ∧ job.status ≠ .published)

def cancelJob (job : SocialPublishJob) : SocialPublishJob :=
  if job.status = .waiting ∨ job.status = .retrying ∨ job.status = .failed then
    { job with status := .cancelled, nextRetryAt := none }
  else job

def cancelWork (revision : Nat) (record : PostRecord) : Except ServiceError PostRecord := do
  checkRevision record revision
  if record.jobs.any blocksCancel then
    throw (.conflict "Publication is in progress or needs reconciliation.")
  let jobs := record.jobs.map cancelJob
  return { post := { record.post with status := summarizeStatus jobs }, jobs := jobs }

def cancel (ownerId : UserId) (id : PostId) (revision : Nat) (now : Time) (db : Database) :
    Except ServiceError (PostRecord × Database) :=
  PgPostRepository.mutate id ownerId (cancelWork revision) now db

/-- `job.status!=='failed' || job.remoteRequestKey || job.remotePostId`. -/
def blocksRetry (job : SocialPublishJob) : Bool :=
  job.status ≠ .failed ∨ job.remoteRequestKey.isSome ∨ job.remotePostId.any fun id => id ≠ ""

/-- `date` is `new Date()`. -/
def retryJob (jobId : JobId) (date : Time) (job : SocialPublishJob) : SocialPublishJob :=
  if job.id = jobId then
    { job with
      status := .waiting
      scheduledAt := date
      errorCode := none
      errorMessage := none
      retryCount := 0
      nextRetryAt := none }
  else job

def retryWork (jobId : JobId) (revision : Nat) (date : Time) (record : PostRecord) :
    Except ServiceError PostRecord := do
  checkRevision record revision
  match record.jobs.find? fun job => job.id = jobId with
  | none => throw (.notFound "Job not found.")
  | some job =>
    if blocksRetry job then
      throw (.conflict
        "Only a confirmed failed request can be retried. Ambiguous results require reconciliation.")
    return {
      post := { record.post with status := .scheduled }
      jobs := record.jobs.map (retryJob jobId date) }

def retry (ownerId : UserId) (id : PostId) (jobId : JobId) (revision : Nat) (date now : Time)
    (db : Database) : Except ServiceError (PostRecord × Database) :=
  PgPostRepository.mutate id ownerId (retryWork jobId revision date) now db

end PostService

end SocialPromotion
