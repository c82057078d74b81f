import Mathlib.Data.Rat.Defs
import SocialPromotion.Model.System

/-!
# Analytics

`analytics.repository.ts`, `pg-analytics.repository.ts` and `collectDue` of
`analytics.service.ts`: the snapshots of `social_metrics`, the claims on published jobs and
the collectors that hold them. Like the dispatchers a collector is a state machine over its
calls, and it runs beside the publishing system.
-/

namespace SocialPromotion

/-! ## Snapshots -/

/-- A JavaScript `Date` that is not invalid, by its time value. -/
structure JsDate where
  value : Int
  inRange : -8640000000000000 ≤ value ∧ value ≤ 8640000000000000
deriving DecidableEq

def isHexDigit (c : Char) : Bool := c.isDigit || ('a' ≤ c && c ≤ 'f')

/-- A text matches a sequence of character classes, as `^[..][..]..$` does. -/
def matchesClasses (classes : List (Char → Bool)) (text : Text) : Bool :=
  classes.length = text.length && (classes.zip text).all fun e => e.1 e.2

def repeated (n : Nat) (p : Char → Bool) : List (Char → Bool) := List.replicate n p

def isHyphen (c : Char) : Bool := c = '-'

/-- What `gen_random_uuid()` draws, in the text form that PostgreSQL prints. -/
def uuidV4Classes : List (Char → Bool) :=
  repeated 8 isHexDigit ++ isHyphen :: repeated 4 isHexDigit ++ isHyphen ::
    (fun c => c = '4') :: repeated 3 isHexDigit ++ isHyphen ::
    (fun c => c = '8' || c = '9' || c = 'a' || c = 'b') :: repeated 3 isHexDigit ++ isHyphen ::
    repeated 12 isHexDigit

/-- `social_metrics.id`, by its text: uuids are ordered as their texts are. -/
structure MetricId where
  text : Text
  isUuid : matchesClasses uuidV4Classes text = true
deriving DecidableEq

/-- The eight metrics that have a column of their own. -/
inductive StandardMetric
  | impressions | reach | views | likes | comments | shares | reposts | clicks
deriving DecidableEq, Repr

/-- A `Record<string, number>`; a number that JSON cannot write is `none`. -/
abbrev RawMetrics := List (Text × Option ℚ)

/-- `PostAnalytics`: a metric that the platform does not report is `none`. -/
structure PostAnalytics where
  standard : StandardMetric → Option Nat
  rawMetrics : Option RawMetrics
  capturedAt : JsDate

/-- `social_metrics`; a social post goes by its UNIQUE `social_publish_job_id`. -/
structure SocialMetricRow where
  socialPost : JobId
  standard : StandardMetric → Option Nat
  rawMetrics : RawMetrics
  capturedAt : JsDate

/-- What analytics keeps: two columns of `social_publish_jobs`, and its own table. -/
structure AnalyticsTables where
  analyticsLeaseExpiresAt : JobId → Option Time
  analyticsLastCollectedAt : JobId → Option JsDate
  socialMetrics : AList fun _ : MetricId => SocialMetricRow

structure AnalyticsCollectionTarget where
  jobId : JobId
  postId : PostId
  platform : SocialPlatform
  accountId : AccountId
  remotePostId : String
deriving DecidableEq, Repr

/-! ## The statements of the collection -/

namespace PgAnalyticsRepository

/-- The NOT EXISTS clause: whether a snapshot of the job is younger than `staleAfterMs`. -/
def hasFreshMetric (db : Database) (tables : AnalyticsTables) (staleAfterMs : Nat) (now : Time)
    (jobId : JobId) : Bool :=
  (db.socialPosts.lookup jobId).isSome && tables.socialMetrics.entries.any fun e =>
    e.2.socialPost = jobId ∧ (now : Int) - staleAfterMs < e.2.capturedAt.value

/-- The WHERE clause of `claimCollectionTargets`. -/
def collectable (db : Database) (tables : AnalyticsTables) (staleAfterMs : Nat) (now : Time)
    (job : SocialPublishJob) : Bool :=
  job.status = .published && job.remotePostId.isSome &&
    (tables.analyticsLeaseExpiresAt job.id).all (fun time => time ≤ now) &&
    !hasFreshMetric db tables staleAfterMs now job.id

/-- `published_at NULLS LAST, id`. -/
def collectionOrder (a b : SocialPublishJob) : Prop :=
  match a.publishedAt, b.publishedAt with
  | some t, some u => t < u ∨ t = u ∧ a.id ≤ b.id
  | some _, none => True
  | none, some _ => False
  | none, none => a.id ≤ b.id

instance : DecidableRel collectionOrder := fun a b =>
  match ha : a.publishedAt, hb : b.publishedAt with
  | some t, some u => decidable_of_iff (t < u ∨ t = u ∧ a.id ≤ b.id) (by
      rw [collectionOrder, ha, hb])
  | some _, none => isTrue (by rw [collectionOrder, ha, hb]; trivial)
  | none, some _ => isFalse (by rw [collectionOrder, ha, hb]; exact id)
  | none, none => decidable_of_iff (a.id ≤ b.id) (by rw [collectionOrder, ha, hb])

def collectionCandidates (db : Database) (tables : AnalyticsTables) (staleAfterMs limit : Nat)
    (now : Time) (locked : List JobId) : List SocialPublishJob :=
  let open_ := (db.jobs.entries.map fun e => e.2.row).filter fun job =>
    collectable db tables staleAfterMs now job && !locked.contains job.id
  (open_.insertionSort collectionOrder).take limit

/-- The RETURNING clause. -/
def toTarget (job : SocialPublishJob) : AnalyticsCollectionTarget where
  jobId := job.id
  postId := job.postId
  platform := job.platform
  accountId := job.accountId
  remotePostId := job.remotePostId.getD ""

/-- `claimCollectionTargets`. -/
def claimCollectionTargets (staleAfterMs leaseMs limit : Nat) (now : Time) (locked : List JobId)
    (db : Database) (tables : AnalyticsTables) :
    List AnalyticsCollectionTarget × AnalyticsTables :=
  let targets := (collectionCandidates db tables staleAfterMs limit now locked).map toTarget
  (targets, { tables with
    analyticsLeaseExpiresAt := fun jobId =>
      if jobId ∈ targets.map AnalyticsCollectionTarget.jobId then some (now + leaseMs)
      else tables.analyticsLeaseExpiresAt jobId })

/-- `saveSnapshot`: the snapshot under the id that the database draws. -/
def saveSnapshot (target : AnalyticsCollectionTarget) (metrics : PostAnalytics)
    (metricId : MetricId) (db : Database) (tables : AnalyticsTables) :
    Except ThrownError AnalyticsTables :=
  if (db.socialPosts.lookup target.jobId).isNone then
    .error (.error ("Published social post is missing for analytics job " ++
      toString target.jobId ++ "."))
  else if (tables.socialMetrics.lookup metricId).isSome then
    .error (.error "duplicate key value violates unique constraint \"social_metrics_pkey\"")
  else .ok {
    analyticsLeaseExpiresAt := Function.update tables.analyticsLeaseExpiresAt target.jobId none
    analyticsLastCollectedAt := Function.update tables.analyticsLastCollectedAt target.jobId
      (some metrics.capturedAt)
    socialMetrics := tables.socialMetrics.insert metricId {
      socialPost := target.jobId
      standard := metrics.standard
      rawMetrics := metrics.rawMetrics.getD []
      capturedAt := metrics.capturedAt } }

def releaseCollectionClaim (jobId : JobId) (tables : AnalyticsTables) : AnalyticsTables :=
  { tables with
    analyticsLeaseExpiresAt := Function.update tables.analyticsLeaseExpiresAt jobId none }

end PgAnalyticsRepository

/-! ## AnalyticsService.collectDue -/

namespace AnalyticsService

structure CollectionFailure where
  jobId : JobId
  platform : SocialPlatform
  error : String
deriving DecidableEq, Repr

def safeError (error : ThrownError) : String :=
  match error.message with
  | some message => sliceMessage message 300
  | none => "Analytics collection failed."

inductive Call
  | claimCollectionTargets (staleAfterMs leaseMs limit : Nat)
  /-- The provider read, or the error of a platform without one. -/
  | getPostAnalytics (target : AnalyticsCollectionTarget)
  | saveSnapshot (target : AnalyticsCollectionTarget) (metrics : PostAnalytics)
  /-- The catch clause, which remembers what was thrown. -/
  | releaseCollectionClaim (target : AnalyticsCollectionTarget) (error : ThrownError)

inductive State
  | running (call : Call) (rest : List AnalyticsCollectionTarget) (collectedJobIds : List JobId)
      (failed : List CollectionFailure)
  | resolved (collectedJobIds : List JobId) (failed : List CollectionFailure)
  | raised

/-- `collectDue`, with the three settings that it reads. -/
def collectDue (staleAfterMs leaseMs limit : Nat) : State :=
  .running (.claimCollectionTargets staleAfterMs leaseMs limit) [] [] []

/-- The next iteration of the loop. -/
def nextTarget (collectedJobIds : List JobId) (failed : List CollectionFailure) :
    List AnalyticsCollectionTarget → State
  | [] => .resolved collectedJobIds failed
  | target :: rest => .running (.getPostAnalytics target) rest collectedJobIds failed

/-- The provider's answer. -/
def answered (answer : Except ThrownError PostAnalytics) : State → Option State
  | .running (.getPostAnalytics target) rest collectedJobIds failed =>
    some (match answer with
      | .ok metrics => .running (.saveSnapshot target metrics) rest collectedJobIds failed
      | .error error => .running (.releaseCollectionClaim target error) rest collectedJobIds failed)
  | _ => none

/-- One call to the repository. -/
def step (result : CallResult) (now : Time) (locked : List JobId) (metricId : MetricId)
    (db : Database) (tables : AnalyticsTables) : State → Option (State × AnalyticsTables)
  | .running (.claimCollectionTargets staleAfterMs leaseMs limit) _ collectedJobIds failed =>
    let claimed := PgAnalyticsRepository.claimCollectionTargets staleAfterMs leaseMs limit now
      locked db tables
    let state := match result with
      | .returned => nextTarget collectedJobIds failed claimed.1
      | .threw _ _ => .raised
    some (state, result.leaves tables claimed.2)
  | .running (.saveSnapshot target metrics) rest collectedJobIds failed =>
    some (match PgAnalyticsRepository.saveSnapshot target metrics metricId db tables with
      | .ok saved =>
        let state := match result with
          | .returned => nextTarget (collectedJobIds ++ [target.jobId]) failed rest
          | .threw error _ =>
            .running (.releaseCollectionClaim target error) rest collectedJobIds failed
        (state, result.leaves tables saved)
      | .error error =>
        (.running (.releaseCollectionClaim target error) rest collectedJobIds failed, tables))
  | .running (.releaseCollectionClaim target error) rest collectedJobIds failed =>
    -- a release that throws is logged and forgotten
    some (nextTarget collectedJobIds
        (failed ++ [⟨target.jobId, target.platform, safeError error⟩]) rest,
      result.leaves tables (PgAnalyticsRepository.releaseCollectionClaim target.jobId tables))
  | .running (.getPostAnalytics _) _ _ _ | .resolved _ _ | .raised => none

end AnalyticsService

/-! ## The system with its collectors -/

structure AnalyticsState where
  publishing : PublishingState
  tables : AnalyticsTables
  collectors : List AnalyticsService.State

namespace AnalyticsState

def Initial (s : AnalyticsState) : Prop :=
  s.publishing.Initial ∧ (∀ jobId, s.tables.analyticsLeaseExpiresAt jobId = none) ∧
    s.tables.socialMetrics = ∅ ∧ s.collectors = []

end AnalyticsState

inductive AnalyticsEvent
  | publishing (e : Event)
  /-- A `collectDue` run begins, with the settings of its process. -/
  | collect (staleAfterMs leaseMs limit : Nat)
  | repository (i : Nat) (result : CallResult) (locked : List JobId) (metricId : MetricId)
  | provider (i : Nat) (answer : Except ThrownError PostAnalytics)

namespace AnalyticsState

def repositoryStep (s : AnalyticsState) (i : Nat) (result : CallResult) (locked : List JobId)
    (metricId : MetricId) : Option AnalyticsState :=
  match s.collectors[i]? with
  | some state =>
    (AnalyticsService.step result s.publishing.clock locked metricId s.publishing.db s.tables
      state).map fun (state, tables) =>
        { s with tables := tables, collectors := s.collectors.set i state }
  | none => none

def providerStep (s : AnalyticsState) (i : Nat) (answer : Except ThrownError PostAnalytics) :
    Option AnalyticsState :=
  match s.collectors[i]? with
  | some state => (AnalyticsService.answered answer state).map fun state =>
      { s with collectors := s.collectors.set i state }
  | none => none

def step (cfg : Config) (s : AnalyticsState) : AnalyticsEvent → Option AnalyticsState
  | .publishing e => (s.publishing.step cfg e).map fun publishing =>
      { s with publishing := publishing }
  | .collect staleAfterMs leaseMs limit =>
    some { s with
      collectors := s.collectors ++ [AnalyticsService.collectDue staleAfterMs leaseMs limit] }
  | .repository i result locked metricId => s.repositoryStep i result locked metricId
  | .provider i answer => s.providerStep i answer

end AnalyticsState

/-- The publishing system with its analytics. -/
def analyticsSystem (cfg : Config) : LTS.System AnalyticsState AnalyticsEvent where
  Initial := AnalyticsState.Initial
  step := AnalyticsState.step cfg

end SocialPromotion
