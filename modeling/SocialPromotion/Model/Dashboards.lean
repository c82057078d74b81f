import Mathlib.Data.Char
import Mathlib.Data.Prod.Lex
import Mathlib.Data.List.Lex
import SocialPromotion.Lib.Query
import SocialPromotion.Model.Analytics

/-!
# The dashboards

`campaignDashboard` and `postDashboard` of `pg-analytics.repository.ts` and
`analytics.service.ts`: two queries over the newest snapshot of every published job, and the
five platform rows that the service makes of their rows.
-/

namespace SocialPromotion

open Query

/-- A row of `social_metrics` under its id. -/
abbrev StoredMetric := (_ : MetricId) × SocialMetricRow

/-- `(captured_at, id)`, which SQL compares as a row. -/
def metricKey (metric : StoredMetric) : ℤ ×ₗ Text :=
  toLex (metric.2.capturedAt.value, metric.1.text)

/-- `max` of two dates. -/
def JsDate.later (a b : JsDate) : JsDate := if a.value ≤ b.value then b else a

/-- `CampaignPlatformAnalytics`. -/
structure CampaignPlatformAnalytics where
  platform : SocialPlatform
  standard : StandardMetric → Option Nat
  capturedAt : Option JsDate

/-- `Number` of the decimal text of `n`: the double nearest to it. -/
def toNumber (n : Nat) : Nat :=
  if n < 2 ^ 53 then n
  else
    let shift := n.log2 - 52
    let quotient := n / 2 ^ shift
    let rest := n % 2 ^ shift
    -- halfway between two doubles the even one is taken
    let up := 2 ^ shift < 2 * rest ∨ 2 ^ shift = 2 * rest ∧ quotient % 2 = 1
    (if up then quotient + 1 else quotient) * 2 ^ shift

namespace PgAnalyticsRepository

/-- `social_publish_job_id, captured_at DESC, id DESC`. -/
def latestOrder (a b : JobId × StoredMetric) : Prop :=
  a.1 < b.1 ∨ a.1 = b.1 ∧ metricKey b.2 ≤ metricKey a.2

instance : DecidableRel latestOrder := fun _ _ =>
  inferInstanceAs (Decidable (_ ∨ _ ∧ _))

/-- `social_posts JOIN social_metrics`, over the social posts that satisfy the condition. -/
def joinedMetrics (condition : SocialPostRow → Bool) (db : Database) (tables : AnalyticsTables) :
    List (JobId × StoredMetric) :=
  (db.socialPosts.entries.filter fun e => condition e.2).flatMap fun post =>
    (tables.socialMetrics.entries.filter fun metric => metric.2.socialPost = post.1).map
      fun metric => (post.1, metric)

/-- The rows of `latest_metric`. -/
def latestMetric (condition : SocialPostRow → Bool) (db : Database) (tables : AnalyticsTables) :
    List (JobId × StoredMetric) :=
  distinctOn Prod.fst ((joinedMetrics condition db tables).insertionSort latestOrder)

/-- The jobs of a post with `status = 'published'`. -/
def publishedJobs (db : Database) (postId : PostId) : List SocialPublishJob :=
  (db.jobs.entries.map fun e => e.2.row).filter fun job =>
    job.postId = postId ∧ job.status = .published

/-- `LEFT JOIN latest_metric ON latest_metric.social_publish_job_id = job.id`. -/
def withLatest (jobs : List SocialPublishJob) (latest : List (JobId × StoredMetric)) :
    List (SocialPublishJob × Option (JobId × StoredMetric)) :=
  leftJoin (fun job metric => metric.1 = job.id) jobs latest

/-- The sums and the maximum of one group, before they leave the database. -/
def aggregated (platform : SocialPlatform)
    (rows : List (SocialPublishJob × Option (JobId × StoredMetric))) :
    CampaignPlatformAnalytics where
  platform := platform
  standard metric := aggregate (· + ·) (rows.map fun row => row.2.bind fun e => e.2.2.standard metric)
  capturedAt := aggregate JsDate.later (rows.map fun row => row.2.map fun e => e.2.2.capturedAt)

/-- `standardMetrics`, which `dashboardMetrics` passes on. -/
def standardMetrics (row : CampaignPlatformAnalytics) : StandardMetric → Option Nat :=
  fun metric => (row.standard metric).map toNumber

/-- A row of the result. -/
def dashboardRow (row : CampaignPlatformAnalytics) : CampaignPlatformAnalytics :=
  { row with standard := standardMetrics row }

/-- `GROUP BY job.platform`. -/
def byPlatform (rows : List (SocialPublishJob × Option (JobId × StoredMetric))) :
    List CampaignPlatformAnalytics :=
  (groupBy (fun row => row.1.platform) rows).map fun group => aggregated group.1 group.2

/-- The posts with `campaign_id = campaignId`. -/
def campaignPosts (db : Database) (campaignId : CampaignId) : List PostId :=
  (db.posts.entries.filter fun e => e.2.campaignId = campaignId).map Sigma.fst

/-- `campaignDashboard`; `none` is `null`. -/
def campaignDashboard (ownerId : UserId) (campaignId : CampaignId) (db : Database)
    (tables : AnalyticsTables) : Option (List CampaignPlatformAnalytics) :=
  if db.campaigns.lookup campaignId = some ownerId then
    let jobs := (campaignPosts db campaignId).flatMap (publishedJobs db)
    some ((byPlatform (withLatest jobs (latestMetric (fun _ => true) db tables))).map dashboardRow)
  else none

/-- `postDashboard`; `none` is `null`. -/
def postDashboard (ownerId : UserId) (postId : PostId) (db : Database)
    (tables : AnalyticsTables) : Option (List CampaignPlatformAnalytics) :=
  if (db.posts.lookup postId).any fun post => post.ownerId = ownerId then
    let latest := latestMetric (fun socialPost => socialPost.postId = postId) db tables
    let rows := byPlatform (withLatest (publishedJobs db postId) latest)
    -- ORDER BY job.platform
    some ((rows.insertionSort fun a b => a.platform.text ≤ b.platform.text).map dashboardRow)
  else none

end PgAnalyticsRepository

namespace AnalyticsService

def SOCIAL_PLATFORMS : List SocialPlatform := [.linkedin, .facebook, .instagram, .threads, .x]

/-- `new Map(current.map((item) => [item.platform, item])).get(platform)`. -/
def get (current : List CampaignPlatformAnalytics) (platform : SocialPlatform) :
    Option CampaignPlatformAnalytics :=
  current.reverse.find? fun item => item.platform = platform

/-- The five rows of a dashboard. -/
def platforms (current : List CampaignPlatformAnalytics) : List CampaignPlatformAnalytics :=
  SOCIAL_PLATFORMS.map fun platform => (get current platform).getD ⟨platform, fun _ => none, none⟩

def campaignDashboard (ownerId : UserId) (campaignId : CampaignId) (db : Database)
    (tables : AnalyticsTables) : Except ServiceError (List CampaignPlatformAnalytics) :=
  match PgAnalyticsRepository.campaignDashboard ownerId campaignId db tables with
  | none => .error (.notFound "Campaign not found.")
  | some current => .ok (platforms current)

def postDashboard (ownerId : UserId) (postId : PostId) (db : Database)
    (tables : AnalyticsTables) : Except ServiceError (List CampaignPlatformAnalytics) :=
  match PgAnalyticsRepository.postDashboard ownerId postId db tables with
  | none => .error (.notFound "Post not found.")
  | some current => .ok (platforms current)

end AnalyticsService

end SocialPromotion
