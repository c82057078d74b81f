import SocialPromotion.Model.Dashboards
import SocialPromotion.Properties.CollectionLease

/-!
# The two dashboards

The campaign dashboard sums over the jobs of all posts of a campaign, the post dashboard over
those of one post, each by a query of its own.

* `dashboards_agree`: whatever was published and collected, the row of a post sums up the newest
  snapshots of its published jobs, the campaign's row of a platform is the sum of the rows of its
  posts, and both are made of the newest snapshots alone.
-/

namespace SocialPromotion

open LTS Query PgAnalyticsRepository

/-! ## The newest snapshot -/

/-- `metric` is the newest snapshot of a job; of snapshots with one date the id decides. -/
structure IsNewest (tables : AnalyticsTables) (jobId : JobId) (metric : StoredMetric) : Prop where
  mem : metric ∈ tables.socialMetrics.entries
  ofJob : metric.2.socialPost = jobId
  newest : ∀ other ∈ tables.socialMetrics.entries, other.2.socialPost = jobId →
    metricKey other ≤ metricKey metric

section Newest

variable {db : Database} {tables : AnalyticsTables} {jobId : JobId}
  {condition : SocialPostRow → Bool} {entry : SocialPostRow}

/-- Two stored snapshots with one key are one. -/
theorem metric_eq_of_key {a b : StoredMetric} (ha : a ∈ tables.socialMetrics.entries)
    (hb : b ∈ tables.socialMetrics.entries) (hKey : metricKey a = metricKey b) : a = b := by
  have hText : a.1.text = b.1.text := congrArg (fun key => (ofLex key).2) hKey
  have hId : a.1 = b.1 := by
    obtain ⟨⟨textA, hA⟩, rowA⟩ := a
    obtain ⟨⟨textB, hB⟩, rowB⟩ := b
    dsimp only at hText
    subst hText
    rfl
  obtain ⟨id, rowA⟩ := a
  obtain ⟨id', rowB⟩ := b
  dsimp only at hId
  subst hId
  have hRow := AList.mem_lookup_iff.mpr ha
  rw [Option.mem_def, AList.mem_lookup_iff.mpr hb, Option.some.injEq] at hRow
  rw [hRow]

theorem IsNewest.unique {a b : StoredMetric} (ha : IsNewest tables jobId a)
    (hb : IsNewest tables jobId b) : a = b :=
  metric_eq_of_key ha.mem hb.mem
    (le_antisymm (hb.newest a ha.mem ha.ofJob) (ha.newest b hb.mem hb.ofJob))

theorem mem_joinedMetrics {x : JobId × StoredMetric} :
    x ∈ joinedMetrics condition db tables ↔
      (∃ entry, db.socialPosts.lookup x.1 = some entry ∧ condition entry = true) ∧
        x.2 ∈ tables.socialMetrics.entries ∧ x.2.2.socialPost = x.1 := by
  rw [joinedMetrics, List.mem_flatMap]
  constructor
  · rintro ⟨⟨id, entry⟩, hPost, hMem⟩
    obtain ⟨metric, hMetric, rfl⟩ := List.mem_map.mp hMem
    obtain ⟨hPost, hCond⟩ := List.mem_filter.mp hPost
    obtain ⟨hMetric, hJob⟩ := List.mem_filter.mp hMetric
    exact ⟨⟨entry, AList.mem_lookup_iff.mpr hPost, hCond⟩, hMetric, of_decide_eq_true hJob⟩
  · rintro ⟨⟨entry, hPost, hCond⟩, hMetric, hJob⟩
    refine ⟨⟨x.1, entry⟩, List.mem_filter.mpr ⟨AList.mem_lookup_iff.mp hPost, hCond⟩, ?_⟩
    exact List.mem_map.mpr ⟨x.2, List.mem_filter.mpr ⟨hMetric, decide_eq_true hJob⟩, rfl⟩

instance : Std.Total latestOrder := ⟨fun a b => by
  rcases lt_trichotomy a.1 b.1 with h | h | h
  · exact Or.inl (Or.inl h)
  · rcases le_total (metricKey a.2) (metricKey b.2) with hKey | hKey
    · exact Or.inr (Or.inr ⟨h.symm, hKey⟩)
    · exact Or.inl (Or.inr ⟨h, hKey⟩)
  · exact Or.inr (Or.inl h)⟩

instance : IsTrans (JobId × StoredMetric) latestOrder := ⟨fun a b c hab hbc => by
  rcases hab with hab | ⟨hab, hKey⟩
  · rcases hbc with hbc | ⟨hbc, -⟩
    · exact Or.inl (hab.trans hbc)
    · exact Or.inl (hbc ▸ hab)
  · rcases hbc with hbc | ⟨hbc, hKey'⟩
    · exact Or.inl (hab ▸ hbc)
    · exact Or.inr ⟨hab.trans hbc, hKey'.trans hKey⟩⟩

/-- The row of `latest_metric` for a job. -/
def latestOf (condition : SocialPostRow → Bool) (db : Database) (tables : AnalyticsTables)
    (jobId : JobId) : Option (JobId × StoredMetric) :=
  ((joinedMetrics condition db tables).insertionSort latestOrder).find? fun x => x.1 = jobId

/-- **`latest_metric`** holds the newest snapshot of each job that it looks at. -/
theorem latestOf_eq_some (hEntry : db.socialPosts.lookup jobId = some entry)
    (hCond : condition entry = true) {x : JobId × StoredMetric} :
    latestOf condition db tables jobId = some x ↔ x.1 = jobId ∧ IsNewest tables jobId x.2 := by
  have hMem : ∀ y, y ∈ (joinedMetrics condition db tables).insertionSort latestOrder ↔
      y ∈ joinedMetrics condition db tables := fun y => List.mem_insertionSort _
  have hSorted := List.pairwise_insertionSort latestOrder (joinedMetrics condition db tables)
  have hFound : ∀ y, latestOf condition db tables jobId = some y →
      y.1 = jobId ∧ IsNewest tables jobId y.2 := by
    intro y hy
    unfold latestOf at hy
    have hJob : y.1 = jobId := by simpa using List.find?_some hy
    obtain ⟨-, hMetric, hPost⟩ := mem_joinedMetrics.mp ((hMem y).mp (List.mem_of_find?_eq_some hy))
    refine ⟨hJob, hMetric, hPost.trans hJob, fun other hOther hOtherJob => ?_⟩
    by_cases hSame : (jobId, other) = y
    · rw [← hSame]
    · have hJoined : (jobId, other) ∈ joinedMetrics condition db tables :=
        mem_joinedMetrics.mpr ⟨⟨entry, hEntry, hCond⟩, hOther, hOtherJob⟩
      have hRel := rel_of_find?_sorted hSorted hy ((hMem _).mpr hJoined) (decide_eq_true rfl) hSame
      rcases hRel with hLt | ⟨-, hKey⟩
      · exact absurd hLt (hJob ▸ lt_irrefl _)
      · exact hKey
  constructor
  · exact hFound x
  · rintro ⟨hJob, hNewest⟩
    have hJoined : x ∈ joinedMetrics condition db tables :=
      mem_joinedMetrics.mpr
        ⟨⟨entry, hJob ▸ hEntry, hCond⟩, hNewest.mem, hNewest.ofJob.trans hJob.symm⟩
    cases hFind : latestOf condition db tables jobId with
    | none =>
      have hNone := List.find?_eq_none.mp hFind x ((hMem x).mpr hJoined)
      exact absurd (decide_eq_true hJob) hNone
    | some y =>
      obtain ⟨hJob', hNewest'⟩ := hFound y hFind
      exact congrArg some (Prod.ext (hJob'.trans hJob.symm) (hNewest'.unique hNewest))

/-- Both queries find the newest snapshot of a job, where its social post is that of its
post. -/
theorem latestOf_congr {tables' : AnalyticsTables} {condition' : SocialPostRow → Bool}
    (hEntry : db.socialPosts.lookup jobId = some entry) (hCond : condition entry = true)
    (hCond' : condition' entry = true)
    (hSame : ∀ metric, IsNewest tables jobId metric ↔ IsNewest tables' jobId metric) :
    latestOf condition db tables jobId = latestOf condition' db tables' jobId := by
  refine Option.ext fun x => ?_
  rw [latestOf_eq_some hEntry hCond, latestOf_eq_some hEntry hCond', hSame]

end Newest

/-! ## The rows of a dashboard -/

/-- The sums over the jobs of one platform. -/
def platformSums (jobs : List SocialPublishJob) (latest : JobId → Option (JobId × StoredMetric))
    (platform : SocialPlatform) : CampaignPlatformAnalytics :=
  aggregated platform
    ((jobs.filter fun job => job.platform = platform).map fun job => (job, latest job.id))

/-- The row that the service makes of them. -/
def platformRow (jobs : List SocialPublishJob) (latest : JobId → Option (JobId × StoredMetric))
    (platform : SocialPlatform) : CampaignPlatformAnalytics :=
  dashboardRow (platformSums jobs latest platform)

section Rows

variable {jobs : List SocialPublishJob} {latest : JobId → Option (JobId × StoredMetric)}
  {current : List CampaignPlatformAnalytics} {platform : SocialPlatform}

theorem withLatest_eq (condition : SocialPostRow → Bool) (db : Database)
    (tables : AnalyticsTables) (jobs : List SocialPublishJob) :
    withLatest jobs (latestMetric condition db tables) =
      jobs.map fun job => (job, latestOf condition db tables job.id) :=
  leftJoin_distinctOn Prod.fst SocialPublishJob.id jobs _

/-- A row of the result is made of the jobs of its platform. -/
theorem of_mem_byPlatform {item : CampaignPlatformAnalytics}
    (h : item ∈ byPlatform (jobs.map fun job => (job, latest job.id))) :
    item = platformSums jobs latest item.platform := by
  obtain ⟨group, hGroup, rfl⟩ := List.mem_map.mp h
  obtain ⟨-, hRows⟩ := mem_groupBy.mp hGroup
  show aggregated group.1 group.2 = platformSums jobs latest group.1
  rw [hRows, List.filter_map]
  rfl

theorem exists_mem_byPlatform (h : platform ∈ jobs.map SocialPublishJob.platform) :
    ∃ item ∈ byPlatform (jobs.map fun job => (job, latest job.id)), item.platform = platform := by
  have hGroup : (platform, (jobs.map fun job => (job, latest job.id)).filter
      fun row => row.1.platform = platform) ∈
        groupBy (fun row => row.1.platform) (jobs.map fun job => (job, latest job.id)) := by
    refine mem_groupBy.mpr ⟨?_, rfl⟩
    rwa [List.map_map]
  exact ⟨_, List.mem_map_of_mem hGroup, rfl⟩

/-- A platform without a published job has the row without values. -/
theorem platformRow_of_none (h : platform ∉ jobs.map SocialPublishJob.platform) :
    platformRow jobs latest platform = ⟨platform, fun _ => none, none⟩ := by
  have hEmpty : jobs.filter (fun job => job.platform = platform) = [] := by
    refine List.filter_eq_nil_iff.mpr fun job hJob hPlatform => ?_
    exact h (List.mem_map.mpr ⟨job, hJob, of_decide_eq_true hPlatform⟩)
  rw [platformRow, platformSums, hEmpty]
  rfl

/-- **The five rows** that the service makes of a result in any order. -/
theorem platforms_eq
    (hCurrent : current.Perm (byPlatform (jobs.map fun job => (job, latest job.id)))) :
    AnalyticsService.platforms (current.map dashboardRow) =
      AnalyticsService.SOCIAL_PLATFORMS.map (platformRow jobs latest) := by
  refine List.map_congr_left fun platform _ => ?_
  unfold AnalyticsService.get
  cases hFind : (current.map dashboardRow).reverse.find? fun item => item.platform = platform with
  | some found =>
    have hPlatform : found.platform = platform := by simpa using List.find?_some hFind
    obtain ⟨item, hItem, rfl⟩ :=
      List.mem_map.mp (List.mem_reverse.mp (List.mem_of_find?_eq_some hFind))
    rw [Option.getD_some, ← hPlatform]
    exact congrArg dashboardRow (of_mem_byPlatform (hCurrent.mem_iff.mp hItem))
  | none =>
    rw [Option.getD_none]
    refine (platformRow_of_none fun hMem => ?_).symm
    obtain ⟨item, hItem, hPlatform⟩ := @exists_mem_byPlatform jobs latest platform hMem
    have hStored : dashboardRow item ∈ (current.map dashboardRow).reverse :=
      List.mem_reverse.mpr (List.mem_map_of_mem (hCurrent.mem_iff.mpr hItem))
    have hNotFound := List.find?_eq_none.mp hFind _ hStored
    exact hNotFound (decide_eq_true hPlatform)

/-- What a job adds to the sum of a metric. -/
def metricOf (latest : JobId → Option (JobId × StoredMetric)) (metric : StandardMetric)
    (job : SocialPublishJob) : Option Nat :=
  (latest job.id).bind fun e => e.2.2.standard metric

def capturedAtOf (latest : JobId → Option (JobId × StoredMetric)) (job : SocialPublishJob) :
    Option JsDate :=
  (latest job.id).map fun e => e.2.2.capturedAt

theorem platformSums_standard (metric : StandardMetric) :
    (platformSums jobs latest platform).standard metric =
      aggregate (· + ·) ((jobs.filter fun job => job.platform = platform).map
        (metricOf latest metric)) := by
  show aggregate _ (List.map _ (List.map _ _)) = _
  rw [List.map_map]
  rfl

theorem platformRow_standard (metric : StandardMetric) :
    (platformRow jobs latest platform).standard metric =
      (aggregate (· + ·) ((jobs.filter fun job => job.platform = platform).map
        (metricOf latest metric))).map toNumber :=
  congrArg (Option.map toNumber) (platformSums_standard metric)

theorem platformRow_capturedAt :
    (platformRow jobs latest platform).capturedAt =
      aggregate JsDate.later ((jobs.filter fun job => job.platform = platform).map
        (capturedAtOf latest)) := by
  show aggregate _ (List.map _ (List.map _ _)) = _
  rw [List.map_map]
  rfl

end Rows

/-! ## The sum over the posts -/

instance : Std.Associative JsDate.later := ⟨fun a b c => by
  unfold JsDate.later
  grind⟩

section Sums

variable {posts : List PostId} {jobsOf : PostId → List SocialPublishJob}
  {latest : JobId → Option (JobId × StoredMetric)} {platform : SocialPlatform}

/-- An aggregate over the jobs of all posts is the aggregate over the posts. -/
theorem aggregate_posts {α : Type} (op : α → α → α) [Std.Associative op]
    (value : SocialPublishJob → Option α) :
    aggregate op (((posts.flatMap jobsOf).filter fun job => job.platform = platform).map value) =
      aggregate op (posts.map fun postId =>
        aggregate op (((jobsOf postId).filter fun job => job.platform = platform).map value)) := by
  rw [List.filter_flatMap, List.map_flatMap]
  exact aggregate_flatMap op posts _

theorem toNumber_of_small {n : Nat} (h : n < 2 ^ 53) : toNumber n = n := if_pos h

/-- Below 2^53 a sum of numbers is the number of the sum. -/
theorem toNumber_aggregate {values : List (Option Nat)}
    (hSmall : ∀ total, aggregate (· + ·) values = some total → total < 2 ^ 53) :
    (aggregate (· + ·) values).map toNumber =
      aggregate (· + ·) (values.map fun value => value.map toNumber) := by
  have hSame : values.map (fun value => value.map toNumber) = values := by
    refine (List.map_congr_left fun value hValue => ?_).trans (List.map_id _)
    cases value with
    | none => rfl
    | some n =>
      cases hTotal : aggregate (· + ·) values with
      | none => exact absurd ((aggregate_eq_none _).mp hTotal _ hValue) (by simp)
      | some total =>
        have hLe := le_of_aggregate_add hTotal hValue
        exact congrArg some (toNumber_of_small (hLe.trans_lt (hSmall total hTotal)))
  rw [hSame]
  cases hTotal : aggregate (· + ·) values with
  | none => rfl
  | some total => exact congrArg some (toNumber_of_small (hSmall total hTotal))

end Sums

/-! ## Both dashboards -/

/-- The sums that leave the database for the campaign dashboard. -/
def campaignSums (db : Database) (tables : AnalyticsTables) (campaignId : CampaignId) :
    List CampaignPlatformAnalytics :=
  byPlatform (withLatest ((campaignPosts db campaignId).flatMap (publishedJobs db))
    (latestMetric (fun _ => true) db tables))

/-- Every published job has its social post, which belongs to the post of the job. -/
def SocialPostsKept (db : Database) : Prop :=
  ∀ jobId job, db.job? jobId = some job → job.status = .published →
    ∃ entry, db.socialPosts.lookup jobId = some entry ∧ entry.postId = job.postId

section Dashboards

variable {cfg : Config} {s : AnalyticsState} {db : Database} {tables : AnalyticsTables}
  {ownerId : UserId} {campaignId : CampaignId} {postId : PostId}

theorem socialPostsKept {ok : AnalyticsState → AnalyticsEvent → Prop}
    (h : Reachable (analyticsSystem cfg) ok s) : SocialPostsKept s.publishing.db := by
  have hPublishing : Reachable (publishingSystem cfg) anyStep s.publishing := by
    refine @Reachable.invariant _ _ _ _
      (fun s : AnalyticsState => Reachable (publishingSystem cfg) anyStep s.publishing)
      ?_ (fun s e t hReach _ hMove => ?_) _ h
    · exact fun s hInit => .init hInit.1
    · cases e with
      | publishing e =>
        obtain ⟨publishing, hStep, rfl⟩ := Option.map_eq_some_iff.mp hMove
        exact hReach.tail trivial hStep
      | collect staleAfterMs leaseMs limit =>
        injection hMove with hMove
        exact hMove ▸ hReach
      | repository i result locked metricId =>
        rw [(repositoryStep_collection hMove).1]
        exact hReach
      | provider i answer =>
        simp only [analyticsSystem, AnalyticsState.step, AnalyticsState.providerStep] at hMove
        split at hMove
        · obtain ⟨state, -, rfl⟩ := Option.map_eq_some_iff.mp hMove
          exact hReach
        · injection hMove
  intro jobId job hJob hStatus
  obtain ⟨⟨entry, hEntry, hOf⟩, -⟩ :=
    (ledger_reachable hPublishing jobId).published job hJob hStatus
  exact ⟨entry, hEntry, hOf.postId⟩

theorem mem_publishedJobs {job : SocialPublishJob} (h : job ∈ publishedJobs db postId) :
    db.job? job.id = some job ∧ job.postId = postId ∧ job.status = .published := by
  obtain ⟨hMem, hJob⟩ := List.mem_filter.mp h
  obtain ⟨⟨id, stored⟩, hStored, rfl⟩ := List.mem_map.mp hMem
  obtain ⟨hPost, hStatus⟩ := of_decide_eq_true hJob
  refine ⟨?_, hPost, hStatus⟩
  rw [Database.job?, stored.id_eq, AList.mem_lookup_iff.mpr hStored]
  rfl

/-- The newest snapshots of the jobs, as the campaign query finds them. -/
abbrev newestOf (db : Database) (tables : AnalyticsTables) :
    JobId → Option (JobId × StoredMetric) :=
  latestOf (fun _ => true) db tables

theorem campaignDashboard_eq (hOwner : db.campaigns.lookup campaignId = some ownerId) :
    AnalyticsService.campaignDashboard ownerId campaignId db tables =
      .ok (AnalyticsService.SOCIAL_PLATFORMS.map (platformRow
        ((campaignPosts db campaignId).flatMap (publishedJobs db)) (newestOf db tables))) := by
  rw [AnalyticsService.campaignDashboard, PgAnalyticsRepository.campaignDashboard, if_pos hOwner]
  dsimp only
  rw [withLatest_eq]
  exact congrArg Except.ok (platforms_eq (.refl _))

/-- The query of one post finds the snapshots that the query of the campaign finds. -/
theorem postDashboard_eq (hKept : SocialPostsKept db) {post : PostRow}
    (hPost : db.posts.lookup postId = some post) :
    AnalyticsService.postDashboard post.ownerId postId db tables =
      .ok (AnalyticsService.SOCIAL_PLATFORMS.map
        (platformRow (publishedJobs db postId) (newestOf db tables))) := by
  have hLatest : withLatest (publishedJobs db postId)
      (latestMetric (fun socialPost => socialPost.postId = postId) db tables) =
        (publishedJobs db postId).map fun job => (job, newestOf db tables job.id) := by
    rw [withLatest_eq]
    refine List.map_congr_left fun job hJob => congrArg (Prod.mk job) ?_
    obtain ⟨hRow, hOfPost, hStatus⟩ := mem_publishedJobs hJob
    obtain ⟨entry, hEntry, hEntryPost⟩ := hKept job.id job hRow hStatus
    exact latestOf_congr hEntry (decide_eq_true (hEntryPost.trans hOfPost)) rfl fun _ => Iff.rfl
  have hOwned : (db.posts.lookup postId).any (fun row => row.ownerId = post.ownerId) = true := by
    rw [hPost]
    exact decide_eq_true rfl
  rw [AnalyticsService.postDashboard, PgAnalyticsRepository.postDashboard, if_pos hOwned]
  dsimp only
  rw [hLatest]
  exact congrArg Except.ok (platforms_eq (List.perm_insertionSort _ _))

/-- Two states of the snapshots with the same newest ones. -/
def SameNewest (db : Database) (tables tables' : AnalyticsTables) : Prop :=
  ∀ jobId job, db.job? jobId = some job → job.status = .published →
    ∀ metric, IsNewest tables jobId metric ↔ IsNewest tables' jobId metric

theorem newestOf_congr (hKept : SocialPostsKept db) {tables' : AnalyticsTables}
    (hSame : SameNewest db tables tables') {job : SocialPublishJob}
    (hJob : job ∈ publishedJobs db postId) :
    newestOf db tables job.id = newestOf db tables' job.id := by
  obtain ⟨hRow, -, hStatus⟩ := mem_publishedJobs hJob
  obtain ⟨entry, hEntry, -⟩ := hKept job.id job hRow hStatus
  exact latestOf_congr hEntry rfl rfl (hSame job.id job hRow hStatus)

theorem platformRow_congr {jobs : List SocialPublishJob}
    {latest latest' : JobId → Option (JobId × StoredMetric)}
    (hSame : ∀ job ∈ jobs, latest job.id = latest' job.id) :
    platformRow jobs latest = platformRow jobs latest' := by
  funext platform
  unfold platformRow platformSums
  have hRows : (jobs.filter fun job => job.platform = platform).map
        (fun job => (job, latest job.id)) =
      (jobs.filter fun job => job.platform = platform).map fun job => (job, latest' job.id) :=
    List.map_congr_left fun job hJob =>
      congrArg (Prod.mk job) (hSame job (List.mem_of_mem_filter hJob))
  rw [hRows]

/-- Older snapshots change neither dashboard. -/
theorem dashboards_of_sameNewest (hKept : SocialPostsKept db) {tables' : AnalyticsTables}
    (hSame : SameNewest db tables tables') (ownerId : UserId) (campaignId : CampaignId)
    (postId : PostId) :
    AnalyticsService.campaignDashboard ownerId campaignId db tables' =
        AnalyticsService.campaignDashboard ownerId campaignId db tables ∧
      AnalyticsService.postDashboard ownerId postId db tables' =
        AnalyticsService.postDashboard ownerId postId db tables := by
  constructor
  · by_cases hOwner : db.campaigns.lookup campaignId = some ownerId
    · rw [campaignDashboard_eq hOwner, campaignDashboard_eq hOwner]
      have hRows := @platformRow_congr ((campaignPosts db campaignId).flatMap (publishedJobs db))
        (newestOf db tables') (newestOf db tables) fun job hJob => by
          obtain ⟨postId, -, hJob⟩ := List.mem_flatMap.mp hJob
          exact (newestOf_congr hKept hSame hJob).symm
      rw [hRows]
    · simp only [AnalyticsService.campaignDashboard, PgAnalyticsRepository.campaignDashboard,
        if_neg hOwner]
  · by_cases hOwner : (db.posts.lookup postId).any (fun post => post.ownerId = ownerId) = true
    · obtain ⟨post, hPost, hOwned⟩ := (Option.any_eq_true _ _).mp hOwner
      obtain rfl : post.ownerId = ownerId := of_decide_eq_true hOwned
      rw [postDashboard_eq hKept hPost, postDashboard_eq hKept hPost]
      have hRows := @platformRow_congr (publishedJobs db postId) (newestOf db tables')
        (newestOf db tables) fun job hJob => (newestOf_congr hKept hSame hJob).symm
      rw [hRows]
    · simp only [AnalyticsService.postDashboard, PgAnalyticsRepository.postDashboard,
        if_neg hOwner]

theorem campaignSums_eq : campaignSums db tables campaignId =
    byPlatform (((campaignPosts db campaignId).flatMap (publishedJobs db)).map fun job =>
      (job, newestOf db tables job.id)) :=
  congrArg byPlatform (withLatest_eq _ db tables _)

/-- The sum of a metric over the jobs of a campaign is among its sums, where there is one. -/
theorem total_lt {platform : SocialPlatform} {metric : StandardMetric} {total : Nat}
    (hSmall : ∀ sums ∈ campaignSums db tables campaignId, ∀ metric total,
      sums.standard metric = some total → total < 2 ^ 53)
    (hTotal : aggregate (· + ·) ((((campaignPosts db campaignId).flatMap (publishedJobs db)).filter
      fun job => job.platform = platform).map (metricOf (newestOf db tables) metric)) =
        some total) : total < 2 ^ 53 := by
  have hMem : platform ∈ ((campaignPosts db campaignId).flatMap (publishedJobs db)).map
      SocialPublishJob.platform := by
    by_contra hNone
    have hValues : ∀ value ∈ (((campaignPosts db campaignId).flatMap (publishedJobs db)).filter
        fun job => job.platform = platform).map (metricOf (newestOf db tables) metric),
          value = none := by
      intro value hValue
      obtain ⟨job, hJob, -⟩ := List.mem_map.mp hValue
      obtain ⟨hJob, hPlatform⟩ := List.mem_filter.mp hJob
      exact absurd (List.mem_map.mpr ⟨job, hJob, of_decide_eq_true hPlatform⟩) hNone
    rw [(aggregate_eq_none _).mpr hValues] at hTotal
    injection hTotal
  obtain ⟨sums, hSums, rfl⟩ := @exists_mem_byPlatform _ (newestOf db tables) _ hMem
  refine hSmall sums (campaignSums_eq ▸ hSums) metric total ?_
  rw [of_mem_byPlatform hSums, platformSums_standard]
  exact hTotal

/-- **The sum over the posts.** Sums below 2^53 reach the service as they are. -/
theorem platformRow_posts {platform : SocialPlatform}
    (hSmall : ∀ sums ∈ campaignSums db tables campaignId, ∀ metric total,
      sums.standard metric = some total → total < 2 ^ 53) (metric : StandardMetric) :
    (platformRow ((campaignPosts db campaignId).flatMap (publishedJobs db))
        (newestOf db tables) platform).standard metric =
      aggregate (· + ·) ((campaignPosts db campaignId).map fun postId =>
        (platformRow (publishedJobs db postId) (newestOf db tables) platform).standard metric) := by
  have hTotal := fun total => @total_lt db tables campaignId platform metric total hSmall
  rw [platformRow_standard]
  rw [aggregate_posts (α := Nat) (· + ·)] at hTotal ⊢
  rw [toNumber_aggregate hTotal, List.map_map]
  refine congrArg (aggregate _) (List.map_congr_left fun postId _ => ?_)
  exact (platformRow_standard metric).symm

theorem capturedAt_posts {platform : SocialPlatform} :
    (platformRow ((campaignPosts db campaignId).flatMap (publishedJobs db))
        (newestOf db tables) platform).capturedAt =
      aggregate JsDate.later ((campaignPosts db campaignId).map fun postId =>
        (platformRow (publishedJobs db postId) (newestOf db tables) platform).capturedAt) := by
  rw [platformRow_capturedAt, aggregate_posts]
  refine congrArg (aggregate _) (List.map_congr_left fun postId _ => ?_)
  exact platformRow_capturedAt.symm

theorem platformRow_total {platform : SocialPlatform}
    (hSmall : ∀ sums ∈ campaignSums db tables campaignId, ∀ metric total,
      sums.standard metric = some total → total < 2 ^ 53) (metric : StandardMetric) :
    ((platformRow ((campaignPosts db campaignId).flatMap (publishedJobs db))
          (newestOf db tables) platform).standard metric).getD 0 =
        ((campaignPosts db campaignId).map fun postId =>
          ((platformRow (publishedJobs db postId) (newestOf db tables) platform).standard
            metric).getD 0).sum ∧
      ((platformRow ((campaignPosts db campaignId).flatMap (publishedJobs db))
          (newestOf db tables) platform).standard metric = none ↔
        ∀ postId ∈ campaignPosts db campaignId,
          (platformRow (publishedJobs db postId) (newestOf db tables) platform).standard metric =
            none) := by
  rw [platformRow_posts hSmall]
  constructor
  · rw [getD_aggregate_add, List.map_map]
    rfl
  · rw [aggregate_eq_none, List.forall_mem_map]

theorem JsDate.value_injective : Function.Injective JsDate.value := by
  rintro ⟨a, ha⟩ ⟨b, hb⟩ h
  dsimp only at h
  subst h
  rfl

theorem capturedAt_greatest {platform : SocialPlatform} {date : JsDate} :
    (platformRow ((campaignPosts db campaignId).flatMap (publishedJobs db))
        (newestOf db tables) platform).capturedAt = some date ↔
      (∃ postId ∈ campaignPosts db campaignId,
        (platformRow (publishedJobs db postId) (newestOf db tables) platform).capturedAt =
          some date) ∧
      ∀ postId ∈ campaignPosts db campaignId, ∀ other,
        (platformRow (publishedJobs db postId) (newestOf db tables) platform).capturedAt =
          some other → other.value ≤ date.value := by
  rw [capturedAt_posts]
  refine (aggregate_greatest JsDate.value_injective).trans (and_congr List.mem_map ?_)
  constructor
  · intro h postId hPost other hOther
    exact h other (List.mem_map.mpr ⟨postId, hPost, hOther⟩)
  · intro h other hOther
    obtain ⟨postId, hPost, hOther⟩ := List.mem_map.mp hOther
    exact h postId hPost other hOther

/-- The published jobs of a post on a platform. -/
def jobsOn (db : Database) (postId : PostId) (platform : SocialPlatform) : List SocialPublishJob :=
  (publishedJobs db postId).filter fun job => job.platform = platform

/-- A row of a post is made of the newest snapshots of its jobs: the sums of their metrics, each
absent where all of them lack it, and the latest of their dates. -/
structure SumsNewest (db : Database) (tables : AnalyticsTables)
    (newest : JobId → Option StoredMetric) (postId : PostId) (platform : SocialPlatform)
    (row : CampaignPlatformAnalytics) : Prop where
  isNewest : ∀ job ∈ jobsOn db postId platform, ∀ stored,
    newest job.id = some stored ↔ IsNewest tables job.id stored
  total : ∀ metric, (row.standard metric).getD 0 = ((jobsOn db postId platform).map fun job =>
    ((newest job.id).bind fun stored => stored.2.standard metric).getD 0).sum
  absent : ∀ metric, row.standard metric = none ↔ ∀ job ∈ jobsOn db postId platform,
    (newest job.id).bind (fun stored => stored.2.standard metric) = none
  capturedAt : ∀ date, row.capturedAt = some date ↔
    (∃ job ∈ jobsOn db postId platform, ∃ stored, newest job.id = some stored ∧
      stored.2.capturedAt = date) ∧
    ∀ job ∈ jobsOn db postId platform, ∀ stored, newest job.id = some stored →
      stored.2.capturedAt.value ≤ date.value

/-- The sum of a metric over the jobs of one post is no greater than that of the campaign. -/
theorem post_total_lt {platform : SocialPlatform} {metric : StandardMetric} {total : Nat}
    (hSmall : ∀ sums ∈ campaignSums db tables campaignId, ∀ metric total,
      sums.standard metric = some total → total < 2 ^ 53)
    (hPost : postId ∈ campaignPosts db campaignId)
    (hTotal : aggregate (· + ·) ((jobsOn db postId platform).map
      (metricOf (newestOf db tables) metric)) = some total) : total < 2 ^ 53 := by
  have hWhole := fun whole => @total_lt db tables campaignId platform metric whole hSmall
  rw [aggregate_posts (α := Nat) (· + ·)] at hWhole
  have hMem : some total ∈ (campaignPosts db campaignId).map fun postId =>
      aggregate (· + ·) (((publishedJobs db postId).filter fun job => job.platform = platform).map
        (metricOf (newestOf db tables) metric)) :=
    List.mem_map.mpr ⟨postId, hPost, hTotal⟩
  cases hSum : aggregate (· + ·) ((campaignPosts db campaignId).map fun postId =>
      aggregate (· + ·) (((publishedJobs db postId).filter fun job => job.platform = platform).map
        (metricOf (newestOf db tables) metric))) with
  | none => exact absurd ((aggregate_eq_none _).mp hSum _ hMem) (by simp)
  | some whole => exact (le_of_aggregate_add hSum hMem).trans_lt (hWhole whole hSum)

/-- **The row of a post.** -/
theorem platformRow_sumsNewest (hKept : SocialPostsKept db)
    (hSmall : ∀ sums ∈ campaignSums db tables campaignId, ∀ metric total,
      sums.standard metric = some total → total < 2 ^ 53)
    (hPost : postId ∈ campaignPosts db campaignId) (platform : SocialPlatform) :
    SumsNewest db tables (fun jobId => (newestOf db tables jobId).map Prod.snd) postId platform
      (platformRow (publishedJobs db postId) (newestOf db tables) platform) := by
  have hStandard : ∀ metric, (platformRow (publishedJobs db postId) (newestOf db tables)
      platform).standard metric = aggregate (· + ·) ((jobsOn db postId platform).map
        (metricOf (newestOf db tables) metric)) := by
    intro metric
    have hTotal := fun total => @post_total_lt _ _ _ _ platform metric total hSmall hPost
    rw [platformRow_standard]
    cases hSum : aggregate (· + ·) ((jobsOn db postId platform).map
        (metricOf (newestOf db tables) metric)) with
    | none => exact congrArg (Option.map toNumber) hSum
    | some total =>
      refine (congrArg (Option.map toNumber) hSum).trans ?_
      rw [Option.map_some, toNumber_of_small (hTotal total hSum)]
  have hValue : ∀ (metric : StandardMetric) (job : SocialPublishJob),
      ((newestOf db tables job.id).map Prod.snd).bind (fun stored => stored.2.standard metric) =
        metricOf (newestOf db tables) metric job := by
    intro metric job
    rw [Option.bind_map]
    rfl
  have hDate : ∀ (job : SocialPublishJob) (date : JsDate),
      capturedAtOf (newestOf db tables) job = some date ↔ ∃ stored,
        (newestOf db tables job.id).map Prod.snd = some stored ∧ stored.2.capturedAt = date := by
    intro job date
    rw [← Option.map_eq_some_iff, Option.map_map]
    rfl
  constructor
  case isNewest =>
    intro job hJob stored
    obtain ⟨hRow, -, hStatus⟩ := mem_publishedJobs (List.mem_of_mem_filter hJob)
    obtain ⟨entry, hEntry, -⟩ := hKept job.id job hRow hStatus
    rw [Option.map_eq_some_iff]
    constructor
    · rintro ⟨x, hFound, rfl⟩
      exact ((latestOf_eq_some hEntry rfl).mp hFound).2
    · intro hIs
      exact ⟨(job.id, stored), (latestOf_eq_some hEntry rfl).mpr ⟨rfl, hIs⟩, rfl⟩
  case total =>
    intro metric
    rw [hStandard, getD_aggregate_add, List.map_map]
    refine congrArg List.sum (List.map_congr_left fun job _ => ?_)
    rw [hValue]
    rfl
  case absent =>
    intro metric
    rw [hStandard, aggregate_eq_none, List.forall_mem_map]
    refine forall₂_congr fun job _ => ?_
    rw [hValue]
  case capturedAt =>
    intro date
    rw [platformRow_capturedAt]
    refine (aggregate_greatest JsDate.value_injective).trans (and_congr ?_ ?_)
    · rw [List.mem_map]
      exact exists_congr fun job => and_congr_right fun _ => hDate job date
    · constructor
      · intro h job hJob stored hStored
        exact h _ (List.mem_map.mpr ⟨job, hJob, (hDate job _).mpr ⟨stored, hStored, rfl⟩⟩)
      · intro h other hOther
        obtain ⟨job, hJob, hOther⟩ := List.mem_map.mp hOther
        obtain ⟨stored, hStored, rfl⟩ := (hDate job other).mp hOther
        exact h job hJob stored hStored

end Dashboards

/-- **The two dashboards agree.** Whatever was published and collected, the row of a post sums up
the newest snapshots of its published jobs, and the campaign's row of a platform holds the sums of
the rows of its posts, a metric being absent where all of them lack it, and the latest of their
dates; and only the newest snapshots matter to either. -/
theorem dashboards_agree {cfg : Config} {s : AnalyticsState}
    (hReach : Reachable (analyticsSystem cfg) anyStep s) {ownerId : UserId}
    {campaignId : CampaignId}
    (hOwner : s.publishing.db.campaigns.lookup campaignId = some ownerId)
    (hSmall : ∀ sums ∈ campaignSums s.publishing.db s.tables campaignId, ∀ metric total,
      sums.standard metric = some total → total < 2 ^ 53) :
    ∃ (row : SocialPlatform → CampaignPlatformAnalytics)
      (postRow : PostId → SocialPlatform → CampaignPlatformAnalytics),
      (∀ platform, (row platform).platform = platform ∧
        ∀ postId, (postRow postId platform).platform = platform) ∧
      AnalyticsService.campaignDashboard ownerId campaignId s.publishing.db s.tables =
        .ok (AnalyticsService.SOCIAL_PLATFORMS.map row) ∧
      (∀ postId post, s.publishing.db.posts.lookup postId = some post →
        AnalyticsService.postDashboard post.ownerId postId s.publishing.db s.tables =
          .ok (AnalyticsService.SOCIAL_PLATFORMS.map (postRow postId))) ∧
      (∀ platform metric, ((row platform).standard metric).getD 0 =
          ((campaignPosts s.publishing.db campaignId).map fun postId =>
            ((postRow postId platform).standard metric).getD 0).sum ∧
        ((row platform).standard metric = none ↔
          ∀ postId ∈ campaignPosts s.publishing.db campaignId,
            (postRow postId platform).standard metric = none)) ∧
      (∀ platform date, (row platform).capturedAt = some date ↔
        (∃ postId ∈ campaignPosts s.publishing.db campaignId,
            (postRow postId platform).capturedAt = some date) ∧
          ∀ postId ∈ campaignPosts s.publishing.db campaignId, ∀ other,
          (postRow postId platform).capturedAt = some other → other.value ≤ date.value) ∧
      (∃ newest, ∀ postId ∈ campaignPosts s.publishing.db campaignId, ∀ platform,
        SumsNewest s.publishing.db s.tables newest postId platform (postRow postId platform)) ∧
      ∀ tables, SameNewest s.publishing.db s.tables tables → ∀ ownerId campaignId postId,
        AnalyticsService.campaignDashboard ownerId campaignId s.publishing.db tables =
            AnalyticsService.campaignDashboard ownerId campaignId s.publishing.db s.tables ∧
          AnalyticsService.postDashboard ownerId postId s.publishing.db tables =
            AnalyticsService.postDashboard ownerId postId s.publishing.db s.tables := by
  have hKept := socialPostsKept hReach
  exact ⟨_, fun postId => platformRow (publishedJobs s.publishing.db postId) _,
    fun platform => ⟨rfl, fun _ => rfl⟩, campaignDashboard_eq hOwner,
    fun postId post hPost => postDashboard_eq hKept hPost,
    fun platform metric => platformRow_total hSmall metric,
    fun platform date => capturedAt_greatest,
    ⟨_, fun postId hPost platform => platformRow_sumsNewest hKept hSmall hPost platform⟩,
    fun tables hSame => dashboards_of_sameNewest hKept hSame⟩

namespace Installation

/-- Job 1 is published and read once: five of each metric. -/
def collected : List AnalyticsEvent :=
  claimed ++ [.provider 0 (.ok { snapshot with standard := fun _ => some 5 }), collectorCall 0]

/-- Two posts of one campaign are published on one platform. -/
def publishedTwo : List Event :=
  publishedOnce ++ [.user (.create 100 ⟨200, content, [⟨.x, 300⟩], 2000⟩),
    .user (.schedule 100 3 (some 2000) 1 1000), .tick 1000, .process 4 30000 1 none, call 1, call 1,
    .publish 1 2000, .adapterReturns 1 (.ok ⟨"6", none, 2000⟩) 2000, call 1, call 1]

def secondMetric : MetricId := ⟨"00000000-0000-4000-8000-000000000002".toList, by decide⟩
def thirdMetric : MetricId := ⟨"00000000-0000-4000-8000-000000000003".toList, by decide⟩
def fourthMetric : MetricId := ⟨"00000000-0000-4000-8000-000000000004".toList, by decide⟩

/-- A collector reads `count` of each metric and saves them. -/
def reads (i count : Nat) (capturedAt : JsDate) (metricId : MetricId) : List AnalyticsEvent :=
  [.provider i (.ok { snapshot with standard := fun _ => some count, capturedAt }),
    .repository i .returned [] metricId]

/-- Each of the two jobs is read twice: the first from 5 to 7, the second from 2 to 4. -/
def collectedTwice : List AnalyticsEvent :=
  publishedTwo.map .publishing ++ [.collect 3600000 5000 50, collectorCall 0] ++
    reads 0 5 snapshot.capturedAt firstMetric ++ reads 0 2 snapshot.capturedAt secondMetric ++
    [.publishing (.tick 4000000), .collect 3600000 5000 50, collectorCall 1] ++
    reads 1 7 ⟨4002000, by decide⟩ thirdMetric ++ reads 1 4 ⟨4002000, by decide⟩ fourthMetric

/-- The likes that a dashboard shows for X. -/
def showsLikes (count : Nat) :
    Except ServiceError (List CampaignPlatformAnalytics) → Bool
  | .ok rows => rows.any fun row => row.platform = .x && row.standard .likes = some count
  | .error _ => false

theorem likes_of_shows {count : Nat} {row : SocialPlatform → CampaignPlatformAnalytics}
    (hPlatform : ∀ platform, (row platform).platform = platform)
    (h : showsLikes count (.ok (AnalyticsService.SOCIAL_PLATFORMS.map row)) = true) :
    (row .x).standard .likes = some count := by
  obtain ⟨_, hMem, hRow⟩ := List.any_eq_true.mp h
  obtain ⟨platform, -, rfl⟩ := List.mem_map.mp hMem
  obtain ⟨hX, hLikes⟩ := Bool.and_eq_true_iff.mp hRow
  have hSame : platform = .x := (hPlatform platform).symm.trans (of_decide_eq_true hX)
  exact hSame ▸ of_decide_eq_true hLikes

/-- The campaign has the two posts, whose dashboards show 7 and 4, and its sums are exact. -/
def readyForDashboards (s : AnalyticsState) : Bool :=
  s.publishing.db.campaigns.lookup 200 = some 100 &&
    (campaignPosts s.publishing.db 200 = [3, 0] &&
      ([0, 3].all fun id => (s.publishing.db.posts.lookup id).any fun post => post.ownerId = 100) &&
      (showsLikes 7 (AnalyticsService.postDashboard 100 0 s.publishing.db s.tables) &&
        showsLikes 4 (AnalyticsService.postDashboard 100 3 s.publishing.db s.tables)) &&
      (campaignSums s.publishing.db s.tables 200).all fun sums =>
        [.impressions, .reach, .views, .likes, .comments, .shares, .reposts, .clicks].all
          fun metric => (sums.standard metric).all fun total => total < 2 ^ 53)

end Installation

/-- Two posts with two snapshots each: the campaign's row sums up the newer ones. -/
theorem dashboards_agree_collected :
    ∃ (s : AnalyticsState) (row : SocialPlatform → CampaignPlatformAnalytics)
      (postRow : PostId → SocialPlatform → CampaignPlatformAnalytics)
      (newest : JobId → Option StoredMetric),
      AnalyticsService.campaignDashboard 100 200 s.publishing.db s.tables =
          .ok (AnalyticsService.SOCIAL_PLATFORMS.map row) ∧
        (∀ postId ∈ [0, 3], AnalyticsService.postDashboard 100 postId s.publishing.db s.tables =
            .ok (AnalyticsService.SOCIAL_PLATFORMS.map (postRow postId)) ∧
          SumsNewest s.publishing.db s.tables newest postId .x (postRow postId .x)) ∧
        (postRow 0 .x).standard .likes = some 7 ∧ (postRow 3 .x).standard .likes = some 4 ∧
        ((row .x).standard .likes).getD 0 = 11 := by
  obtain ⟨s, hReach, hReady⟩ := exists_reachable_of_run
    (analyticsSystem (Installation.config false false)) anyStep Installation.readyForDashboards
    Installation.collectedTwice (Installation.startAnalytics_initial _).1 (by decide +kernel)
  simp only [Installation.readyForDashboards, Bool.and_eq_true, decide_eq_true_eq,
    List.all_eq_true] at hReady
  obtain ⟨hOwner, ⟨⟨hPosts, hOwned⟩, hSeven, hFour⟩, hSmall⟩ := hReady
  have hSums : ∀ sums ∈ campaignSums s.publishing.db s.tables 200, ∀ metric total,
      sums.standard metric = some total → total < 2 ^ 53 := by
    intro sums hMem metric total hTotal
    have hBound := hSmall sums hMem metric (by cases metric <;> simp)
    rw [hTotal] at hBound
    exact of_decide_eq_true hBound
  obtain ⟨row, postRow, hPlatforms, hCampaign, hDashboards, hTotals, -, ⟨newest, hNewest⟩, -⟩ :=
    dashboards_agree hReach hOwner hSums
  have hDashboard : ∀ postId ∈ [0, 3],
      AnalyticsService.postDashboard 100 postId s.publishing.db s.tables =
        .ok (AnalyticsService.SOCIAL_PLATFORMS.map (postRow postId)) := by
    intro postId hMem
    obtain ⟨post, hPost, hOwner⟩ := (Option.any_eq_true _ _).mp (hOwned postId hMem)
    exact of_decide_eq_true hOwner ▸ hDashboards postId post hPost
  rw [hDashboard 0 (by decide)] at hSeven
  rw [hDashboard 3 (by decide)] at hFour
  have hFirst := Installation.likes_of_shows (fun platform => (hPlatforms platform).2 0) hSeven
  have hSecond := Installation.likes_of_shows (fun platform => (hPlatforms platform).2 3) hFour
  refine ⟨s, row, postRow, newest, hCampaign, fun postId hMem => ⟨hDashboard postId hMem,
    hNewest postId ?_ .x⟩, hFirst, hSecond, ?_⟩
  · rw [hPosts]
    revert postId
    decide
  · rw [(hTotals .x .likes).1, hPosts]
    show ((postRow 3 .x).standard .likes).getD 0 +
      (((postRow 0 .x).standard .likes).getD 0 + 0) = 11
    rw [hFirst, hSecond]
    rfl

end SocialPromotion
