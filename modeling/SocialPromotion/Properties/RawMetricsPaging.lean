import SocialPromotion.Lib.Paging
import SocialPromotion.Model.RawMetrics
import SocialPromotion.Properties.Dashboards

/-!
# Raw metrics, page by page

A client asks for the raw metrics of a campaign and follows `nextCursor` until it is null, while
snapshots are being collected.

* `raw_metrics_complete`: the pages hold every matching snapshot once, from the newest to the
  oldest, whatever is collected above the cursor in the meantime.
-/

namespace SocialPromotion

open LTS Paging PgAnalyticsRepository AnalyticsService

/-! ## The cursor comes back -/

section Classes

variable {classes classes' : List (Char → Bool)} {text : Text} {p q : Char → Bool}

theorem matchesClasses_iff : matchesClasses classes text = true ↔
    List.Forall₂ (fun p c => p c = true) classes text := by
  rw [matchesClasses, Bool.and_eq_true, decide_eq_true_eq, List.forall₂_iff_zip,
    List.all_eq_true]
  exact and_congr_right fun _ => ⟨fun h a b hMem => h (a, b) hMem, fun h e hMem => h hMem⟩

/-- Every class lets the characters of the other one pass. -/
def Weaker (classes classes' : List (Char → Bool)) : Prop :=
  List.Forall₂ (fun p q => ∀ c, p c = true → q c = true) classes classes'

theorem Weaker.matchesClasses (h : Weaker classes classes')
    (hText : matchesClasses classes text = true) : matchesClasses classes' text = true := by
  rw [matchesClasses_iff] at hText ⊢
  induction h generalizing text with
  | nil => exact hText
  | cons hClass _ ih =>
    cases hText with
    | cons hc hRest => exact .cons (hClass _ hc) (ih hRest)

theorem weaker_repeated (h : ∀ c, p c = true → q c = true) (n : Nat) :
    Weaker (repeated n p) (repeated n q) := by
  induction n with
  | zero => exact .nil
  | succ n ih => exact .cons h ih

theorem Weaker.append {more more' : List (Char → Bool)} (h : Weaker classes classes')
    (hMore : Weaker more more') : Weaker (classes ++ more) (classes' ++ more') :=
  List.rel_append h hMore

theorem forall_of_matches_repeated {n : Nat} (h : matchesClasses (repeated n p) text = true) :
    ∀ c ∈ text, p c = true := by
  rw [matchesClasses_iff] at h
  induction n generalizing text with
  | zero =>
    cases h
    exact List.forall_mem_nil _
  | succ n ih =>
    cases h with
    | cons hc hRest => exact List.forall_mem_cons.mpr ⟨hc, ih hRest⟩

end Classes

/-- The characters of a stored uuid. -/
def isUuidChar (c : Char) : Bool := isHexDigit c || c = '-'

theorem uuidChar_of_hexDigit {c : Char} (h : isHexDigit c = true) : isUuidChar c = true := by
  rw [isUuidChar, h, Bool.true_or]

theorem uuidChar_of_hyphen {c : Char} (h : isHyphen c = true) : isUuidChar c = true := by
  rw [isUuidChar, show decide (c = '-') = true from h, Bool.or_true]

theorem uuidV4_weaker_uuidChar : Weaker uuidV4Classes (repeated 36 isUuidChar) := by
  have hHex := weaker_repeated (fun c => @uuidChar_of_hexDigit c)
  have hFour : ∀ c : Char, decide (c = '4') = true → isUuidChar c = true := by
    intro c hc
    rw [of_decide_eq_true hc]
    rfl
  have hVariant : ∀ c : Char,
      (decide (c = '8') || decide (c = '9') || decide (c = 'a') || decide (c = 'b')) = true →
        isUuidChar c = true := by
    intro c hc
    simp only [Bool.or_eq_true, decide_eq_true_eq] at hc
    rcases hc with ((rfl | rfl) | rfl) | rfl <;> rfl
  exact ((((hHex 8).append (.cons (fun c => uuidChar_of_hyphen) (hHex 4))).append
    (.cons (fun c => uuidChar_of_hyphen) (.cons hFour (hHex 3)))).append
    (.cons (fun c => uuidChar_of_hyphen) (.cons hVariant (hHex 3)))).append
    (.cons (fun c => uuidChar_of_hyphen) (hHex 12))

/-- What the database draws passes the test of `decodeCursor`. -/
theorem uuidV4_weaker_metricId : Weaker uuidV4Classes metricIdClasses := by
  have hAnyCase : ∀ c, isHexDigit c = true → isHexDigitAnyCase c = true := by
    intro c hc
    rw [isHexDigitAnyCase, hc, Bool.true_or]
  have hHex := weaker_repeated hAnyCase
  have hFour : ∀ c : Char, decide (c = '4') = true →
      (decide ('1' ≤ c) && decide (c ≤ '5')) = true := by
    intro c hc
    rw [of_decide_eq_true hc]
    rfl
  have hVariant : ∀ c : Char,
      (decide (c = '8') || decide (c = '9') || decide (c = 'a') || decide (c = 'b')) = true →
        (decide (c = '8') || decide (c = '9') || decide (c = 'a') || decide (c = 'b') ||
          decide (c = 'A') || decide (c = 'B')) = true := by
    intro c hc
    rw [hc]
    rfl
  exact ((((hHex 8).append (.cons (fun c => id) (hHex 4))).append
    (.cons (fun c => id) (.cons hFour (hHex 3)))).append
    (.cons (fun c => id) (.cons hVariant (hHex 3)))).append (.cons (fun c => id) (hHex 12))

theorem toNat_of_uuidChar {c : Char} (h : isUuidChar c = true) :
    c.toNat = 45 ∨ 48 ≤ c.toNat ∧ c.toNat ≤ 57 ∨ 97 ≤ c.toNat ∧ c.toNat ≤ 102 := by
  simp only [isUuidChar, isHexDigit, Bool.or_eq_true, Bool.and_eq_true, decide_eq_true_eq,
    Char.isDigit, Char.le_def, ge_iff_le, UInt32.le_iff_toNat_le] at h
  rcases h with (h | h) | rfl
  · exact Or.inr (Or.inl h)
  · exact Or.inr (Or.inr h)
  · exact Or.inl rfl

theorem plain_of_uuidChar {c : Char} (h : isUuidChar c = true) : JsonText.isPlain c = true := by
  have hNat := toNat_of_uuidChar h
  have hQuote : c ≠ '"' := fun hc => absurd (hc ▸ hNat) (by decide)
  have hSlash : c ≠ '\\' := fun hc => absurd (hc ▸ hNat) (by decide)
  simp only [JsonText.isPlain, Bool.and_eq_true, decide_eq_true_eq]
  exact ⟨⟨⟨by omega, by omega⟩, hQuote⟩, hSlash⟩

theorem toLower_of_uuidChar {c : Char} (h : isUuidChar c = true) : c.toLower = c := by
  have hNat := toNat_of_uuidChar h
  unfold Char.toLower
  refine dif_neg ?_
  rintro ⟨hLow, hHigh⟩
  rw [ge_iff_le, UInt32.le_iff_toNat_le] at hLow
  rw [UInt32.le_iff_toNat_le] at hHigh
  have hValue : c.val.toNat = c.toNat := rfl
  have hA : 'A'.val.toNat = 65 := rfl
  have hZ : 'Z'.val.toNat = 90 := rfl
  omega

theorem MetricId.uuidChars (metricId : MetricId) : ∀ c ∈ metricId.text, isUuidChar c = true :=
  forall_of_matches_repeated (uuidV4_weaker_uuidChar.matchesClasses metricId.isUuid)

theorem MetricId.toLower_text (metricId : MetricId) :
    metricId.text.map Char.toLower = metricId.text :=
  (List.map_congr_left fun c hc => toLower_of_uuidChar (metricId.uuidChars c hc)).trans
    (List.map_id' _)

theorem plain_toISOString (t : Int) : JsonText.IsPlain (IsoDate.toISOString t) := by
  intro c hc
  rcases IsoDate.dateChar_of_mem_toISOString hc with hDigit | hSign
  · exact plain_of_uuidChar (uuidChar_of_hexDigit (by rw [isHexDigit, hDigit, Bool.true_or]))
  · simp only [List.mem_cons, List.not_mem_nil, or_false] at hSign
    rcases hSign with rfl | rfl | rfl | rfl | rfl | rfl <;> rfl

/-- **The cursor comes back**, whatever the engine does with other texts. -/
theorem decodeCursor_encodeCursor (engine : Engine) (capturedAt : JsDate) (metricId : MetricId) :
    decodeCursor engine (encodeCursor ⟨capturedAt, metricId.text⟩) =
      .ok ⟨capturedAt, metricId.text⟩ := by
  have hMembers : ∀ e ∈ [("capturedAt".toList, IsoDate.toISOString capturedAt.value),
      ("metricId".toList, metricId.text)], JsonText.IsPlain e.1 ∧ JsonText.IsPlain e.2 := by
    have hNames : JsonText.IsPlain "capturedAt".toList ∧ JsonText.IsPlain "metricId".toList :=
      ⟨List.all_eq_true.mp rfl, List.all_eq_true.mp rfl⟩
    rw [List.forall_mem_cons, List.forall_mem_singleton]
    exact ⟨⟨hNames.1, plain_toISOString _⟩, hNames.2, fun c hc =>
      plain_of_uuidChar (metricId.uuidChars c hc)⟩
  have hDate : AnalyticsService.newDate engine (IsoDate.toISOString capturedAt.value) = some capturedAt := by
    rw [AnalyticsService.newDate, IsoDate.parse_toISOString capturedAt.inRange]
    exact dif_pos capturedAt.inRange
  have hClasses : matchesClasses metricIdClasses metricId.text = true :=
    uuidV4_weaker_metricId.matchesClasses metricId.isUuid
  have hRead : readCursor engine (encodeCursor ⟨capturedAt, metricId.text⟩) =
      some ⟨capturedAt, metricId.text⟩ := by
    unfold readCursor encodeCursor
    dsimp only
    rw [Base64url.decode?_encode, Option.getD_some, Utf8.decode_encode,
      JsonText.parse_stringify (List.cons_ne_nil _ _) hMembers]
    have hFirst : ∀ date : Text, stringProperty [("capturedAt".toList, .string date),
        ("metricId".toList, .string metricId.text)] "capturedAt" = some date := fun _ => rfl
    have hSecond : ∀ date : Text, stringProperty [("capturedAt".toList, .string date),
        ("metricId".toList, .string metricId.text)] "metricId" = some metricId.text := fun _ => rfl
    simp only [List.map_cons, List.map_nil, Option.bind_eq_bind, Option.bind_some, hFirst, hSecond,
      hDate, hClasses, guard]
    rfl
  rw [decodeCursor, hRead]

theorem encodeCursor_ne_nil (capturedAt : JsDate) (metricId : MetricId) :
    encodeCursor ⟨capturedAt, metricId.text⟩ ≠ [] := by
  intro hNil
  have hBack := decodeCursor_encodeCursor ⟨fun _ => [], fun _ => none⟩ capturedAt metricId
  rw [hNil] at hBack
  cases hBack

/-! ## The matching snapshots -/

/-- `(captured_at, id)` of a row of the join. -/
def rowKey (row : SocialPostRow × StoredMetric) : ℤ ×ₗ Text := metricKey row.2

/-- The cursor of a row. -/
def cursorOf (row : SocialPostRow × StoredMetric) : RawMetricsCursor :=
  ⟨row.2.2.capturedAt, row.2.1.text⟩

theorem cursorKey_cursorOf (row : SocialPostRow × StoredMetric) :
    cursorKey (cursorOf row) = rowKey row := by
  rw [cursorKey, cursorOf, MetricId.toLower_text]
  rfl

/-- A stored snapshot of a post of the campaign on the platform, with its social post. -/
structure IsMatching (db : Database) (tables : AnalyticsTables) (campaignId : CampaignId)
    (platform : Option SocialPlatform) (row : SocialPostRow × StoredMetric) : Prop where
  stored : row.2 ∈ tables.socialMetrics.entries
  socialPost : db.socialPosts.lookup row.2.2.socialPost = some row.1
  campaign : ∃ post, db.posts.lookup row.1.postId = some post ∧ post.campaignId = campaignId
  onPlatform : ∀ p ∈ platform, row.1.platform = p

section Matching

variable {db : Database} {tables : AnalyticsTables} {campaignId : CampaignId}
  {platform : Option SocialPlatform} {row : SocialPostRow × StoredMetric}

theorem mem_campaignPosts {postId : PostId} : postId ∈ campaignPosts db campaignId ↔
    ∃ post, db.posts.lookup postId = some post ∧ post.campaignId = campaignId := by
  rw [campaignPosts, List.mem_map]
  constructor
  · rintro ⟨⟨id, post⟩, hMem, rfl⟩
    obtain ⟨hMem, hCampaign⟩ := List.mem_filter.mp hMem
    exact ⟨post, AList.mem_lookup_iff.mpr hMem, of_decide_eq_true hCampaign⟩
  · rintro ⟨post, hPost, hCampaign⟩
    exact ⟨⟨postId, post⟩, List.mem_filter.mpr ⟨AList.mem_lookup_iff.mp hPost,
      decide_eq_true hCampaign⟩, rfl⟩

theorem mem_campaignMetrics :
    row ∈ campaignMetrics campaignId platform db tables ↔
      IsMatching db tables campaignId platform row := by
  simp only [campaignMetrics, List.mem_flatMap, List.mem_map, List.mem_filter, decide_eq_true_eq,
    Option.all_eq_true, mem_campaignPosts]
  constructor
  · rintro ⟨postId, hPost, ⟨jobId, entry⟩, ⟨hEntry, rfl, hPlatform⟩, metric, ⟨hMetric, rfl⟩, rfl⟩
    exact ⟨hMetric, AList.mem_lookup_iff.mpr hEntry, hPost, hPlatform⟩
  · rintro ⟨hStored, hEntry, hPost, hPlatform⟩
    exact ⟨_, hPost, ⟨_, row.1⟩, ⟨AList.mem_lookup_iff.mp hEntry, rfl, hPlatform⟩, row.2,
      ⟨hStored, rfl⟩, rfl⟩

/-- A snapshot joins one social post. -/
theorem IsMatching.eq_of_key {other : SocialPostRow × StoredMetric}
    (h : IsMatching db tables campaignId platform row)
    (hOther : IsMatching db tables campaignId platform other) (hKey : rowKey row = rowKey other) :
    row = other := by
  have hMetric : row.2 = other.2 := metric_eq_of_key h.stored hOther.stored hKey
  have hPost := h.socialPost
  rw [hMetric, hOther.socialPost, Option.some.injEq] at hPost
  exact Prod.ext hPost.symm hMetric

theorem nodup_campaignMetrics : (campaignMetrics campaignId platform db tables).Nodup := by
  have hPosts : ((campaignPosts db campaignId).map id).Nodup := by
    rw [List.map_id]
    exact db.posts.nodupKeys.sublist List.filter_sublist
  refine Query.nodup_flatMap_of_origin id (fun row => row.1.postId) hPosts
    (fun postId _ => ?_) (fun postId _ row hRow => ?_)
  · have hEntries : ((db.socialPosts.entries.filter fun socialPost =>
        socialPost.2.postId = postId ∧ platform.all fun p => socialPost.2.platform = p).map
          Sigma.fst).Nodup :=
      db.socialPosts.nodupKeys.sublist List.filter_sublist
    refine Query.nodup_flatMap_of_origin Sigma.fst (fun row => row.2.2.socialPost) hEntries
      (fun socialPost _ => ?_) (fun socialPost _ row hRow => ?_)
    · exact (tables.socialMetrics.nodupKeys.nodup.filter _).map fun _ _ h => congrArg Prod.snd h
    · obtain ⟨metric, hMetric, rfl⟩ := List.mem_map.mp hRow
      exact of_decide_eq_true (List.mem_filter.mp hMetric).2
  · obtain ⟨socialPost, hSocialPost, hRow⟩ := List.mem_flatMap.mp hRow
    obtain ⟨metric, -, rfl⟩ := List.mem_map.mp hRow
    exact (of_decide_eq_true (List.mem_filter.mp hSocialPost).2).1

theorem nodup_rowKeys : ((campaignMetrics campaignId platform db tables).map rowKey).Nodup :=
  nodup_campaignMetrics.map_on fun _ h _ hOther hKey =>
    (mem_campaignMetrics.mp h).eq_of_key (mem_campaignMetrics.mp hOther) hKey

end Matching

/-! ## One page -/

/-- An item shows the platform and the remote id of the social post, the date of the snapshot, and of
its raw metrics those that are numbers and not negative. -/
structure Shows (row : SocialPostRow × StoredMetric) (item : RawMetricsItem) : Prop where
  platform : item.platform = row.1.platform
  remotePostId : item.remotePostId = row.1.remotePostId
  capturedAt : item.capturedAt = row.2.2.capturedAt
  rawMetrics : item.rawMetrics.map (Prod.map id some) =
    row.2.2.rawMetrics.filter fun e => e.2.any fun value => 0 ≤ value

section Page

variable {engine : Engine} {ownerId : UserId} {campaignId : CampaignId} {input : RawMetricsInput}
  {platform : Option SocialPlatform} {limit : Nat} {db : Database} {tables : AnalyticsTables}

/-- What the response shows of a row. -/
def itemOf (row : SocialPostRow × StoredMetric) : RawMetricsItem := toItem (toSnapshot row)

theorem numericRawMetrics_eq (value : RawMetrics) :
    (numericRawMetrics value).map (Prod.map id some) =
      value.filter fun e => e.2.any fun x => 0 ≤ x := by
  induction value with
  | nil => rfl
  | cons e rest ih =>
    obtain ⟨name, reported⟩ := e
    rw [numericRawMetrics] at ih ⊢
    cases reported with
    | none => exact ih
    | some x =>
      by_cases hNonnegative : 0 ≤ x
      · simpa [Option.filter, hNonnegative] using ih
      · simpa [Option.filter, hNonnegative] using ih

theorem shows_itemOf (row : SocialPostRow × StoredMetric) : Shows row (itemOf row) :=
  ⟨rfl, rfl, rfl, numericRawMetrics_eq _⟩

theorem shows_map (rows : List (SocialPostRow × StoredMetric)) :
    List.Forall₂ Shows rows (rows.map itemOf) :=
  List.forall₂_map_right_iff.mpr (List.forall₂_same.mpr fun row _ => shows_itemOf row)

/-- The response that a page of rows makes. -/
def responseOf (campaignId : CampaignId) (limit : Nat)
    (found : List (SocialPostRow × StoredMetric)) : CampaignRawMetricsResponse where
  campaignId := campaignId
  rawMetrics := (found.take limit).map itemOf
  nextCursor :=
    if limit < found.length then
      (found.take limit).getLast?.map fun row => encodeCursor (cursorOf row)
    else none

/-- The SELECT is a page of the matching rows below the cursor. -/
theorem rawMetricsRows_eq (query : CampaignRawMetricsQuery) :
    rawMetricsRows campaignId query db tables =
      page rowKey (query.cursor.map cursorKey) (query.limit + 1)
        (campaignMetrics campaignId query.platform db tables) := by
  rw [rawMetricsRows, page, below]
  simp only [Option.all_map]
  rfl

/-- The service answers with the response of the rows. -/
theorem response_eq (found : List (SocialPostRow × StoredMetric)) :
    CampaignRawMetricsResponse.mk campaignId (((found.take limit).map toSnapshot).map toItem)
        (nextCursor ⟨limit < found.length, (found.take limit).map toSnapshot⟩) =
      responseOf campaignId limit found := by
  have hNext : nextCursor ⟨limit < found.length, (found.take limit).map toSnapshot⟩ =
      (responseOf campaignId limit found).nextCursor := by
    rw [nextCursor, responseOf]
    simp only [List.getLast?_map, Option.map_map, decide_eq_true_eq]
    rfl
  rw [hNext, List.map_map]
  rfl

theorem campaignRawMetrics_eq {cursor : Option RawMetricsCursor}
    (hPlatform : parsePlatform input.platform = .ok platform)
    (hLimit : parseLimit input.limit = .ok limit)
    (hCursor : parseCursor engine input.cursor = .ok cursor)
    (hOwner : db.campaigns.lookup campaignId = some ownerId) :
    AnalyticsService.campaignRawMetrics engine ownerId campaignId input db tables =
      .ok (responseOf campaignId limit (page rowKey (cursor.map cursorKey) (limit + 1)
        (campaignMetrics campaignId platform db tables))) := by
  have hQuery : parseRawMetricsQuery engine input = .ok ⟨platform, limit, cursor⟩ := by
    rw [parseRawMetricsQuery, hPlatform, hLimit, hCursor]
    rfl
  have hRows : page rowKey (cursor.map cursorKey) (limit + 1)
      (campaignMetrics campaignId platform db tables) =
        rawMetricsRows campaignId ⟨platform, limit, cursor⟩ db tables :=
    (rawMetricsRows_eq ⟨platform, limit, cursor⟩).symm
  have hPage : PgAnalyticsRepository.campaignRawMetrics ownerId campaignId
      ⟨platform, limit, cursor⟩ db tables =
        some ⟨limit < (rawMetricsRows campaignId ⟨platform, limit, cursor⟩ db tables).length,
          ((rawMetricsRows campaignId ⟨platform, limit, cursor⟩ db tables).take limit).map
            toSnapshot⟩ := if_pos hOwner
  rw [hRows, ← response_eq, AnalyticsService.campaignRawMetrics, hQuery]
  simp only [bind, Except.bind]
  rw [hPage]
  rfl

end Page

/-! ## The client -/

/-- A client between two pages, and the tables. -/
structure RawMetricsReading where
  db : Database
  tables : AnalyticsTables
  nextCursor : Option Text
  responses : List CampaignRawMetricsResponse
  finished : Bool

inductive RawMetricsEvent
  | page
  | change (db : Database) (tables : AnalyticsTables)

section Reading

variable (engine : Engine) (ownerId : UserId) (campaignId : CampaignId) (input : RawMetricsInput)

namespace RawMetricsReading

/-- The client keeps a response and goes on with its cursor. -/
def receive (s : RawMetricsReading) (response : CampaignRawMetricsResponse) : RawMetricsReading :=
  { s with
    nextCursor := response.nextCursor
    responses := s.responses ++ [response]
    finished := response.nextCursor.isNone }

/-- A page with the cursor of the page before it, or the tables as they are later. -/
def step (s : RawMetricsReading) : RawMetricsEvent → Option RawMetricsReading
  | .page =>
    if s.finished then none
    else
      match AnalyticsService.campaignRawMetrics engine ownerId campaignId
        { input with cursor := s.nextCursor } s.db s.tables with
      | .ok response => some (s.receive response)
      | .error _ => none
  | .change db tables => some { s with db := db, tables := tables }

end RawMetricsReading

/-- Following `nextCursor` from the first page until it is null. -/
def readingSystem : System RawMetricsReading RawMetricsEvent where
  Initial s := s.db.campaigns.lookup campaignId = some ownerId ∧ s.nextCursor = none ∧
    s.responses = [] ∧ s.finished = false
  step := RawMetricsReading.step engine ownerId campaignId input

/-- Between two pages only what is newer than the cursor changes. -/
def NewerOnly (platform : Option SocialPlatform) (s : RawMetricsReading) : RawMetricsEvent → Prop
  | .page => True
  | .change db tables =>
    db.campaigns.lookup campaignId = s.db.campaigns.lookup campaignId ∧
      (s.finished = false → ∀ row, (∀ text ∈ s.nextCursor, ∀ cursor,
        decodeCursor engine text = .ok cursor → metricKey row.2 < cursorKey cursor) →
          (IsMatching db tables campaignId platform row ↔
            IsMatching s.db s.tables campaignId platform row))

end Reading

section Changes

variable {engine : Engine} {ownerId : UserId} {campaignId : CampaignId} {input : RawMetricsInput}
  {platform : Option SocialPlatform} {s t : RawMetricsReading}

/-- A snapshot that is stored under a key above the cursor changes nothing below it. -/
theorem newerOnly_saveSnapshot {target : AnalyticsCollectionTarget} {metrics : PostAnalytics}
    {metricId : MetricId} {saved : AnalyticsTables}
    (hSaved : saveSnapshot target metrics metricId s.db s.tables = .ok saved)
    {text : Text} {cursor : RawMetricsCursor} (hText : s.nextCursor = some text)
    (hCursor : decodeCursor engine text = .ok cursor)
    (hNewer : cursorKey cursor ≤ toLex (metrics.capturedAt.value, metricId.text)) :
    NewerOnly engine campaignId platform s (.change s.db saved) := by
  refine ⟨rfl, fun _ row hBelow => ?_⟩
  have hLt : metricKey row.2 < cursorKey cursor := hBelow text hText cursor hCursor
  have hStored : row.2 ∈ saved.socialMetrics.entries ↔ row.2 ∈ s.tables.socialMetrics.entries := by
    obtain ⟨post, id, metric⟩ := row
    unfold saveSnapshot at hSaved
    split at hSaved
    · cases hSaved
    · split at hSaved
      · cases hSaved
      · rename_i hFree
        cases hSaved
        rw [← AList.mem_lookup_iff, ← AList.mem_lookup_iff]
        by_cases hId : id = metricId
        · subst hId
          have hNone : s.tables.socialMetrics.lookup id = none := by
            simpa using hFree
          rw [AList.lookup_insert, hNone]
          constructor
          · rintro ⟨rfl⟩
            exact absurd hLt (not_lt.mpr hNewer)
          · intro h
            cases h
        · rw [AList.lookup_insert_ne hId]
  constructor
  · rintro ⟨hMem, hPost, hCampaign, hPlatform⟩
    exact ⟨hStored.mp hMem, hPost, hCampaign, hPlatform⟩
  · rintro ⟨hMem, hPost, hCampaign, hPlatform⟩
    exact ⟨hStored.mpr hMem, hPost, hCampaign, hPlatform⟩

end Changes

/-! ## The client reads keyset pages -/

/-- A client and the reading of the matching rows that it carries out. -/
structure Carries (ownerId : UserId) (campaignId : CampaignId) (platform : Option SocialPlatform)
    (s : RawMetricsReading) (r : Paging.Reading (SocialPostRow × StoredMetric) (ℤ ×ₗ Text)) :
    Prop where
  owner : s.db.campaigns.lookup campaignId = some ownerId
  rows : r.rows = campaignMetrics campaignId platform s.db s.tables
  cursor : ∃ last : Option (SocialPostRow × StoredMetric),
    s.nextCursor = last.map (fun row => encodeCursor (cursorOf row)) ∧ r.cursor = last.map rowKey
  pages : s.responses.map CampaignRawMetricsResponse.rawMetrics =
    r.pages.map fun items => items.map itemOf
  finished : s.finished = r.finished

section Simulation

variable {engine : Engine} {ownerId : UserId} {campaignId : CampaignId} {input : RawMetricsInput}
  {platform : Option SocialPlatform} {limit : Nat} {s t : RawMetricsReading}
  {r : Paging.Reading (SocialPostRow × StoredMetric) (ℤ ×ₗ Text)}

/-- The cursor of a row is read as that row's key. -/
theorem parseCursor_cursorOf (last : Option (SocialPostRow × StoredMetric)) :
    parseCursor engine (last.map fun row => encodeCursor (cursorOf row)) =
      .ok (last.map cursorOf) := by
  cases last with
  | none => rfl
  | some row =>
    have hGiven : given (some (encodeCursor (cursorOf row))) =
        some (encodeCursor (cursorOf row)) := by
      have hNe : encodeCursor (cursorOf row) ≠ [] := encodeCursor_ne_nil row.2.2.capturedAt row.2.1
      exact Option.filter_eq_some_iff.mpr ⟨rfl, by simpa [List.isEmpty_iff] using hNe⟩
    rw [Option.map_some, parseCursor, hGiven]
    show (decodeCursor engine (encodeCursor (cursorOf row))).map some = _
    rw [cursorOf, decodeCursor_encodeCursor]
    rfl

theorem parseLimit_ok {parameter : Option Text} (h : parseLimit parameter = .ok limit) :
    1 ≤ limit ∧ limit ≤ 100 := by
  unfold parseLimit at h
  split at h
  · cases h
    decide
  · split at h
    · rename_i value hFound
      obtain ⟨-, hBounds⟩ := Option.filter_eq_some_iff.mp hFound
      have hBounds := of_decide_eq_true hBounds
      cases h
      omega
    · cases h

/-- The response of a page carries out the reading of that page. -/
theorem carries_receive (hLimit : 1 ≤ limit) (h : Carries ownerId campaignId platform s r)
    (hOpen : s.finished = false) :
    Carries ownerId campaignId platform
      (s.receive (responseOf campaignId limit (page rowKey r.cursor (limit + 1) r.rows)))
      (r.read rowKey limit) := by
  unfold Paging.Reading.read
  dsimp only
  generalize page rowKey r.cursor (limit + 1) r.rows = found
  have hPages : (s.receive (responseOf campaignId limit found)).responses.map
      CampaignRawMetricsResponse.rawMetrics =
        (r.pages ++ [found.take limit]).map fun items => items.map itemOf := by
    rw [RawMetricsReading.receive, List.map_append, List.map_append, h.pages]
    rfl
  split
  · rename_i hMore
    obtain ⟨row, hRow⟩ : ∃ row, (found.take limit).getLast? = some row := by
      have hNe : found.take limit ≠ [] := by
        rw [Ne, List.take_eq_nil_iff, not_or]
        exact ⟨by omega, List.length_pos_iff.mp (by omega)⟩
      exact ⟨_, List.getLast?_eq_some_getLast hNe⟩
    have hNext : (responseOf campaignId limit found).nextCursor =
        some (encodeCursor (cursorOf row)) := by
      rw [responseOf, if_pos hMore, hRow]
      rfl
    refine ⟨h.owner, h.rows, ⟨some row, hNext, ?_⟩, hPages, ?_⟩
    · rw [hRow]
    · show (responseOf campaignId limit found).nextCursor.isNone = r.finished
      rw [hNext, ← h.finished, hOpen]
      rfl
  · rename_i hMore
    have hNext : (responseOf campaignId limit found).nextCursor = none := if_neg hMore
    refine ⟨h.owner, h.rows, ⟨none, hNext, rfl⟩, hPages, ?_⟩
    show (responseOf campaignId limit found).nextCursor.isNone = true
    rw [hNext]
    rfl

theorem step_page (hPlatform : parsePlatform input.platform = .ok platform)
    (hLimit : parseLimit input.limit = .ok limit) (h : Carries ownerId campaignId platform s r)
    (hOpen : s.finished = false) :
    ∃ t, RawMetricsReading.step engine ownerId campaignId input s .page = some t ∧
      Carries ownerId campaignId platform t (r.read rowKey limit) := by
  refine ⟨_, ?_, carries_receive (parseLimit_ok hLimit).1 h hOpen⟩
  obtain ⟨hOwner, hRows, ⟨last, hNext, hCursor⟩, -, -⟩ := h
  have hKey : (last.map cursorOf).map cursorKey = r.cursor := by
    rw [hCursor, Option.map_map]
    exact congrArg (fun f => last.map f) (funext cursorKey_cursorOf)
  have hResponse := @campaignRawMetrics_eq engine ownerId campaignId
    { input with cursor := s.nextCursor } platform limit s.db s.tables (last.map cursorOf)
    hPlatform hLimit (by rw [hNext]; exact parseCursor_cursorOf last) hOwner
  rw [hKey, ← hRows] at hResponse
  rw [RawMetricsReading.step, hOpen, if_neg Bool.false_ne_true, hResponse]

/-- A change that is newer than the cursor leaves what is still to be read alone. -/
theorem undisturbed_change {db : Database} {tables : AnalyticsTables}
    (h : Carries ownerId campaignId platform s r)
    (hNewer : NewerOnly engine campaignId platform s (.change db tables)) :
    Paging.Reading.Undisturbed rowKey r
      (.change (campaignMetrics campaignId platform db tables)) := by
  obtain ⟨-, hRows, ⟨last, hNext, hCursor⟩, -, hFinished⟩ := h
  refine ⟨nodup_rowKeys, fun hOpen row hBelow => ?_⟩
  rw [hRows, mem_campaignMetrics, mem_campaignMetrics]
  refine hNewer.2 (hFinished.trans hOpen) row fun text hText cursor hDecode => ?_
  rw [hNext] at hText
  obtain ⟨lastRow, hLast, rfl⟩ := Option.map_eq_some_iff.mp hText
  rw [cursorOf, decodeCursor_encodeCursor, Except.ok.injEq] at hDecode
  subst hDecode
  have hKey := cursorKey_cursorOf lastRow
  rw [cursorOf] at hKey
  rw [hKey]
  refine hBelow _ ?_
  rw [hCursor, hLast]
  rfl

/-- **Simulation.** Each step of the client is a step of the reading. -/
theorem carries_step (hPlatform : parsePlatform input.platform = .ok platform)
    (hLimit : parseLimit input.limit = .ok limit) {e : RawMetricsEvent}
    (h : Carries ownerId campaignId platform s r)
    (hNewer : NewerOnly engine campaignId platform s e)
    (hStep : RawMetricsReading.step engine ownerId campaignId input s e = some t) :
    ∃ event u, Paging.Reading.Undisturbed rowKey r event ∧
      Paging.Reading.step rowKey limit r event = some u ∧
        Carries ownerId campaignId platform t u := by
  cases e with
  | page =>
    have hOpen : s.finished = false := by
      rw [RawMetricsReading.step] at hStep
      split at hStep
      · cases hStep
      · rename_i hOpen
        exact Bool.eq_false_of_not_eq_true hOpen
    obtain ⟨t', hStep', hCarries⟩ := step_page hPlatform hLimit h hOpen
    obtain rfl := Option.some.inj (hStep.symm.trans hStep')
    refine ⟨.page, _, trivial, ?_, hCarries⟩
    rw [Paging.Reading.step, ← h.finished, hOpen, if_neg Bool.false_ne_true]
  | change db tables =>
    refine ⟨_, _, undisturbed_change h hNewer, rfl, ?_⟩
    obtain rfl := Option.some.inj hStep
    exact ⟨hNewer.1.trans h.owner, rfl, h.cursor, h.pages, h.finished⟩

theorem carries_run (hPlatform : parsePlatform input.platform = .ok platform)
    (hLimit : parseLimit input.limit = .ok limit)
    (h : Carries ownerId campaignId platform s r)
    (hRun : Steps (readingSystem engine ownerId campaignId input)
      (NewerOnly engine campaignId platform) s t) :
    ∃ u, Steps (Paging.Reading.system rowKey limit) (Paging.Reading.Undisturbed rowKey) r u ∧
      Carries ownerId campaignId platform t u := by
  induction hRun with
  | refl => exact ⟨r, .refl, h⟩
  | tail _ hNewer hStep ih =>
    obtain ⟨u, hRun, hCarries⟩ := ih
    obtain ⟨event, u', hOk, hRead, hCarries⟩ := carries_step hPlatform hLimit hCarries hNewer hStep
    exact ⟨u', hRun.tail hOk hRead, hCarries⟩

/-- The reading that a client begins. -/
theorem carries_start (hStart : (readingSystem engine ownerId campaignId input).Initial s) :
    Carries ownerId campaignId platform s
      ⟨campaignMetrics campaignId platform s.db s.tables, none, [], false⟩ := by
  obtain ⟨hOwner, hNext, hResponses, hOpen⟩ := hStart
  exact ⟨hOwner, rfl, ⟨none, hNext, rfl⟩, by rw [hResponses]; rfl, hOpen⟩

end Simulation

theorem parsePlatform_text (filter : Option SocialPlatform) :
    parsePlatform (filter.map fun platform => platform.text.toList) = .ok filter := by
  match filter with
  | none => rfl
  | some .linkedin | some .facebook | some .instagram | some .threads | some .x => rfl

theorem parseLimit_decimal_all : ∀ n < 101, 1 ≤ n →
    parseLimit (some (Nat.toDigits 10 n)) = .ok n := by decide +kernel

/-- **Raw-metrics paging is complete.** Every platform filter and every limit from 1 to 100 can be
asked for. While a client reads the pages of a campaign, with any
platform filter and any limit, and only what is newer than its cursor changes: it gets no more
pages than the matching snapshots fill and one, each page until the last one is there to be
read, each cursor is read as it was written, and at the end the items show the snapshots that
matched at the first page, each once and in descending order. -/
theorem raw_metrics_complete {engine : Engine} {ownerId : UserId} {campaignId : CampaignId}
    {input : RawMetricsInput} {platform : Option SocialPlatform} {limit : Nat}
    (hPlatform : parsePlatform input.platform = .ok platform)
    (hLimit : parseLimit input.limit = .ok limit) {s t : RawMetricsReading}
    (hStart : (readingSystem engine ownerId campaignId input).Initial s)
    (hRun : Steps (readingSystem engine ownerId campaignId input)
      (NewerOnly engine campaignId platform) s t) :
    (∀ filter n, 1 ≤ n → n ≤ 100 →
      parsePlatform (filter.map fun platform => platform.text.toList) = .ok filter ∧
        parseLimit (some (Nat.toDigits 10 n)) = .ok n) ∧
    ∃ rows : List (SocialPostRow × StoredMetric),
      (∀ row, row ∈ rows ↔ IsMatching s.db s.tables campaignId platform row) ∧
      rows.Pairwise (fun a b => metricKey b.2 < metricKey a.2) ∧
      (∃ read, read <+: rows ∧
        List.Forall₂ Shows read (t.responses.flatMap CampaignRawMetricsResponse.rawMetrics)) ∧
      t.responses.length ≤ rows.length / limit + 1 ∧
      (t.finished = false → ∃ next,
        (readingSystem engine ownerId campaignId input).step t .page = some next) ∧
      (t.finished = true →
        List.Forall₂ Shows rows (t.responses.flatMap CampaignRawMetricsResponse.rawMetrics)) ∧
      (∀ text ∈ t.nextCursor, ∃ cursor,
        text = encodeCursor cursor ∧ decodeCursor engine text = .ok cursor) := by
  obtain ⟨u, hReading, hCarries⟩ := carries_run hPlatform hLimit (carries_start hStart) hRun
  have hPositive := (parseLimit_ok hLimit).1
  have hInitial : (Paging.Reading.system rowKey limit).Initial
      ⟨campaignMetrics campaignId platform s.db s.tables, none, [], false⟩ := ⟨rfl, rfl, rfl⟩
  have hComplete := Paging.Reading.complete hPositive hInitial nodup_rowKeys hReading
  have hPages := Paging.Reading.pages_le hPositive hInitial nodup_rowKeys hReading
  have hItems : t.responses.flatMap CampaignRawMetricsResponse.rawMetrics =
      u.pages.flatten.map itemOf := by
    rw [List.flatMap, hCarries.pages, List.map_flatten]
  refine ⟨fun filter n hLow hHigh =>
      ⟨parsePlatform_text filter, parseLimit_decimal_all n (Nat.lt_succ_of_le hHigh) hLow⟩,
    descending rowKey (campaignMetrics campaignId platform s.db s.tables), fun row => ?_,
    descends_descending nodup_rowKeys, ?_, ?_, fun hOpen => ?_, fun hFinished => ?_,
    fun text hText => ?_⟩
  · rw [mem_descending, mem_campaignMetrics]
  · rw [hItems, ← hComplete]
    exact ⟨u.pages.flatten, List.prefix_append _ _, shows_map _⟩
  · have hCount := congrArg List.length hCarries.pages
    rw [List.length_map, List.length_map] at hCount
    rw [hCount, descending, List.length_insertionSort]
    exact hPages
  · obtain ⟨next, hStep, -⟩ := step_page hPlatform hLimit hCarries hOpen
    exact ⟨next, hStep⟩
  · have hLeft : u.left rowKey = [] := if_pos (hCarries.finished.symm.trans hFinished)
    rw [hItems, ← hComplete, hLeft, List.append_nil]
    exact shows_map _
  · obtain ⟨last, hNext, -⟩ := hCarries.cursor
    rw [hNext] at hText
    obtain ⟨row, -, rfl⟩ := Option.map_eq_some_iff.mp hText
    exact ⟨cursorOf row, rfl, decodeCursor_encodeCursor _ _ _⟩

namespace Installation

/-- What an engine of no use does. -/
def plainEngine : Engine := ⟨fun _ => [], fun _ => none⟩

/-- One snapshot of X a page. -/
def onePerPage : RawMetricsInput := ⟨some "x".toList, some ['1'], none⟩

def readTarget : AnalyticsCollectionTarget := ⟨1, 0, .x, 300, ""⟩

/-- Of its raw metrics one is negative and one is no number. -/
def olderSnapshot : PostAnalytics :=
  { snapshot with
    rawMetrics := some [("likes".toList, some 3), ("score".toList, some (-1)), ("reach".toList, none)]
    capturedAt := ⟨1000, by decide⟩ }

/-- A first page of two snapshots, a newer snapshot and the second page. -/
def readTwoPages (s : AnalyticsState) : Option (RawMetricsReading × RawMetricsReading ×
    AnalyticsTables × RawMetricsReading) := do
  let stored ← (saveSnapshot readTarget olderSnapshot secondMetric s.publishing.db s.tables).toOption
  let start : RawMetricsReading := ⟨s.publishing.db, stored, none, [], false⟩
  let first ← start.step plainEngine 100 200 onePerPage .page
  let later ← (saveSnapshot readTarget { snapshot with capturedAt := ⟨3000, by decide⟩ }
    thirdMetric first.db first.tables).toOption
  let last ← RawMetricsReading.step plainEngine 100 200 onePerPage
    { first with tables := later } .page
  return (start, first, later, last)

/-- The items of both pages. -/
def itemsOfTwo : List RawMetricsItem :=
  [⟨.x, "5", snapshot.capturedAt, []⟩,
    ⟨.x, "5", olderSnapshot.capturedAt, [("likes".toList, 3)]⟩]

/-- The first page leaves a cursor below the newer snapshot, and the second one is the last. -/
def readInTwo (s : AnalyticsState) : Bool :=
  s.publishing.db.campaigns.lookup 200 = some 100 &&
    (readTwoPages s).any fun (_, first, _, last) =>
      (first.nextCursor.any fun text =>
        match decodeCursor plainEngine text with
        | .ok cursor => cursorKey cursor ≤ toLex (3000, thirdMetric.text)
        | .error _ => false) &&
      (last.finished &&
        last.responses.flatMap CampaignRawMetricsResponse.rawMetrics = itemsOfTwo)

end Installation

/-- Two pages, with a snapshot stored between them that neither shows. -/
theorem raw_metrics_complete_two_pages :
    ∃ (t : RawMetricsReading) (rows : List (SocialPostRow × StoredMetric)),
      List.Forall₂ Shows rows (t.responses.flatMap CampaignRawMetricsResponse.rawMetrics) ∧
        t.responses.flatMap CampaignRawMetricsResponse.rawMetrics = Installation.itemsOfTwo := by
  obtain ⟨s, -, hReady⟩ := exists_reachable_of_run
    (analyticsSystem (Installation.config false false)) anyStep Installation.readInTwo
    Installation.collected (Installation.startAnalytics_initial _).1 (by decide +kernel)
  simp only [Installation.readInTwo, Bool.and_eq_true, decide_eq_true_eq,
    Option.any_eq_true] at hReady
  obtain ⟨hOwner, ⟨_, _, _, _⟩, hPages, ⟨text, hText, hNewer⟩, hFinished, hItems⟩ := hReady
  simp only [Installation.readTwoPages, Option.bind_eq_bind, Option.bind_eq_some_iff,
    Option.pure_def, Option.some.injEq, Prod.mk.injEq] at hPages
  obtain ⟨stored, -, first, hFirst, later, hLater, last, hLast, rfl, rfl, rfl, rfl⟩ := hPages
  split at hNewer
  · rename_i cursor hCursor
    have hOk : ∀ {result : Except ThrownError AnalyticsTables} {saved : AnalyticsTables},
        result.toOption = some saved → result = .ok saved := by
      intro result saved h
      cases result with
      | error error => cases h
      | ok tables => exact congrArg Except.ok (Option.some.inj h)
    have hFirstPage : Steps (readingSystem Installation.plainEngine 100 200 Installation.onePerPage)
        (NewerOnly Installation.plainEngine 200 (some .x))
        ⟨s.publishing.db, stored, none, [], false⟩ first :=
      Steps.tail (e := RawMetricsEvent.page) .refl trivial hFirst
    have hStored := hFirstPage.tail
      (newerOnly_saveSnapshot (hOk hLater) hText hCursor (of_decide_eq_true hNewer)) rfl
    have hRun := hStored.tail (e := RawMetricsEvent.page) trivial hLast
    have hLimit : parseLimit (some ['1']) = .ok 1 := by decide +kernel
    obtain ⟨-, rows, -, -, -, -, -, hShown, -⟩ :=
      raw_metrics_complete rfl hLimit ⟨hOwner, rfl, rfl, rfl⟩ hRun
    exact ⟨last, rows, hShown hFinished, hItems⟩
  · cases hNewer

end SocialPromotion
