import SocialPromotion.Lib.IsoDate
import SocialPromotion.Lib.JsonText
import SocialPromotion.Lib.TextEncoding
import SocialPromotion.Model.Dashboards
import SocialPromotion.Model.Formatting

/-!
# Raw metrics

`campaignRawMetrics` of `pg-analytics.repository.ts` and `analytics.service.ts`: the snapshots
of a campaign page by page, from the newest to the oldest, and the cursor that a client passes
from one page to the next.
-/

namespace SocialPromotion

/-! ## Numbers in texts -/

/-- The value of digits in a base. -/
def digitsValue (base : Nat) (digits : List Nat) : Nat :=
  digits.foldl (fun n digit => n * base + digit) 0

/-- `n * 10^exponent`. -/
def scaled (n : Nat) (exponent : Int) : ℚ :=
  if 0 ≤ exponent then ((n * 10 ^ exponent.toNat : Nat) : ℚ)
  else mkRat n (10 ^ (-exponent).toNat)

def pow2 (exponent : Int) : ℚ :=
  if 0 ≤ exponent then ((2 ^ exponent.toNat : Nat) : ℚ) else mkRat 1 (2 ^ (-exponent).toNat)

/-- The integer nearest to `x`, of two the even one. -/
def roundHalfEven (x : ℚ) : Int :=
  let rest := x - x.floor
  if mkRat 1 2 < rest ∨ rest = mkRat 1 2 ∧ x.floor % 2 = 1 then x.floor + 1 else x.floor

/-- The double nearest to `x`; `none` is an infinity. -/
def nearestDouble (x : ℚ) : Option ℚ :=
  if x = 0 then some 0
  else
    let magnitude : ℚ := if x < 0 then -x else x
    let estimate : Int := (x.num.natAbs.log2 : Int) - x.den.log2
    let exponent := if magnitude < pow2 estimate then estimate - 1 else estimate
    -- the spacing of the doubles around x
    let quantum := pow2 (max (exponent - 52) (-1074))
    let result := roundHalfEven (magnitude / quantum) * quantum
    if pow2 1024 ≤ result then none else some (if x < 0 then -result else result)

/-- `StrUnsignedDecimalLiteral`, but for `Infinity`. -/
def readDecimal (text : Text) : Option ℚ := do
  let (integer, rest) := text.span Char.isDigit
  let (fraction, rest) := match rest with
    | '.' :: rest => rest.span Char.isDigit
    | rest => ([], rest)
  guard (¬ (integer ++ fraction).isEmpty)
  let exponent ← match rest with
    | [] => some (0 : Int)
    | e :: rest => do
      guard (e = 'e' ∨ e = 'E')
      let (negative, digits) := match rest with
        | '-' :: digits => (true, digits)
        | '+' :: digits => (false, digits)
        | digits => (false, digits)
      guard (¬ digits.isEmpty ∧ digits.all Char.isDigit)
      let value := digitsValue 10 (digits.map fun c => c.toNat - 48)
      some (if negative then -(value : Int) else value)
  let digits := digitsValue 10 ((integer ++ fraction).map fun c => c.toNat - 48)
  return scaled digits (exponent - fraction.length)

/-- `NonDecimalIntegerLiteral` after its prefix. -/
def readInBase (base : Nat) (digits : Text) : Option ℚ := do
  guard (¬ digits.isEmpty)
  let values ← digits.mapM JsonText.hexValue?
  guard (values.all fun digit => digit < base)
  return (digitsValue base values : ℚ)

/-- `Number(text)`; `none` is `NaN` or an infinity. -/
def Number (text : Text) : Option ℚ :=
  (match trim text with
    | [] => some 0
    | '0' :: 'x' :: digits | '0' :: 'X' :: digits => readInBase 16 digits
    | '0' :: 'o' :: digits | '0' :: 'O' :: digits => readInBase 8 digits
    | '0' :: 'b' :: digits | '0' :: 'B' :: digits => readInBase 2 digits
    | '-' :: rest => (readDecimal rest).map fun x => -x
    | '+' :: rest => readDecimal rest
    | rest => readDecimal rest).bind nearestDouble

/-! ## The cursor -/

structure RawMetricsCursor where
  capturedAt : JsDate
  metricId : Text
deriving DecidableEq

/-- What the documentation of the engine leaves open. -/
structure Engine where
  /-- `Buffer.from(value, 'base64url')` of a text with other characters than digits, blanks and
  padding. -/
  otherBase64 : Text → List UInt8
  /-- `new Date(text)` of a text in another form than `toISOString` writes. -/
  otherDate : Text → Option JsDate

namespace AnalyticsService

def encodeCursor (cursor : RawMetricsCursor) : Text :=
  Base64url.encode (Utf8.encode (JsonText.stringify
    [("capturedAt".toList, IsoDate.toISOString cursor.capturedAt.value),
      ("metricId".toList, cursor.metricId)]))

/-- `new Date(text)`; `none` is an invalid date. -/
def newDate (engine : Engine) (text : Text) : Option JsDate :=
  match IsoDate.parse text with
  | some value =>
    if h : -8640000000000000 ≤ value ∧ value ≤ 8640000000000000 then some ⟨value, h⟩ else none
  | none => engine.otherDate text

/-- A property of a parsed object, where it is a string; of equal names the last one counts. -/
def stringProperty (members : List (Text × JsonValue)) (name : String) : Option Text :=
  match members.reverse.find? fun e => e.1 = name.toList with
  | some (_, .string text) => some text
  | _ => none

/-- `[0-9a-f]` with the flag `i`. -/
def isHexDigitAnyCase (c : Char) : Bool := isHexDigit c || ('A' ≤ c && c ≤ 'F')

/-- The expression that `metricId` is tested with. -/
def metricIdClasses : List (Char → Bool) :=
  repeated 8 isHexDigitAnyCase ++ isHyphen :: repeated 4 isHexDigitAnyCase ++ isHyphen ::
    (fun c => '1' ≤ c && c ≤ '5') :: repeated 3 isHexDigitAnyCase ++ isHyphen ::
    (fun c => c = '8' || c = '9' || c = 'a' || c = 'b' || c = 'A' || c = 'B') ::
    repeated 3 isHexDigitAnyCase ++ isHyphen :: repeated 12 isHexDigitAnyCase

/-- The body of the `try` block of `decodeCursor`. -/
def readCursor (engine : Engine) (value : Text) : Option RawMetricsCursor := do
  let octets := (Base64url.decode? value).getD (engine.otherBase64 value)
  let members ← match JsonText.parse (Utf8.decode octets) with
    | some (.object members) => some members
    | _ => none
  let capturedAt ← newDate engine (← stringProperty members "capturedAt")
  let metricId ← stringProperty members "metricId"
  guard (matchesClasses metricIdClasses metricId)
  return { capturedAt, metricId }

def decodeCursor (engine : Engine) (value : Text) : Except ServiceError RawMetricsCursor :=
  match readCursor engine value with
  | some cursor => .ok cursor
  | none => .error (.badRequest "cursor is invalid.")

/-! ## The query -/

/-- The query parameters of a request. -/
structure RawMetricsInput where
  platform : Option Text
  limit : Option Text
  cursor : Option Text

structure CampaignRawMetricsQuery where
  platform : Option SocialPlatform
  limit : Nat
  cursor : Option RawMetricsCursor

/-- A parameter that is missing or empty. -/
def given (parameter : Option Text) : Option Text := parameter.filter fun text => !text.isEmpty

def parsePlatform (parameter : Option Text) : Except ServiceError (Option SocialPlatform) :=
  match given parameter with
  | none => .ok none
  | some text =>
    match SOCIAL_PLATFORMS.find? fun platform => platform.text.toList = text with
    | some platform => .ok (some platform)
    | none => .error (.badRequest "platform must be a supported social platform.")

def parseLimit (parameter : Option Text) : Except ServiceError Nat :=
  match given parameter with
  | none => .ok 50
  | some text =>
    match (Number text).filter fun limit => limit.den = 1 ∧ 1 ≤ limit.num ∧ limit.num ≤ 100 with
    | some limit => .ok limit.num.toNat
    | none => .error (.badRequest "limit must be an integer between 1 and 100.")

def parseCursor (engine : Engine) (parameter : Option Text) :
    Except ServiceError (Option RawMetricsCursor) :=
  match given parameter with
  | none => .ok none
  | some value => (decodeCursor engine value).map some

def parseRawMetricsQuery (engine : Engine) (input : RawMetricsInput) :
    Except ServiceError CampaignRawMetricsQuery := do
  let platform ← parsePlatform input.platform
  let limit ← parseLimit input.limit
  let cursor ← parseCursor engine input.cursor
  return { platform, limit, cursor }

end AnalyticsService

/-! ## The page -/

structure RawMetricSnapshot where
  metricId : Text
  platform : SocialPlatform
  remotePostId : String
  capturedAt : JsDate
  rawMetrics : List (Text × ℚ)

structure CampaignRawMetricsPage where
  hasMore : Bool
  items : List RawMetricSnapshot

namespace PgAnalyticsRepository

open AnalyticsService

/-- `numericRawMetrics` of what JSON keeps of the record. -/
def numericRawMetrics (value : RawMetrics) : List (Text × ℚ) :=
  value.filterMap fun e => (e.2.filter fun x => 0 ≤ x).map fun x => (e.1, x)

/-- `posts JOIN social_posts JOIN social_metrics`, with the first two conditions. -/
def campaignMetrics (campaignId : CampaignId) (platform : Option SocialPlatform) (db : Database)
    (tables : AnalyticsTables) : List (SocialPostRow × StoredMetric) :=
  (campaignPosts db campaignId).flatMap fun postId =>
    (db.socialPosts.entries.filter fun socialPost =>
        socialPost.2.postId = postId ∧ platform.all fun p => socialPost.2.platform = p).flatMap
      fun socialPost =>
        (tables.socialMetrics.entries.filter fun metric => metric.2.socialPost = socialPost.1).map
          fun metric => (socialPost.2, metric)

/-- `($3::timestamptz, $4::uuid)`; a uuid has no case. -/
def cursorKey (cursor : RawMetricsCursor) : ℤ ×ₗ Text :=
  toLex (cursor.capturedAt.value, cursor.metricId.map Char.toLower)

/-- The rows of the SELECT. -/
def rawMetricsRows (campaignId : CampaignId) (query : CampaignRawMetricsQuery) (db : Database)
    (tables : AnalyticsTables) : List (SocialPostRow × StoredMetric) :=
  let rows := (campaignMetrics campaignId query.platform db tables).filter fun row =>
    query.cursor.all fun cursor => metricKey row.2 < cursorKey cursor
  (rows.insertionSort fun a b => metricKey b.2 ≤ metricKey a.2).take (query.limit + 1)

def toSnapshot (row : SocialPostRow × StoredMetric) : RawMetricSnapshot where
  metricId := row.2.1.text
  platform := row.1.platform
  remotePostId := row.1.remotePostId
  capturedAt := row.2.2.capturedAt
  rawMetrics := numericRawMetrics row.2.2.rawMetrics

/-- `campaignRawMetrics`; `none` is `null`. -/
def campaignRawMetrics (ownerId : UserId) (campaignId : CampaignId)
    (query : CampaignRawMetricsQuery) (db : Database) (tables : AnalyticsTables) :
    Option CampaignRawMetricsPage :=
  if db.campaigns.lookup campaignId = some ownerId then
    let rows := rawMetricsRows campaignId query db tables
    some { hasMore := query.limit < rows.length, items := (rows.take query.limit).map toSnapshot }
  else none

end PgAnalyticsRepository

/-- A snapshot without its id. -/
structure RawMetricsItem where
  platform : SocialPlatform
  remotePostId : String
  capturedAt : JsDate
  rawMetrics : List (Text × ℚ)
deriving DecidableEq

structure CampaignRawMetricsResponse where
  campaignId : CampaignId
  rawMetrics : List RawMetricsItem
  nextCursor : Option Text

namespace AnalyticsService

def toItem (snapshot : RawMetricSnapshot) : RawMetricsItem where
  platform := snapshot.platform
  remotePostId := snapshot.remotePostId
  capturedAt := snapshot.capturedAt
  rawMetrics := snapshot.rawMetrics

/-- The cursor after a page: that of its last item, where there are more. -/
def nextCursor (page : CampaignRawMetricsPage) : Option Text :=
  if page.hasMore then
    page.items.getLast?.map fun last => encodeCursor ⟨last.capturedAt, last.metricId⟩
  else none

def campaignRawMetrics (engine : Engine) (ownerId : UserId) (campaignId : CampaignId)
    (input : RawMetricsInput) (db : Database) (tables : AnalyticsTables) :
    Except ServiceError CampaignRawMetricsResponse := do
  let query ← parseRawMetricsQuery engine input
  match PgAnalyticsRepository.campaignRawMetrics ownerId campaignId query db tables with
  | none => .error (.notFound "Campaign not found.")
  | some page =>
    return { campaignId, rawMetrics := page.items.map toItem, nextCursor := nextCursor page }

end AnalyticsService

end SocialPromotion
