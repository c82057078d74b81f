import SocialPromotion.Lib.TextEncoding
import SocialPromotion.Model.Adapters
import SocialPromotion.Model.Analytics

/-!
# What X requests cost

The operations of `x.adapter.ts` that publish nothing, and the rows of `x_api_usage_ledger` that the
exchanges of any number of operations leave, in the order in which the replies come in.
-/

namespace SocialPromotion

/-! ## Built-in functions -/

def isUriMark (c : Char) : Bool := c ∈ "-_.!~*'()".toList

def upperHexDigit (n : Nat) : Char := if n < 10 then Char.ofNat (48 + n) else Char.ofNat (55 + n)

/-- An octet after a percent sign. -/
def percentEncode (octet : UInt8) : Text :=
  ['%', upperHexDigit (octet.toNat / 16), upperHexDigit (octet.toNat % 16)]

def encodeURIComponent (text : Text) : Text :=
  text.flatMap fun c =>
    if c.isAlphanum || isUriMark c then [c] else (Utf8.encode [c]).flatMap percentEncode

/-- `text.replace(pattern, replacement)` with a replacement without a dollar sign. -/
def replaceFirst (pattern replacement : Text) : Text → Text
  | [] => if pattern = [] then replacement else []
  | c :: rest =>
    match pattern.isPrefixOf? (c :: rest) with
    | some after => replacement ++ after
    | none => c :: replaceFirst pattern replacement rest

/-- `left ?? right`. -/
def nullish (left right : Option Json) : Option Json :=
  match left with
  | none | some .null => right
  | left => left

/-! ## analytics-metrics.ts -/

/-- `PostAnalytics` with the numbers as they came. -/
structure ProviderAnalytics where
  standard : StandardMetric → Option Rat
  rawMetrics : List (String × Rat)
  capturedAt : Time

/-- `number(value)` of an adapter. -/
def metricNumber : Option Json → Option Rat
  | some (.number (.finite value)) => if 0 ≤ value then some value else none
  | _ => none

/-- An assignment to `__proto__` makes no member. -/
def numericProviderMetrics (payload : List (String × Json)) : List (String × Rat) :=
  payload.filterMap fun e =>
    if e.1 = "__proto__" then none
    else (metricNumber (some e.2)).map fun value => (e.1, value)

def standardMetrics : List StandardMetric :=
  [.impressions, .reach, .views, .likes, .comments, .shares, .reposts, .clicks]

def assertAnalyticsHaveValues (metrics : ProviderAnalytics) (provider : String) :
    Except ThrownError ProviderAnalytics :=
  if standardMetrics.any (fun metric => (metrics.standard metric).isSome) ∨
      metrics.rawMetrics ≠ [] then .ok metrics
  else .error (.typeError (provider ++ " analytics response has no numeric metrics."))

/-! ## x.adapter.ts -/

namespace XAdapter

def readScopes (_ : PublishingCredential) : List String := ["tweet.read", "users.read"]

def readCredential (s : Surroundings) : AccountId → Promise PublishingCredential :=
  SocialPromotion.writeCredential XCredentialService s readScopes
    fun scope => "X account is missing required scope: " ++ scope ++ "."

def postUrl (base remotePostId : Text) : Endpoint :=
  ⟨base, ["2".toList, "tweets".toList, encodeURIComponent remotePostId]⟩

/-- Where the analytics of a post are, by the template of `X_ANALYTICS_URL`. -/
def analyticsUrl (template remotePostId : Text) : Endpoint :=
  ⟨replaceFirst "\x7bpostId\x7d".toList (encodeURIComponent remotePostId) template, []⟩

def deletePost (s : Surroundings) (remotePostId : Text) (socialAccountId : AccountId) :
    Promise Unit := do
  let credential ← writeCredential s socialAccountId
  let response ← billed s credential .postDelete do
    let base ← configuredUrl s "X_API_BASE_URL"
    FetchXHttpClient.request s {
      platform := .x
      method := .delete
      url := postUrl base remotePostId
      accessToken := credential.accessToken
      payload := .none }
  let members ← data response.body
  match Json.member "deleted" members with
  | some (.boolean true) => return ()
  | _ => throw (ThrownError.serviceUnavailable "X did not confirm deletion of the post.")

def getPost (s : Surroundings) (remotePostId : Text) (socialAccountId : AccountId) :
    Promise SocialPostResult := do
  let credential ← readCredential s socialAccountId
  let response ← billed s credential .postRead do
    let base ← configuredUrl s "X_API_BASE_URL"
    FetchXHttpClient.request s {
      platform := .x
      method := .get
      url := postUrl base remotePostId
      accessToken := credential.accessToken
      payload := .parameters [("tweet.fields", "id,text".toList)] }
  let members ← data response.body
  return {
    remotePostId := String.ofList ((Json.nonEmptyString (Json.member "id" members)).getD remotePostId)
    remotePostUrl := none
    status := .published }

/-- The properties of a metric in the answer, the first of them that is not nullish first. -/
def metricNames : StandardMetric → List String
  | .impressions => ["impressions", "impression_count"]
  | .reach => ["reach"]
  | .views => ["views"]
  | .likes => ["likes", "like_count"]
  | .comments => ["comments", "reply_count"]
  | .shares => ["shares"]
  | .reposts => ["reposts", "repost_count", "retweet_count"]
  | .clicks => ["clicks", "url_link_clicks"]

/-- The value of the first property that is not nullish. -/
def firstMember (names : List String) (members : List (String × Json)) : Option Json :=
  names.foldr (fun name rest => nullish (Json.member name members) rest) none

/-- The object of an answer that has the metrics. -/
def metricsOf (body : Json) : Except ThrownError (List (String × Json)) := do
  let payload ← data body
  object ((firstMember ["metrics", "public_metrics", "organic_metrics"] payload).getD
    (.object payload))

def getAnalytics (s : Surroundings) (remotePostId : Text) (socialAccountId : AccountId) :
    Promise ProviderAnalytics := do
  let credential ← readCredential s socialAccountId
  match s.setting "X_ANALYTICS_URL" with
  | none => throw (ThrownError.notImplemented "X_ANALYTICS_URL configuration is required.")
  | some template =>
    let response ← billed s credential .postRead (FetchXHttpClient.request s {
      platform := .x
      method := .get
      url := analyticsUrl template remotePostId
      accessToken := credential.accessToken
      payload := .parameters [] })
    let metrics ← metricsOf response.body
    let date ← newDate
    assertAnalyticsHaveValues {
      standard := fun metric => metricNumber (firstMember (metricNames metric) metrics)
      rawMetrics := numericProviderMetrics metrics
      capturedAt := date } "X"

end XAdapter

/-- The public operations of the adapter. -/
inductive XOperation
  | publish (post : SocialPost)
  | publishText (socialAccountId : AccountId) (text : Text)
  | publishMedia (socialAccountId : AccountId) (text : Text) (media : List PostMedia)
  | uploadMedia (socialAccountId : AccountId) (media : PostMedia)
  | deletePost (remotePostId : Text) (socialAccountId : AccountId)
  | getPost (remotePostId : Text) (socialAccountId : AccountId)
  | getAnalytics (remotePostId : Text) (socialAccountId : AccountId)

namespace XOperation

/-- The exchanges of an operation, program by program. -/
def threads (s : Surroundings) (replies : Replies Reply) :
    XOperation → List (List (Request × Reply))
  | .publish post => (XAdapter.publish s post).threads replies
  | .publishText account text => [((XAdapter.publishText s account text).run replies.main 0).exchanges]
  | .publishMedia account text media => (XAdapter.publishMedia s account text media).threads replies
  | .uploadMedia account media => [((XAdapter.uploadMedia s account media).run replies.main 0).exchanges]
  | .deletePost id account => [((XAdapter.deletePost s id account).run replies.main 0).exchanges]
  | .getPost id account => [((XAdapter.getPost s id account).run replies.main 0).exchanges]
  | .getAnalytics id account => [((XAdapter.getAnalytics s id account).run replies.main 0).exchanges]

/-- Whether the settings give the operation a URL to ask. -/
def hasUrl (s : Surroundings) : XOperation → Bool
  | .getPost id _ =>
    match configuredUrl s "X_API_BASE_URL" with
    | .ok base => (s.cfg.parseUrl (XAdapter.postUrl base id).text).isSome
    | .error _ => false
  | .getAnalytics id _ => (s.setting "X_ANALYTICS_URL").all fun template =>
    (s.cfg.parseUrl (XAdapter.analyticsUrl template id).text).isSome
  | _ => (configuredUrl s "X_API_BASE_URL").isOk

end XOperation

/-! ## x_api_usage_ledger -/

/-- `x_api_usage_ledger` without its id; an outcome of `none` is `reserved`. -/
structure UsageRow where
  operation : XUsageOperation
  outcome : Option XUsageOutcome
  externalReference : Option Text
deriving DecidableEq, Repr

/-- One exchange of a run, and what the database did in it. -/
structure XExchange where
  /-- The program that asks. -/
  thread : Nat
  question : Request
  reply : Reply
  /-- The id of the row that the INSERT made, if it was executed. -/
  inserted : Option Text
  /-- Whether the UPDATE was executed. -/
  updated : Bool

namespace XExchange

/-- The database has executed what it acknowledges, and inserts only for an INSERT. -/
def Executed (x : XExchange) : Prop :=
  match x.question with
  | .reserve _ => ∀ id, x.reply.reserve = .ok (some id) → x.inserted = some id
  | .settle _ _ _ => x.inserted = none ∧ (x.reply.settle = .ok () → x.updated = true)
  | _ => x.inserted = none

end XExchange

/-- The UPDATE of `settle` on the row with an id. -/
def UsageRow.apply (id : Text) (row : UsageRow) (x : XExchange) : UsageRow :=
  match x.question with
  | .settle settled outcome externalReference =>
    if x.updated ∧ settled = id ∧ row.outcome = none then
      { row with outcome := some outcome, externalReference := externalReference }
    else row
  | _ => row

abbrev XLedger := List (Text × UsageRow)

namespace XLedger

/-- The row that an exchange inserts. -/
def insertedRow (x : XExchange) : XLedger :=
  match x.question, x.inserted with
  | .reserve reservation, some id => [(id, ⟨reservation.operation, none, none⟩)]
  | _, _ => []

def apply (ledger : XLedger) (x : XExchange) : XLedger :=
  ledger.map (fun e => (e.1, e.2.apply e.1 x)) ++ insertedRow x

/-- The rows that a run has left so far. -/
def after (schedule : List XExchange) : XLedger := schedule.foldl apply []

end XLedger

/-- The programs of some operations, each with the operation it belongs to. -/
def xThreads (s : Surroundings) (calls : List (XOperation × Replies Reply)) :
    List (XOperation × List (Request × Reply)) :=
  calls.flatMap fun call => (call.1.threads s call.2).map fun exchanges => (call.1, exchanges)

/-- A run of operations that are over, at once or one after the other: their exchanges in the order
of the replies, those of each program in its own order. -/
structure XRun (s : Surroundings) where
  calls : List (XOperation × Replies Reply)
  schedule : List XExchange
  interleaved : ∀ i, (schedule.filter fun x => x.thread = i).map
    (fun x => (x.question, x.reply)) = ((xThreads s calls)[i]?.map Prod.snd).getD []
  executed : ∀ x ∈ schedule, x.Executed
  /-- Every id that `gen_random_uuid()` draws is new. -/
  fresh : (schedule.filterMap XExchange.inserted).Nodup

namespace XRun

variable {s : Surroundings}

/-- The operation that a program belongs to. -/
def operationOf (run : XRun s) (thread : Nat) : Option XOperation :=
  ((xThreads s run.calls)[thread]?).map Prod.fst

/-- The ledger at the end. -/
def ledger (run : XRun s) : XLedger := XLedger.after run.schedule

end XRun

end SocialPromotion
