import Mathlib.Data.List.Infix
import SocialPromotion.Model.Credentials

/-!
# Provider clients

The five `*-http.client.ts`, `x-media-source.service.ts` and `x-api-usage.service.ts`: the
requests themselves, and what the X adapter does around its own.
-/

namespace SocialPromotion

/-! ## The HTTP clients -/

/-- The text of a URL, before any query. -/
def Endpoint.text (url : Endpoint) : Text :=
  url.base ++ url.path.flatMap fun component => '/' :: component

structure ClientResponse where
  status : Nat
  headers : String → Option Text
  body : Json

/-- The check of `response.ok`; `provider` names the API in the error. -/
def okResponse (provider : String) : FetchAnswer → Except ThrownError HttpResponse
  | .failed error _ => .error error.toThrown
  | .response response =>
    if responseOk response.status then .ok response
    else .error (.socialApiHttpError provider response.status)

/-- `await fetch(...)` with that check. -/
def fetchOk (provider : String) (input : HttpRequest) : Promise HttpResponse := do
  let reply ← Program.ask (.fetch input)
  okResponse provider reply.http

/-- `await response.json()`. -/
def readJson (response : HttpResponse) : Except ThrownError Json :=
  match response.json with
  | .ok json => .ok json
  | .error error => .error error.toThrown

/-- `withQuery`, as far as it can throw: it parses the URL of a GET again. -/
def withQuery (s : Surroundings) (message : String) (input : HttpRequest) :
    Except ThrownError Unit :=
  if input.method = .get ∧ s.cfg.parseUrl input.url.text = none then
    .error (.serviceUnavailable message)
  else .ok ()

def isDigits (text : Text) (n : Nat) : Bool := text.length = n ∧ text.all Char.isDigit

/-- `value.includes(part)`. -/
def includes (value part : Text) : Bool := part <:+: value

namespace FetchLinkedInHttpClient

def body (response : HttpResponse) : Except ThrownError Json :=
  let contentType := (response.headers "content-type").getD []
  if includes contentType "application/json".toList then readJson response else .ok .null

def request (s : Surroundings) (input : HttpRequest) : Promise ClientResponse := do
  require ((s.setting "LINKEDIN_API_VERSION").any fun version => isDigits version 6)
    (.serviceUnavailable "LINKEDIN_API_VERSION must use the YYYYMM format.")
  let response ← fetchOk "LinkedIn" input
  let body ← body response
  return { status := response.status, headers := response.headers, body }

end FetchLinkedInHttpClient

/-- The body, which some clients do not read where the status is 204. -/
def jsonBody (emptyOn204 : Bool) (response : HttpResponse) : Except ThrownError Json :=
  if emptyOn204 ∧ response.status = 204 then .ok .null else readJson response

/-- The four other clients differ in the name of the API, in the message for an invalid URL,
and in whether they read the body of a 204. -/
def requestJson (s : Surroundings) (provider invalidUrl : String) (emptyOn204 : Bool)
    (input : HttpRequest) : Promise ClientResponse := do
  withQuery s invalidUrl input
  let response ← fetchOk provider input
  let body ← jsonBody emptyOn204 response
  return { status := response.status, headers := response.headers, body }

def FetchFacebookHttpClient.request (s : Surroundings) (input : HttpRequest) :
    Promise ClientResponse :=
  requestJson s "Meta Graph" "Facebook Graph API URL is invalid." true input

def FetchInstagramHttpClient.request (s : Surroundings) (input : HttpRequest) :
    Promise ClientResponse :=
  requestJson s "Instagram Graph" "Instagram Graph API URL is invalid." false input

def FetchThreadsHttpClient.request (s : Surroundings) (input : HttpRequest) :
    Promise ClientResponse :=
  requestJson s "Threads" "Threads API URL is invalid." false input

def FetchXHttpClient.request (s : Surroundings) (input : HttpRequest) : Promise ClientResponse :=
  requestJson s "X" "X API URL is invalid." true input

/-! ## Configured URLs -/

/-- `text.replace(/\/$/, '')`. -/
def withoutFinalSlash (text : Text) : Text :=
  match text.reverse with
  | '/' :: rest => rest.reverse
  | _ => text

/-- `baseUrl()`, and `postsUrl()` of the LinkedIn adapter. -/
def configuredUrl (s : Surroundings) (name : String) : Except ThrownError Text :=
  match s.setting name with
  | none => .error (.serviceUnavailable (name ++ " is not configured."))
  | some value => do
    let url ← s.newUrl value
    require (url.protocol = "https:") (.serviceUnavailable (name ++ " must use HTTPS."))
    return withoutFinalSlash (s.href value)

/-- `https(value)` of an adapter. -/
def httpsUrl (s : Surroundings) (message : String) (value : Text) : Except ThrownError Text := do
  let url ← s.newUrl value
  require (url.protocol = "https:") (.typeError message)
  return s.href value

/-- `object(value)` of an adapter. -/
def objectMembers (message : String) : Json → Except ThrownError (List (String × Json))
  | .object members => .ok members
  | _ => .error (.serviceUnavailable message)

/-! ## x-media-source.service.ts -/

namespace FetchXMediaSource

def positiveInteger (s : Surroundings) (name : String) : Except ThrownError Int :=
  match (s.numberSetting name).safeInteger? with
  | some value =>
    if value ≤ 0 then .error (.serviceUnavailable (name ++ " must be a positive integer."))
    else .ok value
  | none => .error (.serviceUnavailable (name ++ " must be a positive integer."))

def allowedHosts (s : Surroundings) : List Text :=
  (((s.env "X_MEDIA_ALLOWED_HOSTS").getD []).splitOn ',' |>.map fun host =>
    s.toLowerCase (trim host)).filter fun host => !host.isEmpty

/-- An empty list of hosts contains no host either. -/
def allowedUrl (s : Surroundings) (value : Text) : Except ThrownError Unit :=
  match s.cfg.parseUrl value with
  | none => .error (.serviceUnavailable "X media source URL is invalid.")
  | some url =>
    if url.protocol ≠ "https:" then
      .error (.serviceUnavailable "X media source URL must use HTTPS.")
    else if s.toLowerCase (s.hostname value) ∉ allowedHosts s then
      .error (.serviceUnavailable "X media source host is not approved for server-side upload.")
    else .ok ()

def typeText : MediaType → Text
  | .image => "image".toList
  | .video => "video".toList

/-- The checks on the answer of the media host; the base64 text of the file. -/
def received (s : Surroundings) (type : MediaType) (maximumBytes : Int) :
    MediaAnswer → Except ThrownError Text
  | .failed error => .error error.toThrown
  | .response status headers bytes => do
    require (responseOk status)
      (.serviceUnavailable ("X media source request failed (" ++ toString status ++ ")."))
    let contentType := (headers "content-type").getD []
    let mimeType := s.toLowerCase (contentType.takeWhile fun c => c ≠ ';')
    require ((typeText type ++ ['/']).isPrefixOf mimeType) (.serviceUnavailable
      "X media source content type does not match the requested media type.")
    let contentLength := ((headers "content-length").map s.number).getD (.finite 0)
    require (¬ contentLength.exceeds maximumBytes)
      (.serviceUnavailable "X media source exceeds X_MEDIA_MAX_BYTES.")
    match bytes with
    | .error error => throw error.toThrown
    | .ok file =>
      require (file.length ≠ 0 ∧ (file.length : Int) ≤ maximumBytes)
        (.serviceUnavailable "X media source is empty or exceeds X_MEDIA_MAX_BYTES.")
      return file.base64

def read (s : Surroundings) (media : PostMedia) : Promise Text := do
  allowedUrl s media.url
  let maximumBytes ← positiveInteger s "X_MEDIA_MAX_BYTES"
  let reply ← Program.ask (.fetchMedia (s.href media.url) media.type)
  received s media.type maximumBytes reply.media

end FetchXMediaSource

/-! ## x-api-usage.service.ts -/

/-- `operation.toUpperCase()`. -/
def XUsageOperation.upperCase : XUsageOperation → String
  | .postCreate => "POST_CREATE"
  | .postCreateWithUrl => "POST_CREATE_WITH_URL"
  | .mediaUpload => "MEDIA_UPLOAD"
  | .postRead => "POST_READ"
  | .postDelete => "POST_DELETE"

structure XCostQuote where
  estimatedCostMicrousd : Nat
  pricingVersion : Text
deriving DecidableEq, Repr

namespace XApiCostService

def notNegative (name : String) (value : JsNumber) : Except ThrownError Nat :=
  match value.safeInteger? with
  | some (.ofNat amount) => .ok amount
  | _ => .error (.serviceUnavailable (name ++ " must be a non-negative integer micro-USD value."))

def positiveInteger (s : Surroundings) (name : String) : Except ThrownError Nat :=
  notNegative name (s.numberSetting name)

def optionalPositiveInteger (s : Surroundings) (name : String) : Except ThrownError (Option Nat) :=
  match s.setting name with
  | none => .ok none
  | some raw => (notNegative name (s.number raw)).map some

def estimate (s : Surroundings) (operation : XUsageOperation) : Except ThrownError XCostQuote := do
  let amount ← positiveInteger s ("X_API_COST_" ++ operation.upperCase ++ "_MICRO_USD")
  let maximum ← optionalPositiveInteger s "X_API_MAX_ESTIMATED_COST_MICRO_USD_PER_REQUEST"
  require (¬ maximum.any fun maximum => amount > maximum) (.serviceUnavailable
    "The estimated X API request cost exceeds the configured per-request cap.")
  let pricingVersion := (s.env "X_API_PRICING_VERSION").getD []
  require (trim pricingVersion ≠ []) (.serviceUnavailable
    "X_API_PRICING_VERSION must identify the verified X pricing snapshot.")
  return { estimatedCostMicrousd := amount, pricingVersion }

end XApiCostService

namespace PgXUsageLedger

def requireDatabase (s : Surroundings) : Except ThrownError Unit :=
  require (s.setting "DATABASE_URL").isSome
    (.serviceUnavailable "X API cost ledger database persistence is not configured.")

/-- The id of the reservation in the result of the INSERT. -/
def reservationId : Except PlainError (Option Text) → Except ThrownError Text
  | .error error => .error error.toThrown
  | .ok (some (c :: rest)) => .ok (c :: rest)
  | .ok _ => .error (.serviceUnavailable "X API usage reservation returned no ID.")

def reserve (s : Surroundings) (input : XUsageReservation) : Promise Text := do
  requireDatabase s
  let reply ← Program.ask (.reserve input)
  reservationId reply.reserve

def settle (s : Surroundings) (id : Text) (outcome : XUsageOutcome)
    (externalReference : Option Text) : Promise Unit := do
  requireDatabase s
  let reply ← Program.ask (.settle id outcome externalReference)
  reply.settle.mapError PlainError.toThrown

end PgXUsageLedger

end SocialPromotion
