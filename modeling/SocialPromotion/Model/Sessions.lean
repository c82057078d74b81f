import SocialPromotion.Lib.Processes
import SocialPromotion.Model.OAuth
import SocialPromotion.Model.ServiceJwt

/-!
# Sessions of the front end

The route handlers under `app/api`: `login`, `callback`, `logout` and the proxy to the backend,
with the cookies that browsers keep for them. A handler is a program: its first question is for
the cookies the request came with, and its last hands the response to the browser, which stores
the cookies of it. So responses arrive in any order, or never.
-/

namespace SocialPromotion.Web

open Processes OAuth

/-! ## Cookies -/

structure StoredCookie where
  value : Text
  expiresAt : Rat
deriving DecidableEq, Repr

/-- The two cookies of the application in a browser. -/
structure CookieJar where
  promotionOauth : Option StoredCookie := none
  promotionSession : Option StoredCookie := none
deriving DecidableEq, Repr

/-- `cookies.set(name, value, { maxAge })`, in seconds. -/
structure SetCookie where
  value : Text
  maxAge : Rat
deriving DecidableEq, Repr

/-- What a browser sends of a cookie. -/
def StoredCookie.sent (now : Time) (cookie : StoredCookie) : Option Text :=
  if (now : Rat) < cookie.expiresAt then some cookie.value else none

/-- What a browser stores for a cookie of a response; it counts `maxAge` from the receipt. -/
def SetCookie.store (now : Time) (cookie : SetCookie) : Option StoredCookie :=
  if cookie.maxAge ≤ 0 then none else some ⟨cookie.value, now + cookie.maxAge * 1000⟩

/-! ## Requests and responses -/

structure WebUrl where
  protocol : Text
  origin : Text
deriving DecidableEq, Repr

/-- What the handlers run in. -/
structure Frontend where
  /-- `process.env`. -/
  env : String → Option Text
  /-- `new URL(text)`, where `none` is a thrown `TypeError`. -/
  parseUrl : Text → Option WebUrl
  /-- `new URL(path, base).toString()`. -/
  resolveUrl : Text → Text → Option Text
  /-- `createHash('sha256').update(verifier).digest('base64url')`. -/
  challenge : Text → Text
  /-- How `URLSearchParams` writes a value that is no string; `none` is `undefined`. -/
  otherText : Option JsonValue → Text
  /-- `Number(value)` of a member of a parsed body; `none` is `undefined`. -/
  number : Option Json → JsNumber

/-- A variable that is set and not empty. -/
def Frontend.setting (f : Frontend) (name : String) : Option Text :=
  (f.env name).filter fun value => !value.isEmpty

inductive WebMethod
  | GET | HEAD | POST | PATCH | DELETE
deriving DecidableEq, Repr

/-- `request.body`: what its reader gives, and whether it fails after that. -/
structure BodyStream where
  chunks : List (List UInt8)
  fails : Bool
deriving DecidableEq, Repr

structure ProxyRequest where
  method : WebMethod
  url : Text
  /-- `request.nextUrl.search`. -/
  search : Text
  path : List Text
  origin : Option Text
  contentType : Option Text
  body : Option BodyStream

/-- The request that the proxy makes. -/
structure BackendRequest where
  method : WebMethod
  url : Text
  authorization : Text
  contentType : Text
  body : Option (List UInt8)
deriving DecidableEq, Repr

inductive Location
  | page (url : Text)
  | authorization (url : AuthorizationUrl)

inductive WebBody
  | empty
  | error (message : String)
  | octets (contentType : Text) (octets : List UInt8)

structure WebResponse where
  status : Nat
  location : Option Location := none
  body : WebBody := .empty
  promotionOauth : Option SetCookie := none
  promotionSession : Option SetCookie := none

/-- The answer of the backend; `none` is an error of `fetch` or of reading the body. -/
abbrev BackendAnswer := Option (Nat × Option Text × List UInt8)

structure TokenRequest where
  endpoint : Text
  body : List (String × Text)
deriving DecidableEq, Repr

/-- What a handler asks. -/
inductive WebQuestion
  | cookies (browser : Nat)
  | exchange (request : TokenRequest)
  /-- `GET /integrations` with a token. -/
  | check (url token : Text)
  | relay (request : BackendRequest)
  | respond (browser : Nat) (response : WebResponse)

/-- Each question reads the member that belongs to it. -/
structure WebReply where
  promotionOauth : Option Text
  promotionSession : Option Text
  tokens : FetchAnswer
  backend : BackendAnswer

abbrev WebPromise (α : Type) := Program WebQuestion WebReply ThrownError α

/-- `new Error()`. -/
def plainError : ThrownError := ⟨none, false, none, some ""⟩

def invalidUrl : ThrownError := .typeError "Invalid URL"

section Routes

variable (f : Frontend) (browser : Nat)

def newUrl (text : Text) : Except ThrownError WebUrl :=
  (f.parseUrl text).elim (.error invalidUrl) .ok

def resolve (path base : Text) : Except ThrownError Text :=
  (f.resolveUrl path base).elim (.error invalidUrl) .ok

def respond (response : WebResponse) : WebPromise Unit := do
  let _ ← Program.ask (.respond browser response)

/-! ## login/route.ts -/

/-- `randomBytes(32)` and `randomBytes(48)`. -/
structure LoginDraws where
  bytes32 : RandomBytes 32
  bytes48 : RandomBytes 48

def LoginDraws.state (draws : LoginDraws) : Text := Base64url.encode draws.bytes32.octets

def LoginDraws.verifier (draws : LoginDraws) : Text := Base64url.encode draws.bytes48.octets

/-- `JSON.stringify({state,verifier})`. -/
def LoginDraws.cookie (draws : LoginDraws) : Text :=
  JsonText.stringify [("state".toList, draws.state), ("verifier".toList, draws.verifier)]

/-- The parameters that are set on the authorization URL. -/
def authorizationParameters (origin clientId : Text) (draws : LoginDraws) :
    List (String × Text) :=
  [("response_type", "code".toList), ("client_id", clientId),
    ("redirect_uri", origin ++ "/api/auth/callback".toList),
    ("scope", (f.env "AUTH_SCOPES").getD "openid profile".toList)] ++
  ((f.setting "AUTH_AUDIENCE").toList.map fun audience => ("audience", audience)) ++
  [("state", draws.state), ("code_challenge", f.challenge draws.verifier),
    ("code_challenge_method", "S256".toList)]

def login (draws : LoginDraws) : WebPromise Unit := do
  match f.setting "APP_ORIGIN", f.setting "AUTH_AUTHORIZATION_URL", f.setting "AUTH_CLIENT_ID" with
  | some origin, some authorizationUrl, some clientId =>
    let url ← newUrl f authorizationUrl
    if url.protocol ≠ "https:".toList then
      respond browser { status := 503, body := .error "HTTPS authentication endpoint required." }
    else
      respond browser {
        status := 307
        location := some (.authorization ⟨authorizationUrl,
          authorizationParameters f origin clientId draws⟩)
        promotionOauth := some ⟨draws.cookie, 600⟩ }
  | _, _, _ =>
    respond browser { status := 503, body := .error "로그인 제공자 설정이 필요합니다." }

/-! ## callback/route.ts -/

def truthy : JsonValue → Bool
  | .null => false
  | .bool value => value
  | .number literal => Number literal ≠ some 0
  | .string text => !text.isEmpty
  | .array _ | .object _ => true

/-- `saved ? JSON.parse(saved) : null`, where it is truthy. -/
def savedState (saved : Option Text) : Except ThrownError JsonValue :=
  match saved.filter fun text => !text.isEmpty with
  | none => .error plainError
  | some text =>
    match JsonText.parse text with
    | none => .error ⟨none, false, none, some "Unexpected token"⟩
    | some value => if truthy value then .ok value else .error plainError

/-- `searchParams.get('state') === state.state`. -/
def sameState (state : Option Text) : Option JsonValue → Bool
  | some (.string text) => state = some text
  | some .null => state = none
  | _ => false

def parameterText : Option JsonValue → Text
  | some (.string text) => text
  | value => f.otherText value

/-- The checks before the exchange of the code, and the exchange. -/
def tokenRequest (origin : Text) (saved code state : Option Text) :
    Except ThrownError TokenRequest := do
  let saved ← savedState saved
  match code.filter fun code => !code.isEmpty with
  | none => throw plainError
  | some code =>
    require (sameState state (ServiceJwtVerifier.property saved "state".toList)) plainError
    let endpoint := (f.env "AUTH_TOKEN_URL").getD []
    let url ← newUrl f endpoint
    require (url.protocol = "https:".toList) plainError
    return {
      endpoint
      body := [("grant_type", "authorization_code".toList), ("code", code),
        ("code_verifier",
          parameterText f (ServiceJwtVerifier.property saved "verifier".toList)),
        ("client_id", (f.env "AUTH_CLIENT_ID").getD []),
        ("redirect_uri", origin ++ "/api/auth/callback".toList)] ++
        (f.setting "AUTH_CLIENT_SECRET").toList.map fun secret => ("client_secret", secret) }

/-- `Math.min(3600,Math.max(1,Number(tokens.expires_in)||3600))`. -/
def sessionMaxAge : JsNumber → Rat
  | .nan => 3600
  | .infinity negative => if negative then 1 else 3600
  | .finite value => if value = 0 then 3600 else min 3600 (max 1 value)

/-- The access token and the age of the session, from the answer of the token endpoint. -/
def readTokens : FetchAnswer → Except ThrownError (Text × Rat)
  | .failed error _ => .error error.toThrown
  | .response response => do
    let tokens ← response.json.mapError PlainError.toThrown
    require (responseOk response.status) plainError
    match tokens with
    | .null => throw (.typeError "Cannot read properties of null")
    | .object members =>
      match Json.member "access_token" members with
      | some (.string token) =>
        return (token, sessionMaxAge (f.number (Json.member "expires_in" members)))
      | _ => throw plainError
    | _ => throw plainError

/-- The `try` block. -/
def signIn (origin : Text) (saved code state : Option Text) : WebPromise (Text × Rat) := do
  let request ← tokenRequest f origin saved code state
  let exchange ← Program.ask (.exchange request)
  let (token, maxAge) ← readTokens f exchange.tokens
  let check ← Program.ask (.check
    ((f.env "BACKEND_API_URL").getD "undefined".toList ++ "/integrations".toList) token)
  require (check.backend.any fun answer => responseOk answer.1) plainError
  return (token, maxAge)

def callback (code state : Option Text) : WebPromise Unit := do
  let request ← Program.ask (.cookies browser)
  match f.setting "APP_ORIGIN" with
  | none =>
    respond browser { status := 503, body := .error "Authentication is not configured." }
  | some origin =>
    let home ← resolve f "/".toList origin
    let session ← Program.catching
      (do return some (← signIn f origin request.promotionOauth code state)) fun _ => return none
    match session with
    | some (token, maxAge) =>
      respond browser {
        status := 307
        location := some (.page home)
        promotionOauth := some ⟨[], 0⟩
        promotionSession := some ⟨token, maxAge⟩ }
    | none =>
      let failed ← resolve f "/?login=failed".toList origin
      respond browser {
        status := 307
        location := some (.page failed)
        promotionOauth := some ⟨[], 0⟩ }

/-! ## logout/route.ts -/

/-- `new URL(process.env.APP_ORIGIN ?? request.url).origin`. -/
def ownOrigin (url : Text) : Except ThrownError Text :=
  (newUrl f ((f.env "APP_ORIGIN").getD url)).map WebUrl.origin

def logout (url : Text) (origin : Option Text) : WebPromise Unit := do
  let own ← ownOrigin f url
  if origin ≠ some own then respond browser { status := 403 }
  else
    let home ← resolve f "/".toList own
    respond browser {
      status := 303
      location := some (.page home)
      promotionSession := some ⟨[], 0⟩ }

/-! ## backend/[...path]/route.ts -/

def maximumBody : Nat := 4 * 1024 * 1024

inductive BodyError
  | rangeError
  | streamError
deriving DecidableEq, Repr

/-- The loop of `boundedBody`, after `size` octets in `chunks`. -/
def readChunks (fails : Bool) : List (List UInt8) → Nat → List (List UInt8) →
    Except BodyError (List (List UInt8))
  | [], _, chunks => if fails then .error .streamError else .ok chunks
  | value :: rest, size, chunks =>
    if size + value.length > maximumBody then .error .rangeError
    else readChunks fails rest (size + value.length) (chunks ++ [value])

def boundedBody : Option BodyStream → Except BodyError (Option (List UInt8))
  | none => .ok none
  | some body => (readChunks body.fails body.chunks 0 []).map fun chunks => some chunks.flatten

def roots : List Text :=
  ["posts", "campaigns", "integrations", "media", "analytics", "kakao-channel", "operations"].map
    String.toList

/-- `/^[-a-zA-Z0-9]+$/`. -/
def isPlainSegment (segment : Text) : Bool :=
  segment ≠ [] ∧ segment.all fun c => c.isAlphanum || c = '-'

def allowedPath (path : List Text) : Bool :=
  path.head?.any (fun root => roots.contains root) && path.all isPlainSegment

def backendUrl (base : Text) (request : ProxyRequest) : Text :=
  withoutFinalSlash base ++ '/' :: ['/'].intercalate request.path ++ request.search

/-- The body of the `try` block; `Except` tells a `RangeError` from the rest. -/
def relayBody (request : ProxyRequest) : Except BodyError (Option (List UInt8)) :=
  if request.method = .GET ∨ request.method = .HEAD then .ok none else boundedBody request.body

def relay (base token : Text) (request : ProxyRequest) : WebPromise Unit := do
  match relayBody request with
  | .error .rangeError =>
    respond browser { status := 413, body := .error "파일은 4MB 미만으로 준비하세요." }
  | .error .streamError => respond browser unreachable
  | .ok body =>
    let reply ← Program.ask (.relay {
      method := request.method
      url := backendUrl base request
      authorization := "Bearer ".toList ++ token
      contentType := request.contentType.getD "application/json".toList
      body })
    match reply.backend with
    | none => respond browser unreachable
    | some (status, contentType, octets) =>
      respond browser {
        status
        body := .octets (contentType.getD "application/json".toList) octets }
where
  unreachable : WebResponse :=
    { status := 502, body := .error "서버에 연결하지 못했습니다. 잠시 후 다시 시도하세요." }

/-- `request.method !== 'GET' && request.headers.get('origin') !== ...`. -/
def foreign (request : ProxyRequest) : Except ThrownError Bool :=
  if request.method = .GET then .ok false
  else (ownOrigin f request.url).map fun own => request.origin ≠ some own

def proxy (request : ProxyRequest) : WebPromise Unit := do
  if ¬ allowedPath request.path then respond browser { status := 404 }
  else if ← foreign f request then respond browser { status := 403 }
  else
    let reply ← Program.ask (.cookies browser)
    match reply.promotionSession.filter fun token => !token.isEmpty with
    | none => respond browser { status := 401, body := .error "로그인이 필요합니다." }
    | some token =>
      match f.setting "BACKEND_API_URL" with
      | none => respond browser { status := 503, body := .error "서버 연결 설정이 필요합니다." }
      | some base => relay browser base token request

end Routes

/-! ## Browsers -/

inductive Route
  | login (draws : LoginDraws)
  | callback (code state : Option Text)
  | logout (url : Text) (origin : Option Text)
  | proxy (request : ProxyRequest)

/-- A request of a browser to a route. -/
structure WebCall where
  browser : Nat
  route : Route

def WebCall.program (f : Frontend) (call : WebCall) : WebPromise Unit :=
  match call.route with
  | .login draws => login f call.browser draws
  | .callback code state => callback f call.browser code state
  | .logout url origin => logout f call.browser url origin
  | .proxy request => proxy f call.browser request

structure Browsers where
  now : Time
  jars : AList fun _ : Nat => CookieJar

namespace Browsers

def jar (s : Browsers) (browser : Nat) : CookieJar := (s.jars.lookup browser).getD {}

def setJar (s : Browsers) (browser : Nat) (jar : CookieJar) : Browsers :=
  { s with jars := s.jars.insert browser jar }

/-- The cookies after a response. -/
def received (now : Time) (jar : CookieJar) (response : WebResponse) : CookieJar where
  promotionOauth := match response.promotionOauth with
    | some cookie => cookie.store now
    | none => jar.promotionOauth
  promotionSession := match response.promotionSession with
    | some cookie => cookie.store now
    | none => jar.promotionSession

/-- What the provider and the backend answer. -/
structure World where
  tokens : FetchAnswer
  backend : BackendAnswer

def answer (s : Browsers) (_ : Nat) (question : WebQuestion) (world : World) :
    Option (WebReply × Browsers) :=
  let reply : WebReply := ⟨none, none, world.tokens, world.backend⟩
  match question with
  | .cookies browser =>
    some ({ reply with
      promotionOauth := (s.jar browser).promotionOauth.bind (StoredCookie.sent s.now)
      promotionSession := (s.jar browser).promotionSession.bind (StoredCookie.sent s.now) }, s)
  | .respond browser response =>
    some (reply, s.setJar browser (received s.now (s.jar browser) response))
  | _ => some (reply, s)

/-- What happens beside the requests. -/
inductive Own
  | tick (ms : Nat)
  /-- A browser forgets its cookies. -/
  | clear (browser : Nat)

def own (s : Browsers) : Own → Option Browsers
  | .tick ms => some { s with now := s.now + ms }
  | .clear browser => some (s.setJar browser {})

def machine : Machine Browsers WebQuestion WebReply World Own where
  answer := answer
  own := own

/-- No browser has been here. -/
def Initial (s : Browsers) : Prop := s.jars = ∅

end Browsers

abbrev WebExchange := Exchange Browsers WebCall WebQuestion WebReply Browsers.World

abbrev WebState := State Browsers WebCall WebQuestion WebReply ThrownError Unit

/-- Every interleaving of the requests of any browsers, with its record. -/
abbrev webSystem (f : Frontend) :
    LTS.System (WebState × List WebExchange)
      (Processes.Event WebCall Browsers.World Browsers.Own) :=
  recorded Browsers.machine (WebCall.program f) Browsers.Initial

end SocialPromotion.Web
