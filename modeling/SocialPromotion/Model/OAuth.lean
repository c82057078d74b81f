import Mathlib.Algebra.Order.Floor.Ring
import Mathlib.Data.Rat.Floor
import SocialPromotion.Lib.JsonText
import SocialPromotion.Model.Connections
import SocialPromotion.Model.Encryption
import SocialPromotion.Model.XUsage

/-!
# Connecting an account

`oauth.service.ts` over `configurable-oauth.provider.ts` with its four providers and over the
statements of `pg-oauth-account.repository.ts`: what each of the three calls asks of PostgreSQL and
of the providers, and what it makes of the replies.
-/

namespace SocialPromotion.OAuth

/-! ## oauth.types.ts -/

inductive OAuthPlatform
  | linkedin | facebook | threads | x
deriving DecidableEq, Repr

def OAuthPlatform.name : OAuthPlatform → String
  | .linkedin => "linkedin"
  | .facebook => "facebook"
  | .threads => "threads"
  | .x => "x"

def OAuthPlatform.social : OAuthPlatform → SocialPlatform
  | .linkedin => .linkedin
  | .facebook => .facebook
  | .threads => .threads
  | .x => .x

inductive OAuthCallbackRoute
  | linkedin | metaRoute | threads | x
deriving DecidableEq, Repr

def OAuthCallbackRoute.name : OAuthCallbackRoute → String
  | .linkedin => "linkedin"
  | .metaRoute => "meta"
  | .threads => "threads"
  | .x => "x"

structure OAuthAuthorizationState where
  stateHash : Text
  userId : Text
  platform : OAuthPlatform
  callbackRoute : OAuthCallbackRoute
  codeVerifierEncrypted : Text
  expiresAt : Time
deriving DecidableEq, Repr

structure OAuthTokenSet where
  accessToken : Text
  refreshToken : Option Text
  expiresAt : Option Int
  scopes : List Text

structure SocialAccountCredential where
  userId : Text
  platform : SocialPlatform
  platformAccountId : Text
  accountName : Option Text
  accessTokenEncrypted : Text
  refreshTokenEncrypted : Option Text
  expiresAt : Option Int
  scope : List Text
  tokenKeyVersion : Text
deriving DecidableEq, Repr

/-- An account that has just been connected; its status is `active`. -/
structure ConnectedSocialAccount where
  id : AccountId
  userId : Text
  platform : SocialPlatform
  platformAccountId : Text
  accountName : Option Text
  expiresAt : Option Int
  scope : List Text
deriving DecidableEq, Repr

structure FacebookPageSelection where
  selectionId : Text
  pages : List (Text × Text)

/-- A row of `facebook_page_selection_items`, without its selection. -/
structure FacebookPageItem where
  pageId : Text
  pageName : Text
  pageAccessTokenEncrypted : Text
deriving DecidableEq, Repr

structure FacebookPageSelectionRecord where
  userId : Text
  scope : List Text
  pageId : Text
  pageName : Text
  pageAccessTokenEncrypted : Text

/-! ## What the calls run in -/

/-- How PostgreSQL reads and writes a `uuid`. -/
structure UuidType where
  parse : Text → Option UserId
  print : UserId → Text
  parse_print : ∀ text id, parse text = some id → parse (print id) = some id

structure Deployment where
  surroundings : Surroundings
  cipher : AuthenticatedCipher
  sha256 : List UInt8 → List UInt8
  uuid : UuidType
  /-- `new URL(path, base).toString()`, where `none` is a thrown `TypeError`. -/
  resolveUrl : Text → Text → Option Text
  /-- How the driver writes a JSON value where a text is stored. -/
  parameter : Json → Text

/-- What `randomBytes(n)` gives. -/
structure RandomBytes (n : Nat) where
  octets : List UInt8
  length : octets.length = n

/-- What a call draws; it encrypts each of its secrets with an initialisation vector of its own. -/
structure Draws where
  bytes32 : RandomBytes 32
  bytes48 : RandomBytes 48
  iv : Nat → InitialisationVector

namespace Draws

/-- The state of an authorization, or the id of a page selection. -/
def token (draws : Draws) : Text := Base64url.encode draws.bytes32.octets

def codeVerifier (draws : Draws) : Text := Base64url.encode draws.bytes48.octets

end Draws

namespace Deployment

variable (d : Deployment)

def hashState (state : Text) : Text :=
  (d.sha256 (Utf8.encode state)).flatMap fun octet =>
    [JsonText.hexChar (octet.toNat / 16), JsonText.hexChar (octet.toNat % 16)]

def codeChallenge (codeVerifier : Text) : Text :=
  Base64url.encode (d.sha256 (Utf8.encode codeVerifier))

end Deployment

/-! ## Requests and replies -/

structure TokenRequest where
  platform : OAuthPlatform
  url : Text
  body : List (String × Text)
deriving DecidableEq, Repr

inductive OAuthStatement
  | insertUser (userId : Text)
  | insertState (state : OAuthAuthorizationState)
  /-- The UPDATE of `consumeState`. -/
  | consumeState (stateHash : Text)
  | upsertSocialAccount (credential : SocialAccountCredential)
  | insertAuditLog (userId : Text) (action entityType : String) (entityId : AccountId)
      (metadata : List (String × Text))
  | begin | commit | rollback
  | insertSelection (selectionHash userId : Text) (scope : List Text) (expiresAt : Time)
  | insertSelectionItem (selectionHash : Text) (page : FacebookPageItem)
  /-- The UPDATE of `consumeFacebookPageSelection`. -/
  | takeSelection (selectionHash userId : Text)
  | findSelectionItem (selectionHash pageId : Text)
deriving DecidableEq, Repr

inductive OAuthRequest
  /-- `pool.connect()`. -/
  | connect
  | query (statement : OAuthStatement)
  /-- The request with an authorization code to the token endpoint. -/
  | exchangeCode (request : TokenRequest)
  | fetchProfile (url accessToken : Text)
  | fetchManagedPages (url accessToken : Text)
  | fetchInstagramAccount (url accessToken : Text)
  /-- `Date.now()`. -/
  | now
deriving DecidableEq, Repr

/-- The first row that a statement returns. -/
inductive OAuthRow
  | state (state : OAuthAuthorizationState)
  | account (account : ConnectedSocialAccount)
  | selection (scope : List Text)
  | item (item : FacebookPageItem)

def OAuthRow.state? : OAuthRow → Option OAuthAuthorizationState
  | .state row => some row
  | _ => none

/-- A reply to whatever is asked: each request reads the member that belongs to it. -/
structure OAuthReply where
  rows : Except PlainError (Option OAuthRow)
  http : FetchAnswer
  date : Time

abbrev OAuthPromise (α : Type) := Program OAuthRequest OAuthReply ThrownError α

/-! ## The providers -/

structure OAuthProvider where
  platform : OAuthPlatform
  callbackRoute : OAuthCallbackRoute
  envPrefix : String
  identityFromProfile : List (String × Json) → Except ThrownError OAuthIdentity
  /-- Whether the optional `listManagedPages` is defined. -/
  listsManagedPages : Bool

def linkedInOAuthProvider : OAuthProvider :=
  ⟨.linkedin, .linkedin, "LINKEDIN", LinkedInOAuthProvider.identityFromProfile, false⟩

def facebookOAuthProvider : OAuthProvider where
  platform := .facebook
  callbackRoute := .metaRoute
  envPrefix := "FACEBOOK"
  identityFromProfile profile := identityOf [Json.member "id" profile] [Json.member "name" profile]
    "Meta profile omitted an account ID."
  listsManagedPages := true

def threadsOAuthProvider : OAuthProvider :=
  ⟨.threads, .threads, "THREADS", ThreadsOAuthProvider.identityFromProfile, false⟩

def xOAuthProvider : OAuthProvider :=
  ⟨.x, .x, "X", XOAuthProvider.identityFromProfile, false⟩

def oauthProviders : List OAuthProvider :=
  [linkedInOAuthProvider, facebookOAuthProvider, threadsOAuthProvider, xOAuthProvider]

/-- A URL with the search parameters that are set on it. -/
structure AuthorizationUrl where
  url : Text
  parameters : List (String × Text)

/-- The `ok` check of a response, with the message for another status. -/
def okOr (message : Nat → String) : FetchAnswer → Except ThrownError HttpResponse
  | .failed error _ => .error error.toThrown
  | .response response =>
    if responseOk response.status then .ok response
    else .error (.serviceUnavailable (message response.status))

namespace ConfigurableOAuthProvider

variable (d : Deployment) (provider : OAuthProvider)

def required (name : String) : Except ThrownError Text :=
  match d.surroundings.setting ("OAUTH_" ++ provider.envPrefix ++ "_" ++ name) with
  | some value => .ok value
  | none => .error (.serviceUnavailable
      ("OAuth provider " ++ provider.platform.name ++ " is not configured."))

def callbackUrl : Except ThrownError Text :=
  match d.surroundings.setting "PUBLIC_API_ORIGIN" with
  | none => .error (.serviceUnavailable "PUBLIC_API_ORIGIN is not configured.")
  | some origin =>
    let path := "/api/oauth/" ++ provider.callbackRoute.name ++ "/callback"
    match d.resolveUrl path.toList origin with
    | some url => .ok url
    | none => .error (.serviceUnavailable "PUBLIC_API_ORIGIN must be a valid URL.")

def createAuthorizationUrl (state codeChallenge : Text) : Except ThrownError AuthorizationUrl := do
  let url ← required d provider "AUTHORIZATION_URL"
  let _ ← d.surroundings.newUrl url
  let clientId ← required d provider "CLIENT_ID"
  let redirectUri ← callbackUrl d provider
  let scopes ← required d provider "SCOPES"
  return {
    url := d.surroundings.href url
    parameters := [("response_type", "code".toList), ("client_id", clientId),
      ("redirect_uri", redirectUri), ("state", state), ("scope", scopes),
      ("code_challenge", codeChallenge), ("code_challenge_method", "S256".toList)] }

/-- `json(response)`. -/
def jsonOf (response : HttpResponse) : Except ThrownError (List (String × Json)) := do
  match ← readJson response with
  | .object members => return members
  | _ => throw (.serviceUnavailable
      (provider.platform.name ++ " returned an invalid JSON response."))

/-- `new Date(ms)` takes the integer part of its argument. -/
def integerPart (ms : Rat) : Int := if 0 ≤ ms then ⌊ms⌋ else ⌈ms⌉

/-- `text.split(/[ ,]+/).filter(Boolean)`. -/
def scopesOf (text : Text) : List Text :=
  (text.splitOnP fun c => c = ' ' ∨ c = ',').filter fun scope => !scope.isEmpty

def tokenBody (code redirectUri clientId clientSecret codeVerifier : Text) :
    List (String × Text) :=
  [("grant_type", "authorization_code".toList), ("code", code), ("redirect_uri", redirectUri),
    ("client_id", clientId), ("client_secret", clientSecret), ("code_verifier", codeVerifier)]

/-- The expiry that a token response gives. -/
def expiryOf (payload : List (String × Json)) : OAuthPromise (Option Int) :=
  match Json.member "expires_in" payload with
  | some (.number (.finite expiresIn)) => do
    let reply ← Program.ask .now
    return some (integerPart (reply.date + expiresIn * 1000))
  | _ => return none

/-- The scopes that a token response names, or else those that are asked for. -/
def grantedScopes (payload : List (String × Json)) : Except ThrownError (List Text) :=
  match Json.nonEmptyString (Json.member "scope" payload) with
  | some scope => .ok (scopesOf scope)
  | none => (required d provider "SCOPES").map scopesOf

def exchangeCode (code codeVerifier : Text) : OAuthPromise OAuthTokenSet := do
  let redirectUri ← callbackUrl d provider
  let clientId ← required d provider "CLIENT_ID"
  let clientSecret ← required d provider "CLIENT_SECRET"
  let url ← required d provider "TOKEN_URL"
  let reply ← Program.ask (.exchangeCode {
    platform := provider.platform
    url
    body := tokenBody code redirectUri clientId clientSecret codeVerifier })
  let response ← okOr (fun status =>
    provider.platform.name ++ " token exchange failed (" ++ toString status ++ ").") reply.http
  let payload ← jsonOf provider response
  match Json.nonEmptyString (Json.member "access_token" payload) with
  | none => throw (ThrownError.serviceUnavailable
      (provider.platform.name ++ " token response omitted an access token."))
  | some accessToken =>
    let expiresAt ← expiryOf payload
    let scopes ← grantedScopes d provider payload
    return {
      accessToken
      refreshToken := Json.nonEmptyString (Json.member "refresh_token" payload)
      expiresAt
      scopes }

def fetchIdentity (accessToken : Text) : OAuthPromise OAuthIdentity := do
  let url ← required d provider "PROFILE_URL"
  let reply ← Program.ask (.fetchProfile url accessToken)
  let response ← okOr (fun status =>
    provider.platform.name ++ " profile lookup failed (" ++ toString status ++ ").") reply.http
  let profile ← jsonOf provider response
  provider.identityFromProfile profile

end ConfigurableOAuthProvider

/-- The pages in a response of the Graph API. -/
def managedPages (response : HttpResponse) : Except ThrownError (List FacebookManagedPage) := do
  match ← readJson response with
  | .object members =>
    match Json.member "data" members with
    | some (.array items) => items.mapM FacebookOAuthProvider.managedPage
    | _ => throw (.serviceUnavailable "Meta managed Page response omitted data.")
  | _ => throw (.serviceUnavailable "Meta managed Page response is invalid.")

/-- `FacebookOAuthProvider.listManagedPages`; the URL gets the fields as a search parameter. -/
def listManagedPages (d : Deployment) (accessToken : Text) :
    OAuthPromise (List FacebookManagedPage) := do
  let url ← ConfigurableOAuthProvider.required d facebookOAuthProvider "MANAGED_PAGES_URL"
  let _ ← d.surroundings.newUrl url
  let reply ← Program.ask (.fetchManagedPages url accessToken)
  let response ← okOr (fun status =>
    "Meta managed Page lookup failed (" ++ toString status ++ ").") reply.http
  managedPages response

/-! ## pg-oauth-account.repository.ts -/

namespace PgOAuthAccountRepository

variable (d : Deployment)

/-- `this.db()`. -/
def db : OAuthPromise Unit :=
  require (d.surroundings.setting "DATABASE_URL").isSome
    (.serviceUnavailable "OAuth database persistence is not configured.")

/-- One statement on the pool or on a client of it. -/
def query (statement : OAuthStatement) : OAuthPromise (Option OAuthRow) := do
  let reply ← Program.ask (.query statement)
  reply.rows.mapError PlainError.toThrown

def createState (state : OAuthAuthorizationState) : OAuthPromise Unit := do
  db d
  let _ ← query (.insertUser state.userId)
  let _ ← query (.insertState state)

def consumeState (stateHash : Text) : OAuthPromise (Option OAuthAuthorizationState) := do
  db d
  let row ← query (.consumeState stateHash)
  return row.bind OAuthRow.state?

def writeAudit (userId : Text) (action entityType : String) (entityId : AccountId)
    (metadata : List (String × Text)) : OAuthPromise Unit := do
  let _ ← query (.insertAuditLog userId action entityType entityId metadata)

def platformText : SocialPlatform → Text
  | .linkedin => "linkedin".toList
  | .instagram => "instagram".toList
  | .facebook => "facebook".toList
  | .threads => "threads".toList
  | .x => "x".toList

def upsertSocialAccount (credential : SocialAccountCredential) :
    OAuthPromise ConnectedSocialAccount := do
  db d
  match ← query (.upsertSocialAccount credential) with
  | some (.account account) =>
    writeAudit account.userId "social_account.connected" "social_account" account.id
      [("platform", platformText account.platform)]
    return account
  | _ => throw (ThrownError.error "Social account persistence returned no row.")

/-- `pool.connect()`. -/
def connect : OAuthPromise Unit := do
  db d
  let reply ← Program.ask .connect
  let _ ← (reply.rows.mapError PlainError.toThrown : Except ThrownError (Option OAuthRow))

/-- The `catch` clause of a transaction. -/
def rollingBack {α : Type} (work : OAuthPromise α) : OAuthPromise α :=
  work.catching fun error => do
    let _ ← query .rollback
    throw error

def createFacebookPageSelection (selectionHash userId : Text) (scope : List Text)
    (expiresAt : Time) (pages : List FacebookPageItem) : OAuthPromise Unit := do
  connect d
  rollingBack do
    let _ ← query .begin
    let _ ← query (.insertSelection selectionHash userId scope expiresAt)
    pages.forM fun page => do
      let _ ← query (.insertSelectionItem selectionHash page)
    let _ ← query .commit

def consumeFacebookPageSelection (selectionHash userId pageId : Text) :
    OAuthPromise (Option FacebookPageSelectionRecord) := do
  connect d
  rollingBack do
    let _ ← query .begin
    match ← query (.takeSelection selectionHash userId) with
    | some (.selection scope) =>
      match ← query (.findSelectionItem selectionHash pageId) with
      | some (.item item) =>
        let _ ← query .commit
        return some {
          userId
          scope
          pageId := item.pageId
          pageName := item.pageName
          pageAccessTokenEncrypted := item.pageAccessTokenEncrypted }
      | _ =>
        let _ ← query .rollback
        return none
    | _ =>
      let _ ← query .rollback
      return none

end PgOAuthAccountRepository

/-! ## oauth.service.ts -/

def stateTtlMs : Nat := 10 * 60 * 1000

structure CallbackQuery where
  state : Option Text
  code : Option Text
  error : Option Text
deriving DecidableEq, Repr

/-- A text that is there and not empty. -/
def given (text : Option Text) : Option Text := text.filter fun text => !text.isEmpty

/-- The platforms that a page can be connected for. -/
inductive PagePlatform
  | facebook | instagram
deriving DecidableEq, Repr

def PagePlatform.social : PagePlatform → SocialPlatform
  | .facebook => .facebook
  | .instagram => .instagram

def unauthorized (message : String) : ThrownError := .httpException 401 message
def badRequest (message : String) : ThrownError := .httpException 400 message

def Json.truthy : Json → Bool
  | .null => false
  | .boolean value => value
  | .number .nan => false
  | .number (.finite value) => value ≠ 0
  | .string value => !value.isEmpty
  | _ => true

namespace OauthService

variable (d : Deployment)

def provider (platform : OAuthPlatform) : Except ThrownError OAuthProvider :=
  match oauthProviders.find? fun provider => provider.platform = platform with
  | some provider => .ok provider
  | none => .error (badRequest ("Unsupported OAuth platform: " ++ platform.name ++ "."))

def beginAuthorization (userId : Text) (platform : OAuthPlatform) (draws : Draws) :
    OAuthPromise AuthorizationUrl := do
  require (trim userId ≠ []) (unauthorized "An authenticated user context is required.")
  let provider ← provider platform
  let codeVerifierEncrypted ← TokenService.encrypt d.cipher d.surroundings (draws.iv 0)
    draws.codeVerifier
  let reply ← Program.ask .now
  PgOAuthAccountRepository.createState d {
    stateHash := d.hashState draws.token
    userId
    platform
    callbackRoute := provider.callbackRoute
    codeVerifierEncrypted
    expiresAt := reply.date + stateTtlMs }
  ConfigurableOAuthProvider.createAuthorizationUrl d provider draws.token
    (d.codeChallenge draws.codeVerifier)

/-- `this.tokens.decrypt`. -/
def decrypt (payload : Text) : Except ThrownError Text :=
  TokenService.decrypt (d.surroundings.under d.cipher) payload

/-- The pages with their tokens encrypted. -/
def encryptPages (draws : Draws) (pages : List FacebookManagedPage) :
    Except ThrownError (List FacebookPageItem) :=
  pages.zipIdx.mapM fun (page, n) => do
    let pageAccessTokenEncrypted ← TokenService.encrypt d.cipher d.surroundings (draws.iv n)
      page.pageAccessToken
    return { pageId := page.pageId, pageName := page.pageName, pageAccessTokenEncrypted }

/-- The Facebook branch of `completeCallback`. -/
def offerPages (provider : OAuthProvider) (state : OAuthAuthorizationState)
    (tokenSet : OAuthTokenSet) (draws : Draws) : OAuthPromise FacebookPageSelection := do
  require provider.listsManagedPages
    (badRequest "Facebook Page selection is not supported by the configured provider.")
  let pages ← listManagedPages d tokenSet.accessToken
  require (pages ≠ []) (badRequest "No manageable Facebook Pages were returned.")
  let reply ← Program.ask .now
  let items ← encryptPages d draws pages
  PgOAuthAccountRepository.createFacebookPageSelection d (d.hashState draws.token) state.userId
    tokenSet.scopes (reply.date + stateTtlMs) items
  return {
    selectionId := draws.token
    pages := pages.map fun page => (page.pageId, page.pageName) }

def encryptRefreshToken (draws : Draws) : Option Text → Except ThrownError (Option Text)
  | some refreshToken =>
    (TokenService.encrypt d.cipher d.surroundings (draws.iv 1) refreshToken).map some
  | none => .ok none

/-- The other branch. -/
def connectIdentity (provider : OAuthProvider) (state : OAuthAuthorizationState)
    (tokenSet : OAuthTokenSet) (draws : Draws) : OAuthPromise ConnectedSocialAccount := do
  let identity ← ConfigurableOAuthProvider.fetchIdentity d provider tokenSet.accessToken
  let accessTokenEncrypted ← TokenService.encrypt d.cipher d.surroundings (draws.iv 0)
    tokenSet.accessToken
  let refreshTokenEncrypted ← encryptRefreshToken d draws tokenSet.refreshToken
  let tokenKeyVersion ← TokenService.keyVersion d.surroundings
  PgOAuthAccountRepository.upsertSocialAccount d {
    userId := state.userId
    platform := state.platform.social
    platformAccountId := identity.platformAccountId
    accountName := identity.accountName
    accessTokenEncrypted
    refreshTokenEncrypted
    expiresAt := tokenSet.expiresAt
    scope := tokenSet.scopes
    tokenKeyVersion }

/-- The checks before the exchange of the code. -/
def approvedCode (state : Option OAuthAuthorizationState) (callbackRoute : OAuthCallbackRoute)
    (query : CallbackQuery) : Except ThrownError (OAuthAuthorizationState × Text) :=
  match state.filter fun state => state.callbackRoute = callbackRoute with
  | none => .error (unauthorized "OAuth state is invalid, expired, or already used.")
  | some state =>
    if (given query.error).isSome then
      .error (badRequest "The social account authorization was not approved.")
    else match given query.code with
      | none => .error (badRequest "OAuth authorization code is missing.")
      | some code => .ok (state, code)

/-- What is behind the exchange: a page selection for Facebook, or else an account. -/
def afterExchange (provider : OAuthProvider) (state : OAuthAuthorizationState)
    (tokenSet : OAuthTokenSet) (draws : Draws) :
    OAuthPromise (ConnectedSocialAccount ⊕ FacebookPageSelection) := do
  if state.platform = .facebook then
    let selection ← offerPages d provider state tokenSet draws
    return .inr selection
  else
    let account ← connectIdentity d provider state tokenSet draws
    return .inl account

def completeCallback (callbackRoute : OAuthCallbackRoute) (query : CallbackQuery)
    (draws : Draws) : OAuthPromise (ConnectedSocialAccount ⊕ FacebookPageSelection) := do
  match given query.state with
  | none => throw (unauthorized "OAuth state is missing.")
  | some queryState =>
    let consumed ← PgOAuthAccountRepository.consumeState d (d.hashState queryState)
    let (state, code) ← approvedCode consumed callbackRoute query
    let provider ← provider state.platform
    let codeVerifier ← decrypt d state.codeVerifierEncrypted
    let tokenSet ← ConfigurableOAuthProvider.exchangeCode d provider code codeVerifier
    afterExchange d provider state tokenSet draws

/-- The id and the name of the Instagram account in a response. -/
def instagramAccount (selected : FacebookPageSelectionRecord) (response : HttpResponse) :
    Except ThrownError (Text × Text) := do
  let data ← readJson response
  let failure := badRequest
    "선택한 페이지에 Instagram 프로페셔널 계정이 연결되어 있지 않습니다. 다시 연결하세요."
  require (responseOk response.status) failure
  match data with
  | .null => throw (.typeError "Cannot read properties of null")
  | .object members =>
    match Json.member "instagram_business_account" members with
    | some (.object account) =>
      match (Json.member "id" account).filter Json.truthy with
      | some id => return (d.parameter id,
          ((nullish (Json.member "username" account) none).map d.parameter).getD selected.pageName)
      | none => throw failure
    | _ => throw failure
  | _ => throw failure

/-- The id and the name that the account of a selected page gets. -/
def pageAccount (selected : FacebookPageSelectionRecord) :
    PagePlatform → OAuthPromise (Text × Text)
  | .facebook => return (selected.pageId, selected.pageName)
  | .instagram => do
    let notConfigured := badRequest "Meta Graph API URL is not configured."
    match d.surroundings.setting "FACEBOOK_GRAPH_API_BASE_URL" with
    | none => throw notConfigured
    | some base =>
      let parsed ← d.surroundings.newUrl base
      require (parsed.protocol = "https:") notConfigured
      let url := withoutFinalSlash base ++ '/' :: encodeURIComponent selected.pageId
      let _ ← d.surroundings.newUrl url
      let accessToken ← decrypt d selected.pageAccessTokenEncrypted
      let reply ← Program.ask (.fetchInstagramAccount url accessToken)
      match reply.http with
      | .failed error _ => throw error.toThrown
      | .response response => instagramAccount d selected response

def selectFacebookPage (userId selectionId pageId : Text) (platform : PagePlatform) :
    OAuthPromise ConnectedSocialAccount := do
  require (trim userId ≠ []) (unauthorized "An authenticated user context is required.")
  require (selectionId ≠ [] ∧ pageId ≠ []) (badRequest "Facebook Page selection is incomplete.")
  match ← PgOAuthAccountRepository.consumeFacebookPageSelection d (d.hashState selectionId) userId
    pageId with
  | none =>
    throw (unauthorized "Facebook Page selection is invalid, expired, or already used.")
  | some selected =>
    let (platformAccountId, accountName) ← pageAccount d selected platform
    let tokenKeyVersion ← TokenService.keyVersion d.surroundings
    PgOAuthAccountRepository.upsertSocialAccount d {
      userId := selected.userId
      platform := platform.social
      platformAccountId
      accountName := some accountName
      accessTokenEncrypted := selected.pageAccessTokenEncrypted
      refreshTokenEncrypted := none
      expiresAt := none
      scope := selected.scope
      tokenKeyVersion }

end OauthService

end SocialPromotion.OAuth
