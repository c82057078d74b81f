import SocialPromotion.Lib.JsonText
import SocialPromotion.Lib.TextEncoding
import SocialPromotion.Model.Outside
import SocialPromotion.Model.RawMetrics

/-!
# Service tokens

What `service-jwt-verifier.service.ts` and `service-jwt-auth.guard.ts` compute from one token, one
JWKS document and the environment. Public keys and signatures belong to `node:crypto`, so the type
of the keys is a parameter.
-/

namespace SocialPromotion

/-! ## Configuration -/

inductive ServiceJwtAlgorithm
  | RS256 | ES256
deriving DecidableEq, Repr

def ServiceJwtAlgorithm.text : ServiceJwtAlgorithm → Text
  | .RS256 => "RS256".toList
  | .ES256 => "ES256".toList

def MAX_JWT_SEGMENT_LENGTH : Nat := 8192
def MAX_JWKS_KEYS : Nat := 100
def DEFAULT_JWKS_CACHE_TTL_MS : Nat := 300000
def MAX_JWKS_CACHE_TTL_MS : Nat := 3600000
def UNKNOWN_KID_REFRESH_COOLDOWN_MS : Nat := 30000
def JWKS_REQUEST_TIMEOUT_MS : Nat := 3000

/-- `JwtConfiguration`, with the range of its TTL that `parseCacheTtl` admits. -/
structure JwtConfiguration where
  algorithm : ServiceJwtAlgorithm
  audience : Text
  issuer : Text
  jwksCacheTtlMs : Nat
  jwksUrl : Text
  ttlAdmitted : 10000 ≤ jwksCacheTtlMs ∧ jwksCacheTtlMs ≤ MAX_JWKS_CACHE_TTL_MS

/-- The parts of a URL that `loadConfiguration` reads. -/
structure JwksUrl where
  protocol : Text
  username : Text
  password : Text
  hash : Text
  href : Text

/-- What the verifier runs in: the environment, `new URL` and `node:crypto`; `none` is a thrown
error. -/
structure JwtRuntime (Key : Type) where
  /-- `process.env`. -/
  env : String → Option Text
  parseUrl : Text → Option JwksUrl
  /-- `createPublicKey({ key, format: 'jwk' })`. -/
  createPublicKey : List (Text × JsonValue) → Option Key
  /-- `verify('sha256', data, key, signature)`, with the encoding that belongs to the algorithm. -/
  verify : ServiceJwtAlgorithm → Key → List UInt8 → List UInt8 → Option Bool

/-- A variable that is set and not empty. -/
def JwtRuntime.setting {Key : Type} (runtime : JwtRuntime Key) (name : String) : Option Text :=
  (runtime.env name).filter fun value => !value.isEmpty

namespace ServiceJwtVerifier

/-- The TTL with the proof of its range; the value of a digit sequence is its number up to a safe
integer, and above that it is refused in any case. -/
def parseCacheTtl (value : Option Text) :
    Except String { ttl : Nat // 10000 ≤ ttl ∧ ttl ≤ MAX_JWKS_CACHE_TTL_MS } :=
  match value with
  | none | some [] => .ok ⟨DEFAULT_JWKS_CACHE_TTL_MS, by decide⟩
  | some text =>
    if text.all Char.isDigit then
      let ttl := digitsValue 10 (text.map fun c => c.toNat - 48)
      if h : 10000 ≤ ttl ∧ ttl ≤ MAX_JWKS_CACHE_TTL_MS then .ok ⟨ttl, h⟩
      else .error "SERVICE_JWT_JWKS_CACHE_TTL_MS must be between 10000 and 3600000."
    else .error "SERVICE_JWT_JWKS_CACHE_TTL_MS must be an integer in milliseconds."

def configuredAlgorithm (value : Option Text) : Option ServiceJwtAlgorithm :=
  [ServiceJwtAlgorithm.RS256, .ES256].find? fun algorithm => some algorithm.text = value

def loadConfiguration {Key : Type} (runtime : JwtRuntime Key) :
    Except String JwtConfiguration := do
  if (runtime.setting "SERVICE_JWT_SECRET").isSome then
    throw ("SERVICE_JWT_SECRET must not be configured. " ++
      "This API verifies asymmetric JWTs from JWKS only.")
  let ttl ← parseCacheTtl (runtime.env "SERVICE_JWT_JWKS_CACHE_TTL_MS")
  match runtime.setting "SERVICE_JWT_ISSUER", runtime.setting "SERVICE_JWT_AUDIENCE",
      configuredAlgorithm (runtime.env "SERVICE_JWT_SIGNING_ALGORITHM"),
      runtime.setting "SERVICE_JWT_JWKS_URL" with
  | some issuer, some audience, some algorithm, some jwksUrl =>
    match runtime.parseUrl jwksUrl with
    | none => throw "SERVICE_JWT_JWKS_URL must be a valid HTTPS URL."
    | some url =>
      if url.protocol ≠ "https:".toList ∨ url.username ≠ [] ∨ url.password ≠ [] ∨ url.hash ≠ [] then
        throw "SERVICE_JWT_JWKS_URL must be a valid HTTPS URL without credentials or a fragment."
      return ⟨algorithm, audience, issuer, ttl.1, url.href, ttl.2⟩
  | _, _, _, _ =>
    throw ("SERVICE_JWT_ISSUER, SERVICE_JWT_AUDIENCE, SERVICE_JWT_SIGNING_ALGORITHM " ++
      "(RS256 or ES256), and SERVICE_JWT_JWKS_URL are required.")

/-! ## JSON values -/

/-- `value[name]` of a parsed value other than `null`; `none` is `undefined`. What an object
inherits is neither a string, a number nor an array, like `undefined`. -/
def property (value : JsonValue) (name : Text) : Option JsonValue :=
  match value with
  | .object members => (members.reverse.find? fun e => e.1 = name).map Prod.snd
  | _ => none

/-- `isRecord`. -/
def record? : JsonValue → Option (List (Text × JsonValue))
  | .object members => some members
  | _ => none

/-- The text of a value that is a string. -/
def stringValue : Option JsonValue → Option Text
  | some (.string text) => some text
  | _ => none

/-- A finite number. -/
def finiteNumber : Option JsonValue → Option ℚ
  | some (.number literal) => Number literal
  | _ => none

/-! ## Keys -/

section Jwks

variable {Key : Type} (runtime : JwtRuntime Key) (algorithm : ServiceJwtAlgorithm)

def isExpectedJwkType (key : JsonValue) : Bool :=
  match algorithm with
  | .RS256 => stringValue (property key "kty".toList) = some "RSA".toList
  | .ES256 => stringValue (property key "kty".toList) = some "EC".toList ∧
      stringValue (property key "crv".toList) = some "P-256".toList

/-- The kid of an entry of `keys` that is used. -/
def candidateKid (candidate : JsonValue) : Option Text := do
  let _ ← record? candidate
  let kid ← stringValue (property candidate "kid".toList)
  guard (stringValue (property candidate "use".toList) ≠ some "enc".toList)
  guard ((property candidate "alg".toList).isNone ∨
    stringValue (property candidate "alg".toList) = some algorithm.text)
  guard (kid ≠ [] ∧ Utf16.length kid ≤ 256)
  guard (property candidate "d".toList).isNone
  guard (isExpectedJwkType algorithm candidate)
  return kid

/-- One round of the loop of `parseJwks`; `none` is a thrown error. -/
def addCandidate (keys : List (Text × Key)) (candidate : JsonValue) :
    Option (List (Text × Key)) :=
  match candidateKid algorithm candidate, record? candidate with
  | some kid, some members =>
    if (keys.lookup kid).isSome then none
    else (runtime.createPublicKey members).map fun key => keys ++ [(kid, key)]
  | _, _ => some keys

/-- The keys of `parseJwks`; `none` is a thrown error. -/
def parseJwks (document : JsonValue) : Option (List (Text × Key)) := do
  let _ ← record? document
  match property document "keys".toList with
  | some (.array candidates) =>
    guard (candidates ≠ [] ∧ candidates.length ≤ MAX_JWKS_KEYS)
    let keys ← candidates.foldlM (addCandidate runtime algorithm) []
    guard (keys ≠ [])
    return keys
  | _ => none

end Jwks

/-! ## One token -/

/-- `UnauthorizedException` of `invalidToken`. -/
def invalidToken : ThrownError :=
  .httpException 401 "A valid service access token is required."

/-- `[A-Za-z0-9_-]`. -/
def isSegmentChar (c : Char) : Bool := c.isAlphanum || c = '_' || c = '-'

def isBase64UrlSegment (segment : Text) : Bool :=
  segment.length ≤ MAX_JWT_SEGMENT_LENGTH ∧ segment ≠ [] ∧ segment.all isSegmentChar

/-- `Buffer.from(segment, 'base64url')` of a segment that consists of digits. -/
def segmentOctets (segment : Text) : List UInt8 := (Base64url.decode? segment).getD []

def parseJson (encodedSegment : Text) : Except ThrownError JsonValue :=
  match JsonText.parse (Utf8.decode (segmentOctets encodedSegment)) with
  | some value => .ok value
  | none => .error invalidToken

/-- Reading a property of `null` raises a `TypeError`. -/
def readable (value : JsonValue) : Except ThrownError JsonValue :=
  match value with
  | .null => .error (.typeError "Cannot read properties of null")
  | value => .ok value

/-- A token whose header has passed its checks. -/
structure Jwt where
  encodedHeader : Text
  encodedPayload : Text
  encodedSignature : Text
  kid : Text
deriving DecidableEq

/-- `verify` up to the key lookup. -/
def parseToken (configuration : JwtConfiguration) (token : Text) : Except ThrownError Jwt :=
  match token.splitOn '.' with
  | [encodedHeader, encodedPayload, encodedSignature] => do
    require (isBase64UrlSegment encodedHeader ∧ isBase64UrlSegment encodedPayload ∧
      isBase64UrlSegment encodedSignature) invalidToken
    let header ← readable (← parseJson encodedHeader)
    require (stringValue (property header "alg".toList) = some configuration.algorithm.text)
      invalidToken
    match stringValue (property header "kid".toList) with
    | none => throw invalidToken
    | some kid =>
      require (kid ≠ [] ∧ Utf16.length kid ≤ 256) invalidToken
      require ((property header "typ".toList).isNone ∨
        stringValue (property header "typ".toList) = some "JWT".toList) invalidToken
      return { encodedHeader, encodedPayload, encodedSignature, kid }
  | _ => .error invalidToken

def hasExpectedAudience (configuration : JwtConfiguration) : Option JsonValue → Bool
  | some (.string audience) => audience = configuration.audience
  | some (.array items) => items.any fun item =>
      stringValue (some item) = some configuration.audience
  | _ => false

/-- `now` is `Math.floor(Date.now() / 1_000)`. -/
def validateRegisteredClaims (configuration : JwtConfiguration) (payload : JsonValue) (now : Nat) :
    Except ThrownError Unit := do
  let payload ← readable payload
  require (stringValue (property payload "iss".toList) = some configuration.issuer ∧
    hasExpectedAudience configuration (property payload "aud".toList)) invalidToken
  require ((finiteNumber (property payload "exp".toList)).any fun exp => (now : ℚ) < exp)
    invalidToken
  require ((property payload "nbf".toList).isNone ∨
    (finiteNumber (property payload "nbf".toList)).any fun nbf => nbf ≤ (now : ℚ)) invalidToken

structure AuthenticatedUser where
  id : Text
  roles : Option (List Text)
deriving DecidableEq, Repr

/-- `/^[A-Za-z0-9_.:-]{1,100}$/`. -/
def isClaimName (name : Text) : Bool :=
  1 ≤ name.length ∧ name.length ≤ 100 ∧
    name.all fun c => isSegmentChar c || c = '.' || c = ':'

/-- `/^[A-Za-z0-9_-]{1,80}$/`. -/
def isRole (role : Text) : Bool :=
  1 ≤ role.length ∧ role.length ≤ 80 ∧ role.all isSegmentChar

/-- The values that the roles claim lists. -/
def listedRoles : Option JsonValue → List JsonValue
  | some (.string role) => [.string role]
  | some (.array items) => items
  | _ => []

/-- The roles, if all that are listed are well formed. -/
def roles (payload : JsonValue) (claimName : Text) : Option (List Text) := do
  let listed := listedRoles (property payload claimName)
  guard (listed ≠ [] ∧ listed.length ≤ 20)
  let roles ← listed.mapM fun value => stringValue (some value)
  guard (roles.all isRole)
  return roles

section Verify

variable {Key : Type} (runtime : JwtRuntime Key) (configuration : JwtConfiguration)

/-- The octets that were signed: an ASCII text. -/
def signingInput (jwt : Jwt) : List UInt8 :=
  Utf8.encode (jwt.encodedHeader ++ '.' :: jwt.encodedPayload)

def signatureValid (key : Key) (jwt : Jwt) : Bool :=
  (runtime.verify configuration.algorithm key (signingInput jwt)
    (segmentOctets jwt.encodedSignature)).getD false

/-- The user of a payload that has passed the checks of the registered claims. -/
def authenticatedUser (payload : JsonValue) : Except ThrownError AuthenticatedUser :=
  match (stringValue (property payload "sub".toList)).filter fun sub => !(trim sub).isEmpty with
  | none => .error invalidToken
  | some sub =>
    if runtime.env "SERVICE_RBAC_ENABLED" ≠ some "true".toList then .ok ⟨sub, none⟩
    else
      match (runtime.env "SERVICE_JWT_ROLES_CLAIM").filter isClaimName with
      | none => .error invalidToken
      | some claimName =>
        match roles payload claimName with
        | none => .error invalidToken
        | some roles => .ok ⟨sub, some roles⟩

/-- `verify` from the key on, at `date` (`Date.now()`). -/
def verifyWith (key : Key) (jwt : Jwt) (date : Time) : Except ThrownError AuthenticatedUser := do
  require (signatureValid runtime configuration key jwt) invalidToken
  let payload ← parseJson jwt.encodedPayload
  validateRegisteredClaims configuration payload (date / 1000)
  authenticatedUser runtime payload

end Verify

end ServiceJwtVerifier

/-! ## service-jwt-auth.guard.ts -/

namespace ServiceJwtAuthGuard

def bearerRequired : ThrownError :=
  .httpException 401 "Authorization: Bearer <token> is required."

/-- The match of `/^Bearer ([A-Za-z0-9_-]+\.[A-Za-z0-9_-]+\.[A-Za-z0-9_-]+)$/`. -/
def bearerToken (authorization : Text) : Option Text := do
  let token ← "Bearer ".toList.isPrefixOf? authorization
  let segments := token.splitOn '.'
  guard (segments.length = 3 ∧ segments.all fun segment =>
    segment ≠ [] ∧ segment.all ServiceJwtVerifier.isSegmentChar)
  return token

/-- `canActivate` of a route that is not public, up to the key lookup of `verify`; `none` is a
header that is not a single text. -/
def readRequest (configuration : JwtConfiguration) (authorization : Option Text) :
    Except ThrownError ServiceJwtVerifier.Jwt :=
  match authorization.bind bearerToken with
  | none => .error bearerRequired
  | some token => ServiceJwtVerifier.parseToken configuration token

end ServiceJwtAuthGuard

end SocialPromotion
