import SocialPromotion.Model.Outside

/-!
# Publishing credentials

`token.service.ts` and the five `*-credential.service.ts`: from the row of a connected
account to the token an adapter sends. The five services are one, up to the provider's name
in their messages and to what they accept as the provider's own id of the account.
-/

namespace SocialPromotion

/-! ## token.service.ts -/

namespace TokenService

/-- `[A-Za-z0-9_-]`. -/
def isKeyChar (c : Char) : Bool := c.isAlphanum || c = '_' || c = '-'

/-- `KEY_VERSION_PATTERN.test(version)`. -/
def isKeyVersion (version : Text) : Bool :=
  1 ≤ version.length ∧ version.length ≤ 64 ∧ version.all isKeyChar

def isBase64Url (value : Text) : Bool :=
  0 < value.length ∧ value.length ≤ 16384 ∧ value.all isKeyChar

def decodeKey (s : Surroundings) (encodedKey : Text) : Except ThrownError (List UInt8) :=
  let key := s.fromBase64 encodedKey
  if key.length ≠ 32 ∨ s.toBase64 key ≠ encodedKey then
    .error (.serviceUnavailable "OAuth token encryption keys must be base64-encoded 32-byte values.")
  else .ok key

def keyVersion (s : Surroundings) : Except ThrownError Text :=
  let version := (s.setting "OAUTH_TOKEN_ENCRYPTION_KEY_VERSION").getD "v1".toList
  if isKeyVersion version then .ok version
  else .error (.serviceUnavailable "OAuth token encryption key version is invalid.")

def legacyKeyRing (s : Surroundings) : Except ThrownError (List (Text × List UInt8)) :=
  match s.setting "OAUTH_TOKEN_ENCRYPTION_KEY" with
  | none => .error (.serviceUnavailable "OAuth token encryption is not configured.")
  | some encodedKey => do
    let version ← keyVersion s
    let key ← decodeKey s encodedKey
    return [(version, key)]

def keyEntry (s : Surroundings) (entry : String × Json) :
    Except ThrownError (Text × List UInt8) :=
  match entry with
  | (version, .string encodedKey) =>
    if isKeyVersion version.toList then do
      let key ← decodeKey s encodedKey
      return (version.toList, key)
    else
      .error (.serviceUnavailable "OAUTH_TOKEN_ENCRYPTION_KEYS contains an invalid key entry.")
  | _ => .error (.serviceUnavailable "OAUTH_TOKEN_ENCRYPTION_KEYS contains an invalid key entry.")

def keyRing (s : Surroundings) : Except ThrownError (List (Text × List UInt8)) :=
  match s.setting "OAUTH_TOKEN_ENCRYPTION_KEYS" with
  | none => legacyKeyRing s
  | some encodedKeyRing =>
    match s.parseJson encodedKeyRing with
    | some (.object []) => .error (.serviceUnavailable
        "OAUTH_TOKEN_ENCRYPTION_KEYS must contain at least one key.")
    | some (.object entries) => entries.mapM (keyEntry s)
    | _ => .error (.serviceUnavailable
        "OAUTH_TOKEN_ENCRYPTION_KEYS must be a JSON object of version-to-base64-key entries.")

def key (s : Surroundings) (version : Text) : Except ThrownError (List UInt8) := do
  let keys ← keyRing s
  match keys.lookup version with
  | some key => return key
  | none => throw (.serviceUnavailable ("OAuth token encryption key version " ++
      String.ofList version ++ " is not configured."))

/-- Every error of `key` is a `ServiceUnavailableException`, which the catch clause throws
again. -/
def decrypt (s : Surroundings) (payload : Text) : Except ThrownError Text :=
  match payload.splitOn '.' with
  | [version, iv, tag, ciphertext] =>
    if isKeyVersion version ∧ isBase64Url iv ∧ isBase64Url tag ∧ isBase64Url ciphertext then do
      let key ← key s version
      match s.decipher key iv tag ciphertext with
      | some plaintext => return plaintext
      | none => throw (.typeError "Encrypted secret payload could not be decrypted.")
    else .error (.typeError "Unsupported encrypted secret payload.")
  | _ => .error (.typeError "Unsupported encrypted secret payload.")

end TokenService

/-! ## The account row -/

/-- `findActiveSocialAccount` of the account repository. -/
def findActiveSocialAccount (s : Surroundings) (id : AccountId) (platform : SocialPlatform) :
    Promise (Option ActiveSocialAccountCredential) := do
  require (s.setting "DATABASE_URL").isSome
    (.serviceUnavailable "OAuth database persistence is not configured.")
  let reply ← Program.ask (.findActiveSocialAccount id platform)
  reply.account.mapError PlainError.toThrown

/-- `new Date()`. -/
def newDate : Promise Time := do
  let reply ← Program.ask .clock
  return reply.date

/-! ## The five credential services -/

/-- The credential of any provider; `providerId` is its `authorUrn`, `pageId`,
`instagramAccountId`, `threadsUserId` or `xUserId`. -/
structure PublishingCredential where
  socialAccountId : AccountId
  providerId : Text
  accessToken : Text
  scope : List String
deriving DecidableEq, Repr

/-- What tells the five services apart. -/
structure CredentialService where
  platform : SocialPlatform
  notFoundMessage : String
  expiredMessage : String
  unverifiedMessage : String
  /-- The provider id of an account id that passes the service's pattern. -/
  providerId : Text → Option Text

namespace CredentialService

/-- What `resolve` does with the row that it found. -/
def credential (service : CredentialService) (s : Surroundings)
    (account : ActiveSocialAccountCredential) (date : Time) :
    Except ThrownError PublishingCredential := do
  require (¬ account.expiresAt.any fun expiresAt => expiresAt ≤ date)
    (.forbidden service.expiredMessage)
  match service.providerId account.platformAccountId with
  | none => throw (.forbidden service.unverifiedMessage)
  | some providerId =>
    let accessToken ← TokenService.decrypt s account.accessTokenEncrypted
    return { socialAccountId := account.id, providerId, accessToken, scope := account.scope }

/-- The clock is read for an account that does not expire as well, which nothing depends
on. -/
def resolve (service : CredentialService) (s : Surroundings) (socialAccountId : AccountId) :
    Promise PublishingCredential := do
  match ← findActiveSocialAccount s socialAccountId service.platform with
  | none => throw (ThrownError.notFound service.notFoundMessage)
  | some account =>
    let date ← newDate
    service.credential s account date

end CredentialService

/-- `/^\d+$/`. -/
def isNumericId (id : Text) : Bool := id ≠ [] ∧ id.all Char.isDigit

def numericId (id : Text) : Option Text := if isNumericId id then some id else none

/-- `urn:li:person:` before an id that is not a URN yet. -/
def linkedInAuthorUrn (platformAccountId : Text) : Text :=
  if platformAccountId ≠ [] ∧ platformAccountId.all TokenService.isKeyChar then
    "urn:li:person:".toList ++ platformAccountId
  else platformAccountId

/-- `/^urn:li:(organization|person):[^:]+$/`. -/
def isAuthorUrn (urn : Text) : Bool :=
  let named (kind : String) : Bool := match kind.toList.isPrefixOf? urn with
    | some name => name ≠ [] ∧ ':' ∉ name
    | none => false
  named "urn:li:organization:" || named "urn:li:person:"

def LinkedInCredentialService : CredentialService where
  platform := .linkedin
  notFoundMessage := "An active LinkedIn account was not found."
  expiredMessage := "The LinkedIn access token has expired and must be reconnected."
  unverifiedMessage :=
    "LinkedIn publishing requires a verified person or organization author URN."
  providerId id := (some (linkedInAuthorUrn id)).filter isAuthorUrn

def FacebookCredentialService : CredentialService where
  platform := .facebook
  notFoundMessage := "An active Facebook Page account was not found."
  expiredMessage := "The Facebook Page access token has expired and must be reconnected."
  unverifiedMessage := "Facebook publishing requires a verified numeric Page ID."
  providerId := numericId

def InstagramCredentialService : CredentialService where
  platform := .instagram
  notFoundMessage := "An active Instagram professional account was not found."
  expiredMessage := "The Instagram access token has expired and must be reconnected."
  unverifiedMessage := "Instagram publishing requires a verified professional account ID."
  providerId := numericId

def ThreadsCredentialService : CredentialService where
  platform := .threads
  notFoundMessage := "An active Threads account was not found."
  expiredMessage := "The Threads access token has expired and must be reconnected."
  unverifiedMessage := "Threads publishing requires a verified Threads user ID."
  providerId := numericId

def XCredentialService : CredentialService where
  platform := .x
  notFoundMessage := "An active X account was not found."
  expiredMessage := "The X access token has expired and must be reconnected."
  unverifiedMessage := "X publishing requires a verified numeric user ID."
  providerId := numericId

/-- `requireScopes(credential, scopes)`: the first scope that is missing is named. -/
def requireScopes (scopes : List String) (missing : String → String)
    (credential : PublishingCredential) : Except ThrownError Unit :=
  match scopes.find? fun scope => scope ∉ credential.scope with
  | some scope => .error (.forbidden (missing scope))
  | none => .ok ()

/-- `writeCredential` of an adapter; its check that an account is named at all never fails on
a uuid. -/
def writeCredential (service : CredentialService) (s : Surroundings)
    (scopes : PublishingCredential → List String) (missing : String → String)
    (socialAccountId : AccountId) : Promise PublishingCredential := do
  let credential ← service.resolve s socialAccountId
  requireScopes (scopes credential) missing credential
  return credential

end SocialPromotion
