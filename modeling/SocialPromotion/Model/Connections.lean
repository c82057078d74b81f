import SocialPromotion.Model.Adapters
import SocialPromotion.Model.PostRepository

/-!
# Connected accounts

From the profile that a provider returns to the row of `social_accounts` it is stored in, and
from that row to what an adapter reads: `identityFromProfile` of the OAuth providers,
`selectFacebookPage`, `upsertSocialAccount` and `findActiveSocialAccount`. A row without the
encrypted texts; `tokens` is the column `access_token_encrypted`.
-/

namespace SocialPromotion

/-! ## The OAuth providers -/

structure OAuthIdentity where
  platformAccountId : Text
  accountName : Option Text
deriving DecidableEq, Repr

/-- The members of a profile that an identity is made of; the first id that is a text counts. -/
def identityOf (ids names : List (Option Json)) (message : String) :
    Except ThrownError OAuthIdentity :=
  match ids.findSome? Json.nonEmptyString with
  | some platformAccountId => .ok ⟨platformAccountId, names.findSome? Json.nonEmptyString⟩
  | none => .error (.serviceUnavailable message)

def LinkedInOAuthProvider.identityFromProfile (profile : List (String × Json)) :
    Except ThrownError OAuthIdentity :=
  identityOf [Json.member "sub" profile, Json.member "id" profile]
    [Json.member "name" profile, Json.member "localizedFirstName" profile]
    "LinkedIn profile omitted an account ID."

def ThreadsOAuthProvider.identityFromProfile (profile : List (String × Json)) :
    Except ThrownError OAuthIdentity :=
  identityOf [Json.member "id" profile, Json.member "user_id" profile]
    [Json.member "username" profile, Json.member "name" profile]
    "Threads profile omitted a user ID."

def XOAuthProvider.identityFromProfile (profile : List (String × Json)) :
    Except ThrownError OAuthIdentity :=
  match Json.member "data" profile with
  | some (.object record) =>
    identityOf [Json.member "id" record] [Json.member "name" record, Json.member "username" record]
      "X profile omitted an account ID."
  | _ => .error (.serviceUnavailable "X profile response is invalid.")

structure FacebookManagedPage where
  pageId : Text
  pageName : Text
  pageAccessToken : Text
deriving DecidableEq, Repr

/-- One entry of `listManagedPages`. -/
def FacebookOAuthProvider.managedPage : Json → Except ThrownError FacebookManagedPage
  | .object item =>
    match Json.nonEmptyString (Json.member "id" item), Json.nonEmptyString (Json.member "name" item),
      Json.nonEmptyString (Json.member "access_token" item) with
    | some pageId, some pageName, some pageAccessToken => .ok ⟨pageId, pageName, pageAccessToken⟩
    | _, _, _ =>
      .error (.serviceUnavailable "Meta managed Page entry omitted required fields.")
  | _ => .error (.serviceUnavailable "Meta managed Page entry is invalid.")

/-! ## pg-oauth-account.repository.ts -/

/-- What `completeCallback` and `selectFacebookPage` store, without the texts of the tokens. -/
structure SocialAccountCredential where
  userId : UserId
  platform : SocialPlatform
  platformAccountId : Text
  expiresAt : Option Time
  scope : List String
deriving DecidableEq, Repr

namespace PgOAuthAccountRepository

/-- The row under UNIQUE (user_id, platform, platform_account_id). -/
def connectedId (credential : SocialAccountCredential) (db : Database) : Option AccountId :=
  (db.socialAccounts.entries.find? fun entry =>
    entry.2.userId = credential.userId ∧ entry.2.platform = credential.platform ∧
      entry.2.platformAccountId = String.ofList credential.platformAccountId).map Sigma.fst

/-- INSERT ... ON CONFLICT DO UPDATE. -/
def upsertSocialAccount (credential : SocialAccountCredential) (db : Database) : Database :=
  let row : SocialAccount := {
    userId := credential.userId
    platform := credential.platform
    platformAccountId := String.ofList credential.platformAccountId
    status := .active
    hasAccessToken := true
    scope := credential.scope
    expiresAt := credential.expiresAt }
  match connectedId credential db with
  | some id => { db with socialAccounts := db.socialAccounts.insert id row }
  | none => { db with
      socialAccounts := db.socialAccounts.insert db.nextUuid row
      nextUuid := db.nextUuid + 1 }

/-- The SELECT of `findActiveSocialAccount`. -/
def selectActive (tokens : AccountId → Text) (id : AccountId) (platform : SocialPlatform)
    (db : Database) : Option ActiveSocialAccountCredential :=
  ((db.socialAccounts.lookup id).filter fun account =>
    account.platform = platform ∧ account.status = .active ∧ account.hasAccessToken).map
    fun account => {
      id := id
      platform := account.platform
      platformAccountId := account.platformAccountId.toList
      accessTokenEncrypted := tokens id
      expiresAt := account.expiresAt
      scope := account.scope }

end PgOAuthAccountRepository

/-- The credential for a write by the adapter of a platform. -/
def adapterCredential (s : Surroundings) :
    SocialPlatform → AccountId → Promise PublishingCredential
  | .linkedin => LinkedInAdapter.credentialForWrite s
  | .facebook => FacebookAdapter.writeCredential s
  | .instagram => InstagramAdapter.writeCredential s
  | .threads => ThreadsAdapter.writeCredential s
  | .x => XAdapter.writeCredential s

end SocialPromotion
