import Mathlib.Data.List.AList
import SocialPromotion.Lib.Processes
import SocialPromotion.Model.Adapters
import SocialPromotion.Model.OAuth

/-!
# The accounts behind the publications

`social_accounts` with its tokens, and all who work on it at once: the end of a connection
(`upsertSocialAccount`), `disconnect` of `integrations.controller.ts`, and the publications of the
adapters, which look their account up.
-/

namespace SocialPromotion.Accounts

open Processes OAuth

/-! ## social_accounts -/

structure AccountRow where
  userId : UserId
  platform : SocialPlatform
  platformAccountId : Text
  accountName : Option Text
  accessTokenEncrypted : Option Text
  refreshTokenEncrypted : Option Text
  expiresAt : Option Int
  scope : List Text
  tokenKeyVersion : Text
  status : AccountStatus
  activeRequiresAccessToken : status = .active → accessTokenEncrypted.isSome

/-- `audit_logs` of these actions. -/
structure AccountAudit where
  userId : UserId
  action : String
  entityType : String
  entityId : AccountId
  metadata : List (String × Text)
deriving DecidableEq, Repr

structure AccountsDatabase where
  now : Time
  users : List UserId
  accounts : AList fun _ : AccountId => AccountRow
  auditLogs : List AccountAudit
  nextUuid : Uuid

/-- What these calls wait for. -/
inductive AccountRequest
  | oauth (request : OAuthRequest)
  | adapter (request : Request)
  /-- The UPDATE of `disconnectSocialAccount`. -/
  | disconnect (userId accountId : Text)
  | insertAuditLog (userId : Text) (action entityType : String) (entityId : Text)
  /-- The answer of `disconnect`. -/
  | disconnected (integrationId : Text)

/-- What PostgreSQL returns: a row, the number of rows, or the account of an adapter. -/
structure AccountResult where
  row : Option OAuthRow := none
  rowCount : Nat := 0
  account : Option ActiveSocialAccountCredential := none

structure AccountReply where
  oauth : OAuthReply
  rowCount : Except PlainError Nat
  adapter : Reply

abbrev AccountPromise (α : Type) := Program AccountRequest AccountReply ThrownError α

namespace AccountRow

/-- What INSERT ... ON CONFLICT DO UPDATE makes of the row there was. -/
def upserted (userId : UserId) (credential : OAuth.SocialAccountCredential)
    (before : Option AccountRow) : AccountRow where
  userId := userId
  platform := credential.platform
  platformAccountId := credential.platformAccountId
  accountName := credential.accountName
  accessTokenEncrypted := some credential.accessTokenEncrypted
  refreshTokenEncrypted :=
    credential.refreshTokenEncrypted <|> before.bind AccountRow.refreshTokenEncrypted
  expiresAt := credential.expiresAt
  scope := credential.scope
  tokenKeyVersion := credential.tokenKeyVersion
  status := .active
  activeRequiresAccessToken _ := rfl

/-- The SET clause of `disconnectSocialAccount`. -/
def revoked (row : AccountRow) : AccountRow :=
  { row with
    status := .revoked
    accessTokenEncrypted := none
    refreshTokenEncrypted := none
    activeRequiresAccessToken := fun h => by cases h }

/-- What `findActiveSocialAccount` makes of a row that it selects. An expiry before the epoch is as
past as one at it. -/
def credential (id : AccountId) (row : AccountRow) (accessTokenEncrypted : Text) :
    ActiveSocialAccountCredential where
  id := id
  platform := row.platform
  platformAccountId := row.platformAccountId
  accessTokenEncrypted := accessTokenEncrypted
  expiresAt := row.expiresAt.map Int.toNat
  scope := row.scope.map String.ofList

end AccountRow

namespace AccountsDatabase

variable (d : OAuth.Deployment) (db : AccountsDatabase)

/-- The user that a parameter of type `uuid` names, if there is a row for it. -/
def user (userId : Text) : Option UserId :=
  (d.uuid.parse userId).filter fun id => id ∈ db.users

/-- The row under UNIQUE (user_id, platform, platform_account_id). -/
def connectedId (userId : UserId) (credential : OAuth.SocialAccountCredential) :
    Option AccountId :=
  (db.accounts.entries.find? fun entry =>
    entry.2.userId = userId ∧ entry.2.platform = credential.platform ∧
      entry.2.platformAccountId = credential.platformAccountId).map Sigma.fst

/-- The id of the row that a credential is stored in. -/
def upsertedId (userId : UserId) (credential : OAuth.SocialAccountCredential) : AccountId :=
  (db.connectedId userId credential).getD db.nextUuid

def upsert (userId : UserId) (credential : OAuth.SocialAccountCredential) : AccountsDatabase :=
  { db with
    accounts := db.accounts.insert (db.upsertedId userId credential)
      (.upserted userId credential
        ((db.connectedId userId credential).bind fun id => db.accounts.lookup id))
    nextUuid := db.nextUuid + 1 }

/-- What RETURNING gives of it. -/
def returned (userId : UserId) (credential : OAuth.SocialAccountCredential) :
    ConnectedSocialAccount where
  id := db.upsertedId userId credential
  userId := d.uuid.print userId
  platform := credential.platform
  platformAccountId := credential.platformAccountId
  accountName := credential.accountName
  expiresAt := credential.expiresAt
  scope := credential.scope

/-- The row that the UPDATE of `disconnectSocialAccount` matches. -/
def owned (userId : UserId) (id : AccountId) : Option AccountRow :=
  (db.accounts.lookup id).filter fun row => row.userId = userId ∧ row.status ≠ .revoked

def disconnect (userId : UserId) (id : AccountId) : Nat × AccountsDatabase :=
  match db.owned userId id with
  | some row => (1, { db with accounts := db.accounts.insert id row.revoked })
  | none => (0, db)

/-- The SELECT of `findActiveSocialAccount`. -/
def findActive (id : AccountId) (platform : SocialPlatform) :
    Option ActiveSocialAccountCredential := do
  let row ← (db.accounts.lookup id).filter fun row =>
    row.platform = platform ∧ row.status = .active
  let accessTokenEncrypted ← row.accessTokenEncrypted
  return row.credential id accessTokenEncrypted

def insertAudit (userId : Text) (action entityType : String) (entityId : AccountId)
    (metadata : List (String × Text)) : Option AccountsDatabase := do
  let userId ← db.user d userId
  return { db with
    auditLogs := db.auditLogs ++ [⟨userId, action, entityType, entityId, metadata⟩] }

/-- The result of a statement and the next tables; `none` is an error of the database. -/
def execute : AccountRequest → Option (AccountResult × AccountsDatabase)
  | .oauth (.query (.upsertSocialAccount credential)) =>
    (db.user d credential.userId).map fun userId =>
      ({ row := some (.account (db.returned d userId credential)) }, db.upsert userId credential)
  | .oauth (.query (.insertAuditLog userId action entityType entityId metadata)) =>
    (db.insertAudit d userId action entityType entityId metadata).map fun db => ({}, db)
  | .disconnect userId accountId => do
    let userId ← d.uuid.parse userId
    let id ← d.uuid.parse accountId
    let (rowCount, db) := db.disconnect userId id
    return ({ rowCount }, db)
  | .insertAuditLog userId action entityType entityId => do
    let id ← d.uuid.parse entityId
    let db ← db.insertAudit d userId action entityType id []
    return ({}, db)
  | .adapter (.findActiveSocialAccount id platform) =>
    some ({ account := db.findActive id platform }, db)
  | _ => some ({}, db)

end AccountsDatabase

/-! ## The calls -/

section Calls

variable (d : OAuth.Deployment)

/-- A publication as the processes that it consists of: the adapter's program, or one for each
upload and, with the ids of the uploads, the one that goes on. -/
inductive Part
  | whole
  | upload (n : Nat)
  | post (mediaIds : List Text)

def Part.program (publication : Process Request Reply ThrownError Text PublishResult) :
    Part → Promise Unit
  | .whole => match publication with
    | .single program => program >>= fun _ => return
    | .all _ _ => return
  | .upload n => match publication with
    | .single _ => return
    | .all tasks _ => match tasks[n]? with
      | some task => task >>= fun _ => return
      | none => return
  | .post mediaIds => match publication with
    | .single _ => return
    | .all _ next => next mediaIds >>= fun _ => return

/-- `disconnect` of the controller over `disconnectSocialAccount`. -/
def disconnect (userId integrationId : Text) : AccountPromise Unit := do
  require (d.surroundings.setting "DATABASE_URL").isSome
    (.serviceUnavailable "OAuth database persistence is not configured.")
  let reply ← Program.ask (.disconnect userId integrationId)
  let rowCount ← (reply.rowCount.mapError PlainError.toThrown : Except ThrownError Nat)
  if rowCount = 1 then do
    let reply ← Program.ask
      (.insertAuditLog userId "social_account.disconnected" "social_account" integrationId)
    let _ ← (reply.rowCount.mapError PlainError.toThrown : Except ThrownError Nat)
    let _ ← Program.ask (.disconnected integrationId)
  else throw (ThrownError.notFound "Integration not found.")

inductive AccountCall
  /-- What `completeCallback` and `selectFacebookPage` end with. -/
  | connect (credential : OAuth.SocialAccountCredential)
  | disconnect (userId integrationId : Text)
  | publish (platform : SocialPlatform) (post : SocialPost) (part : Part)

def AccountCall.program : AccountCall → AccountPromise Unit
  | .connect credential =>
    ((OAuth.PgOAuthAccountRepository.upsertSocialAccount d credential).embed .oauth
      AccountReply.oauth) >>= fun _ => return
  | .disconnect userId integrationId => Accounts.disconnect d userId integrationId
  | .publish platform post part =>
    (part.program (adapterPublish d.surroundings platform post)).embed .adapter
      AccountReply.adapter

end Calls

/-- What the world adds to an answer: whether the database has executed the statement, an error of
the connection, and what a provider or a media host says. -/
structure AccountWorld where
  executed : Bool
  error : Option PlainError
  reply : Reply

/-- The reply with a result, unless the connection fails. -/
def AccountWorld.answer (world : AccountWorld) (result : AccountResult) (date : Time) :
    AccountReply where
  oauth := {
    rows := match world.error with
      | none => .ok result.row
      | some error => .error error
    http := world.reply.http
    date := date }
  rowCount := match world.error with
    | none => .ok result.rowCount
    | some error => .error error
  adapter := { world.reply with
    account := match world.error with
      | none => .ok result.account
      | some error => .error error
    date := date }

/-- A statement that is executed may be answered by an error, and one that is not is. -/
def AccountsDatabase.answer (d : OAuth.Deployment) (db : AccountsDatabase) (_ : Nat)
    (question : AccountRequest) (world : AccountWorld) :
    Option (AccountReply × AccountsDatabase) :=
  if world.executed then
    (db.execute d question).map fun result => (world.answer result.1 db.now, result.2)
  else if world.error.isSome then some (world.answer {} db.now, db)
  else none

/-- Time passes, and users come. -/
inductive AccountOwn
  | tick (now : Time)
  | insertUser (userId : UserId)

def AccountsDatabase.own (db : AccountsDatabase) : AccountOwn → Option AccountsDatabase
  | .tick now => if db.now ≤ now then some { db with now } else none
  | .insertUser userId => some { db with users := userId :: db.users }

def accountMachine (d : OAuth.Deployment) :
    Machine AccountsDatabase AccountRequest AccountReply AccountWorld AccountOwn where
  answer := AccountsDatabase.answer d
  own := AccountsDatabase.own

/-- No account is connected yet. -/
def AccountsDatabase.Initial (db : AccountsDatabase) : Prop := db.accounts = ∅

abbrev AccountState :=
  State AccountsDatabase AccountCall AccountRequest AccountReply ThrownError Unit

abbrev AccountExchange :=
  Exchange AccountsDatabase AccountCall AccountRequest AccountReply AccountWorld

/-- Every interleaving of connections, disconnections and publications, with its record. -/
abbrev accountSystem (d : OAuth.Deployment) :
    LTS.System (AccountState × List AccountExchange)
      (Processes.Event AccountCall AccountWorld AccountOwn) :=
  recorded (accountMachine d) (AccountCall.program d) AccountsDatabase.Initial

end SocialPromotion.Accounts
