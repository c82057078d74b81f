import Mathlib.Data.List.AList
import SocialPromotion.Lib.Processes
import SocialPromotion.Model.OAuth

/-!
# The tables behind the connections

`users`, `oauth_states`, `facebook_page_selections` with its items and `social_accounts`, the
statements on them with the row locks of READ COMMITTED, and the calls of any users that put these
statements in any order. What a transaction has written is kept apart until its COMMIT.
-/

namespace SocialPromotion.OAuth

open Processes

/-- `oauth_states` without its key. -/
structure StateRow where
  userId : UserId
  platform : OAuthPlatform
  callbackRoute : OAuthCallbackRoute
  codeVerifierEncrypted : Text
  expiresAt : Time
  consumedAt : Option Time
deriving DecidableEq, Repr

/-- `facebook_page_selections` without its key, with the items of the selection. -/
structure SelectionRow where
  userId : UserId
  scope : List Text
  expiresAt : Time
  consumedAt : Option Time
  items : List FacebookPageItem
deriving DecidableEq, Repr

/-- UNIQUE (user_id, platform, platform_account_id). -/
structure AccountKey where
  userId : UserId
  platform : SocialPlatform
  platformAccountId : Text
deriving DecidableEq, Repr

/-- The other columns of an active row of `social_accounts`. -/
structure AccountRow where
  id : AccountId
  accountName : Option Text
  accessTokenEncrypted : Text
  refreshTokenEncrypted : Option Text
  expiresAt : Option Int
  scope : List Text
  tokenKeyVersion : Text
deriving DecidableEq, Repr

/-- An open transaction: when it began, the selection it has inserted, and the row that it has
locked with its UPDATE. -/
structure OpenTransaction where
  startedAt : Time
  inserted : Option (Text × SelectionRow)
  taken : Option Text
deriving DecidableEq, Repr

structure OAuthDatabase where
  now : Time
  users : List UserId
  states : AList fun _ : Text => StateRow
  selections : AList fun _ : Text => SelectionRow
  accounts : AList fun _ : AccountKey => AccountRow
  nextUuid : Uuid
  /-- By the process that has the connection. -/
  transactions : AList fun _ : Nat => OpenTransaction

namespace StateRow

/-- The row is there to be consumed. -/
def Open (now : Time) (row : StateRow) : Prop := row.consumedAt = none ∧ now < row.expiresAt

instance (now : Time) (row : StateRow) : Decidable (row.Open now) :=
  inferInstanceAs (Decidable (_ ∧ _))

/-- What RETURNING gives of it. -/
def returned (d : Deployment) (stateHash : Text) (row : StateRow) : OAuthAuthorizationState where
  stateHash := stateHash
  userId := d.uuid.print row.userId
  platform := row.platform
  callbackRoute := row.callbackRoute
  codeVerifierEncrypted := row.codeVerifierEncrypted
  expiresAt := row.expiresAt

end StateRow

/-- The row is there for a user to be consumed; `now()` is when the transaction began. -/
def SelectionRow.Open (userId : UserId) (now : Time) (row : SelectionRow) : Prop :=
  row.userId = userId ∧ row.consumedAt = none ∧ now < row.expiresAt

instance (userId : UserId) (now : Time) (row : SelectionRow) : Decidable (row.Open userId now) :=
  inferInstanceAs (Decidable (_ ∧ _ ∧ _))

namespace OAuthDatabase

variable (d : Deployment) (db : OAuthDatabase)

/-- The user that a parameter of type `uuid` names, if there is a row for it. -/
def user (userId : Text) : Option UserId :=
  (d.uuid.parse userId).filter fun id => id ∈ db.users

/-- The selection that a user's UPDATE in a transaction matches. -/
def matching (transaction : OpenTransaction) (selectionHash userId : Text) :
    Option SelectionRow := do
  let id ← d.uuid.parse userId
  (db.selections.lookup selectionHash).filter fun row => row.Open id transaction.startedAt

/-- Whether a transaction of another process has a property. -/
def anyOther (process : Nat) (p : OpenTransaction → Bool) : Bool :=
  db.transactions.entries.any fun e => e.1 ≠ process ∧ p e.2

/-- A statement waits for another transaction to end. -/
def waits (process : Nat) : OAuthStatement → Bool
  | .insertSelection selectionHash _ _ _ =>
    db.anyOther process fun transaction => transaction.inserted.any fun e => e.1 = selectionHash
  | .takeSelection selectionHash userId =>
    ((db.transactions.lookup process).bind fun transaction =>
      db.matching d transaction selectionHash userId).isSome ∧
    db.anyOther process fun transaction => transaction.taken = some selectionHash
  | _ => false

def setTransaction (process : Nat) (transaction : OpenTransaction) : OAuthDatabase :=
  { db with transactions := db.transactions.insert process transaction }

/-- The transaction of a process ends without a trace. -/
def dropTransaction (process : Nat) : OAuthDatabase :=
  { db with transactions := db.transactions.erase process }

def insertState (state : OAuthAuthorizationState) : Option OAuthDatabase := do
  let userId ← db.user d state.userId
  if (db.states.lookup state.stateHash).isNone ∧ db.now < state.expiresAt then
    return { db with states := db.states.insert state.stateHash {
      userId
      platform := state.platform
      callbackRoute := state.callbackRoute
      codeVerifierEncrypted := state.codeVerifierEncrypted
      expiresAt := state.expiresAt
      consumedAt := none } }
  else none

def consumeState (stateHash : Text) : Option OAuthRow × OAuthDatabase :=
  match (db.states.lookup stateHash).filter fun row => row.Open db.now with
  | some row => (some (.state (row.returned d stateHash)),
      { db with states := db.states.insert stateHash { row with consumedAt := some db.now } })
  | none => (none, db)

/-- What the account of a credential keeps from the row there was. -/
def accountRow (credential : SocialAccountCredential) (before : Option AccountRow) :
    AccountRow where
  id := (before.map AccountRow.id).getD db.nextUuid
  accountName := credential.accountName
  accessTokenEncrypted := credential.accessTokenEncrypted
  refreshTokenEncrypted :=
    credential.refreshTokenEncrypted <|> before.bind AccountRow.refreshTokenEncrypted
  expiresAt := credential.expiresAt
  scope := credential.scope
  tokenKeyVersion := credential.tokenKeyVersion

/-- INSERT ... ON CONFLICT DO UPDATE. -/
def upsertSocialAccount (credential : SocialAccountCredential) :
    Option (Option OAuthRow × OAuthDatabase) := do
  let userId ← db.user d credential.userId
  let key : AccountKey := ⟨userId, credential.platform, credential.platformAccountId⟩
  let row := db.accountRow credential (db.accounts.lookup key)
  return (some (.account {
      id := row.id
      userId := d.uuid.print userId
      platform := credential.platform
      platformAccountId := credential.platformAccountId
      accountName := row.accountName
      expiresAt := row.expiresAt
      scope := row.scope }),
    { db with accounts := db.accounts.insert key row, nextUuid := db.nextUuid + 1 })

def insertSelection (process : Nat) (selectionHash userId : Text) (scope : List Text)
    (expiresAt : Time) : Option OAuthDatabase := do
  let transaction ← db.transactions.lookup process
  let userId ← db.user d userId
  if (db.selections.lookup selectionHash).isNone ∧ transaction.inserted = none ∧
      transaction.startedAt < expiresAt then
    return db.setTransaction process { transaction with
      inserted := some (selectionHash, ⟨userId, scope, expiresAt, none, []⟩) }
  else none

def insertSelectionItem (process : Nat) (selectionHash : Text) (page : FacebookPageItem) :
    Option OAuthDatabase := do
  let transaction ← db.transactions.lookup process
  let (hash, row) ← transaction.inserted
  if hash = selectionHash ∧ ∀ item ∈ row.items, item.pageId ≠ page.pageId then
    return db.setTransaction process { transaction with
      inserted := some (hash, { row with items := row.items ++ [page] }) }
  else none

def takeSelection (process : Nat) (selectionHash userId : Text) :
    Option (Option OAuthRow × OAuthDatabase) := do
  let transaction ← db.transactions.lookup process
  let _ ← d.uuid.parse userId
  if transaction.taken = none then
    match db.matching d transaction selectionHash userId with
    | some row => return (some (.selection row.scope),
        db.setTransaction process { transaction with taken := some selectionHash })
    | none => return (none, db)
  else none

def findSelectionItem (process : Nat) (selectionHash pageId : Text) :
    Option (Option OAuthRow) := do
  let _ ← db.transactions.lookup process
  return ((db.selections.lookup selectionHash).bind fun row =>
    row.items.find? fun item => item.pageId = pageId).map .item

/-- The row after the UPDATE of a transaction that is committed. -/
def consumedBy (transaction : OpenTransaction) (selectionHash : Text) (row : SelectionRow) :
    SelectionRow :=
  if transaction.taken = some selectionHash then
    { row with consumedAt := some transaction.startedAt }
  else row

def commitTaken (transaction : OpenTransaction) : OAuthDatabase :=
  { db with selections := Keyed.mapValues (consumedBy transaction) db.selections }

/-- What its INSERTs do. -/
def commitInserted (transaction : OpenTransaction) : OAuthDatabase :=
  match transaction.inserted with
  | some (selectionHash, row) => { db with
      selections := db.selections.insert selectionHash row }
  | none => db

def commit (process : Nat) : Option OAuthDatabase := do
  let transaction ← db.transactions.lookup process
  return ((db.commitTaken transaction).commitInserted transaction).dropTransaction process

/-- The first row and the next tables; `none` is an error of the database. -/
def execute (process : Nat) : OAuthStatement → Option (Option OAuthRow × OAuthDatabase)
  | .insertUser userId => (d.uuid.parse userId).map fun id =>
    (none, { db with users := if id ∈ db.users then db.users else db.users ++ [id] })
  | .insertState state => (db.insertState d state).map fun db => (none, db)
  | .consumeState stateHash => some (db.consumeState d stateHash)
  | .upsertSocialAccount credential => db.upsertSocialAccount d credential
  | .insertAuditLog userId _ _ _ _ => (db.user d userId).map fun _ => (none, db)
  | .begin => some (none, match db.transactions.lookup process with
    | some _ => db
    | none => db.setTransaction process ⟨db.now, none, none⟩)
  | .commit => (db.commit process).map fun db => (none, db)
  | .rollback => some (none, db.dropTransaction process)
  | .insertSelection selectionHash userId scope expiresAt =>
    (db.insertSelection d process selectionHash userId scope expiresAt).map fun db => (none, db)
  | .insertSelectionItem selectionHash page =>
    (db.insertSelectionItem process selectionHash page).map fun db => (none, db)
  | .takeSelection selectionHash userId => db.takeSelection d process selectionHash userId
  | .findSelectionItem selectionHash pageId =>
    (db.findSelectionItem process selectionHash pageId).map fun row => (row, db)

end OAuthDatabase

/-! ## The calls -/

inductive OAuthCall
  | beginAuthorization (userId : Text) (platform : OAuthPlatform) (draws : Draws)
  | completeCallback (callbackRoute : OAuthCallbackRoute) (query : CallbackQuery) (draws : Draws)
  | selectFacebookPage (userId selectionId pageId : Text) (platform : PagePlatform)

inductive OAuthOutcome
  | authorizationUrl (url : AuthorizationUrl)
  | account (account : ConnectedSocialAccount)
  | selection (selection : FacebookPageSelection)

def OAuthCall.program (d : Deployment) : OAuthCall → OAuthPromise OAuthOutcome
  | .beginAuthorization userId platform draws => do
    let url ← OauthService.beginAuthorization d userId platform draws
    return .authorizationUrl url
  | .completeCallback callbackRoute query draws => do
    match ← OauthService.completeCallback d callbackRoute query draws with
    | .inl account => return .account account
    | .inr selection => return .selection selection
  | .selectFacebookPage userId selectionId pageId platform => do
    let account ← OauthService.selectFacebookPage d userId selectionId pageId platform
    return .account account

/-- What the world adds to an answer: whether the database has executed the statement, an error of
the connection, and what a provider says. -/
structure OAuthWorld where
  executed : Bool
  error : Option PlainError
  http : FetchAnswer

/-- What happens beside the calls. -/
inductive OAuthOwn
  | tick (now : Time)
  /-- The server ends the connection of a process, and with it a transaction. -/
  | disconnect (process : Nat)

/-- The reply with a row, unless the connection fails. -/
def OAuthWorld.reply (world : OAuthWorld) (row : Option OAuthRow) (date : Time) : OAuthReply where
  rows := match world.error with
    | none => .ok row
    | some error => .error error
  http := world.http
  date := date

/-- A statement that is executed may be answered by an error, and one that is not is. -/
def OAuthDatabase.answer (d : Deployment) (db : OAuthDatabase) (process : Nat)
    (question : OAuthRequest) (world : OAuthWorld) : Option (OAuthReply × OAuthDatabase) :=
  match question with
  | .query statement =>
    if world.executed then
      if db.waits d process statement then none
      else (db.execute d process statement).map fun result =>
        (world.reply result.1 db.now, result.2)
    else if world.error.isSome then some (world.reply none db.now, db)
    else none
  | _ => some (world.reply none db.now, db)

def OAuthDatabase.own (db : OAuthDatabase) : OAuthOwn → Option OAuthDatabase
  | .tick now => if db.now ≤ now then some { db with now } else none
  | .disconnect process => some (db.dropTransaction process)

def oauthMachine (d : Deployment) :
    Machine OAuthDatabase OAuthRequest OAuthReply OAuthWorld OAuthOwn where
  answer := OAuthDatabase.answer d
  own := OAuthDatabase.own

/-- There are no authorizations and no selections yet, and no open transaction. -/
def OAuthDatabase.Initial (db : OAuthDatabase) : Prop :=
  db.states = ∅ ∧ db.selections = ∅ ∧ db.transactions = ∅

abbrev OAuthSystemState := State OAuthDatabase OAuthCall OAuthRequest OAuthReply ThrownError
  OAuthOutcome

abbrev OAuthExchange := Exchange OAuthDatabase OAuthCall OAuthRequest OAuthReply OAuthWorld

/-- Every interleaving of the calls, with its record. -/
abbrev oauthSystem (d : Deployment) :
    LTS.System (OAuthSystemState × List OAuthExchange) (Processes.Event OAuthCall OAuthWorld OAuthOwn) :=
  recorded (oauthMachine d) (OAuthCall.program d) OAuthDatabase.Initial

end SocialPromotion.OAuth
