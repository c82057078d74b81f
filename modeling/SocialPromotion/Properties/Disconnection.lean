import SocialPromotion.Properties.AuthenticationErrors
import SocialPromotion.Properties.SingleUse
import SocialPromotion.Steps.AccountTables
import SocialPromotion.Steps.AdapterTokens

/-!
# Disconnecting takes effect

Whoever connects, disconnects and publishes at the same time: a token is used for a provider only
where the last thing that happened to its account, before the account was looked up, is that it was
connected with this token.

* `Execution`: what a statement does to the accounts;
* `Kept`: the tokens of a row are those of its last connection, and of none before a disconnection;
* `disconnection_holds`: every request carries a token of a connection that was in force when its
  process looked the account up, so who comes after a disconnection sends nothing, and a
  disconnection that was answered is in force and on record.
-/

namespace SocialPromotion.Accounts

open LTS Processes Program

-- ---------------------------------------------------------------------------
-- What happens to an account
-- ---------------------------------------------------------------------------

inductive AccountEvent
  | connected (credential : OAuth.SocialAccountCredential)
  | disconnected

section Events

variable (d : OAuth.Deployment)

/-- What a statement does to an account where it is executed. -/
def statementEvent (db : AccountsDatabase) (id : AccountId) : AccountRequest → Option AccountEvent
  | .oauth (.query (.upsertSocialAccount credential)) =>
    ((db.user d credential.userId).filter fun userId => db.upsertedId userId credential = id).map
      fun _ => .connected credential
  | .disconnect userId accountId => do
    let userId ← d.uuid.parse userId
    let accountId ← d.uuid.parse accountId
    if accountId = id ∧ (db.owned userId accountId).isSome then return .disconnected else none
  | _ => none

/-- What an exchange does to an account. -/
def eventOf (id : AccountId) (x : AccountExchange) : Option AccountEvent :=
  if x.world.executed then statementEvent d x.found id x.question else none

/-- The last that happened to an account is that it was connected with a credential. -/
def Current (id : AccountId) (log : List AccountExchange)
    (credential : OAuth.SocialAccountCredential) : Prop :=
  ∃ before x after, log = before ++ x :: after ∧ eventOf d id x = some (.connected credential) ∧
    ∀ y ∈ after, eventOf d id y = none

/-- The refresh token of the account survives it. -/
def AccountEvent.KeepsRefreshToken : AccountEvent → Prop
  | .connected credential => credential.refreshTokenEncrypted = none
  | .disconnected => False

/-- A connection has brought a refresh token, and it has survived what happened since. -/
def Refreshes (id : AccountId) (log : List AccountExchange) (token : Text) : Prop :=
  ∃ before x after credential, log = before ++ x :: after ∧
    eventOf d id x = some (.connected credential) ∧
      credential.refreshTokenEncrypted = some token ∧
        ∀ y ∈ after, ∀ event ∈ eventOf d id y, event.KeepsRefreshToken

end Events

section Log

variable {d : OAuth.Deployment} {id : AccountId} {log : List AccountExchange} {x : AccountExchange}
  {credential : OAuth.SocialAccountCredential} {token : Text}

theorem Current.concat (h : Current d id log credential) (hNone : eventOf d id x = none) :
    Current d id (log ++ [x]) credential := by
  obtain ⟨before, y, after, rfl, hEvent, hAfter⟩ := h
  refine ⟨before, y, after ++ [x], by simp, hEvent, fun z hMem => ?_⟩
  rcases List.mem_append.mp hMem with hMem | hMem
  · exact hAfter z hMem
  · rw [List.mem_singleton.mp hMem, hNone]

theorem Current.now (h : eventOf d id x = some (.connected credential)) :
    Current d id (log ++ [x]) credential :=
  ⟨log, x, [], rfl, h, List.forall_mem_nil _⟩

theorem Refreshes.concat (h : Refreshes d id log token)
    (hKept : ∀ event ∈ eventOf d id x, event.KeepsRefreshToken) :
    Refreshes d id (log ++ [x]) token := by
  obtain ⟨before, y, after, credential, rfl, hEvent, hToken, hAfter⟩ := h
  refine ⟨before, y, after ++ [x], credential, by simp, hEvent, hToken, fun z hMem => ?_⟩
  rcases List.mem_append.mp hMem with hMem | hMem
  · exact hAfter z hMem
  · rw [List.mem_singleton.mp hMem]
    exact hKept

theorem Refreshes.now (h : eventOf d id x = some (.connected credential))
    (hToken : credential.refreshTokenEncrypted = some token) : Refreshes d id (log ++ [x]) token :=
  ⟨log, x, [], credential, rfl, h, hToken, List.forall_mem_nil _⟩

/-- Where an account has been connected, the last that happened to it is no disconnection. -/
theorem Current.last (h : Current d id log credential) :
    (log.filterMap (eventOf d id)).getLast? = some (.connected credential) := by
  obtain ⟨before, x, after, rfl, hEvent, hAfter⟩ := h
  have hNothing : after.filterMap (eventOf d id) = [] := List.filterMap_eq_nil_iff.mpr hAfter
  rw [List.filterMap_append, List.filterMap_cons, hEvent, hNothing]
  exact List.getLast?_concat

theorem not_current_of_disconnected {before mid : List AccountExchange}
    (hEvent : eventOf d id x = some .disconnected)
    (hMid : ∀ z ∈ mid, ∀ credential, eventOf d id z ≠ some (.connected credential)) :
    ¬ Current d id (before ++ x :: mid) credential := by
  intro hCurrent
  -- the last event is the disconnection or one of `mid`, which connects nothing
  have hLast := hCurrent.last
  rw [List.filterMap_append, List.filterMap_cons, hEvent, List.getLast?_append,
    List.getLast?_eq_some_getLast (List.cons_ne_nil _ _), Option.some_or] at hLast
  have hMem := List.getLast_mem (List.cons_ne_nil AccountEvent.disconnected
    (mid.filterMap (eventOf d id)))
  rw [Option.some.inj hLast] at hMem
  rcases List.mem_cons.mp hMem with hSame | hMem
  · cases hSame
  · obtain ⟨z, hZ, hConnected⟩ := List.mem_filterMap.mp hMem
    exact hMid z hZ _ hConnected

end Log

-- ---------------------------------------------------------------------------
-- One statement
-- ---------------------------------------------------------------------------

section Executions

variable {d : OAuth.Deployment} {db db' : AccountsDatabase} {question : AccountRequest}
  {result : AccountResult}

/-- What a statement that is executed does. -/
inductive Execution (d : OAuth.Deployment) (db : AccountsDatabase) (question : AccountRequest)
    (db' : AccountsDatabase) : Prop
  | kept (hNone : ∀ id, statementEvent d db id question = none)
      (hAccounts : db'.accounts = db.accounts) (hUuid : db'.nextUuid = db.nextUuid)
      (hAudit : ∃ more, db'.auditLogs = db.auditLogs ++ more)
  | connected {credential : OAuth.SocialAccountCredential} {userId : UserId}
      (hEvent : ∀ id, statementEvent d db id question =
        if db.upsertedId userId credential = id then some (.connected credential) else none)
      (hUser : d.uuid.parse credential.userId = some userId)
      (hDb : db' = db.upsert userId credential)
  | disconnected {userId : UserId} {id : AccountId} {row : AccountRow}
      (hEvent : ∀ id', statementEvent d db id' question =
        if id = id' then some .disconnected else none)
      (hOwned : db.owned userId id = some row)
      (hDb : db' = { db with accounts := db.accounts.insert id row.revoked })

/-- **What a statement does**: nothing to the accounts, or it connects or disconnects one. -/
theorem execute_cases (h : db.execute d question = some (result, db')) :
    Execution d db question db' := by
  have hSame : (∀ id, statementEvent d db id question = none) → db' = db →
      Execution d db question db' :=
    fun hNone hDb => .kept hNone (hDb ▸ rfl) (hDb ▸ rfl) ⟨[], by rw [hDb, List.append_nil]⟩
  have hAudited : (∀ id, statementEvent d db id question = none) →
      ∀ userId action entityType entityId metadata,
        db.insertAudit d userId action entityType entityId metadata = some db' →
        Execution d db question db' := by
    intro hNone userId action entityType entityId metadata hInsert
    obtain ⟨user, -, hDb⟩ := Option.bind_eq_some_iff.mp hInsert
    obtain rfl := Option.some.inj hDb
    exact .kept hNone rfl rfl ⟨_, rfl⟩
  cases question with
  | oauth request =>
    cases request with
    | query statement =>
      cases statement with
      | upsertSocialAccount credential =>
        obtain ⟨userId, hUser, hDb⟩ := Option.map_eq_some_iff.mp h
        obtain ⟨-, rfl⟩ := Prod.mk.inj hDb
        refine .connected (fun id => ?_) (Option.filter_eq_some_iff.mp hUser).1 rfl
        simp only [statementEvent, hUser]
        by_cases hId : db.upsertedId userId credential = id
        · simp [Option.filter, hId]
        · simp [Option.filter, hId]
      | insertAuditLog userId action entityType entityId metadata =>
        obtain ⟨db₁, hInsert, hDb⟩ := Option.map_eq_some_iff.mp h
        obtain ⟨-, rfl⟩ := Prod.mk.inj hDb
        exact hAudited (fun _ => rfl) _ _ _ _ _ hInsert
      | _ => exact hSame (fun _ => rfl) (Prod.mk.inj (Option.some.inj h)).2.symm
    | _ => exact hSame (fun _ => rfl) (Prod.mk.inj (Option.some.inj h)).2.symm
  | adapter request =>
    cases request with
    | findActiveSocialAccount id platform =>
      exact hSame (fun _ => rfl) (Prod.mk.inj (Option.some.inj h)).2.symm
    | _ => exact hSame (fun _ => rfl) (Prod.mk.inj (Option.some.inj h)).2.symm
  | disconnect userId accountId =>
    -- the UPDATE matches one row or none
    obtain ⟨user, hUser, h⟩ := Option.bind_eq_some_iff.mp h
    obtain ⟨id, hId, h⟩ := Option.bind_eq_some_iff.mp h
    have hDb : (db.disconnect user id).2 = db' := (Prod.mk.inj (Option.some.inj h)).2
    unfold AccountsDatabase.disconnect at hDb
    have hEvent : ∀ id', statementEvent d db id' (.disconnect userId accountId) =
        if id = id' ∧ (db.owned user id).isSome then some .disconnected else none := by
      intro id'
      simp [statementEvent, hUser, hId]
    cases hOwned : db.owned user id with
    | none =>
      rw [hOwned] at hDb
      exact hSame (fun id' => by rw [hEvent, hOwned]; simp) hDb.symm
    | some row =>
      rw [hOwned] at hDb
      refine .disconnected (fun id' => ?_) hOwned hDb.symm
      rw [hEvent, hOwned]
      simp
  | insertAuditLog userId action entityType entityId =>
    obtain ⟨id, -, h⟩ := Option.bind_eq_some_iff.mp h
    obtain ⟨db₁, hInsert, h⟩ := Option.bind_eq_some_iff.mp h
    obtain ⟨-, rfl⟩ := Prod.mk.inj (Option.some.inj h)
    exact hAudited (fun _ => rfl) _ _ _ _ _ hInsert
  | disconnected integrationId =>
    exact hSame (fun _ => rfl) (Prod.mk.inj (Option.some.inj h)).2.symm

/-- An exchange has executed its statement, or nothing. -/
theorem answer_cases {i : Nat} {world : AccountWorld} {reply : AccountReply}
    (h : AccountsDatabase.answer d db i question world = some (reply, db')) :
    (world.executed = true ∧ ∃ result, db.execute d question = some (result, db') ∧
      reply = world.answer result db.now) ∨
    world.executed = false ∧ world.error.isSome ∧ reply = world.answer {} db.now ∧ db' = db := by
  unfold AccountsDatabase.answer at h
  split at h
  · rename_i hExecuted
    obtain ⟨⟨result, db₁⟩, hExecute, hEq⟩ := Option.map_eq_some_iff.mp h
    obtain ⟨rfl, rfl⟩ := Prod.mk.inj hEq
    exact Or.inl ⟨hExecuted, result, hExecute, rfl⟩
  · rename_i hExecuted
    split at h
    · rename_i hError
      obtain ⟨rfl, rfl⟩ := Prod.mk.inj (Option.some.inj h)
      exact Or.inr ⟨Bool.not_eq_true _ ▸ hExecuted, hError, rfl, rfl⟩
    · cases h

theorem account_eq_ok {world : AccountWorld} {date : Time}
    {account : Option ActiveSocialAccountCredential}
    (h : (world.answer result date).adapter.account = .ok account) :
    world.error = none ∧ result.account = account := by
  unfold AccountWorld.answer at h
  cases hError : world.error with
  | none =>
    rw [hError] at h
    exact ⟨rfl, Except.ok.inj h⟩
  | some error =>
    rw [hError] at h
    cases h

theorem rowCount_eq_ok {world : AccountWorld} {date : Time} {rowCount : Nat}
    (h : (world.answer result date).rowCount = .ok rowCount) :
    world.error = none ∧ result.rowCount = rowCount := by
  unfold AccountWorld.answer at h
  cases hError : world.error with
  | none =>
    rw [hError] at h
    exact ⟨rfl, Except.ok.inj h⟩
  | some error =>
    rw [hError] at h
    cases h

/-- A statement that counts rows has been executed. -/
theorem executed_of_rowCount {i : Nat} {world : AccountWorld} {reply : AccountReply}
    {rowCount : Nat} (h : db.answer d i question world = some (reply, db'))
    (hOk : reply.rowCount = .ok rowCount) :
    world.executed = true ∧ ∃ result, db.execute d question = some (result, db') ∧
      result.rowCount = rowCount := by
  rcases answer_cases h with ⟨hExecuted, result, hExecute, hReply⟩ | ⟨-, hError, hReply, -⟩
  · rw [hReply] at hOk
    exact ⟨hExecuted, result, hExecute, (rowCount_eq_ok hOk).2⟩
  · rw [hReply] at hOk
    rw [(rowCount_eq_ok hOk).1] at hError
    cases hError

/-- The account that an adapter is told of is the one that its SELECT has found. -/
theorem findActive_of_answer {i : Nat} {world : AccountWorld} {reply : AccountReply}
    {id : AccountId} {platform : SocialPlatform} {account : ActiveSocialAccountCredential}
    (h : db.answer d i (.adapter (.findActiveSocialAccount id platform)) world = some (reply, db'))
    (hAccount : reply.adapter.account = .ok (some account)) :
    db.findActive id platform = some account := by
  rcases answer_cases h with ⟨-, result, hExecute, hReply⟩ | ⟨-, hError, hReply, -⟩
  · obtain ⟨rfl, -⟩ := Prod.mk.inj (Option.some.inj hExecute)
    rw [hReply] at hAccount
    exact (account_eq_ok hAccount).2
  · rw [hReply] at hAccount
    rw [(account_eq_ok hAccount).1] at hError
    cases hError

theorem date_of_answer {i : Nat} {world : AccountWorld} {reply : AccountReply}
    (h : db.answer d i question world = some (reply, db')) : reply.adapter.date = db.now := by
  rcases answer_cases h with ⟨-, result, -, hReply⟩ | ⟨-, -, hReply, -⟩
  · rw [hReply]
    rfl
  · rw [hReply]
    rfl

/-- A disconnection that counts a row has disconnected it. -/
theorem disconnected_of_answer {x : AccountExchange} {userId accountId : Text}
    (h : x.found.answer d x.process x.question x.world = some (x.reply, db'))
    (hQuestion : x.question = .disconnect userId accountId) (hOne : x.reply.rowCount = .ok 1) :
    ∃ id user row, d.uuid.parse accountId = some id ∧ d.uuid.parse userId = some user ∧
      x.found.owned user id = some row ∧ eventOf d id x = some .disconnected := by
  obtain ⟨hExecuted, result, hExecute, hResult⟩ := executed_of_rowCount h hOne
  rw [hQuestion] at hExecute
  obtain ⟨user, hUser, hExecute⟩ := Option.bind_eq_some_iff.mp hExecute
  obtain ⟨id, hId, hExecute⟩ := Option.bind_eq_some_iff.mp hExecute
  have hSame : ({ rowCount := (x.found.disconnect user id).1 } : AccountResult) = result :=
    (Prod.mk.inj (Option.some.inj hExecute)).1
  have hCount : (x.found.disconnect user id).1 = 1 :=
    (congrArg AccountResult.rowCount hSame).trans hResult
  unfold AccountsDatabase.disconnect at hCount
  cases hOwned : x.found.owned user id with
  | none =>
    rw [hOwned] at hCount
    cases hCount
  | some row =>
    refine ⟨id, user, row, hId, hUser, hOwned, ?_⟩
    rw [eventOf, if_pos hExecuted, hQuestion]
    simp [statementEvent, hUser, hId, hOwned]

end Executions

-- ---------------------------------------------------------------------------
-- The rows
-- ---------------------------------------------------------------------------

/-- The columns that an adapter reads are those of a credential. -/
structure Holding (row : AccountRow) (credential : OAuth.SocialAccountCredential) : Prop where
  accessToken : row.accessTokenEncrypted = some credential.accessTokenEncrypted
  platform : row.platform = credential.platform
  platformAccountId : row.platformAccountId = credential.platformAccountId
  expiresAt : row.expiresAt = credential.expiresAt
  scope : row.scope = credential.scope

/-- A row has the key of a credential. -/
structure Keeps (d : OAuth.Deployment) (row : AccountRow)
    (credential : OAuth.SocialAccountCredential) : Prop where
  user : d.uuid.parse credential.userId = some row.userId
  platform : row.platform = credential.platform
  platformAccountId : row.platformAccountId = credential.platformAccountId

/-- The tokens in the table are those of connections that are in force. -/
structure Kept (d : OAuth.Deployment) (db : AccountsDatabase)
    (log : List AccountExchange) : Prop where
  access : ∀ id row, db.accounts.lookup id = some row → row.accessTokenEncrypted.isSome →
    ∃ credential, Current d id log credential ∧ Holding row credential
  refresh : ∀ id row token, db.accounts.lookup id = some row →
    row.refreshTokenEncrypted = some token → Refreshes d id log token
  owner : ∀ x ∈ log, ∀ id credential, eventOf d id x = some (.connected credential) →
    ∃ row, db.accounts.lookup id = some row ∧ Keeps d row credential
  drawn : db.Drawn

section Rows

variable {d : OAuth.Deployment} {db db' : AccountsDatabase} {log : List AccountExchange}
  {x : AccountExchange}

theorem Kept.kept (h : Kept d db log) (hNone : ∀ id, eventOf d id x = none)
    (hAccounts : db'.accounts = db.accounts) (hUuid : db'.nextUuid = db.nextUuid) :
    Kept d db' (log ++ [x]) where
  access id row hRow hToken := by
    rw [hAccounts] at hRow
    obtain ⟨credential, hCurrent, hHolding⟩ := h.access id row hRow hToken
    exact ⟨credential, hCurrent.concat (hNone id), hHolding⟩
  refresh id row token hRow hToken := by
    rw [hAccounts] at hRow
    exact (h.refresh id row token hRow hToken).concat (by rw [hNone]; simp)
  owner y hMem id credential hEvent := by
    rw [hAccounts]
    rcases List.mem_append.mp hMem with hMem | hMem
    · exact h.owner y hMem id credential hEvent
    · rw [List.mem_singleton.mp hMem, hNone] at hEvent
      cases hEvent
  drawn id row hRow := by
    rw [hAccounts] at hRow
    rw [hUuid]
    exact h.drawn id row hRow

/-- One row is written, with tokens that are in force after it, and the others are as they were. -/
theorem Kept.insert (h : Kept d db log) {id : AccountId} {row : AccountRow}
    (hAccounts : db'.accounts = db.accounts.insert id row) (hUuid : db.nextUuid ≤ db'.nextUuid)
    (hDrawn : id < db'.nextUuid) (hOther : ∀ {id'}, id' ≠ id → eventOf d id' x = none)
    (hAccess : row.accessTokenEncrypted.isSome →
      ∃ credential, Current d id (log ++ [x]) credential ∧ Holding row credential)
    (hRefresh : ∀ token, row.refreshTokenEncrypted = some token →
      Refreshes d id (log ++ [x]) token)
    (hBefore : ∀ before credential, db.accounts.lookup id = some before →
      Keeps d before credential → Keeps d row credential)
    (hNow : ∀ credential, eventOf d id x = some (.connected credential) →
      Keeps d row credential) : Kept d db' (log ++ [x]) := by
  have hWritten : db'.accounts.lookup id = some row := by
    rw [hAccounts]
    exact AList.lookup_insert _
  have hSame : ∀ {id'}, id' ≠ id → db'.accounts.lookup id' = db.accounts.lookup id' := by
    intro id' hId
    rw [hAccounts]
    exact AList.lookup_insert_ne hId
  constructor
  case access =>
    intro id' row' hRow hToken
    by_cases hId : id' = id
    · subst hId
      obtain rfl := Option.some.inj (hWritten.symm.trans hRow)
      exact hAccess hToken
    · obtain ⟨credential, hCurrent, hHolding⟩ := h.access id' row' (hSame hId ▸ hRow) hToken
      exact ⟨credential, hCurrent.concat (hOther hId), hHolding⟩
  case refresh =>
    intro id' row' token hRow hToken
    by_cases hId : id' = id
    · subst hId
      obtain rfl := Option.some.inj (hWritten.symm.trans hRow)
      exact hRefresh token hToken
    · exact (h.refresh id' row' token (hSame hId ▸ hRow) hToken).concat (by rw [hOther hId]; simp)
  case owner =>
    intro y hMem id' credential hConnected
    by_cases hId : id' = id
    · subst hId
      refine ⟨row, hWritten, ?_⟩
      rcases List.mem_append.mp hMem with hMem | hMem
      · obtain ⟨before, hRow, hKeeps⟩ := h.owner y hMem id' credential hConnected
        exact hBefore before credential hRow hKeeps
      · rw [List.mem_singleton.mp hMem] at hConnected
        exact hNow credential hConnected
    · rcases List.mem_append.mp hMem with hMem | hMem
      · rw [hSame hId]
        exact h.owner y hMem id' credential hConnected
      · rw [List.mem_singleton.mp hMem, hOther hId] at hConnected
        cases hConnected
  case drawn =>
    intro id' row' hRow
    by_cases hId : id' = id
    · subst hId
      exact hDrawn
    · exact Nat.lt_of_lt_of_le (h.drawn id' row' (hSame hId ▸ hRow)) hUuid

/-- After a connection the row that it wrote has the tokens of the credential, and any other row is
as it was. -/
theorem Kept.connected (h : Kept d db log) {credential : OAuth.SocialAccountCredential}
    {userId : UserId} (hUser : d.uuid.parse credential.userId = some userId)
    (hEvent : ∀ id, eventOf d id x =
      if db.upsertedId userId credential = id then some (.connected credential) else none) :
    Kept d (db.upsert userId credential) (log ++ [x]) := by
  have hSelf : eventOf d (db.upsertedId userId credential) x = some (.connected credential) := by
    rw [hEvent, if_pos rfl]
  refine h.insert rfl (Nat.le_succ _) (h.drawn.upsertedId_lt userId credential) (fun hId => ?_)
    (fun _ => ⟨credential, .now hSelf, rfl, rfl, rfl, rfl, rfl⟩) (fun token hToken => ?_)
    (fun before credential' hRow hKeeps => ?_) (fun credential' hConnected => ?_)
  · rw [hEvent, if_neg fun h => hId h.symm]
  · rcases hNewToken : credential.refreshTokenEncrypted with - | new
    · -- the token of the row there was is kept
      simp only [AccountRow.upserted, hNewToken] at hToken
      obtain ⟨before, hBefore, hToken⟩ := Option.bind_eq_some_iff.mp hToken
      obtain ⟨id, hConnected, hLookup⟩ := Option.bind_eq_some_iff.mp hBefore
      have hId : db.upsertedId userId credential = id := by
        rw [AccountsDatabase.upsertedId, hConnected]
        rfl
      rw [hId] at hSelf ⊢
      refine (h.refresh id before token hLookup hToken).concat fun event hEvent => ?_
      obtain rfl := Option.some.inj (hSelf.symm.trans hEvent)
      exact hNewToken
    · simp only [AccountRow.upserted, hNewToken] at hToken
      obtain rfl := Option.some.inj hToken
      exact .now hSelf hNewToken
  · have hKeyed := h.drawn.keyed hRow
    exact ⟨hKeyed.user ▸ hKeeps.user, hKeyed.platform.symm.trans hKeeps.platform,
      hKeyed.platformAccountId.symm.trans hKeeps.platformAccountId⟩
  · obtain rfl := AccountEvent.connected.inj (Option.some.inj (hSelf.symm.trans hConnected))
    exact ⟨hUser, rfl, rfl⟩

theorem Kept.disconnected (h : Kept d db log) {userId : UserId} {id : AccountId} {row : AccountRow}
    (hOwned : db.owned userId id = some row)
    (hEvent : ∀ id', eventOf d id' x = if id = id' then some .disconnected else none) :
    Kept d { db with accounts := db.accounts.insert id row.revoked } (log ++ [x]) := by
  have hRow : db.accounts.lookup id = some row := (Option.filter_eq_some_iff.mp hOwned).1
  refine h.insert rfl (Nat.le_refl _) (h.drawn id row hRow) (fun hId => ?_)
    (fun hToken => by cases hToken) (fun token hToken => by cases hToken)
    (fun before credential hBefore hKeeps => ?_) (fun credential hConnected => ?_)
  · rw [hEvent, if_neg fun h => hId h.symm]
  · obtain rfl := Option.some.inj (hRow.symm.trans hBefore)
    exact ⟨hKeeps.user, hKeeps.platform, hKeeps.platformAccountId⟩
  · rw [hEvent, if_pos rfl] at hConnected
    cases hConnected

/-- **One exchange** keeps the tokens. -/
theorem kept_answer (h : Kept d db log) (hFound : x.found = db)
    (hAnswer : AccountsDatabase.answer d db x.process x.question x.world = some (x.reply, db')) :
    Kept d db' (log ++ [x]) := by
  rcases answer_cases hAnswer with ⟨hExecuted, result, hExecute, -⟩ | ⟨hExecuted, -, -, rfl⟩
  · have hEq : ∀ id, eventOf d id x = statementEvent d db id x.question := by
      intro id
      rw [eventOf, if_pos hExecuted, hFound]
    cases execute_cases hExecute with
    | kept hNone hAccounts hUuid =>
      exact h.kept (fun id => (hEq id).trans (hNone id)) hAccounts hUuid
    | connected hEvent hUser hDb =>
      subst hDb
      exact h.connected hUser fun id => (hEq id).trans (hEvent id)
    | disconnected hEvent hOwned hDb =>
      subst hDb
      exact h.disconnected hOwned fun id => (hEq id).trans (hEvent id)
  · refine h.kept (fun id => ?_) rfl rfl
    rw [eventOf, hExecuted]
    rfl

theorem kept_reachable {s : AccountState} (h : Reachable (accountSystem d) anyStep (s, log)) :
    Kept d s.shared log := by
  refine Processes.holds (I := Kept d) (fun call => AccountCall.obeys call)
    (fun db hInit => ?_) (fun db log own db' hKept hOwn => ?_)
    (fun s log x db' _ hKept hFound _ _ hAnswer => kept_answer hKept hFound hAnswer) h
  · have hNone : ∀ id, db.accounts.lookup id = none := by
      intro id
      rw [hInit]
      rfl
    refine ⟨fun id row h => ?_, fun id row token h => ?_, List.forall_mem_nil _, fun id row h => ?_⟩
    all_goals
      rw [hNone] at h
      cases h
  · cases own with
    | tick now =>
      dsimp only [accountMachine, AccountsDatabase.own] at hOwn
      split at hOwn
      · obtain rfl := Option.some.inj hOwn
        exact ⟨hKept.access, hKept.refresh, hKept.owner, hKept.drawn⟩
      · cases hOwn
    | insertUser userId =>
      obtain rfl := Option.some.inj hOwn
      exact ⟨hKept.access, hKept.refresh, hKept.owner, hKept.drawn⟩

end Rows

-- ---------------------------------------------------------------------------
-- The records
-- ---------------------------------------------------------------------------

/-- A disconnection is on record. -/
def Recorded (d : OAuth.Deployment) (db : AccountsDatabase) (userId accountId : Text) : Prop :=
  ∃ entry ∈ db.auditLogs, entry.action = "social_account.disconnected" ∧
    d.uuid.parse userId = some entry.userId ∧ d.uuid.parse accountId = some entry.entityId

/-- An exchange has put a disconnection on record. -/
def Records (x : AccountExchange) (userId accountId : Text) : Prop :=
  ∃ entityType rowCount, x.question =
    .insertAuditLog userId "social_account.disconnected" entityType accountId ∧
      x.reply.rowCount = .ok rowCount

section Records

variable {d : OAuth.Deployment} {db db' : AccountsDatabase} {log : List AccountExchange}
  {x : AccountExchange} {userId accountId : Text}

/-- No entry is deleted. -/
theorem auditLogs_answer
    (hAnswer : AccountsDatabase.answer d db x.process x.question x.world = some (x.reply, db')) :
    ∃ more, db'.auditLogs = db.auditLogs ++ more := by
  rcases answer_cases hAnswer with ⟨-, result, hExecute, -⟩ | ⟨-, -, -, rfl⟩
  · cases execute_cases hExecute with
    | kept _ _ _ hAudit => exact hAudit
    | connected _ _ hDb =>
      subst hDb
      exact ⟨[], (List.append_nil _).symm⟩
    | disconnected _ _ hDb =>
      subst hDb
      exact ⟨[], (List.append_nil _).symm⟩
  · exact ⟨[], (List.append_nil _).symm⟩

theorem recorded_of_records (h : Records x userId accountId)
    (hAnswer : AccountsDatabase.answer d db x.process x.question x.world = some (x.reply, db')) :
    Recorded d db' userId accountId := by
  obtain ⟨entityType, rowCount, hQuestion, hOk⟩ := h
  -- an INSERT that was not executed is answered by an error
  obtain ⟨-, result, hExecute, -⟩ := executed_of_rowCount hAnswer hOk
  rw [hQuestion] at hExecute
  obtain ⟨id, hId, hExecute⟩ := Option.bind_eq_some_iff.mp hExecute
  obtain ⟨db₁, hInsert, hExecute⟩ := Option.bind_eq_some_iff.mp hExecute
  obtain ⟨-, rfl⟩ := Prod.mk.inj (Option.some.inj hExecute)
  obtain ⟨user, hUser, hDb⟩ := Option.bind_eq_some_iff.mp hInsert
  obtain rfl := Option.some.inj hDb
  exact ⟨_, List.mem_append_right _ (List.mem_singleton_self _), rfl,
    (Option.filter_eq_some_iff.mp hUser).1, hId⟩

theorem recorded_reachable {s : AccountState} (h : Reachable (accountSystem d) anyStep (s, log)) :
    ∀ x ∈ log, ∀ userId accountId, Records x userId accountId →
      Recorded d s.shared userId accountId := by
  refine Processes.holds (I := fun db log => ∀ x ∈ log, ∀ userId accountId,
    Records x userId accountId → Recorded d db userId accountId)
    (fun call => AccountCall.obeys call) (fun db _ => List.forall_mem_nil _)
    (fun db log own db' hRecorded hOwn => ?_)
    (fun s log x db' _ hRecorded _ _ _ hAnswer y hMem userId accountId hRecords => ?_) h
  · cases own with
    | tick now =>
      dsimp only [accountMachine, AccountsDatabase.own] at hOwn
      split at hOwn
      · obtain rfl := Option.some.inj hOwn
        exact hRecorded
      · cases hOwn
    | insertUser userId =>
      obtain rfl := Option.some.inj hOwn
      exact hRecorded
  · rcases List.mem_append.mp hMem with hMem | hMem
    · obtain ⟨entry, hEntry, hAction⟩ := hRecorded y hMem userId accountId hRecords
      obtain ⟨more, hMore⟩ := auditLogs_answer hAnswer
      exact ⟨entry, hMore ▸ List.mem_append_left _ hEntry, hAction⟩
    · obtain rfl := List.mem_singleton.mp hMem
      exact recorded_of_records hRecords hAnswer

end Records

-- ---------------------------------------------------------------------------
-- Requests and answers
-- ---------------------------------------------------------------------------

/-- The token of a request is that of a connection that was in force when the process of the
request looked its account up, and that had not expired when it read the clock. -/
def Authorized (d : OAuth.Deployment) (before : List AccountExchange) (x : AccountExchange)
    (request : HttpRequest) : Prop :=
  ∃ platform post part, x.call = .publish platform post part ∧
    ∃ earlier y later credential, before = earlier ++ y :: later ∧ y.process = x.process ∧
      y.question =
        .adapter (.findActiveSocialAccount post.socialAccountId request.platform) ∧
      Current d post.socialAccountId earlier credential ∧
      credential.platform = request.platform ∧
      TokenService.decrypt d.surroundings credential.accessTokenEncrypted =
        .ok request.accessToken ∧
      ∃ z ∈ before, z.process = x.process ∧ z.question = .adapter .clock ∧
        ∀ expiresAt, credential.expiresAt = some expiresAt → (z.found.now : Int) < expiresAt

/-- A disconnection that has met a row of its user, which only this user has connected. -/
def Effective (d : OAuth.Deployment) (before : List AccountExchange) (x : AccountExchange)
    (userId accountId : Text) : Prop :=
  ∃ id earlier y later, d.uuid.parse accountId = some id ∧ before = earlier ++ y :: later ∧
    y.process = x.process ∧ eventOf d id y = some .disconnected ∧
      ∀ z ∈ earlier, ∀ credential, eventOf d id z = some (.connected credential) →
        d.uuid.parse credential.userId = d.uuid.parse userId

/-- What holds of connections, disconnections and publications. -/
structure DisconnectionHolds (d : OAuth.Deployment) (db : AccountsDatabase)
    (log : List AccountExchange) : Prop where
  /-- The tokens that are stored are those of connections since the last disconnection. -/
  stored : ∀ id row, db.accounts.lookup id = some row →
    (∀ token, row.accessTokenEncrypted = some token → ∃ credential, Current d id log credential ∧
      credential.accessTokenEncrypted = token) ∧
    ∀ token, row.refreshTokenEncrypted = some token → Refreshes d id log token
  /-- Nothing is asked of a provider but with such a token. -/
  sent : ∀ before x after request, log = before ++ x :: after →
    x.question = .adapter (.fetch request) → Authorized d before x request
  /-- Nothing at all by a process that comes after a disconnection, before the next connection. -/
  silent : ∀ before y mid x after id, log = before ++ y :: mid ++ x :: after →
    eventOf d id y = some .disconnected →
    (∀ z ∈ mid, ∀ credential, eventOf d id z ≠ some (.connected credential)) →
    (∀ z ∈ before ++ [y], z.process ≠ x.process) →
    ∀ platform post part, x.call = .publish platform post part → post.socialAccountId = id →
      ∀ request, x.question ≠ .adapter (.fetch request)
  /-- A disconnection that was answered is in force and on record. -/
  answered : ∀ before x after integrationId, log = before ++ x :: after →
    x.question = .disconnected integrationId → ∃ userId,
      x.call = .disconnect userId integrationId ∧ Effective d before x userId integrationId ∧
        Recorded d db userId integrationId

section Runs

variable {d : OAuth.Deployment} {s : AccountState} {log : List AccountExchange}

theorem exchange_reached {before after : List AccountExchange} {x : AccountExchange}
    (h : Reachable (accountSystem d) anyStep (s, log)) (hSplit : log = before ++ x :: after) :
    Kept d x.found before ∧
      x.call.permits d.surroundings (history x.process before) x.question ∧
      ∃ next, x.found.answer d x.process x.question x.world = some (x.reply, next) := by
  obtain ⟨s', t, next, hReach, hAnswered⟩ := made h before x after hSplit
  exact ⟨hAnswered.found ▸ kept_reachable hReach,
    (conducted (fun call => AccountCall.obeys call) hReach).permitted hAnswered, t.shared,
    hAnswered.answer⟩

/-- An exchange of a process before another one of it. -/
theorem exchange_before {before after : List AccountExchange} {x : AccountExchange}
    (h : Reachable (accountSystem d) anyStep (s, log)) (hSplit : log = before ++ x :: after)
    {question : AccountRequest} {reply : AccountReply}
    (hMem : (question, reply) ∈ history x.process before) :
    ∃ earlier y later, before = earlier ++ y :: later ∧ y.process = x.process ∧
      y.question = question ∧ y.reply = reply ∧ Kept d y.found earlier ∧
      ∃ next, y.found.answer d y.process y.question y.world = some (y.reply, next) := by
  obtain ⟨y, hY, hProcess, hExchange⟩ := mem_history.mp hMem
  obtain ⟨rfl, rfl⟩ := Prod.mk.inj hExchange
  obtain ⟨earlier, later, rfl⟩ := List.append_of_mem hY
  have hWhole : log = earlier ++ y :: (later ++ x :: after) := by
    rw [hSplit, List.append_assoc, List.cons_append]
  obtain ⟨hKept, -, hAnswer⟩ := exchange_reached h hWhole
  exact ⟨earlier, y, later, rfl, hProcess, rfl, rfl, hKept, hAnswer⟩

/-- The account that is found is as its last connection has left it. -/
theorem current_of_findActive {db : AccountsDatabase} (h : Kept d db log) {id : AccountId}
    {platform : SocialPlatform} {account : ActiveSocialAccountCredential}
    (hFound : db.findActive id platform = some account) :
    ∃ credential, Current d id log credential ∧ credential.platform = platform ∧
      account.accessTokenEncrypted = credential.accessTokenEncrypted ∧
      account.expiresAt = credential.expiresAt.map Int.toNat := by
  obtain ⟨row, hRow, hFound⟩ := Option.bind_eq_some_iff.mp hFound
  obtain ⟨token, hToken, hFound⟩ := Option.bind_eq_some_iff.mp hFound
  obtain rfl := Option.some.inj hFound
  obtain ⟨hLookup, hSelected⟩ := Option.filter_eq_some_iff.mp hRow
  have hSelected := of_decide_eq_true hSelected
  obtain ⟨credential, hCurrent, hHolding⟩ := h.access id row hLookup (by rw [hToken]; rfl)
  refine ⟨credential, hCurrent, hHolding.platform.symm.trans hSelected.1, ?_, ?_⟩
  · exact Option.some.inj (hToken.symm.trans hHolding.accessToken)
  · show row.expiresAt.map Int.toNat = _
    rw [hHolding.expiresAt]

/-- The credential that a service makes of an account. -/
theorem credential_eq_ok {service : CredentialService} {surroundings : Surroundings}
    {account : ActiveSocialAccountCredential} {date : Time} {credential : PublishingCredential}
    (h : service.credential surroundings account date = .ok credential) :
    (∀ expiresAt, account.expiresAt = some expiresAt → date < expiresAt) ∧
      TokenService.decrypt surroundings account.accessTokenEncrypted =
        .ok credential.accessToken := by
  unfold CredentialService.credential at h
  obtain ⟨⟨⟩, hFresh, h⟩ := Keyed.bind_eq_ok.mp h
  have hFresh := ServiceJwtVerifier.require_eq_ok.mp hFresh
  split at h
  · cases h
  · obtain ⟨token, hToken, h⟩ := Keyed.bind_eq_ok.mp h
    obtain rfl := Except.ok.inj h
    refine ⟨fun expiresAt hExpires => ?_, hToken⟩
    rw [hExpires] at hFresh
    simpa using hFresh

/-- Every request that was sent was authorized before. -/
theorem sent_authorized (h : Reachable (accountSystem d) anyStep (s, log))
    {before after : List AccountExchange} {x : AccountExchange} {request : HttpRequest}
    (hSplit : log = before ++ x :: after) (hQuestion : x.question = .adapter (.fetch request)) :
    Authorized d before x request := by
  obtain ⟨-, hPermitted, -⟩ := exchange_reached h hSplit
  rw [hQuestion] at hPermitted
  cases hCall : x.call with
  | connect credential =>
    rw [hCall] at hPermitted
    obtain ⟨_, hNone⟩ := hPermitted
    cases hNone
  | disconnect userId integrationId =>
    rw [hCall] at hPermitted
    exact hPermitted.elim
  | publish platform post part =>
    rw [hCall] at hPermitted
    obtain ⟨request', hSame, hAllowed⟩ := hPermitted
    obtain rfl := AccountRequest.adapter.inj hSame
    obtain ⟨service, credential, hCredited, hToken, hPlatform⟩ := hAllowed
    obtain ⟨found, account, clock, hLooked, hAccount, hRead, hCredential⟩ := hCredited.made
    obtain ⟨hFresh, hDecrypt⟩ := credential_eq_ok hCredential
    -- the account was looked up in a state in which its connection was in force
    obtain ⟨whole, hMem, rfl⟩ := mem_adapterHistory hLooked
    obtain ⟨earlier, y, later, hBefore, hProcess, hAsked, hReply, hKept, next, hAnswer⟩ :=
      exchange_before h hSplit hMem
    have hActive : y.found.findActive post.socialAccountId service.platform = some account := by
      rw [hAsked, hReply] at hAnswer
      exact findActive_of_answer hAnswer hAccount
    obtain ⟨connected, hCurrent, hOn, hAccess, hExpiry⟩ := current_of_findActive hKept hActive
    -- and the clock was read by the same process
    obtain ⟨wholeClock, hMem', hClock⟩ := mem_adapterHistory hRead
    obtain ⟨earlier', z, later', hBefore', hProcess', hAsked', hReply', -, next', hAnswer'⟩ :=
      exchange_before h hSplit hMem'
    have hNow : clock.date = z.found.now := by
      rw [hAsked', hReply'] at hAnswer'
      rw [← hClock]
      exact date_of_answer hAnswer'
    refine ⟨platform, post, part, hCall, earlier, y, later, connected, hBefore, hProcess,
      hPlatform.symm ▸ hAsked, hCurrent, hOn.trans hPlatform.symm, ?_, z, ?_, hProcess', hAsked',
      fun expiresAt hExpires => ?_⟩
    · rw [← hAccess, hDecrypt, hToken]
    · rw [hBefore']
      exact List.mem_append_right _ List.mem_cons_self
    · have hLt := hFresh expiresAt.toNat (by rw [hExpiry, hExpires]; rfl)
      rw [hNow] at hLt
      exact Int.lt_toNat.mp hLt

/-- What a process finds that comes after a disconnection is not connected. -/
theorem silent_of_disconnected (h : Reachable (accountSystem d) anyStep (s, log))
    {before mid after : List AccountExchange} {x y : AccountExchange} {id : AccountId}
    (hSplit : log = before ++ y :: mid ++ x :: after) (hEvent : eventOf d id y = some .disconnected)
    (hMid : ∀ z ∈ mid, ∀ credential, eventOf d id z ≠ some (.connected credential))
    (hLater : ∀ z ∈ before ++ [y], z.process ≠ x.process) {platform : SocialPlatform}
    {post : SocialPost} {part : Part} (hCall : x.call = .publish platform post part)
    (hAccount : post.socialAccountId = id) (request : HttpRequest) :
    x.question ≠ .adapter (.fetch request) := by
  intro hQuestion
  obtain ⟨platform', post', part', hCall', earlier, found, later, credential, hBefore, hProcess, -,
    hCurrent, -⟩ := sent_authorized h hSplit hQuestion
  obtain ⟨rfl, rfl, rfl⟩ := AccountCall.publish.inj (hCall.symm.trans hCall')
  subst hAccount
  -- its account was looked up by the process itself, so after the disconnection
  have hOrder : (before ++ [y]) ++ mid = earlier ++ found :: later := by
    rw [← hBefore, List.append_assoc]
    rfl
  rcases List.append_eq_append_iff.mp hOrder with ⟨more, rfl, hMore⟩ | ⟨more, hFirst, hMore⟩
  · rw [List.append_assoc] at hCurrent
    refine not_current_of_disconnected hEvent (fun z hMem => hMid z ?_) hCurrent
    rw [hMore]
    exact List.mem_append_left _ hMem
  · cases more with
    | nil =>
      rw [List.append_nil] at hFirst
      rw [← hFirst] at hCurrent
      exact not_current_of_disconnected hEvent (List.forall_mem_nil _) hCurrent
    | cons first rest =>
      obtain ⟨rfl, -⟩ := List.cons.inj hMore
      refine hLater found ?_ hProcess
      rw [hFirst]
      exact List.mem_append_right _ List.mem_cons_self

/-- Every disconnection that was answered is in force and on record. -/
theorem disconnected_effective (h : Reachable (accountSystem d) anyStep (s, log))
    {before after : List AccountExchange} {x : AccountExchange} {integrationId : Text}
    (hSplit : log = before ++ x :: after) (hQuestion : x.question = .disconnected integrationId) :
    ∃ userId, x.call = .disconnect userId integrationId ∧
      Effective d before x userId integrationId ∧ Recorded d s.shared userId integrationId := by
  obtain ⟨-, hPermitted, -⟩ := exchange_reached h hSplit
  rw [hQuestion] at hPermitted
  cases hCall : x.call with
  | connect credential =>
    rw [hCall] at hPermitted
    obtain ⟨_, hNone⟩ := hPermitted
    cases hNone
  | publish platform post part =>
    rw [hCall] at hPermitted
    obtain ⟨_, hNone, -⟩ := hPermitted
    cases hNone
  | disconnect userId integrationId' =>
    rw [hCall] at hPermitted
    obtain ⟨rfl, ⟨reply, hUpdated, hOne⟩, entityType, audit, rowCount, hAudited, hOk⟩ := hPermitted
    obtain ⟨earlier, y, later, hBefore, hProcess, hAsked, hReply, hKept, next, hAnswer⟩ :=
      exchange_before h hSplit hUpdated
    obtain ⟨id, user, row, hId, hUser, hOwned, hEvent⟩ :=
      disconnected_of_answer hAnswer hAsked (hReply ▸ hOne)
    -- the row is its user's, and so is every connection that was ever made of it
    refine ⟨userId, rfl, ⟨id, earlier, y, later, hId, hBefore, hProcess, hEvent,
      fun z hMem credential hConnected => ?_⟩, ?_⟩
    · obtain ⟨hLookup, hSelected⟩ := Option.filter_eq_some_iff.mp hOwned
      have hSelected := of_decide_eq_true hSelected
      obtain ⟨row', hRow', hKeeps⟩ := hKept.owner z hMem id credential hConnected
      obtain rfl := Option.some.inj (hLookup.symm.trans hRow')
      rw [hKeeps.user, hUser, hSelected.1]
    · obtain ⟨earlier', z, later', hBefore', -, hAsked', hReply', -⟩ :=
        exchange_before h hSplit hAudited
      refine recorded_reachable h z ?_ _ _ ⟨entityType, rowCount, hAsked', hReply' ▸ hOk⟩
      rw [hSplit, hBefore']
      simp

/-- **Disconnecting takes effect**, whatever connections, disconnections and publications go on at
the same time. -/
theorem disconnection_holds (h : Reachable (accountSystem d) anyStep (s, log)) :
    DisconnectionHolds d s.shared log where
  stored id row hRow := by
    have hKept := kept_reachable h
    refine ⟨fun token hToken => ?_, fun token hToken => hKept.refresh id row token hRow hToken⟩
    obtain ⟨credential, hCurrent, hHolding⟩ := hKept.access id row hRow (by rw [hToken]; rfl)
    exact ⟨credential, hCurrent, Option.some.inj (hHolding.accessToken.symm.trans hToken)⟩
  sent _ _ _ _ hSplit hQuestion := sent_authorized h hSplit hQuestion
  silent _ _ _ _ _ _ hSplit hEvent hMid hLater _ _ _ hCall hAccount :=
    silent_of_disconnected h hSplit hEvent hMid hLater hCall hAccount
  answered _ _ _ _ hSplit hQuestion := disconnected_effective h hSplit hQuestion

end Runs

-- ---------------------------------------------------------------------------
-- A run
-- ---------------------------------------------------------------------------

namespace Visit

def start : AccountsDatabase := ⟨0, [], ∅, [], 2⟩

def credential : OAuth.SocialAccountCredential :=
  ⟨OAuth.Connecting.user, .linkedin, ['1'], none, "v1.a.b.c".toList, some "v1.d.e.f".toList, some 10,
    ["w_member_social".toList], ['k']⟩

def post : SocialPost :=
  ⟨0, 2, .linkedin, [], ['H', 'i'], none, [], .linkedin ['H', 'i']⟩

def answered (i : Nat) : Processes.Event AccountCall AccountWorld AccountOwn :=
  .answer i ⟨true, none, Deployment.reply .linkedin (.response
    ⟨201, fun _ => some "urn:li:share:1".toList, .ok (.object [])⟩)⟩

def publication : Processes.Event AccountCall AccountWorld AccountOwn :=
  .start (.publish .linkedin post .whole)

/-- The account, written as PostgreSQL writes it. -/
def integrationId : Text := UuidText.printUuid 2

/-- An account is connected, published with and disconnected. -/
def events : List (Processes.Event AccountCall AccountWorld AccountOwn) :=
  [.own (.insertUser 1), .start (.connect credential), answered 0, answered 0, .own (.tick 9),
    publication, answered 1, answered 1, answered 1, answered 1,
    .start (.disconnect OAuth.Connecting.user integrationId), answered 2, answered 2, answered 2]

def isSent (x : AccountExchange) : Bool :=
  match x.question with
  | .adapter (.fetch request) => request.accessToken = ['t']
  | _ => false

def isDisconnected (x : AccountExchange) : Bool :=
  match x.question with
  | .disconnected id => id = integrationId
  | _ => false

theorem start_initial :
    (accountSystem OAuth.Connecting.deployment).Initial (⟨start, []⟩, []) := ⟨⟨rfl, rfl⟩, rfl⟩

end Visit

/-- A token is sent, and then disconnected. -/
theorem disconnection_holds_visit : ∃ db log, (∃ x ∈ log, Visit.isSent x = true) ∧
    (∃ x ∈ log, Visit.isDisconnected x = true) ∧
      DisconnectionHolds OAuth.Connecting.deployment db log := by
  obtain ⟨⟨s, log⟩, hReach, hLog⟩ := exists_reachable_of_run
    (accountSystem OAuth.Connecting.deployment) anyStep
    (fun s => s.2.any Visit.isSent && s.2.any Visit.isDisconnected)
    Visit.events Visit.start_initial (by decide +kernel)
  obtain ⟨hSent, hDisconnected⟩ := Bool.and_eq_true_iff.mp hLog
  exact ⟨s.shared, log, List.any_eq_true.mp hSent, List.any_eq_true.mp hDisconnected,
    disconnection_holds hReach⟩

end SocialPromotion.Accounts
