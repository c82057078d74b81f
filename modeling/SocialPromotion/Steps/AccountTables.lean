import SocialPromotion.Model.OAuthSystem
import SocialPromotion.Model.SocialAccounts

/-!
# The rows of social_accounts

The UNIQUE key of a row, whether one looks for it as `upsertSocialAccount` does or by its id.

* `connectedId_row`, `Drawn.connectedId_eq`: the row that a credential is stored in has its key;
* `upsert_agrees`: while nobody disconnects, the end of an authorization meets the same rows in the
  table by keys of `OAuthDatabase`.
-/

namespace SocialPromotion.Accounts

/-- A row has the UNIQUE key of a credential of a user. -/
structure AccountRow.Keyed (row : AccountRow) (userId : UserId)
    (credential : OAuth.SocialAccountCredential) : Prop where
  user : row.userId = userId
  platform : row.platform = credential.platform
  platformAccountId : row.platformAccountId = credential.platformAccountId

/-- Every id in the table was drawn before. -/
def AccountsDatabase.Drawn (db : AccountsDatabase) : Prop :=
  ∀ id row, db.accounts.lookup id = some row → id < db.nextUuid

section Keys

variable {db : AccountsDatabase} {userId : UserId} {credential : OAuth.SocialAccountCredential}
  {id : AccountId} {row : AccountRow}

/-- The row that is connected again has the key of the credential. -/
theorem connectedId_row (h : db.connectedId userId credential = some id) :
    ∃ row, db.accounts.lookup id = some row ∧ row.Keyed userId credential := by
  obtain ⟨⟨id', row⟩, hFound, rfl⟩ := Option.map_eq_some_iff.mp h
  have hFits := List.find?_some hFound
  obtain ⟨hUser, hPlatform, hAccount⟩ := of_decide_eq_true hFits
  exact ⟨row, AList.mem_lookup_iff.mpr (List.mem_of_find?_eq_some hFound), hUser, hPlatform,
    hAccount⟩

/-- The id that a credential is stored under has been drawn, or is drawn for it. -/
theorem AccountsDatabase.Drawn.upsertedId_lt (h : db.Drawn) (userId : UserId)
    (credential : OAuth.SocialAccountCredential) :
    db.upsertedId userId credential < db.nextUuid + 1 := by
  unfold AccountsDatabase.upsertedId
  cases hFound : db.connectedId userId credential with
  | none => exact Nat.lt_succ_self _
  | some id =>
    obtain ⟨row, hRow, -⟩ := connectedId_row hFound
    exact Nat.lt_succ_of_lt (h id row hRow)

/-- A row that a credential overwrites is the one that is connected again. -/
theorem AccountsDatabase.Drawn.connectedId_eq (h : db.Drawn)
    (hRow : db.accounts.lookup (db.upsertedId userId credential) = some row) :
    db.connectedId userId credential = some (db.upsertedId userId credential) := by
  unfold AccountsDatabase.upsertedId at hRow ⊢
  cases hFound : db.connectedId userId credential with
  | none =>
    rw [hFound] at hRow
    exact absurd (h _ row hRow) (Nat.lt_irrefl _)
  | some id => rfl

theorem AccountsDatabase.Drawn.keyed (h : db.Drawn)
    (hRow : db.accounts.lookup (db.upsertedId userId credential) = some row) :
    row.Keyed userId credential := by
  obtain ⟨row', hRow', hKeyed⟩ := connectedId_row (h.connectedId_eq hRow)
  obtain rfl := Option.some.inj (hRow'.symm.trans hRow)
  exact hKeyed

theorem AccountsDatabase.Drawn.upsert (h : db.Drawn) (userId : UserId)
    (credential : OAuth.SocialAccountCredential) : (db.upsert userId credential).Drawn := by
  intro id row hRow
  by_cases hId : id = db.upsertedId userId credential
  · rw [hId]
    exact h.upsertedId_lt userId credential
  · exact Nat.lt_succ_of_lt (h id row ((AList.lookup_insert_ne hId).symm.trans hRow))

end Keys

-- ---------------------------------------------------------------------------
-- The table by keys
-- ---------------------------------------------------------------------------

/-- The key under which the end of an authorization looks for a row. -/
def accountKey (userId : UserId) (credential : OAuth.SocialAccountCredential) : OAuth.AccountKey :=
  ⟨userId, credential.platform, credential.platformAccountId⟩

theorem AccountRow.Keyed.key_eq {row : AccountRow} {userId userId' : UserId}
    {credential credential' : OAuth.SocialAccountCredential} (h : row.Keyed userId credential)
    (h' : row.Keyed userId' credential') :
    accountKey userId credential = accountKey userId' credential' := by
  rw [accountKey, accountKey, ← h.user, ← h.platform, ← h.platformAccountId, h'.user, h'.platform,
    h'.platformAccountId]

/-- What the end of an authorization sees of a row. -/
def AccountRow.connection (id : AccountId) (row : AccountRow) : Option OAuth.AccountRow :=
  row.accessTokenEncrypted.map fun accessTokenEncrypted => {
    id := id
    accountName := row.accountName
    accessTokenEncrypted := accessTokenEncrypted
    refreshTokenEncrypted := row.refreshTokenEncrypted
    expiresAt := row.expiresAt
    scope := row.scope
    tokenKeyVersion := row.tokenKeyVersion }

/-- The row under the key of a credential, as the end of an authorization sees it. -/
def AccountsDatabase.connection (db : AccountsDatabase) (userId : UserId)
    (credential : OAuth.SocialAccountCredential) : Option OAuth.AccountRow := do
  let id ← db.connectedId userId credential
  let row ← db.accounts.lookup id
  row.connection id

/-- The two tables have the same rows, none of them disconnected. -/
structure Agrees (oauth : OAuth.OAuthDatabase) (db : AccountsDatabase) : Prop where
  users : oauth.users = db.users
  nextUuid : oauth.nextUuid = db.nextUuid
  drawn : db.Drawn
  tokens : ∀ id row, db.accounts.lookup id = some row → row.accessTokenEncrypted.isSome
  rows : ∀ userId credential,
    oauth.accounts.lookup (accountKey userId credential) = db.connection userId credential

section Agreement

variable {d : OAuth.Deployment} {oauth oauth' : OAuth.OAuthDatabase} {db : AccountsDatabase}
  {userId userId' : UserId} {credential credential' : OAuth.SocialAccountCredential}

theorem Agrees.initial (hUsers : oauth.users = db.users) (hUuid : oauth.nextUuid = db.nextUuid)
    (hOAuth : oauth.accounts = ∅) (hDb : db.Initial) : Agrees oauth db := by
  have hNone : ∀ id, db.accounts.lookup id = none := by
    intro id
    rw [hDb]
    rfl
  refine ⟨hUsers, hUuid, fun id row hRow => ?_, fun id row hRow => ?_, fun userId credential => ?_⟩
  · rw [hNone] at hRow
    cases hRow
  · rw [hNone] at hRow
    cases hRow
  · rw [hOAuth, AccountsDatabase.connection, AccountsDatabase.connectedId, hDb]
    rfl

/-- A search that the erased row would not have ended finds what it found. -/
theorem find?_kerase {α : Type} {β : α → Type} [DecidableEq α] {p : Sigma β → Bool} {a : α}
    {xs : List (Sigma β)} (h : ∀ x ∈ xs, a = x.1 → p x = false) :
    (xs.kerase a).find? p = xs.find? p := by
  -- by induction on the entries: at most the first one of the key goes, and it does not fit
  induction xs with
  | nil => rfl
  | cons x xs ih =>
    by_cases hKey : a = x.1
    · rw [List.kerase_cons_eq hKey, List.find?_cons_of_neg]
      rw [h x List.mem_cons_self hKey]
      exact Bool.false_ne_true
    · rw [List.kerase_cons_ne hKey, List.find?_cons, List.find?_cons,
        ih fun y hMem => h y (List.mem_cons_of_mem _ hMem)]

theorem entries_upsert (db : AccountsDatabase) (userId : UserId)
    (credential : OAuth.SocialAccountCredential) :
    (db.upsert userId credential).accounts.entries =
      ⟨db.upsertedId userId credential, .upserted userId credential
        ((db.connectedId userId credential).bind fun id => db.accounts.lookup id)⟩ ::
        db.accounts.entries.kerase (db.upsertedId userId credential) := rfl

theorem connectedId_upsert_self (db : AccountsDatabase)
    (hKey : accountKey userId' credential' = accountKey userId credential) :
    (db.upsert userId credential).connectedId userId' credential' =
      some (db.upsertedId userId credential) := by
  obtain ⟨hUser, hPlatform, hAccount⟩ := OAuth.AccountKey.mk.inj hKey
  unfold AccountsDatabase.connectedId
  rw [entries_upsert, List.find?_cons_of_pos]
  · rfl
  · exact decide_eq_true ⟨hUser.symm, hPlatform.symm, hAccount.symm⟩

theorem connectedId_upsert_ne (h : db.Drawn)
    (hKey : accountKey userId' credential' ≠ accountKey userId credential) :
    (db.upsert userId credential).connectedId userId' credential' =
      db.connectedId userId' credential' := by
  have hOther : ∀ row : AccountRow, row.Keyed userId credential →
      ¬(row.userId = userId' ∧ row.platform = credential'.platform ∧
        row.platformAccountId = credential'.platformAccountId) := by
    rintro row hKeyed ⟨hUser, hPlatform, hAccount⟩
    have hKeyed' : row.Keyed userId' credential' := ⟨hUser, hPlatform, hAccount⟩
    exact hKey (hKeyed'.key_eq hKeyed)
  unfold AccountsDatabase.connectedId
  -- neither the new entry nor the one it replaces has the key that is looked for
  rw [entries_upsert, List.find?_cons_of_neg, find?_kerase]
  · intro entry hMem hId
    refine decide_eq_false (hOther entry.2 (h.keyed ?_))
    rw [hId]
    exact AList.mem_lookup_iff.mpr hMem
  · exact Bool.not_eq_true _ ▸ decide_eq_false (hOther _ ⟨rfl, rfl, rfl⟩)

/-- The row that a credential finds. -/
theorem Agrees.before (h : Agrees oauth db) (userId : UserId)
    (credential : OAuth.SocialAccountCredential) :
    (db.connectedId userId credential = none ∧
      oauth.accounts.lookup (accountKey userId credential) = none) ∨
    ∃ id row connection, db.connectedId userId credential = some id ∧
      db.accounts.lookup id = some row ∧ row.connection id = some connection ∧
      oauth.accounts.lookup (accountKey userId credential) = some connection := by
  have hRows := h.rows userId credential
  unfold AccountsDatabase.connection at hRows
  cases hFound : db.connectedId userId credential with
  | none =>
    rw [hFound] at hRows
    exact Or.inl ⟨rfl, hRows⟩
  | some id =>
    obtain ⟨row, hRow, -⟩ := connectedId_row hFound
    obtain ⟨token, hToken⟩ := Option.isSome_iff_exists.mp (h.tokens id row hRow)
    have hConnection : ∃ connection, row.connection id = some connection := by
      rw [AccountRow.connection, hToken]
      exact ⟨_, rfl⟩
    obtain ⟨connection, hConnection⟩ := hConnection
    refine Or.inr ⟨id, row, connection, rfl, hRow, hConnection, ?_⟩
    rw [hRows, hFound]
    show (db.accounts.lookup id >>= fun row => row.connection id) = _
    rw [hRow]
    exact hConnection

/-- Both tables store a credential in the same row. -/
theorem Agrees.upserted (h : Agrees oauth db) (userId : UserId)
    (credential : OAuth.SocialAccountCredential) :
    (AccountRow.upserted userId credential ((db.connectedId userId credential).bind
      fun id => db.accounts.lookup id)).connection (db.upsertedId userId credential) =
      some (oauth.accountRow credential
        (oauth.accounts.lookup (accountKey userId credential))) := by
  unfold AccountsDatabase.upsertedId
  -- a new row gets the next id and no refresh token, another one keeps both
  rcases h.before userId credential with ⟨hNone, hLookup⟩ |
    ⟨id, row, connection, hFound, hRow, hConnection, hLookup⟩
  · rw [hNone, hLookup, OAuth.OAuthDatabase.accountRow, h.nextUuid]
    rfl
  · rw [hFound, hLookup, Option.bind_some, hRow]
    obtain ⟨token, -, rfl⟩ := Option.map_eq_some_iff.mp hConnection
    rfl

/-- **The end of an authorization** is answered by both tables alike, and they go on agreeing. -/
theorem upsert_agrees (h : Agrees oauth db) {row : Option OAuth.OAuthRow}
    (hUpsert : oauth.upsertSocialAccount d credential = some (row, oauth')) :
    ∃ result db', db.execute d (.oauth (.query (.upsertSocialAccount credential))) =
      some (result, db') ∧ result.row = row ∧ Agrees oauth' db' := by
  obtain ⟨userId, hUser, hUpsert⟩ := Option.bind_eq_some_iff.mp hUpsert
  obtain ⟨rfl, rfl⟩ := Prod.mk.inj (Option.some.inj hUpsert)
  have hUser : db.user d credential.userId = some userId := by
    rw [← hUser, OAuth.OAuthDatabase.user, AccountsDatabase.user, h.users]
  have hStored := h.upserted userId credential
  obtain ⟨token, -, hSame⟩ := Option.map_eq_some_iff.mp hStored
  have hNew : (db.upsert userId credential).accounts.lookup (db.upsertedId userId credential) =
      some (.upserted userId credential
        ((db.connectedId userId credential).bind fun id => db.accounts.lookup id)) :=
    AList.lookup_insert _
  refine ⟨_, db.upsert userId credential, Option.map_eq_some_iff.mpr ⟨userId, hUser, rfl⟩, ?_,
    h.users, congrArg (· + 1) h.nextUuid, h.drawn.upsert userId credential, ?_, ?_⟩
  · rw [accountKey] at hSame
    rw [← hSame]
    rfl
  · intro id row hRow
    by_cases hId : id = db.upsertedId userId credential
    · subst hId
      obtain rfl := Option.some.inj (hNew.symm.trans hRow)
      rfl
    · exact h.tokens id row ((AList.lookup_insert_ne hId).symm.trans hRow)
  · intro userId' credential'
    unfold AccountsDatabase.connection
    -- under the key of the credential both have the new row, elsewhere both are as they were
    by_cases hKey : accountKey userId' credential' = accountKey userId credential
    · rw [connectedId_upsert_self db hKey, hKey]
      refine (AList.lookup_insert _).trans (hStored.symm.trans ?_)
      rw [Option.bind_eq_bind, Option.bind_some, hNew]
      rfl
    · rw [connectedId_upsert_ne h.drawn hKey]
      refine (AList.lookup_insert_ne hKey).trans ((h.rows userId' credential').trans ?_)
      unfold AccountsDatabase.connection
      cases hFound : db.connectedId userId' credential' with
      | none => rfl
      | some id =>
        have hId : id ≠ db.upsertedId userId credential := by
          rintro rfl
          obtain ⟨row, hRow, hKeyed'⟩ := connectedId_row hFound
          exact hKey (hKeyed'.key_eq (h.drawn.keyed hRow))
        have hSame : (db.upsert userId credential).accounts.lookup id = db.accounts.lookup id :=
          AList.lookup_insert_ne hId
        rw [Option.bind_eq_bind, Option.bind_some, Option.bind_eq_bind, Option.bind_some, hSame]

end Agreement

end SocialPromotion.Accounts
