import Mathlib.Data.List.AList
import Mathlib.Data.List.Pairwise
import SocialPromotion.Steps.OAuthCalls

/-!
# What the tables have of the record

A row of `oauth_states` comes from one insertion and is consumed by at most one UPDATE that returned
it, before its expiry. A row of `facebook_page_selections` comes from one insertion and is consumed
by at most one COMMIT, of a transaction that took it for the user it belongs to.

* `StatesRecorded`, with a lemma for each statement on `oauth_states`;
* `SelectionsRecorded`, with a lemma for each statement of a transaction;
* `recorded_tables`: both hold after every run.
-/

namespace SocialPromotion.OAuth

open Processes

/-! ## Statements that were executed -/

/-- A statement that the database has executed, with its first row and the tables after it. -/
structure Executes (d : Deployment) (x : OAuthExchange) (statement : OAuthStatement)
    (row : Option OAuthRow) (after : OAuthDatabase) : Prop where
  question : x.question = .query statement
  executed : x.world.executed = true
  waits : x.found.waits d x.process statement = false
  result : x.found.execute d x.process statement = some (row, after)
  /-- The reply has that row, or it is lost. -/
  reply : x.reply.rows = .ok row ∨ ∃ error, x.reply.rows = .error error

theorem reply_rows {world : OAuthWorld} {row : Option OAuthRow} {date : Time} :
    (world.reply row date).rows = .ok row ∨ ∃ error, (world.reply row date).rows = .error error := by
  unfold OAuthWorld.reply
  cases world.error with
  | none => exact .inl rfl
  | some error => exact .inr ⟨error, rfl⟩

/-- A statement is executed, or nothing happens in the tables. -/
theorem answer_cases {d : Deployment} {x : OAuthExchange} {after : OAuthDatabase}
    (h : x.found.answer d x.process x.question x.world = some (x.reply, after)) :
    (∃ statement row, Executes d x statement row after) ∨
      after = x.found ∧ ∀ statement, x.question = .query statement →
        x.world.executed = false ∧ ∃ error, x.reply.rows = .error error := by
  unfold OAuthDatabase.answer at h
  split at h
  · rename_i statement hQuestion
    split at h
    · rename_i hExecuted
      split at h
      · cases h
      · rename_i hWaits
        obtain ⟨⟨row, next⟩, hResult, hReply⟩ := Option.map_eq_some_iff.mp h
        injection hReply with hReply hAfter
        refine .inl ⟨statement, row, hQuestion, hExecuted, Bool.eq_false_iff.mpr hWaits,
          hAfter ▸ hResult, ?_⟩
        rw [← hReply]
        exact reply_rows
    · rename_i hExecuted
      split at h
      · rename_i hError
        injection h with h
        injection h with hReply hAfter
        refine .inr ⟨hAfter.symm, fun _ _ => ⟨Bool.eq_false_iff.mpr hExecuted, ?_⟩⟩
        obtain ⟨error, hWorld⟩ := Option.isSome_iff_exists.mp hError
        rw [← hReply, OAuthWorld.reply, hWorld]
        exact ⟨error, rfl⟩
      · cases h
  · rename_i hOther
    injection h with h
    injection h with hReply hAfter
    exact .inr ⟨hAfter.symm, fun statement hQuestion => absurd hQuestion (hOther statement)⟩

/-- An UPDATE of `consumeState` that returned a row. -/
def TookState (stateHash : Text) (x : OAuthExchange) : Prop :=
  x.question = .query (.consumeState stateHash) ∧ ∃ state, x.reply.rows = .ok (some (.state state))

/-- A COMMIT that consumed a selection. -/
def Consumes (selectionHash : Text) (x : OAuthExchange) : Prop :=
  x.question = .query .commit ∧ x.world.executed = true ∧
    ∃ transaction, x.found.transactions.lookup x.process = some transaction ∧
      transaction.taken = some selectionHash

/-! ## oauth_states -/

/-- The row of a state that an insertion has put in. -/
structure Inserted (d : Deployment) (x : OAuthExchange) (state : OAuthAuthorizationState)
    (row : StateRow) : Prop where
  question : x.question = .query (.insertState state)
  executed : x.world.executed = true
  userId : d.uuid.parse state.userId = some row.userId
  platform : row.platform = state.platform
  callbackRoute : row.callbackRoute = state.callbackRoute
  codeVerifierEncrypted : row.codeVerifierEncrypted = state.codeVerifierEncrypted
  expiresAt : row.expiresAt = state.expiresAt

structure StatesRecorded (d : Deployment) (states : AList fun _ : Text => StateRow)
    (log : List OAuthExchange) : Prop where
  inserted : ∀ (stateHash : Text) (row : StateRow), states.lookup stateHash = some row →
    ∃ x ∈ log, ∃ state, Inserted d x state row ∧ state.stateHash = stateHash
  consumed : ∀ x ∈ log, ∀ (stateHash : Text) (state : OAuthAuthorizationState),
    x.question = .query (.consumeState stateHash) → x.reply.rows = .ok (some (.state state)) →
    ∃ row, states.lookup stateHash = some row ∧ state = row.returned d stateHash ∧
      row.consumedAt = some x.found.now ∧ x.found.now < row.expiresAt
  once : log.Pairwise fun x y => ∀ stateHash, TookState stateHash x → ¬ TookState stateHash y

section States

variable {d : Deployment} {states : AList fun _ : Text => StateRow} {log : List OAuthExchange}
  {x : OAuthExchange}

theorem pairwise_concat {R : OAuthExchange → OAuthExchange → Prop} (h : log.Pairwise R)
    (hLast : ∀ y ∈ log, R y x) : (log ++ [x]).Pairwise R := by
  refine List.pairwise_append.mpr ⟨h, List.pairwise_singleton R x, fun y hMem z hZ => ?_⟩
  rw [List.mem_singleton.mp hZ]
  exact hLast y hMem

namespace StatesRecorded

theorem keep (h : StatesRecorded d states log) (hOther : ∀ stateHash, ¬ TookState stateHash x) :
    StatesRecorded d states (log ++ [x]) where
  inserted stateHash row hRow := by
    obtain ⟨y, hMem, hInserted⟩ := h.inserted stateHash row hRow
    exact ⟨y, List.mem_append_left _ hMem, hInserted⟩
  consumed y hMem stateHash state hQuestion hReply := by
    rcases List.mem_append.mp hMem with hMem | hMem
    · exact h.consumed y hMem stateHash state hQuestion hReply
    · rw [List.mem_singleton.mp hMem] at hQuestion hReply
      exact absurd ⟨hQuestion, state, hReply⟩ (hOther stateHash)
  once := pairwise_concat h.once fun _ _ stateHash _ => hOther stateHash

/-- A row is put in. -/
theorem insert {state : OAuthAuthorizationState} {row : StateRow}
    (h : StatesRecorded d states log) (hNew : states.lookup state.stateHash = none)
    (hInserted : Inserted d x state row) :
    StatesRecorded d (states.insert state.stateHash row) (log ++ [x]) where
  inserted stateHash row' hRow := by
    by_cases hSame : stateHash = state.stateHash
    · rw [hSame, AList.lookup_insert] at hRow
      injection hRow with hRow
      exact ⟨x, by simp, state, hRow ▸ hInserted, hSame.symm⟩
    · rw [AList.lookup_insert_ne hSame] at hRow
      obtain ⟨y, hMem, hBefore⟩ := h.inserted stateHash row' hRow
      exact ⟨y, List.mem_append_left _ hMem, hBefore⟩
  consumed y hMem stateHash state' hQuestion hReply := by
    rcases List.mem_append.mp hMem with hMem | hMem
    · obtain ⟨row', hRow, hRest⟩ := h.consumed y hMem stateHash state' hQuestion hReply
      have hOther : stateHash ≠ state.stateHash := by
        rintro rfl
        rw [hNew] at hRow
        cases hRow
      exact ⟨row', by rw [AList.lookup_insert_ne hOther, hRow], hRest⟩
    · rw [List.mem_singleton.mp hMem, hInserted.question] at hQuestion
      cases hQuestion
  once := pairwise_concat h.once fun _ _ stateHash _ hTook => by
    rw [TookState, hInserted.question] at hTook
    cases hTook.1

/-- An open row is consumed. -/
theorem consume {stateHash : Text} {row : StateRow} (h : StatesRecorded d states log)
    (hRow : states.lookup stateHash = some row) (hOpen : row.Open x.found.now)
    (hQuestion : x.question = .query (.consumeState stateHash))
    (hReply : x.reply.rows = .ok (some (.state (row.returned d stateHash))) ∨
      ∃ error, x.reply.rows = .error error) :
    StatesRecorded d (states.insert stateHash { row with consumedAt := some x.found.now })
      (log ++ [x]) := by
  -- nothing was returned for an open row so far
  have hNever : ∀ y ∈ log, ¬ TookState stateHash y := by
    rintro y hMem ⟨hTook, state, hState⟩
    obtain ⟨row', hRow', -, hConsumed, -⟩ := h.consumed y hMem stateHash state hTook hState
    rw [hRow] at hRow'
    injection hRow' with hRow'
    rw [← hRow', hOpen.1] at hConsumed
    cases hConsumed
  constructor
  case inserted =>
    intro hash row' hRow'
    have hBefore : ∃ row'', states.lookup hash = some row'' ∧ row''.userId = row'.userId ∧
        row''.platform = row'.platform ∧ row''.callbackRoute = row'.callbackRoute ∧
        row''.codeVerifierEncrypted = row'.codeVerifierEncrypted ∧
        row''.expiresAt = row'.expiresAt := by
      by_cases hSame : hash = stateHash
      · rw [hSame, AList.lookup_insert] at hRow'
        injection hRow' with hRow'
        rw [← hRow', hSame]
        exact ⟨row, hRow, rfl, rfl, rfl, rfl, rfl⟩
      · rw [AList.lookup_insert_ne hSame] at hRow'
        exact ⟨row', hRow', rfl, rfl, rfl, rfl, rfl⟩
    obtain ⟨row'', hLookup, hUser, hPlatform, hRoute, hVerifier, hExpiry⟩ := hBefore
    obtain ⟨y, hMem, state, hInserted, hHash⟩ := h.inserted hash row'' hLookup
    exact ⟨y, List.mem_append_left _ hMem, state, ⟨hInserted.question, hInserted.executed,
      hUser ▸ hInserted.userId, hPlatform ▸ hInserted.platform, hRoute ▸ hInserted.callbackRoute,
      hVerifier ▸ hInserted.codeVerifierEncrypted, hExpiry ▸ hInserted.expiresAt⟩, hHash⟩
  case consumed =>
    intro y hMem hash state hTook hState
    rcases List.mem_append.mp hMem with hMem | hMem
    · have hOther : hash ≠ stateHash := by
        rintro rfl
        exact hNever y hMem ⟨hTook, state, hState⟩
      rw [AList.lookup_insert_ne hOther]
      exact h.consumed y hMem hash state hTook hState
    · rw [List.mem_singleton.mp hMem] at hTook hState ⊢
      rw [hQuestion] at hTook
      injection hTook with hTook
      injection hTook with hHash
      rw [← hHash, AList.lookup_insert]
      refine ⟨_, rfl, ?_, rfl, hOpen.2⟩
      rcases hReply with hReply | ⟨error, hReply⟩
      · rw [hReply] at hState
        injection hState with hState
        injection hState with hState
        injection hState with hState
        exact hState.symm
      · rw [hReply] at hState
        cases hState
  case once =>
    refine pairwise_concat h.once fun y hMem hash hTook hAgain => ?_
    have hSame := hAgain.1
    rw [hQuestion] at hSame
    injection hSame with hSame
    injection hSame with hHash
    exact hNever y hMem (hHash ▸ hTook)

end StatesRecorded

end States

/-! ## facebook_page_selections -/

/-- A selection was put in for a user. -/
def Created (d : Deployment) (log : List OAuthExchange) (selectionHash : Text) (row : SelectionRow) :
    Prop :=
  ∃ x ∈ log, ∃ userId scope expiresAt,
    x.question = .query (.insertSelection selectionHash userId scope expiresAt) ∧
    x.world.executed = true ∧ d.uuid.parse userId = some row.userId

abbrev Selections := AList fun _ : Text => SelectionRow
abbrev Transactions := AList fun _ : Nat => OpenTransaction

structure SelectionsRecorded (d : Deployment) (selections : Selections)
    (transactions : Transactions) (log : List OAuthExchange) : Prop where
  created : ∀ (hash : Text) (row : SelectionRow), selections.lookup hash = some row →
    Created d log hash row
  pending : ∀ (i : Nat) (transaction : OpenTransaction) (hash : Text) (row : SelectionRow),
    transactions.lookup i = some transaction → transaction.inserted = some (hash, row) →
    row.consumedAt = none ∧ selections.lookup hash = none ∧ Created d log hash row
  pendingOnce : ∀ (i j : Nat) (first second : OpenTransaction) (hash : Text)
    (row row' : SelectionRow), transactions.lookup i = some first →
    transactions.lookup j = some second → first.inserted = some (hash, row) →
    second.inserted = some (hash, row') → i = j
  taken : ∀ (i : Nat) (transaction : OpenTransaction) (hash : Text),
    transactions.lookup i = some transaction → transaction.taken = some hash →
    ∃ row, selections.lookup hash = some row ∧ row.consumedAt = none ∧
      ∃ x ∈ log, x.process = i ∧ ∃ userId, x.question = .query (.takeSelection hash userId) ∧
        d.uuid.parse userId = some row.userId
  takenOnce : ∀ (i j : Nat) (first second : OpenTransaction) (hash : Text),
    transactions.lookup i = some first → transactions.lookup j = some second →
    first.taken = some hash → second.taken = some hash → i = j
  took : ∀ x ∈ log, ∀ (hash userId : Text) (scope : List Text),
    x.question = .query (.takeSelection hash userId) →
    x.reply.rows = .ok (some (.selection scope)) →
    (∀ transaction, transactions.lookup x.process = some transaction →
      transaction.taken = some hash) ∧
    ∃ row, selections.lookup hash = some row ∧ d.uuid.parse userId = some row.userId ∧
      row.scope = scope
  found : ∀ x ∈ log, ∀ (hash pageId : Text) (item : FacebookPageItem),
    x.question = .query (.findSelectionItem hash pageId) → x.reply.rows = .ok (some (.item item)) →
    ∃ row, selections.lookup hash = some row ∧ item ∈ row.items ∧ item.pageId = pageId
  consumed : ∀ x ∈ log, ∀ hash : Text, Consumes hash x →
    ∃ row, selections.lookup hash = some row ∧ row.consumedAt ≠ none
  once : log.Pairwise fun x y => ∀ hash, Consumes hash x → ¬ Consumes hash y

section Selections

variable {d : Deployment} {selections : Selections} {transactions : Transactions}
  {log : List OAuthExchange} {x : OAuthExchange}

theorem Created.append {hash : Text} {row : SelectionRow} (h : Created d log hash row) :
    Created d (log ++ [x]) hash row := by
  obtain ⟨y, hMem, hRest⟩ := h
  exact ⟨y, List.mem_append_left _ hMem, hRest⟩

theorem Created.of_user {hash : Text} {row row' : SelectionRow} (h : Created d log hash row)
    (hUser : row.userId = row'.userId) : Created d log hash row' := by
  obtain ⟨y, hMem, userId, scope, expiresAt, hQuestion, hExecuted, hParsed⟩ := h
  exact ⟨y, hMem, userId, scope, expiresAt, hQuestion, hExecuted, hUser ▸ hParsed⟩

section ConsumedBy

variable {transaction : OpenTransaction} {hash : Text} {row : SelectionRow}

theorem consumedBy_userId :
    (OAuthDatabase.consumedBy transaction hash row).userId = row.userId := by
  unfold OAuthDatabase.consumedBy
  split <;> rfl

theorem consumedBy_scope : (OAuthDatabase.consumedBy transaction hash row).scope = row.scope := by
  unfold OAuthDatabase.consumedBy
  split <;> rfl

theorem consumedBy_items : (OAuthDatabase.consumedBy transaction hash row).items = row.items := by
  unfold OAuthDatabase.consumedBy
  split <;> rfl

end ConsumedBy

namespace SelectionsRecorded

/-- An exchange that writes nothing. -/
theorem keep (h : SelectionsRecorded d selections transactions log)
    (hTook : ∀ hash userId, x.question = .query (.takeSelection hash userId) →
      ∀ scope, x.reply.rows ≠ .ok (some (.selection scope)))
    (hFound : ∀ hash pageId item, x.question = .query (.findSelectionItem hash pageId) →
      x.reply.rows = .ok (some (.item item)) →
      ∃ row, selections.lookup hash = some row ∧ item ∈ row.items ∧ item.pageId = pageId)
    (hConsumes : ∀ hash, ¬ Consumes hash x) :
    SelectionsRecorded d selections transactions (log ++ [x]) where
  created hash row hRow := (h.created hash row hRow).append
  pending i transaction hash row hOpen hInserted := by
    obtain ⟨hUnused, hNew, hCreated⟩ := h.pending i transaction hash row hOpen hInserted
    exact ⟨hUnused, hNew, hCreated.append⟩
  pendingOnce := h.pendingOnce
  taken i transaction hash hOpen hTaken := by
    obtain ⟨row, hRow, hUnused, y, hMem, hRest⟩ := h.taken i transaction hash hOpen hTaken
    exact ⟨row, hRow, hUnused, y, List.mem_append_left _ hMem, hRest⟩
  takenOnce := h.takenOnce
  took y hMem hash userId scope hQuestion hReply := by
    rcases List.mem_append.mp hMem with hMem | hMem
    · exact h.took y hMem hash userId scope hQuestion hReply
    · rw [List.mem_singleton.mp hMem] at hQuestion hReply
      exact absurd hReply (hTook hash userId hQuestion scope)
  found y hMem hash pageId item hQuestion hReply := by
    rcases List.mem_append.mp hMem with hMem | hMem
    · exact h.found y hMem hash pageId item hQuestion hReply
    · rw [List.mem_singleton.mp hMem] at hQuestion hReply
      exact hFound hash pageId item hQuestion hReply
  consumed y hMem hash hConsumed := by
    rcases List.mem_append.mp hMem with hMem | hMem
    · exact h.consumed y hMem hash hConsumed
    · rw [List.mem_singleton.mp hMem] at hConsumed
      exact absurd hConsumed (hConsumes hash)
  once := pairwise_concat h.once fun _ _ hash _ => hConsumes hash

/-- A transaction ends without a trace. -/
theorem drop (h : SelectionsRecorded d selections transactions log) (process : Nat) :
    SelectionsRecorded d selections (transactions.erase process) log := by
  have hStill : ∀ (i : Nat) (transaction : OpenTransaction),
      (transactions.erase process).lookup i = some transaction →
      transactions.lookup i = some transaction := by
    intro i transaction hOpen
    by_cases hSame : i = process
    · rw [hSame, AList.lookup_erase] at hOpen
      cases hOpen
    · rwa [AList.lookup_erase_ne hSame] at hOpen
  exact {
    created := h.created
    pending := fun i transaction hash row hOpen => h.pending i transaction hash row (hStill _ _ hOpen)
    pendingOnce := fun i j first second hash row row' hFirst hSecond =>
      h.pendingOnce i j first second hash row row' (hStill _ _ hFirst) (hStill _ _ hSecond)
    taken := fun i transaction hash hOpen => h.taken i transaction hash (hStill _ _ hOpen)
    takenOnce := fun i j first second hash hFirst hSecond =>
      h.takenOnce i j first second hash (hStill _ _ hFirst) (hStill _ _ hSecond)
    took := fun y hMem hash userId scope hQuestion hReply => by
      obtain ⟨hTaken, hRow⟩ := h.took y hMem hash userId scope hQuestion hReply
      exact ⟨fun transaction hOpen => hTaken transaction (hStill _ _ hOpen), hRow⟩
    found := h.found
    consumed := h.consumed
    once := h.once }

/-- A transaction goes on with a statement. What it has inserted is new, what it took is not taken
by another one, and it still has what was returned to its process. -/
theorem set {transaction : OpenTransaction}
    (h : SelectionsRecorded d selections transactions log)
    (hInserted : ∀ hash row, transaction.inserted = some (hash, row) →
      row.consumedAt = none ∧ selections.lookup hash = none ∧ Created d (log ++ [x]) hash row ∧
      ∀ j other row', j ≠ x.process → transactions.lookup j = some other →
        other.inserted ≠ some (hash, row'))
    (hTaken : ∀ hash, transaction.taken = some hash →
      (∃ row, selections.lookup hash = some row ∧ row.consumedAt = none ∧
        ∃ y ∈ log ++ [x], y.process = x.process ∧ ∃ userId,
          y.question = .query (.takeSelection hash userId) ∧
          d.uuid.parse userId = some row.userId) ∧
      ∀ j other, j ≠ x.process → transactions.lookup j = some other → other.taken ≠ some hash)
    (hTook : ∀ y ∈ log ++ [x], y.process = x.process → ∀ hash userId scope,
      y.question = .query (.takeSelection hash userId) →
      y.reply.rows = .ok (some (.selection scope)) → transaction.taken = some hash)
    (hRow : ∀ hash userId scope, x.question = .query (.takeSelection hash userId) →
      x.reply.rows = .ok (some (.selection scope)) →
      ∃ row, selections.lookup hash = some row ∧ d.uuid.parse userId = some row.userId ∧
        row.scope = scope)
    (hOther : ∀ hash pageId, x.question ≠ .query (.findSelectionItem hash pageId))
    (hCommit : x.question ≠ .query .commit) :
    SelectionsRecorded d selections (transactions.insert x.process transaction) (log ++ [x]) := by
  have hCases : ∀ (i : Nat) (other : OpenTransaction),
      (transactions.insert x.process transaction).lookup i = some other →
      i = x.process ∧ other = transaction ∨ i ≠ x.process ∧ transactions.lookup i = some other := by
    intro i other hOpen
    by_cases hSame : i = x.process
    · rw [hSame, AList.lookup_insert] at hOpen
      injection hOpen with hOpen
      exact .inl ⟨hSame, hOpen.symm⟩
    · rw [AList.lookup_insert_ne hSame] at hOpen
      exact .inr ⟨hSame, hOpen⟩
  constructor
  case created => exact fun hash row hLookup => (h.created hash row hLookup).append
  case pending =>
    intro i other hash row hOpen hRow
    rcases hCases i other hOpen with ⟨-, rfl⟩ | ⟨-, hBefore⟩
    · obtain ⟨hUnused, hNew, hCreated, -⟩ := hInserted hash row hRow
      exact ⟨hUnused, hNew, hCreated⟩
    · obtain ⟨hUnused, hNew, hCreated⟩ := h.pending i other hash row hBefore hRow
      exact ⟨hUnused, hNew, hCreated.append⟩
  case pendingOnce =>
    intro i j first second hash row row' hFirst hSecond hRow hRow'
    rcases hCases i first hFirst with ⟨rfl, rfl⟩ | ⟨hNe, hBefore⟩
    · rcases hCases j second hSecond with ⟨rfl, -⟩ | ⟨hNe, hBefore⟩
      · rfl
      · exact absurd hRow' ((hInserted hash row hRow).2.2.2 j second row' hNe hBefore)
    · rcases hCases j second hSecond with ⟨rfl, rfl⟩ | ⟨-, hBefore'⟩
      · exact absurd hRow ((hInserted hash row' hRow').2.2.2 i first row hNe hBefore)
      · exact h.pendingOnce i j first second hash row row' hBefore hBefore' hRow hRow'
  case taken =>
    intro i other hash hOpen hHash
    rcases hCases i other hOpen with ⟨rfl, rfl⟩ | ⟨-, hBefore⟩
    · exact (hTaken hash hHash).1
    · obtain ⟨row, hLookup, hUnused, y, hMem, hRest⟩ := h.taken i other hash hBefore hHash
      exact ⟨row, hLookup, hUnused, y, List.mem_append_left _ hMem, hRest⟩
  case takenOnce =>
    intro i j first second hash hFirst hSecond hHash hHash'
    rcases hCases i first hFirst with ⟨rfl, rfl⟩ | ⟨hNe, hBefore⟩
    · rcases hCases j second hSecond with ⟨rfl, -⟩ | ⟨hNe, hBefore⟩
      · rfl
      · exact absurd hHash' ((hTaken hash hHash).2 j second hNe hBefore)
    · rcases hCases j second hSecond with ⟨rfl, rfl⟩ | ⟨-, hBefore'⟩
      · exact absurd hHash ((hTaken hash hHash').2 i first hNe hBefore)
      · exact h.takenOnce i j first second hash hBefore hBefore' hHash hHash'
  case took =>
    intro y hMem hash userId scope hQuestion hReply
    have hThere : ∃ row, selections.lookup hash = some row ∧
        d.uuid.parse userId = some row.userId ∧ row.scope = scope := by
      rcases List.mem_append.mp hMem with hBefore | hLast
      · exact (h.took y hBefore hash userId scope hQuestion hReply).2
      · rw [List.mem_singleton.mp hLast] at hQuestion hReply
        exact hRow hash userId scope hQuestion hReply
    refine ⟨fun other hOpen => ?_, hThere⟩
    rcases hCases y.process other hOpen with ⟨hSame, rfl⟩ | ⟨hNe, hStill⟩
    · exact hTook y hMem hSame hash userId scope hQuestion hReply
    · rcases List.mem_append.mp hMem with hBefore | hLast
      · exact (h.took y hBefore hash userId scope hQuestion hReply).1 other hStill
      · rw [List.mem_singleton.mp hLast] at hNe
        exact absurd rfl hNe
  case found =>
    intro y hMem hash pageId item hQuestion hReply
    rcases List.mem_append.mp hMem with hMem | hMem
    · exact h.found y hMem hash pageId item hQuestion hReply
    · rw [List.mem_singleton.mp hMem] at hQuestion
      exact absurd hQuestion (hOther hash pageId)
  case consumed =>
    intro y hMem hash hConsumed
    rcases List.mem_append.mp hMem with hMem | hMem
    · exact h.consumed y hMem hash hConsumed
    · rw [List.mem_singleton.mp hMem] at hConsumed
      exact absurd hConsumed.1 hCommit
  case once => exact pairwise_concat h.once fun _ _ _ _ hAgain => hCommit hAgain.1

/-- A transaction commits what it took. -/
theorem consume {transaction : OpenTransaction}
    (h : SelectionsRecorded d selections transactions log)
    (hQuestion : x.question = .query .commit)
    (hFound : x.found.transactions.lookup x.process = some transaction)
    (hOpen : transactions.lookup x.process = some transaction) :
    SelectionsRecorded d (Keyed.mapValues (OAuthDatabase.consumedBy transaction) selections)
      (transactions.erase x.process) (log ++ [x]) := by
  -- a row stays under its hash, with its user, scope and items
  have hMapped : ∀ hash, (Keyed.mapValues (OAuthDatabase.consumedBy transaction) selections).lookup
      hash = (selections.lookup hash).map (OAuthDatabase.consumedBy transaction hash) :=
    fun hash => Keyed.lookup_mapValues hash
  have hStill : ∀ (i : Nat) (other : OpenTransaction),
      (transactions.erase x.process).lookup i = some other →
      i ≠ x.process ∧ transactions.lookup i = some other := by
    intro i other hOther
    by_cases hSame : i = x.process
    · rw [hSame, AList.lookup_erase] at hOther
      cases hOther
    · rw [AList.lookup_erase_ne hSame] at hOther
      exact ⟨hSame, hOther⟩
  have hTakes : ∀ hash, Consumes hash x → transaction.taken = some hash := by
    rintro hash ⟨-, -, transaction', hLookup, hTaken⟩
    rw [hFound] at hLookup
    injection hLookup with hLookup
    exact hLookup ▸ hTaken
  constructor
  case created =>
    intro hash row hRow
    rw [hMapped] at hRow
    obtain ⟨row', hBefore, rfl⟩ := Option.map_eq_some_iff.mp hRow
    exact ((h.created hash row' hBefore).of_user consumedBy_userId.symm).append
  case pending =>
    intro i other hash row hOther hInserted
    obtain ⟨-, hBefore⟩ := hStill i other hOther
    obtain ⟨hUnused, hNew, hCreated⟩ := h.pending i other hash row hBefore hInserted
    exact ⟨hUnused, by rw [hMapped, hNew]; rfl, hCreated.append⟩
  case pendingOnce =>
    intro i j first second hash row row' hFirst hSecond
    exact h.pendingOnce i j first second hash row row' (hStill i first hFirst).2
      (hStill j second hSecond).2
  case taken =>
    intro i other hash hOther hTaken
    obtain ⟨hNe, hBefore⟩ := hStill i other hOther
    obtain ⟨row, hRow, hUnused, y, hMem, hRest⟩ := h.taken i other hash hBefore hTaken
    have hOwn : transaction.taken ≠ some hash := fun hSame =>
      hNe (h.takenOnce i x.process other transaction hash hBefore hOpen hTaken hSame)
    refine ⟨row, ?_, hUnused, y, List.mem_append_left _ hMem, hRest⟩
    rw [hMapped, hRow, Option.map_some, OAuthDatabase.consumedBy, if_neg hOwn]
  case takenOnce =>
    intro i j first second hash hFirst hSecond
    exact h.takenOnce i j first second hash (hStill i first hFirst).2 (hStill j second hSecond).2
  case took =>
    intro y hMem hash userId scope hTake hRows
    rcases List.mem_append.mp hMem with hMem | hMem
    · obtain ⟨hHeld, row, hRow, hUser, hScope⟩ := h.took y hMem hash userId scope hTake hRows
      refine ⟨fun other hOther => hHeld other (hStill _ other hOther).2, _,
        by rw [hMapped, hRow]; rfl, ?_, ?_⟩
      · rw [consumedBy_userId, hUser]
      · rw [consumedBy_scope, hScope]
    · rw [List.mem_singleton.mp hMem, hQuestion] at hTake
      cases hTake
  case found =>
    intro y hMem hash pageId item hFind hRows
    rcases List.mem_append.mp hMem with hMem | hMem
    · obtain ⟨row, hRow, hItem, hPage⟩ := h.found y hMem hash pageId item hFind hRows
      refine ⟨_, by rw [hMapped, hRow]; rfl, ?_, hPage⟩
      rw [consumedBy_items]
      exact hItem
    · rw [List.mem_singleton.mp hMem, hQuestion] at hFind
      cases hFind
  case consumed =>
    intro y hMem hash hConsumed
    rcases List.mem_append.mp hMem with hMem | hMem
    · obtain ⟨row, hRow, hUsed⟩ := h.consumed y hMem hash hConsumed
      refine ⟨_, by rw [hMapped, hRow]; rfl, ?_⟩
      unfold OAuthDatabase.consumedBy
      split
      · exact Option.some_ne_none _
      · exact hUsed
    · rw [List.mem_singleton.mp hMem] at hConsumed
      have hTaken := hTakes hash hConsumed
      obtain ⟨row, hRow, -⟩ := h.taken x.process transaction hash hOpen hTaken
      refine ⟨_, by rw [hMapped, hRow]; rfl, ?_⟩
      rw [OAuthDatabase.consumedBy, if_pos hTaken]
      exact Option.some_ne_none _
  case once =>
    refine pairwise_concat h.once fun y hMem hash hConsumed hAgain => ?_
    -- the row was open when this transaction took it, and the lock has kept it so
    obtain ⟨row, hRow, hUnused, -⟩ := h.taken x.process transaction hash hOpen (hTakes hash hAgain)
    obtain ⟨row', hRow', hUsed⟩ := h.consumed y hMem hash hConsumed
    rw [hRow] at hRow'
    injection hRow' with hRow'
    exact hUsed (hRow' ▸ hUnused)

/-- A committed selection becomes visible. -/
theorem insertRow {hash : Text} {row : SelectionRow}
    (h : SelectionsRecorded d selections transactions log) (hNew : selections.lookup hash = none)
    (hCreated : Created d log hash row)
    (hFree : ∀ (i : Nat) (transaction : OpenTransaction) (row' : SelectionRow),
      transactions.lookup i = some transaction → transaction.inserted ≠ some (hash, row')) :
    SelectionsRecorded d (selections.insert hash row) transactions log := by
  have hStill : ∀ (hash' : Text) (row' : SelectionRow), selections.lookup hash' = some row' →
      (selections.insert hash row).lookup hash' = some row' := by
    intro hash' row' hRow
    have hNe : hash' ≠ hash := by
      rintro rfl
      rw [hNew] at hRow
      cases hRow
    rw [AList.lookup_insert_ne hNe, hRow]
  constructor
  case created =>
    intro hash' row' hRow
    by_cases hSame : hash' = hash
    · rw [hSame, AList.lookup_insert] at hRow
      injection hRow with hRow
      exact hSame ▸ hRow ▸ hCreated
    · rw [AList.lookup_insert_ne hSame] at hRow
      exact h.created hash' row' hRow
  case pending =>
    intro i transaction hash' row' hOpen hInserted
    obtain ⟨hUnused, hNew', hCreated'⟩ := h.pending i transaction hash' row' hOpen hInserted
    have hNe : hash' ≠ hash := by
      rintro rfl
      exact hFree i transaction row' hOpen hInserted
    exact ⟨hUnused, by rw [AList.lookup_insert_ne hNe, hNew'], hCreated'⟩
  case pendingOnce => exact h.pendingOnce
  case taken =>
    intro i transaction hash' hOpen hTaken
    obtain ⟨row', hRow, hRest⟩ := h.taken i transaction hash' hOpen hTaken
    exact ⟨row', hStill hash' row' hRow, hRest⟩
  case takenOnce => exact h.takenOnce
  case took =>
    intro y hMem hash' userId scope hTake hRows
    obtain ⟨hHeld, row', hRow, hRest⟩ := h.took y hMem hash' userId scope hTake hRows
    exact ⟨hHeld, row', hStill hash' row' hRow, hRest⟩
  case found =>
    intro y hMem hash' pageId item hFind hRows
    obtain ⟨row', hRow, hRest⟩ := h.found y hMem hash' pageId item hFind hRows
    exact ⟨row', hStill hash' row' hRow, hRest⟩
  case consumed =>
    intro y hMem hash' hConsumed
    obtain ⟨row', hRow, hUsed⟩ := h.consumed y hMem hash' hConsumed
    exact ⟨row', hStill hash' row' hRow, hUsed⟩
  case once => exact h.once

end SelectionsRecorded

end Selections

/-! ## Statement by statement -/

section Statements

variable {d : Deployment} {db after : OAuthDatabase} {process : Nat} {row : Option OAuthRow}

theorem user_eq_some {userId : Text} {id : UserId} (h : db.user d userId = some id) :
    d.uuid.parse userId = some id :=
  (Option.filter_eq_some_iff.mp h).1

theorem insertState_eq_some {state : OAuthAuthorizationState}
    (h : db.insertState d state = some after) :
    ∃ userId, d.uuid.parse state.userId = some userId ∧
      db.states.lookup state.stateHash = none ∧
      after = { db with states := db.states.insert state.stateHash ⟨userId, state.platform,
        state.callbackRoute, state.codeVerifierEncrypted, state.expiresAt, none⟩ } := by
  obtain ⟨userId, hUser, h⟩ := Option.bind_eq_some_iff.mp h
  split at h
  · rename_i hNew
    injection h with h
    exact ⟨userId, user_eq_some hUser, Option.isNone_iff_eq_none.mp hNew.1, h.symm⟩
  · cases h

theorem upsertSocialAccount_eq_some {credential : SocialAccountCredential}
    (h : db.upsertSocialAccount d credential = some (row, after)) :
    after.states = db.states ∧ after.selections = db.selections ∧
      after.transactions = db.transactions := by
  obtain ⟨userId, -, h⟩ := Option.bind_eq_some_iff.mp h
  injection h with h
  injection h with _ h
  rw [← h]
  exact ⟨rfl, rfl, rfl⟩

theorem insertSelection_eq_some {selectionHash userId : Text} {scope : List Text}
    {expiresAt : Time}
    (h : db.insertSelection d process selectionHash userId scope expiresAt = some after) :
    ∃ transaction id, db.transactions.lookup process = some transaction ∧
      d.uuid.parse userId = some id ∧ db.selections.lookup selectionHash = none ∧
      after = db.setTransaction process { transaction with
        inserted := some (selectionHash, ⟨id, scope, expiresAt, none, []⟩) } := by
  obtain ⟨transaction, hOpen, h⟩ := Option.bind_eq_some_iff.mp h
  obtain ⟨id, hUser, h⟩ := Option.bind_eq_some_iff.mp h
  split at h
  · rename_i hNew
    injection h with h
    exact ⟨transaction, id, hOpen, user_eq_some hUser, Option.isNone_iff_eq_none.mp hNew.1, h.symm⟩
  · cases h

theorem insertSelectionItem_eq_some {selectionHash : Text} {page : FacebookPageItem}
    (h : db.insertSelectionItem process selectionHash page = some after) :
    ∃ transaction hash row, db.transactions.lookup process = some transaction ∧
      transaction.inserted = some (hash, row) ∧
      after = db.setTransaction process { transaction with
        inserted := some (hash, { row with items := row.items ++ [page] }) } := by
  obtain ⟨transaction, hOpen, h⟩ := Option.bind_eq_some_iff.mp h
  obtain ⟨⟨hash, row⟩, hInserted, h⟩ := Option.bind_eq_some_iff.mp h
  dsimp only at h
  split at h
  · injection h with h
    exact ⟨transaction, hash, row, hOpen, hInserted, h.symm⟩
  · cases h

theorem matching_eq_some {transaction : OpenTransaction} {selectionHash userId : Text}
    {selection : SelectionRow}
    (h : db.matching d transaction selectionHash userId = some selection) :
    db.selections.lookup selectionHash = some selection ∧
      d.uuid.parse userId = some selection.userId ∧ selection.consumedAt = none := by
  obtain ⟨id, hUser, h⟩ := Option.bind_eq_some_iff.mp h
  obtain ⟨hLookup, hOpen⟩ := Option.filter_eq_some_iff.mp h
  obtain ⟨hOwner, hUnused, -⟩ := of_decide_eq_true hOpen
  exact ⟨hLookup, hOwner ▸ hUser, hUnused⟩

theorem takeSelection_eq_some {selectionHash userId : Text}
    (h : db.takeSelection d process selectionHash userId = some (row, after)) :
    ∃ transaction, db.transactions.lookup process = some transaction ∧
      transaction.taken = none ∧
      ((∃ selection, db.matching d transaction selectionHash userId = some selection ∧
        row = some (.selection selection.scope) ∧
        after = db.setTransaction process { transaction with taken := some selectionHash }) ∨
      row = none ∧ after = db) := by
  obtain ⟨transaction, hOpen, h⟩ := Option.bind_eq_some_iff.mp h
  obtain ⟨id, -, h⟩ := Option.bind_eq_some_iff.mp h
  split at h
  · rename_i hFree
    refine ⟨transaction, hOpen, hFree, ?_⟩
    split at h
    · rename_i selection hMatching
      injection h with h
      injection h with hRow hAfter
      exact .inl ⟨selection, hMatching, hRow.symm, hAfter.symm⟩
    · injection h with h
      injection h with hRow hAfter
      exact .inr ⟨hRow.symm, hAfter.symm⟩
  · cases h

theorem findSelectionItem_eq_some {selectionHash pageId : Text}
    (h : db.findSelectionItem process selectionHash pageId = some row) :
    row = ((db.selections.lookup selectionHash).bind fun selection =>
      selection.items.find? fun item => item.pageId = pageId).map .item := by
  obtain ⟨transaction, -, h⟩ := Option.bind_eq_some_iff.mp h
  injection h with h
  exact h.symm

theorem commit_eq_some (h : db.commit process = some after) :
    ∃ transaction, db.transactions.lookup process = some transaction ∧
      after = ((db.commitTaken transaction).commitInserted transaction).dropTransaction process := by
  obtain ⟨transaction, hOpen, h⟩ := Option.bind_eq_some_iff.mp h
  injection h with h
  exact ⟨transaction, hOpen, h.symm⟩

/-- No other transaction has the property. -/
theorem anyOther_eq_false {p : OpenTransaction → Bool} (h : db.anyOther process p = false)
    {j : Nat} {transaction : OpenTransaction} (hOther : j ≠ process)
    (hOpen : db.transactions.lookup j = some transaction) : p transaction = false := by
  rw [OAuthDatabase.anyOther, List.any_eq_false] at h
  have hEntry := h ⟨j, transaction⟩ (AList.mem_lookup_iff.mp hOpen)
  cases hHas : p transaction with
  | false => rfl
  | true => exact absurd (decide_eq_true ⟨hOther, hHas⟩) hEntry

/-- Only a COMMIT writes to `facebook_page_selections`. -/
theorem execute_selections {statement : OAuthStatement}
    (h : db.execute d process statement = some (row, after)) (hOther : statement ≠ .commit) :
    after.selections = db.selections := by
  cases statement with
  | insertUser userId =>
    obtain ⟨id, -, hAfter⟩ := Option.map_eq_some_iff.mp h
    injection hAfter with _ hAfter
    rw [← hAfter]
  | insertState state =>
    obtain ⟨after', hInsert, hAfter⟩ := Option.map_eq_some_iff.mp h
    injection hAfter with _ hAfter
    obtain ⟨userId, -, -, hWritten⟩ := insertState_eq_some hInsert
    rw [← hAfter, hWritten]
  | consumeState stateHash =>
    dsimp only [OAuthDatabase.execute, OAuthDatabase.consumeState] at h
    split at h
    · injection h with h
      injection h with _ hAfter
      rw [← hAfter]
    · injection h with h
      injection h with _ hAfter
      rw [← hAfter]
  | upsertSocialAccount credential => exact (upsertSocialAccount_eq_some h).2.1
  | insertAuditLog =>
    obtain ⟨id, -, hAfter⟩ := Option.map_eq_some_iff.mp h
    injection hAfter with _ hAfter
    rw [← hAfter]
  | begin =>
    dsimp only [OAuthDatabase.execute] at h
    injection h with h
    injection h with _ hAfter
    rw [← hAfter]
    split <;> rfl
  | commit => exact absurd rfl hOther
  | rollback =>
    injection h with h
    injection h with _ hAfter
    rw [← hAfter]
    rfl
  | insertSelection =>
    obtain ⟨after', hInsert, hAfter⟩ := Option.map_eq_some_iff.mp h
    injection hAfter with _ hAfter
    obtain ⟨transaction, id, -, -, -, hWritten⟩ := insertSelection_eq_some hInsert
    rw [← hAfter, hWritten]
    rfl
  | insertSelectionItem =>
    obtain ⟨after', hInsert, hAfter⟩ := Option.map_eq_some_iff.mp h
    injection hAfter with _ hAfter
    obtain ⟨transaction, hash, pending, -, -, hWritten⟩ := insertSelectionItem_eq_some hInsert
    rw [← hAfter, hWritten]
    rfl
  | takeSelection =>
    obtain ⟨transaction, -, -, ⟨selection, -, -, hAfter⟩ | ⟨-, hAfter⟩⟩ := takeSelection_eq_some h
    · rw [hAfter]
      rfl
    · rw [hAfter]
  | findSelectionItem =>
    obtain ⟨row', -, hAfter⟩ := Option.map_eq_some_iff.mp h
    injection hAfter with _ hAfter
    rw [← hAfter]

end Statements

/-! ## Both tables -/

structure TablesRecorded (d : Deployment) (db : OAuthDatabase) (log : List OAuthExchange) :
    Prop where
  states : StatesRecorded d db.states log
  selections : SelectionsRecorded d db.selections db.transactions log

namespace TablesRecorded

variable {d : Deployment} {after : OAuthDatabase} {log : List OAuthExchange} {x : OAuthExchange}
  {row : Option OAuthRow}

/-- An exchange that gives nothing out and changes no row. -/
theorem keep (h : TablesRecorded d x.found log) (hStates : after.states = x.found.states)
    (hSelections : after.selections = x.found.selections)
    (hTransactions : after.transactions = x.found.transactions)
    (hTook : ∀ stateHash, ¬ TookState stateHash x)
    (hTaken : ∀ hash userId, x.question = .query (.takeSelection hash userId) →
      ∀ scope, x.reply.rows ≠ .ok (some (.selection scope)))
    (hFound : ∀ hash pageId item, x.question = .query (.findSelectionItem hash pageId) →
      x.reply.rows = .ok (some (.item item)) →
      ∃ row, x.found.selections.lookup hash = some row ∧ item ∈ row.items ∧ item.pageId = pageId)
    (hConsumes : ∀ hash, ¬ Consumes hash x) : TablesRecorded d after (log ++ [x]) := by
  refine ⟨?_, ?_⟩
  · rw [hStates]
    exact h.states.keep hTook
  · rw [hSelections, hTransactions]
    exact h.selections.keep hTaken hFound hConsumes

/-- The question is none whose reply gives something out. -/
def IsPlain : OAuthStatement → Prop
  | .consumeState _ | .takeSelection _ _ | .findSelectionItem _ _ | .commit => False
  | _ => True

theorem states_keep {statement : OAuthStatement} (h : TablesRecorded d x.found log)
    (hQuestion : x.question = .query statement)
    (hOther : ∀ stateHash, statement ≠ .consumeState stateHash) :
    StatesRecorded d x.found.states (log ++ [x]) := by
  refine h.states.keep fun stateHash hTook => ?_
  rw [TookState, hQuestion] at hTook
  injection hTook.1 with hStatement
  exact hOther stateHash hStatement

theorem keep_plain {statement : OAuthStatement} (h : TablesRecorded d x.found log)
    (hQuestion : x.question = .query statement) (hPlain : IsPlain statement)
    (hStates : after.states = x.found.states) (hSelections : after.selections = x.found.selections)
    (hTransactions : after.transactions = x.found.transactions) :
    TablesRecorded d after (log ++ [x]) := by
  refine h.keep hStates hSelections hTransactions ?_ ?_ ?_ ?_
  · intro stateHash hTook
    rw [TookState, hQuestion] at hTook
    injection hTook.1 with hStatement
    exact (hStatement ▸ hPlain : IsPlain (.consumeState stateHash))
  · intro hash userId hTake
    rw [hQuestion] at hTake
    injection hTake with hStatement
    exact ((hStatement ▸ hPlain : IsPlain (.takeSelection hash userId))).elim
  · intro hash pageId item hFind
    rw [hQuestion] at hFind
    injection hFind with hStatement
    exact ((hStatement ▸ hPlain : IsPlain (.findSelectionItem hash pageId))).elim
  · intro hash hConsumes
    rw [Consumes, hQuestion] at hConsumes
    injection hConsumes.1 with hStatement
    exact (hStatement ▸ hPlain : IsPlain .commit)

/-- A state that the UPDATE returns was open, and is consumed now. -/
theorem consumeState {stateHash : Text} (h : TablesRecorded d x.found log)
    (hX : Executes d x (.consumeState stateHash) row after) :
    TablesRecorded d after (log ++ [x]) := by
  have hResult := hX.result
  dsimp only [OAuthDatabase.execute, OAuthDatabase.consumeState] at hResult
  split at hResult
  · rename_i state hState
    obtain ⟨hLookup, hOpen⟩ := Option.filter_eq_some_iff.mp hState
    injection hResult with hResult
    injection hResult with hRow hAfter
    rw [← hAfter]
    have hReply := hX.reply
    rw [← hRow] at hReply
    refine ⟨h.states.consume hLookup (of_decide_eq_true hOpen) hX.question hReply, ?_⟩
    refine h.selections.keep ?_ ?_ ?_
    · intro hash userId hTake
      rw [hX.question] at hTake
      cases hTake
    · intro hash pageId item hFind
      rw [hX.question] at hFind
      cases hFind
    · intro hash hConsumes
      rw [Consumes, hX.question] at hConsumes
      cases hConsumes.1
  · injection hResult with hResult
    injection hResult with hRow hAfter
    rw [← hAfter]
    refine h.keep rfl rfl rfl ?_ ?_ ?_ ?_
    · rintro hash ⟨-, state, hState⟩
      rcases hX.reply with hReply | ⟨error, hReply⟩
      · rw [hReply, ← hRow] at hState
        cases hState
      · rw [hReply] at hState
        cases hState
    · intro hash userId hTake
      rw [hX.question] at hTake
      cases hTake
    · intro hash pageId item hFind
      rw [hX.question] at hFind
      cases hFind
    · intro hash hConsumes
      rw [Consumes, hX.question] at hConsumes
      cases hConsumes.1

theorem insertState {state : OAuthAuthorizationState} (h : TablesRecorded d x.found log)
    (hX : Executes d x (.insertState state) row after) : TablesRecorded d after (log ++ [x]) := by
  obtain ⟨after', hInsert, hAfter⟩ := Option.map_eq_some_iff.mp hX.result
  injection hAfter with _ hAfter
  obtain ⟨userId, hUser, hNew, hWritten⟩ := insertState_eq_some hInsert
  rw [← hAfter, hWritten]
  have hPlain := h.keep_plain hX.question trivial rfl rfl rfl
  exact ⟨h.states.insert hNew ⟨hX.question, hX.executed, hUser, rfl, rfl, rfl, rfl⟩,
    hPlain.selections⟩

/-- A transaction that is open goes on with what it has taken so far. -/
theorem setOpen {statement : OAuthStatement} {transaction next : OpenTransaction}
    (h : TablesRecorded d x.found log) (hX : Executes d x statement row after)
    (hPlain : IsPlain statement) (hOpen : x.found.transactions.lookup x.process = some transaction)
    (hAfter : after = x.found.setTransaction x.process next)
    (hTaken : next.taken = transaction.taken)
    (hInserted : ∀ hash row, next.inserted = some (hash, row) →
      row.consumedAt = none ∧ x.found.selections.lookup hash = none ∧
        Created d (log ++ [x]) hash row ∧
      ∀ j other row', j ≠ x.process → x.found.transactions.lookup j = some other →
        other.inserted ≠ some (hash, row')) : TablesRecorded d after (log ++ [x]) := by
  have hKept := h.keep_plain hX.question hPlain rfl rfl rfl
  have hNotTake : ∀ hash userId, x.question ≠ .query (.takeSelection hash userId) := by
    intro hash userId hTake
    rw [hX.question] at hTake
    injection hTake with hStatement
    exact (hStatement ▸ hPlain : IsPlain (.takeSelection hash userId))
  rw [hAfter]
  refine ⟨hKept.states, h.selections.set hInserted ?_ ?_ ?_ ?_ ?_⟩
  · intro hash hHash
    rw [hTaken] at hHash
    refine ⟨hKept.selections.taken x.process transaction hash hOpen hHash, ?_⟩
    intro j other hOther hLookup hSame
    exact hOther (h.selections.takenOnce j x.process other transaction hash hLookup hOpen hSame
      hHash)
  · intro y hMem hProcess hash userId scope hTake hReply
    rcases List.mem_append.mp hMem with hMem | hMem
    · rw [hTaken]
      exact (h.selections.took y hMem hash userId scope hTake hReply).1 transaction
        (hProcess ▸ hOpen)
    · rw [List.mem_singleton.mp hMem] at hTake
      exact absurd hTake (hNotTake hash userId)
  · exact fun hash userId scope hTake => absurd hTake (hNotTake hash userId)
  · intro hash pageId hFind
    rw [hX.question] at hFind
    injection hFind with hStatement
    exact (hStatement ▸ hPlain : IsPlain (.findSelectionItem hash pageId))
  · intro hCommit
    rw [hX.question] at hCommit
    injection hCommit with hStatement
    exact (hStatement ▸ hPlain : IsPlain .commit)

theorem insertSelection {selectionHash userId : Text} {scope : List Text} {expiresAt : Time}
    (h : TablesRecorded d x.found log)
    (hX : Executes d x (.insertSelection selectionHash userId scope expiresAt) row after) :
    TablesRecorded d after (log ++ [x]) := by
  obtain ⟨after', hInsert, hAfter⟩ := Option.map_eq_some_iff.mp hX.result
  injection hAfter with _ hAfter
  rw [hAfter] at hInsert
  obtain ⟨transaction, id, hOpen, hUser, hNew, hWritten⟩ := insertSelection_eq_some hInsert
  have hPlain : IsPlain (.insertSelection selectionHash userId scope expiresAt) := trivial
  refine h.setOpen hX hPlain hOpen hWritten rfl fun hash row' hRow => ?_
  injection hRow with hRow
  injection hRow with hHash hRow
  rw [← hHash, ← hRow]
  refine ⟨rfl, hNew, ⟨x, by simp, userId, scope, expiresAt, hX.question, hX.executed, hUser⟩, ?_⟩
  intro j other row'' hOther hLookup hInserted
  have hWaits : x.found.anyOther x.process (fun transaction =>
      transaction.inserted.any fun e => e.1 = selectionHash) = false := hX.waits
  have hNone := anyOther_eq_false hWaits hOther hLookup
  rw [hInserted, Option.any_some] at hNone
  exact absurd rfl (of_decide_eq_false hNone)

theorem insertSelectionItem {selectionHash : Text} {page : FacebookPageItem}
    (h : TablesRecorded d x.found log)
    (hX : Executes d x (.insertSelectionItem selectionHash page) row after) :
    TablesRecorded d after (log ++ [x]) := by
  obtain ⟨after', hInsert, hAfter⟩ := Option.map_eq_some_iff.mp hX.result
  injection hAfter with _ hAfter
  rw [hAfter] at hInsert
  obtain ⟨transaction, hash, pending, hOpen, hInserted, hWritten⟩ :=
    insertSelectionItem_eq_some hInsert
  have hPlain : IsPlain (.insertSelectionItem selectionHash page) := trivial
  refine h.setOpen hX hPlain hOpen hWritten rfl fun hash' row' hRow => ?_
  injection hRow with hRow
  injection hRow with hHash hRow
  obtain ⟨hUnused, hNew, hCreated⟩ := h.selections.pending x.process transaction hash pending hOpen
    hInserted
  rw [← hHash, ← hRow]
  refine ⟨hUnused, hNew, (hCreated.of_user rfl).append, ?_⟩
  intro j other row'' hOther hLookup hSame
  exact hOther (h.selections.pendingOnce j x.process other transaction hash row'' pending hLookup
    hOpen hSame hInserted)

/-- A transaction begins in a process that has taken nothing yet. -/
theorem start (h : TablesRecorded d x.found log) (hX : Executes d x .begin row after)
    (hNone : ∀ y ∈ log, y.process = x.process → ¬ y.question.IsTake) :
    TablesRecorded d after (log ++ [x]) := by
  have hResult := hX.result
  dsimp only [OAuthDatabase.execute] at hResult
  injection hResult with hResult
  injection hResult with _ hAfter
  split at hAfter
  · rw [← hAfter]
    exact h.keep_plain hX.question trivial rfl rfl rfl
  · rw [← hAfter]
    have hKept := h.keep_plain hX.question trivial rfl rfl rfl
    refine ⟨hKept.states, h.selections.set nofun nofun ?_ ?_ ?_ ?_⟩
    · intro y hMem hProcess hash userId scope hTake
      rcases List.mem_append.mp hMem with hMem | hMem
      · have hNotTake := hNone y hMem hProcess
        rw [hTake] at hNotTake
        exact absurd trivial hNotTake
      · rw [List.mem_singleton.mp hMem, hX.question] at hTake
        cases hTake
    · intro hash userId scope hTake
      rw [hX.question] at hTake
      cases hTake
    · intro hash pageId hFind
      rw [hX.question] at hFind
      cases hFind
    · intro hCommit
      rw [hX.question] at hCommit
      cases hCommit

/-- A selection that the UPDATE returns belongs to the user, and is locked by this transaction. -/
theorem takeSelection {selectionHash userId : Text} (h : TablesRecorded d x.found log)
    (hX : Executes d x (.takeSelection selectionHash userId) row after) :
    TablesRecorded d after (log ++ [x]) := by
  obtain ⟨transaction, hOpen, hFree, hCases⟩ := takeSelection_eq_some hX.result
  have hSame : ∀ hash user, x.question = .query (.takeSelection hash user) →
      selectionHash = hash ∧ userId = user := by
    intro hash user hTake
    rw [hX.question] at hTake
    injection hTake with hTake
    injection hTake with hHash hUser
    exact ⟨hHash, hUser⟩
  have hOtherFind : ∀ hash pageId, x.question ≠ .query (.findSelectionItem hash pageId) := by
    intro hash pageId hFind
    rw [hX.question] at hFind
    cases hFind
  have hOtherCommit : x.question ≠ .query .commit := by
    intro hCommit
    rw [hX.question] at hCommit
    cases hCommit
  rcases hCases with ⟨selection, hMatching, rfl, rfl⟩ | ⟨rfl, rfl⟩
  · obtain ⟨hLookup, hUser, hUnused⟩ := matching_eq_some hMatching
    refine ⟨h.states_keep hX.question nofun, h.selections.set ?_ ?_ ?_ ?_ hOtherFind hOtherCommit⟩
    · intro hash pending hInserted
      obtain ⟨hPending, hNew, hCreated⟩ := h.selections.pending x.process transaction hash pending
        hOpen hInserted
      refine ⟨hPending, hNew, hCreated.append, fun j other row' hOther hOpen' hInserted' => ?_⟩
      exact hOther (h.selections.pendingOnce j x.process other transaction hash row' pending hOpen'
        hOpen hInserted' hInserted)
    · intro hash hTaken
      injection hTaken with hTaken
      rw [← hTaken]
      refine ⟨⟨selection, hLookup, hUnused, x, by simp, rfl, userId, hX.question, hUser⟩, ?_⟩
      intro j other hOther hOpen' hTaken'
      -- the row was matched, so that the UPDATE would have waited
      have hWaits := hX.waits
      dsimp only [OAuthDatabase.waits] at hWaits
      rw [hOpen, Option.bind_some, hMatching] at hWaits
      have hNone : x.found.anyOther x.process (fun other => other.taken = some selectionHash) =
          false := by
        simpa using hWaits
      exact absurd hTaken' (of_decide_eq_false (anyOther_eq_false hNone hOther hOpen'))
    · intro y hMem hProcess hash user scope hTake hReply
      rcases List.mem_append.mp hMem with hMem | hMem
      · -- nothing was taken in the transaction so far
        have hHeld := (h.selections.took y hMem hash user scope hTake hReply).1 transaction
          (hProcess ▸ hOpen)
        rw [hFree] at hHeld
        cases hHeld
      · rw [List.mem_singleton.mp hMem] at hTake
        rw [(hSame hash user hTake).1]
    · intro hash user scope hTake hReply
      obtain ⟨rfl, rfl⟩ := hSame hash user hTake
      refine ⟨selection, hLookup, hUser, ?_⟩
      rcases hX.reply with hRow | ⟨error, hRow⟩
      · rw [hRow] at hReply
        injection hReply with hReply
        injection hReply with hReply
        injection hReply
      · rw [hRow] at hReply
        cases hReply
  · refine h.keep rfl rfl rfl ?_ ?_ ?_ fun hash hConsumes => hOtherCommit hConsumes.1
    · intro stateHash hTook
      rw [TookState, hX.question] at hTook
      cases hTook.1
    · intro hash user _ scope hReply
      rcases hX.reply with hRow | ⟨error, hRow⟩
      · rw [hRow] at hReply
        cases hReply
      · rw [hRow] at hReply
        cases hReply
    · exact fun hash pageId item hFind => absurd hFind (hOtherFind hash pageId)

/-- An item that the SELECT returns is one of the selection with that hash. -/
theorem findSelectionItem {selectionHash pageId : Text} (h : TablesRecorded d x.found log)
    (hX : Executes d x (.findSelectionItem selectionHash pageId) row after) :
    TablesRecorded d after (log ++ [x]) := by
  obtain ⟨row', hFind, hAfter⟩ := Option.map_eq_some_iff.mp hX.result
  injection hAfter with hRow hAfter
  rw [← hAfter]
  refine h.keep rfl rfl rfl ?_ ?_ ?_ ?_
  · intro stateHash hTook
    rw [TookState, hX.question] at hTook
    cases hTook.1
  · intro hash user hTake
    rw [hX.question] at hTake
    cases hTake
  · intro hash page item hQuestion hReply
    rw [hX.question] at hQuestion
    injection hQuestion with hQuestion
    injection hQuestion with hHash hPage
    rw [← hHash, ← hPage]
    rcases hX.reply with hRows | ⟨error, hRows⟩
    · rw [hRows] at hReply
      injection hReply with hReply
      rw [hReply] at hRow
      rw [findSelectionItem_eq_some hFind] at hRow
      obtain ⟨item', hItem, hSame⟩ := Option.map_eq_some_iff.mp hRow
      injection hSame with hSame
      obtain ⟨selection, hLookup, hFound⟩ := Option.bind_eq_some_iff.mp hItem
      rw [← hSame]
      have hPageId := List.find?_some hFound
      exact ⟨selection, hLookup, List.mem_of_find?_eq_some hFound, of_decide_eq_true hPageId⟩
    · rw [hRows] at hReply
      cases hReply
  · intro hash hConsumes
    rw [Consumes, hX.question] at hConsumes
    cases hConsumes.1

theorem commit (h : TablesRecorded d x.found log) (hX : Executes d x .commit row after) :
    TablesRecorded d after (log ++ [x]) := by
  obtain ⟨after', hCommit, hAfter⟩ := Option.map_eq_some_iff.mp hX.result
  injection hAfter with _ hAfter
  obtain ⟨transaction, hOpen, hWritten⟩ := commit_eq_some hCommit
  rw [← hAfter, hWritten]
  have hConsumed := h.selections.consume hX.question hOpen hOpen
  have hStates := h.states_keep hX.question nofun
  unfold OAuthDatabase.commitInserted
  cases hInserted : transaction.inserted with
  | none => exact ⟨hStates, hConsumed⟩
  | some entry =>
    obtain ⟨hash, pending⟩ := entry
    obtain ⟨-, hNew, hCreated⟩ := h.selections.pending x.process transaction hash pending hOpen
      hInserted
    refine ⟨hStates, hConsumed.insertRow ?_ hCreated.append ?_⟩
    · rw [Keyed.lookup_mapValues, hNew]
      rfl
    · intro i other row' hOther hSame
      have hNe : i ≠ x.process := by
        rintro rfl
        rw [AList.lookup_erase] at hOther
        cases hOther
      rw [AList.lookup_erase_ne hNe] at hOther
      exact hNe (h.selections.pendingOnce i x.process other transaction hash row' pending hOther
        hOpen hSame hInserted)

theorem rollback (h : TablesRecorded d x.found log) (hX : Executes d x .rollback row after) :
    TablesRecorded d after (log ++ [x]) := by
  have hResult := hX.result
  injection hResult with hResult
  injection hResult with _ hAfter
  have hKept := h.keep_plain hX.question trivial rfl rfl rfl
  rw [← hAfter]
  exact ⟨hKept.states, hKept.selections.drop x.process⟩

theorem executes {statement : OAuthStatement} (h : TablesRecorded d x.found log)
    (hX : Executes d x statement row after)
    (hNone : statement = .begin → ∀ y ∈ log, y.process = x.process → ¬ y.question.IsTake) :
    TablesRecorded d after (log ++ [x]) := by
  cases statement with
  | insertUser userId =>
    obtain ⟨id, -, hAfter⟩ := Option.map_eq_some_iff.mp hX.result
    injection hAfter with _ hAfter
    rw [← hAfter]
    exact h.keep_plain hX.question trivial rfl rfl rfl
  | insertState state => exact h.insertState hX
  | consumeState stateHash => exact h.consumeState hX
  | upsertSocialAccount credential =>
    obtain ⟨hStates, hSelections, hTransactions⟩ := upsertSocialAccount_eq_some hX.result
    exact h.keep_plain hX.question trivial hStates hSelections hTransactions
  | insertAuditLog =>
    obtain ⟨id, -, hAfter⟩ := Option.map_eq_some_iff.mp hX.result
    injection hAfter with _ hAfter
    rw [← hAfter]
    exact h.keep_plain hX.question trivial rfl rfl rfl
  | begin => exact h.start hX (hNone rfl)
  | commit => exact h.commit hX
  | rollback => exact h.rollback hX
  | insertSelection => exact h.insertSelection hX
  | insertSelectionItem => exact h.insertSelectionItem hX
  | takeSelection => exact h.takeSelection hX
  | findSelectionItem => exact h.findSelectionItem hX

/-- Without a statement that was executed nothing changes. -/
theorem idle (h : TablesRecorded d x.found log)
    (hNone : ∀ statement, x.question = .query statement →
      x.world.executed = false ∧ ∃ error, x.reply.rows = .error error) :
    TablesRecorded d x.found (log ++ [x]) := by
  refine h.keep rfl rfl rfl ?_ ?_ ?_ ?_
  · rintro stateHash ⟨hQuestion, state, hReply⟩
    obtain ⟨-, error, hError⟩ := hNone _ hQuestion
    rw [hError] at hReply
    cases hReply
  · intro hash userId hQuestion scope hReply
    obtain ⟨-, error, hError⟩ := hNone _ hQuestion
    rw [hError] at hReply
    cases hReply
  · intro hash pageId item hQuestion hReply
    obtain ⟨-, error, hError⟩ := hNone _ hQuestion
    rw [hError] at hReply
    cases hReply
  · rintro hash ⟨hQuestion, hExecuted, -⟩
    rw [(hNone _ hQuestion).1] at hExecuted
    cases hExecuted

end TablesRecorded

/-! ## Every run -/

section Runs

variable {d : Deployment} {s : OAuthSystemState} {log : List OAuthExchange} {x : OAuthExchange}

/-- Only a page selection takes one, with the arguments of its call. -/
theorem take_call (h : Conducted (OAuthCall.permits d) s log) (hMem : x ∈ log)
    (hTake : x.question.IsTake) :
    ∃ userId selectionId pageId platform,
      x.call = .selectFacebookPage userId selectionId pageId platform ∧
      x.question = .query (.takeSelection (d.hashState selectionId) userId) := by
  obtain ⟨before, after, rfl⟩ := List.append_of_mem hMem
  have hPermitted := h.asked before x after rfl
  obtain ⟨process, call, question, world, reply, found⟩ := x
  unfold OAuthRequest.IsTake at hTake
  split at hTake
  · rename_i hash user hQuestion
    dsimp only at hQuestion hPermitted
    subst hQuestion
    cases call with
    | beginAuthorization => exact hPermitted.elim
    | completeCallback => exact hPermitted.elim
    | selectFacebookPage userId selectionId pageId platform =>
      obtain ⟨rfl, rfl⟩ := hPermitted
      exact ⟨_, _, _, _, rfl, rfl⟩
  · exact hTake.elim

/-- **The tables after a run.** -/
theorem recorded_tables (h : LTS.Reachable (oauthSystem d) LTS.anyStep (s, log)) :
    TablesRecorded d s.shared log := by
  refine Processes.holds (I := TablesRecorded d) (fun call => OAuthCall.obeys call) ?_ ?_ ?_ h
  · rintro db ⟨hStates, hSelections, hTransactions⟩
    constructor
    · rw [hStates]
      exact ⟨nofun, List.forall_mem_nil _, List.Pairwise.nil⟩
    · rw [hSelections, hTransactions]
      exact ⟨nofun, nofun, nofun, nofun, nofun, List.forall_mem_nil _, List.forall_mem_nil _,
        List.forall_mem_nil _, List.Pairwise.nil⟩
  · intro db log own db' hRecorded hOwn
    cases own with
    | tick now =>
      unfold oauthMachine OAuthDatabase.own at hOwn
      dsimp only at hOwn
      split at hOwn
      · injection hOwn with hOwn
        exact hOwn ▸ ⟨hRecorded.states, hRecorded.selections⟩
      · cases hOwn
    | disconnect process =>
      injection hOwn with hOwn
      exact hOwn ▸ ⟨hRecorded.states, hRecorded.selections.drop process⟩
  · intro s log x after hReach hRecorded hFound hPermitted hCalls hAnswer
    rw [← hFound] at hRecorded hAnswer
    rcases answer_cases hAnswer with ⟨statement, row, hX⟩ | ⟨rfl, hNone⟩
    · refine hRecorded.executes hX fun hBegin y hMem hSame hTake => ?_
      -- a transaction begins before the selection is taken
      obtain ⟨userId, selectionId, pageId, platform, hCall, -⟩ :=
        take_call (Processes.conducted (fun call => OAuthCall.obeys call) hReach) hMem hTake
      rw [← hCalls y hMem hSame, hCall, hX.question, hBegin] at hPermitted
      exact hPermitted _ (hSame ▸ mem_history_of_mem hMem) hTake
    · exact hRecorded.idle hNone

end Runs

end SocialPromotion.OAuth
