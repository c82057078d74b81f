import SocialPromotion.Lib.UuidText
import SocialPromotion.Sending.Requests
import SocialPromotion.Steps.OAuthTables

/-!
# An authorization is used once, by its user

A state is consumed by one UPDATE before its code is exchanged, and a page selection by one COMMIT
before its account is stored. The expiry is checked when the state is consumed, so that a slow reply
of the database can let it pass before the exchange.

* `Uses`: the callback that consumed the state of an authorization, before its expiry;
* `SingleUse`: what the record of a run says of exchanges, accounts and selections;
* `authorizations_single_use`: it holds of every run;
* `code_exchanged_late`: a code that is exchanged after the expiry of its state.
-/

namespace SocialPromotion.OAuth

open LTS Processes UuidText

/-- What a call of `beginAuthorization` has. -/
structure Authorization where
  userId : Text
  platform : OAuthPlatform
  draws : Draws

/-- The hash of the state that a callback was sent. -/
def stateHashOf (d : Deployment) (x : OAuthExchange) : Option Text :=
  match x.call with
  | .completeCallback _ query _ => (given query.state).map d.hashState
  | _ => none

/-- The hash of the id that a page selection was sent. -/
def selectionHashOf (d : Deployment) (x : OAuthExchange) : Option Text :=
  match x.call with
  | .selectFacebookPage _ selectionId _ _ => some (d.hashState selectionId)
  | _ => none

/-- Two texts name one user. -/
def SameUser (d : Deployment) (userId userId' : Text) : Prop :=
  ∃ id, d.uuid.parse userId = some id ∧ d.uuid.parse userId' = some id

/-- The callback of an exchange is one on the route of an authorization, and has taken the state
that the authorization put in, before its expiry: its UPDATE returned the row. -/
def Uses (d : Deployment) (log : List OAuthExchange) (x : OAuthExchange) (a : Authorization) :
    Prop :=
  (∃ query draws, x.call = .completeCallback a.platform.callbackRoute query draws) ∧
  stateHashOf d x = some (d.hashState a.draws.token) ∧
  ∃ state, state.stateHash = d.hashState a.draws.token ∧
    (∃ y ∈ log, y.call = .beginAuthorization a.userId a.platform a.draws ∧
      y.question = .query (.insertState state) ∧ y.world.executed = true) ∧
    ∃ y ∈ log, y.process = x.process ∧ TookState state.stateHash y ∧
      y.found.now < state.expiresAt

/-- The authorization that an exchange stores an account for: that of its callback, or that of the
callback that put in its page selection. -/
def Origin (d : Deployment) (log : List OAuthExchange) (x : OAuthExchange) (a : Authorization) :
    Prop :=
  Uses d log x a ∨ ∃ y ∈ log, ∃ selectionHash userId scope expiresAt,
    selectionHashOf d x = some selectionHash ∧
    y.question = .query (.insertSelection selectionHash userId scope expiresAt) ∧
    y.world.executed = true ∧ Uses d log y a

structure SingleUse (d : Deployment) (log : List OAuthExchange) : Prop where
  /-- A code is exchanged for a state that no code was exchanged for, after its consumption by this
  callback before its expiry, on its route and with its verifier. -/
  exchanged : ∀ before x after request, log = before ++ x :: after →
    x.question = .exchangeCode request →
    (∀ y ∈ before, y.question.IsExchange → stateHashOf d y ≠ stateHashOf d x) ∧
    ∃ a, Uses d before x a ∧ request.platform = a.platform ∧
      request.body.lookup "code_verifier" = some a.draws.codeVerifier
  /-- An account is stored for the user who began the authorization. -/
  connected : ∀ before x after credential, log = before ++ x :: after →
    x.question = .query (.upsertSocialAccount credential) →
    ∃ a, Origin d before x a ∧ SameUser d credential.userId a.userId
  /-- So is a page selection. -/
  offered : ∀ before x after selectionHash userId scope expiresAt, log = before ++ x :: after →
    x.question = .query (.insertSelection selectionHash userId scope expiresAt) →
    ∃ a, Uses d before x a ∧ SameUser d userId a.userId
  /-- A page selection saves an account where it has saved none, for its user and for one of its
  pages. -/
  saved : ∀ before x after credential userId selectionId pageId platform,
    log = before ++ x :: after → x.question = .query (.upsertSocialAccount credential) →
    x.call = .selectFacebookPage userId selectionId pageId platform →
    (∀ y ∈ before, y.question.IsUpsert → selectionHashOf d y ≠ selectionHashOf d x) ∧
    ∃ row, x.found.selections.lookup (d.hashState selectionId) = some row ∧
      d.uuid.parse credential.userId = some row.userId ∧
      ∃ item ∈ row.items, item.pageId = pageId ∧
        credential.accessTokenEncrypted = item.pageAccessTokenEncrypted ∧
        (platform = .facebook → credential.platformAccountId = pageId)
  /-- Under a call with another user or a page that is not listed, a selection stays as it is. -/
  refused : ∀ x ∈ log, ∀ userId selectionId pageId platform row reply after,
    x.call = .selectFacebookPage userId selectionId pageId platform →
    x.found.selections.lookup (d.hashState selectionId) = some row →
    (d.uuid.parse userId ≠ some row.userId ∨ ∀ item ∈ row.items, item.pageId ≠ pageId) →
    x.found.answer d x.process x.question x.world = some (reply, after) →
    after.selections.lookup (d.hashState selectionId) = some row

/-! ## A state and its authorization -/

section Uses

variable {d : Deployment} {s : OAuthSystemState} {log : List OAuthExchange} {x : OAuthExchange}

/-- An insertion of a state is that of a `beginAuthorization`. -/
theorem insertState_call (h : Conducted (OAuthCall.permits d) s log) (hMem : x ∈ log)
    {state : OAuthAuthorizationState} (hQuestion : x.question = .query (.insertState state)) :
    ∃ a : Authorization, x.call = .beginAuthorization a.userId a.platform a.draws ∧
      OAuthCall.beginPermits d a.userId a.platform a.draws (.query (.insertState state)) := by
  obtain ⟨before, after, rfl⟩ := List.append_of_mem hMem
  have hPermitted := h.asked before x after rfl
  dsimp only at hPermitted
  rw [hQuestion] at hPermitted
  cases hCall : x.call with
  | beginAuthorization userId platform draws =>
    rw [hCall] at hPermitted
    exact ⟨⟨userId, platform, draws⟩, rfl, hPermitted⟩
  | completeCallback =>
    rw [hCall] at hPermitted
    exact hPermitted.elim
  | selectFacebookPage =>
    rw [hCall] at hPermitted
    exact hPermitted.elim

/-- What is decrypted is what was encrypted. -/
theorem decrypt_encrypt {iv : InitialisationVector} {plaintext encrypted decrypted : Text}
    (hEncrypt : TokenService.encrypt d.cipher d.surroundings iv plaintext = .ok encrypted)
    (hDecrypt : OauthService.decrypt d encrypted = .ok decrypted) : decrypted = plaintext := by
  unfold TokenService.encrypt at hEncrypt
  split at hEncrypt
  · cases hEncrypt
  · rename_i hText
    obtain ⟨version, hVersion, hEncrypt⟩ := Keyed.bind_eq_ok.mp hEncrypt
    obtain ⟨key, hKey, hEncrypt⟩ := Keyed.bind_eq_ok.mp hEncrypt
    injection hEncrypt with hEncrypt
    have hNonempty : plaintext ≠ [] := fun hNil => hText (by rw [hNil]; rfl)
    have hRead := decrypt_payload d.cipher iv
      (keyVersion_valid hVersion) hKey hNonempty
    have hSame : OauthService.decrypt d encrypted =
        if (Utf8.encode plaintext).length ≤ 12288 then .ok plaintext
        else .error (.typeError "Unsupported encrypted secret payload.") := by
      rw [← hEncrypt]
      exact hRead
    rw [hDecrypt] at hSame
    split at hSame
    · injection hSame
    · cases hSame

/-- A granted state is one that an authorization put in, and that its callback has consumed. -/
theorem uses_of_granted (hConducted : Conducted (OAuthCall.permits d) s log)
    (hTables : StatesRecorded d s.shared.states log)
    {callbackRoute : OAuthCallbackRoute} {query : CallbackQuery} {draws : Draws}
    {state : OAuthAuthorizationState} (hCall : x.call = .completeCallback callbackRoute query draws)
    (hGranted : Granted d callbackRoute query (history x.process log) state) :
    ∃ a : Authorization, Uses d log x a ∧ SameUser d state.userId a.userId ∧
      state.platform = a.platform ∧ TokenService.encrypt d.cipher d.surroundings (a.draws.iv 0)
        a.draws.codeVerifier = .ok state.codeVerifierEncrypted := by
  obtain ⟨hRoute, queryState, reply, hQuery, hMem, hRows⟩ := hGranted
  obtain ⟨y, hY, hProcess, hExchange⟩ := mem_history.mp hMem
  injection hExchange with hConsume hReply
  rw [← hReply] at hRows
  obtain ⟨row, hRow, hState, -, hExpiry⟩ := hTables.consumed y hY _ state hConsume hRows
  obtain ⟨z, hZ, inserted, hInserted, hHash⟩ := hTables.inserted _ row hRow
  obtain ⟨a, hBegin, hToken, hUser, hPlatform, hCallback, hEncrypt⟩ :=
    insertState_call hConducted hZ hInserted.question
  have hStateHash : stateHashOf d x = some (d.hashState a.draws.token) := by
    rw [stateHashOf, hCall]
    show (given query.state).map d.hashState = _
    rw [hQuery, Option.map_some, ← hHash, hToken]
  have hSameRoute : callbackRoute = a.platform.callbackRoute := by
    rw [← hRoute, ← hCallback, hState]
    exact hInserted.callbackRoute
  refine ⟨a, ⟨⟨query, draws, hSameRoute ▸ hCall⟩, hStateHash, inserted, hToken,
    ⟨z, hZ, hBegin, hInserted.question, hInserted.executed⟩, y, hY, hProcess, ?_, ?_⟩, ?_, ?_, ?_⟩
  · rw [hHash]
    exact ⟨hConsume, state, hRows⟩
  · rw [← hInserted.expiresAt]
    exact hExpiry
  · refine ⟨row.userId, ?_, hUser ▸ hInserted.userId⟩
    rw [hState]
    exact d.uuid.parse_print _ _ hInserted.userId
  · rw [hState, ← hPlatform]
    exact hInserted.platform
  · rw [hEncrypt, hState]
    exact congrArg Except.ok hInserted.codeVerifierEncrypted.symm

end Uses

/-! ## Every exchange of a record -/

section Made

variable {d : Deployment} {s : OAuthSystemState} {log before after : List OAuthExchange}
  {x : OAuthExchange}

/-- What is known where an exchange is made. -/
structure Made (d : Deployment) (before : List OAuthExchange) (x : OAuthExchange)
    (s : OAuthSystemState) : Prop where
  reachable : Reachable (oauthSystem d) anyStep (s, before)
  conducted : Conducted (OAuthCall.permits d) s before
  tables : TablesRecorded d x.found before
  found : x.found = s.shared
  permitted : x.call.permits d (history x.process before) x.question
  calls : ∀ y ∈ before, y.process = x.process → y.call = x.call
  answered : ∃ next, x.found.answer d x.process x.question x.world = some (x.reply, next)

theorem exchange_made (h : Reachable (oauthSystem d) anyStep (s, log))
    (hSplit : log = before ++ x :: after) : ∃ t, Made d before x t := by
  obtain ⟨t, u, next, hReach, hAnswered⟩ := made h before x after hSplit
  have hConducted := conducted (fun call => OAuthCall.obeys (d := d) call) hReach
  exact ⟨t, hReach, hConducted, hAnswered.found ▸ recorded_tables hReach, hAnswered.found,
    hConducted.permitted hAnswered, fun y => hConducted.call_eq hAnswered, u.shared,
    hAnswered.answer⟩

/-- The UPDATE that granted a callback its state. -/
theorem took_of_granted {callbackRoute : OAuthCallbackRoute} {query : CallbackQuery}
    {state : OAuthAuthorizationState} {i : Nat}
    (h : Granted d callbackRoute query (history i log) state) :
    ∃ y ∈ log, y.process = i ∧ ∃ queryState, given query.state = some queryState ∧
      TookState (d.hashState queryState) y := by
  obtain ⟨-, queryState, reply, hQuery, hMem, hRows⟩ := h
  obtain ⟨y, hY, hProcess, hExchange⟩ := mem_history.mp hMem
  injection hExchange with hConsume hReply
  exact ⟨y, hY, hProcess, queryState, hQuery, hConsume, state, hReply ▸ hRows⟩

/-- A code is exchanged by a callback that was granted a state. -/
theorem Made.exchange (h : Made d before x s) (hExchange : x.question.IsExchange) :
    ∃ callbackRoute query draws request, x.call = .completeCallback callbackRoute query draws ∧
      x.question = .exchangeCode request ∧
      OAuthCall.callbackPermits d callbackRoute query (history x.process before)
        (.exchangeCode request) := by
  have hPermitted := h.permitted
  unfold OAuthRequest.IsExchange at hExchange
  split at hExchange
  · rename_i request hQuestion
    rw [hQuestion] at hPermitted
    cases hCall : x.call with
    | beginAuthorization =>
      rw [hCall] at hPermitted
      exact hPermitted.elim
    | completeCallback callbackRoute query draws =>
      rw [hCall] at hPermitted
      exact ⟨callbackRoute, query, draws, request, rfl, hQuestion, hPermitted⟩
    | selectFacebookPage =>
      rw [hCall] at hPermitted
      exact hPermitted.elim
  · exact hExchange.elim

/-- The state of a callback that exchanges a code was consumed for it. -/
theorem Made.took (h : Made d before x s) (hExchange : x.question.IsExchange) :
    ∃ y ∈ before, y.process = x.process ∧ ∃ stateHash, stateHashOf d x = some stateHash ∧
      TookState stateHash y := by
  obtain ⟨callbackRoute, query, draws, request, hCall, -, -, state, -, hGranted, -⟩ :=
    h.exchange hExchange
  obtain ⟨y, hMem, hProcess, queryState, hQuery, hTook⟩ := took_of_granted hGranted
  refine ⟨y, hMem, hProcess, d.hashState queryState, ?_, hTook⟩
  rw [stateHashOf, hCall]
  show (given query.state).map d.hashState = _
  rw [hQuery, Option.map_some]

/-- Two exchanges of a kind that is made once are the same one. -/
theorem process_eq_of_pairwise {p : Text → OAuthExchange → Prop} {hash : Text}
    (h : log.Pairwise fun x y => ∀ hash, p hash x → ¬ p hash y) {y z : OAuthExchange}
    (hY : y ∈ log) (hZ : z ∈ log) (hFirst : p hash y) (hSecond : p hash z) :
    y.process = z.process := by
  by_contra hNe
  have hSymm : Std.Symm fun x y : OAuthExchange => ∀ hash, p hash x → ¬ p hash y :=
    ⟨fun x y hApart hash hP hP' => hApart hash hP' hP⟩
  have hApart := h.forall hY hZ fun hSame => hNe (congrArg Exchange.process hSame)
  exact hApart hash hFirst hSecond

/-- Nothing was exchanged for the state before. -/
theorem Made.first_exchange (h : Made d before x s) (hExchange : x.question.IsExchange) :
    ∀ y ∈ before, y.question.IsExchange → stateHashOf d y ≠ stateHashOf d x := by
  intro y hMem hAgain hSame
  obtain ⟨b₁, b₂, hSplit⟩ := List.append_of_mem hMem
  obtain ⟨t, hMade⟩ := exchange_made h.reachable hSplit
  obtain ⟨z, hZ, hProcess, hash, hHash, hTook⟩ := hMade.took hAgain
  obtain ⟨z', hZ', hProcess', hash', hHash', hTook'⟩ := h.took hExchange
  have hEqual : hash = hash' := by
    rw [hHash, hHash'] at hSame
    injection hSame
  -- the state was consumed once, and so by one callback
  have hOne : y.process = x.process := by
    rw [← hProcess, ← hProcess']
    refine process_eq_of_pairwise h.tables.states.once ?_ hZ' hTook (hEqual ▸ hTook')
    rw [hSplit]
    exact List.mem_append_left _ hZ
  obtain ⟨_, _, _, _, -, -, hNone, -⟩ := h.exchange hExchange
  exact hNone _ (hOne ▸ mem_history_of_mem hMem) hAgain

/-! ### Page selections -/

/-- A page selection that was taken, with the row it was taken from. -/
theorem Made.selected (h : Made d before x s) {userId selectionId pageId : Text}
    {scope : List Text} {item : FacebookPageItem}
    (hSelected : Selected d userId selectionId pageId (history x.process before) scope item) :
    ∃ row, x.found.selections.lookup (d.hashState selectionId) = some row ∧
      d.uuid.parse userId = some row.userId ∧ item ∈ row.items ∧ item.pageId = pageId ∧
      ∀ transaction, x.found.transactions.lookup x.process = some transaction →
        transaction.taken = some (d.hashState selectionId) := by
  obtain ⟨⟨reply, hMem, hScope⟩, reply', hMem', hItem⟩ := hSelected
  obtain ⟨y, hY, hProcess, hExchange⟩ := mem_history.mp hMem
  obtain ⟨z, hZ, -, hExchange'⟩ := mem_history.mp hMem'
  injection hExchange with hTake hReply
  injection hExchange' with hFind hReply'
  obtain ⟨hHeld, row, hRow, hUser, -⟩ :=
    h.tables.selections.took y hY _ _ scope hTake (hReply ▸ hScope)
  obtain ⟨row', hRow', hItems, hPage⟩ :=
    h.tables.selections.found z hZ _ _ item hFind (hReply' ▸ hItem)
  rw [hRow] at hRow'
  injection hRow' with hRow'
  exact ⟨row, hRow, hUser, hRow' ▸ hItems, hPage, hProcess ▸ hHeld⟩

/-- A COMMIT of a page selection that came back has consumed it. -/
theorem Made.consumes (h : Made d before x s) {userId selectionId pageId : Text}
    {platform : PagePlatform} {row : Option OAuthRow}
    (hCall : x.call = .selectFacebookPage userId selectionId pageId platform)
    (hQuestion : x.question = .query .commit) (hReply : x.reply.rows = .ok row) :
    Consumes (d.hashState selectionId) x := by
  have hPermitted := h.permitted
  rw [hCall, hQuestion] at hPermitted
  obtain ⟨scope, item, hSelected⟩ := hPermitted
  obtain ⟨-, -, -, -, -, hHeld⟩ := h.selected hSelected
  obtain ⟨next, hAnswer⟩ := h.answered
  rcases answer_cases hAnswer with ⟨statement, first, hX⟩ | ⟨-, hNone⟩
  · have hCommit := hX.question
    rw [hQuestion] at hCommit
    injection hCommit with hCommit
    have hResult := hX.result
    rw [← hCommit] at hResult
    obtain ⟨after, hAfter, -⟩ := Option.map_eq_some_iff.mp hResult
    obtain ⟨transaction, hOpen, -⟩ := commit_eq_some hAfter
    exact ⟨hQuestion, hX.executed, transaction, hOpen, hHeld transaction hOpen⟩
  · obtain ⟨-, error, hError⟩ := hNone .commit hQuestion
    rw [hError] at hReply
    cases hReply

/-- The COMMIT before a page selection stores its account. -/
theorem Made.committed (h : Made d before x s) {userId selectionId pageId : Text}
    {platform : PagePlatform} (hCall : x.call = .selectFacebookPage userId selectionId pageId platform)
    (hCommitted : Committed (history x.process before)) :
    ∃ y ∈ before, y.process = x.process ∧ Consumes (d.hashState selectionId) y := by
  obtain ⟨reply, row, hMem, hRows⟩ := hCommitted
  obtain ⟨y, hY, hProcess, hExchange⟩ := mem_history.mp hMem
  injection hExchange with hQuestion hReply
  obtain ⟨b₁, b₂, hSplit⟩ := List.append_of_mem hY
  obtain ⟨t, hMade⟩ := exchange_made h.reachable hSplit
  have hSame := (h.calls y hY hProcess).trans hCall
  exact ⟨y, hY, hProcess, hMade.consumes hSame hQuestion (hReply ▸ hRows)⟩

/-- An account is upserted by a callback that was granted a state or by a page selection. -/
theorem Made.upsert (h : Made d before x s) (hUpsert : x.question.IsUpsert) :
    ∃ credential, x.question = .query (.upsertSocialAccount credential) ∧
      ((∃ callbackRoute query draws, x.call = .completeCallback callbackRoute query draws ∧
        OAuthCall.callbackPermits d callbackRoute query (history x.process before)
          (.query (.upsertSocialAccount credential))) ∨
      ∃ userId selectionId pageId platform,
        x.call = .selectFacebookPage userId selectionId pageId platform ∧
        OAuthCall.selectPermits d userId selectionId pageId platform (history x.process before)
          (.query (.upsertSocialAccount credential))) := by
  have hPermitted := h.permitted
  unfold OAuthRequest.IsUpsert at hUpsert
  split at hUpsert
  · rename_i credential hQuestion
    rw [hQuestion] at hPermitted
    refine ⟨credential, hQuestion, ?_⟩
    cases hCall : x.call with
    | beginAuthorization =>
      rw [hCall] at hPermitted
      exact hPermitted.elim
    | completeCallback callbackRoute query draws =>
      rw [hCall] at hPermitted
      exact .inl ⟨callbackRoute, query, draws, rfl, hPermitted⟩
    | selectFacebookPage userId selectionId pageId platform =>
      rw [hCall] at hPermitted
      exact .inr ⟨userId, selectionId, pageId, platform, rfl, hPermitted⟩
  · exact hUpsert.elim

/-- The selection was consumed before for the process that stores its account. -/
theorem Made.consumed (h : Made d before x s) (hUpsert : x.question.IsUpsert) {hash : Text}
    (hHash : selectionHashOf d x = some hash) :
    (∀ e ∈ history x.process before, ¬ e.1.IsUpsert) ∧
    ∃ y ∈ before, y.process = x.process ∧ Consumes hash y := by
  obtain ⟨credential, hQuestion, ⟨callbackRoute, query, draws, hCall, -⟩ |
    ⟨userId, selectionId, pageId, platform, hCall, hNone, hCommitted, -⟩⟩ := h.upsert hUpsert
  · rw [selectionHashOf, hCall] at hHash
    cases hHash
  · rw [selectionHashOf, hCall] at hHash
    injection hHash with hHash
    exact ⟨hNone, hHash ▸ h.committed hCall hCommitted⟩

/-- Nothing was saved for the selection before. -/
theorem Made.first_upsert (h : Made d before x s) (hUpsert : x.question.IsUpsert) {hash : Text}
    (hHash : selectionHashOf d x = some hash) :
    ∀ y ∈ before, y.question.IsUpsert → selectionHashOf d y ≠ selectionHashOf d x := by
  intro y hMem hAgain hSame
  obtain ⟨b₁, b₂, hSplit⟩ := List.append_of_mem hMem
  obtain ⟨t, hMade⟩ := exchange_made h.reachable hSplit
  obtain ⟨-, z, hZ, hProcess, hConsumes⟩ := hMade.consumed hAgain (hSame.trans hHash)
  obtain ⟨hNone, z', hZ', hProcess', hConsumes'⟩ := h.consumed hUpsert hHash
  have hOne : y.process = x.process := by
    rw [← hProcess, ← hProcess']
    refine process_eq_of_pairwise h.tables.selections.once ?_ hZ' hConsumes hConsumes'
    rw [hSplit]
    exact List.mem_append_left _ hZ
  exact hNone _ (hOne ▸ mem_history_of_mem hMem) hAgain

/-! ### The user of an authorization -/

theorem Uses.append {more : List OAuthExchange} {a : Authorization} (h : Uses d log x a) :
    Uses d (log ++ more) x a := by
  obtain ⟨hCall, hHash, state, hToken, ⟨y, hY, hBegan⟩, z, hZ, hTook⟩ := h
  exact ⟨hCall, hHash, state, hToken, ⟨y, List.mem_append_left _ hY, hBegan⟩, z,
    List.mem_append_left _ hZ, hTook⟩

/-- A selection is put in by a callback, for the user of its state. -/
theorem Made.offered (h : Made d before x s) {selectionHash userId : Text} {scope : List Text}
    {expiresAt : Time}
    (hQuestion : x.question = .query (.insertSelection selectionHash userId scope expiresAt)) :
    ∃ a, Uses d before x a ∧ SameUser d userId a.userId := by
  have hPermitted := h.permitted
  rw [hQuestion] at hPermitted
  cases hCall : x.call with
  | beginAuthorization =>
    rw [hCall] at hPermitted
    exact hPermitted.elim
  | completeCallback callbackRoute query draws =>
    rw [hCall] at hPermitted
    obtain ⟨state, hGranted, hUser⟩ := hPermitted
    obtain ⟨a, hUses, hSame, -⟩ :=
      uses_of_granted h.conducted (h.found ▸ h.tables.states) hCall hGranted
    exact ⟨a, hUses, hUser ▸ hSame⟩
  | selectFacebookPage =>
    rw [hCall] at hPermitted
    exact hPermitted.elim

/-- The user of a selection began the authorization whose callback put it in. -/
theorem Made.owner (h : Made d before x s) {hash : Text} {row : SelectionRow}
    (hCreated : Created d before hash row) :
    ∃ y ∈ before, ∃ userId scope expiresAt a,
      y.question = .query (.insertSelection hash userId scope expiresAt) ∧
      y.world.executed = true ∧ Uses d before y a ∧
      d.uuid.parse a.userId = some row.userId := by
  obtain ⟨y, hMem, userId, scope, expiresAt, hQuestion, hExecuted, hUser⟩ := hCreated
  obtain ⟨b₁, b₂, hSplit⟩ := List.append_of_mem hMem
  obtain ⟨t, hMade⟩ := exchange_made h.reachable hSplit
  obtain ⟨a, hUses, id, hId, hSame⟩ := hMade.offered hQuestion
  rw [hUser] at hId
  injection hId with hId
  exact ⟨y, hMem, userId, scope, expiresAt, a, hQuestion, hExecuted, hSplit ▸ hUses.append,
    hId ▸ hSame⟩

theorem Made.connected (h : Made d before x s) {credential : SocialAccountCredential}
    (hQuestion : x.question = .query (.upsertSocialAccount credential)) :
    ∃ a, Origin d before x a ∧ SameUser d credential.userId a.userId := by
  have hUpsert : x.question.IsUpsert := hQuestion ▸ trivial
  obtain ⟨credential', hSame, hCases⟩ := h.upsert hUpsert
  rw [hQuestion] at hSame
  injection hSame with hSame
  injection hSame with hSame
  rw [← hSame] at hCases
  rcases hCases with ⟨callbackRoute, query, draws, hCall, state, hGranted, hUser⟩ |
    ⟨userId, selectionId, pageId, platform, hCall, -, -, scope, item, hSelected, hUser, -⟩
  · obtain ⟨a, hUses, hSameUser, -⟩ :=
      uses_of_granted h.conducted (h.found ▸ h.tables.states) hCall hGranted
    exact ⟨a, .inl hUses, hUser ▸ hSameUser⟩
  · obtain ⟨row, hRow, hOwner, -⟩ := h.selected hSelected
    obtain ⟨y, hMem, userId', scope', expiresAt, a, hInsert, hExecuted, hUses, hBegan⟩ :=
      h.owner (h.tables.selections.created _ row hRow)
    refine ⟨a, .inr ⟨y, hMem, _, userId', scope', expiresAt, ?_, hInsert, hExecuted, hUses⟩,
      row.userId, hUser ▸ hOwner, hBegan⟩
    rw [selectionHashOf, hCall]

/-- A call that may not consume a selection leaves it as it is. -/
theorem Made.refused (h : Made d before x s) {userId selectionId pageId : Text}
    {platform : PagePlatform} {row : SelectionRow} {reply : OAuthReply} {next : OAuthDatabase}
    (hCall : x.call = .selectFacebookPage userId selectionId pageId platform)
    (hRow : x.found.selections.lookup (d.hashState selectionId) = some row)
    (hWrong : d.uuid.parse userId ≠ some row.userId ∨ ∀ item ∈ row.items, item.pageId ≠ pageId)
    (hAnswer : x.found.answer d x.process x.question x.world = some (reply, next)) :
    next.selections.lookup (d.hashState selectionId) = some row := by
  obtain ⟨next', hAnswered⟩ := h.answered
  rw [hAnswer] at hAnswered
  injection hAnswered with hAnswered
  injection hAnswered with hReply _
  rw [hReply] at hAnswer
  rcases answer_cases hAnswer with ⟨statement, first, hX⟩ | ⟨rfl, -⟩
  · by_cases hCommit : statement = .commit
    · -- a COMMIT comes after the UPDATE for this user and the page
      have hPermitted := h.permitted
      rw [hCall, hX.question, hCommit] at hPermitted
      obtain ⟨scope, item, hSelected⟩ := hPermitted
      obtain ⟨row', hRow', hUser, hItem, hPage, -⟩ := h.selected hSelected
      rw [hRow] at hRow'
      injection hRow' with hRow'
      rw [← hRow'] at hUser hItem
      exact (hWrong.elim (fun hOther => hOther hUser) fun hUnlisted => hUnlisted item hItem hPage).elim
    · rw [execute_selections hX.result hCommit]
      exact hRow
  · exact hRow

end Made

/-! ## Every run -/

/-- All parts at once, each from what the process had done before the exchange. -/
theorem singleUse {d : Deployment} {s : OAuthSystemState} {log : List OAuthExchange}
    (h : Reachable (oauthSystem d) anyStep (s, log)) : SingleUse d log := by
  constructor
  case exchanged =>
    intro before x after request hSplit hQuestion
    obtain ⟨t, hMade⟩ := exchange_made h hSplit
    have hExchange : x.question.IsExchange := hQuestion ▸ trivial
    refine ⟨hMade.first_exchange hExchange, ?_⟩
    obtain ⟨callbackRoute, query, draws, request', hCall, hSame, -, state, codeVerifier, hGranted,
      hPlatform, hDecrypt, hBody⟩ := hMade.exchange hExchange
    rw [hQuestion] at hSame
    injection hSame with hSame
    obtain ⟨a, hUses, -, hOwn, hEncrypt⟩ :=
      uses_of_granted hMade.conducted (hMade.found ▸ hMade.tables.states) hCall hGranted
    rw [hSame]
    exact ⟨a, hUses, hPlatform.trans hOwn, by rw [hBody, decrypt_encrypt hEncrypt hDecrypt]⟩
  case connected =>
    intro before x after credential hSplit hQuestion
    obtain ⟨t, hMade⟩ := exchange_made h hSplit
    exact hMade.connected hQuestion
  case offered =>
    intro before x after selectionHash userId scope expiresAt hSplit hQuestion
    obtain ⟨t, hMade⟩ := exchange_made h hSplit
    exact hMade.offered hQuestion
  case saved =>
    intro before x after credential userId selectionId pageId platform hSplit hQuestion hCall
    obtain ⟨t, hMade⟩ := exchange_made h hSplit
    have hHash : selectionHashOf d x = some (d.hashState selectionId) := by
      rw [selectionHashOf, hCall]
    refine ⟨hMade.first_upsert (hQuestion ▸ trivial) hHash, ?_⟩
    have hPermitted := hMade.permitted
    rw [hCall, hQuestion] at hPermitted
    obtain ⟨-, -, scope, item, hSelected, hUser, -, hToken, hFacebook⟩ := hPermitted
    obtain ⟨row, hRow, hOwner, hItem, hPage, -⟩ := hMade.selected hSelected
    exact ⟨row, hRow, hUser ▸ hOwner, item, hItem, hPage, hToken,
      fun hPlatform => (hFacebook hPlatform).trans hPage⟩
  case refused =>
    intro x hMem userId selectionId pageId platform row reply next hCall hRow hWrong hAnswer
    obtain ⟨before, after, hSplit⟩ := List.append_of_mem hMem
    obtain ⟨t, hMade⟩ := exchange_made h hSplit
    exact hMade.refused hCall hRow hWrong hAnswer

/-- **Every state is used at most once and every account is saved for the user who began its
authorization**, whatever the interleaving of the calls and the replies of the providers. -/
theorem authorizations_single_use {d : Deployment} {s : OAuthSystemState} {log : List OAuthExchange}
    (h : Reachable (oauthSystem d) anyStep (s, log)) : SingleUse d log := singleUse h

/-! ## Two runs -/

namespace Connecting

def deployment : Deployment where
  surroundings := SocialPromotion.Deployment.surroundings
  cipher := Vault.cipher
  sha256 := id
  uuid := ⟨readUuid, printUuid, fun _ _ h => readUuid_printUuid (readUuid_lt h)⟩
  resolveUrl path base := some (base ++ path)
  parameter _ := []

/-- The user, written as PostgreSQL writes it. -/
def user : Text := printUuid 1

def draws : Draws :=
  ⟨⟨List.replicate 32 1, rfl⟩, ⟨List.replicate 48 2, rfl⟩, fun _ => ⟨List.replicate 12 3, rfl⟩⟩

def start : OAuthDatabase := ⟨0, [], ∅, ∅, ∅, 1, ∅⟩

def answered (call : Nat) (members : List (String × Json)) :
    Processes.Event OAuthCall OAuthWorld OAuthOwn :=
  .answer call ⟨true, none, .response ⟨200, fun _ => none, .ok (.object members)⟩⟩

/-- An authorization that is begun at 0, and whose state expires at 600000. -/
def begun (platform : OAuthPlatform) : List (Processes.Event OAuthCall OAuthWorld OAuthOwn) :=
  [.start (.beginAuthorization user platform draws), answered 0 [], answered 0 [], answered 0 []]

def callback (callbackRoute : OAuthCallbackRoute) :
    Processes.Event OAuthCall OAuthWorld OAuthOwn :=
  .start (.completeCallback callbackRoute ⟨some draws.token, some ['c'], none⟩ draws)

/-- The state is consumed in its last millisecond, and its code exchanged two milliseconds
later. -/
def lateExchange : List (Processes.Event OAuthCall OAuthWorld OAuthOwn) :=
  begun .linkedin ++
    [.own (.tick 599999), callback .linkedin, answered 1 [], .own (.tick 600001),
      answered 1 [("access_token", .string ['t'])]]

def bracedUser : Text := '{' :: user.filter (· ≠ '-') ++ ['}']

def managedPages : List (String × Json) :=
  [("data", .array [.object
    [("id", .string ['p']), ("name", .string ['n']), ("access_token", .string ['z'])]])]

/-- A page is selected, by another text of the id of the user: in braces, without hyphens. -/
def selectedPage : List (Processes.Event OAuthCall OAuthWorld OAuthOwn) :=
  begun .facebook ++
    [callback .metaRoute, answered 1 [], answered 1 [("access_token", .string ['t'])],
      answered 1 managedPages] ++ List.replicate 6 (answered 1 []) ++
    [.start (.selectFacebookPage bracedUser draws.token ['p'] .facebook)] ++
    List.replicate 7 (answered 2 [])

def isUpsert (x : OAuthExchange) : Bool :=
  match x.question with
  | .query (.upsertSocialAccount _) => true
  | _ => false

/-- A code is exchanged at 600001 for the state of `draws`. -/
def isLateExchange (x : OAuthExchange) : Bool :=
  match x.question with
  | .exchangeCode _ => x.found.now = 600001 ∧
      stateHashOf deployment x = some (deployment.hashState draws.token)
  | _ => false

/-- The state of `draws` is put in, to expire at 600000. -/
def insertsState (x : OAuthExchange) : Bool :=
  match x.question with
  | .query (.insertState state) =>
    state.expiresAt = 600000 ∧ state.stateHash = deployment.hashState draws.token
  | _ => false

theorem start_initial :
    (oauthSystem deployment).Initial (⟨start, []⟩, []) := ⟨⟨⟨rfl, rfl, rfl⟩, rfl⟩, rfl⟩

end Connecting

/-- A page is saved for the user who began its authorization. -/
theorem authorizations_single_use_page :
    ∃ log : List OAuthExchange,
      (∃ x ∈ log, x.question.IsUpsert) ∧ SingleUse Connecting.deployment log := by
  obtain ⟨⟨s, log⟩, hReach, hLog⟩ := exists_reachable_of_run
    (oauthSystem Connecting.deployment) anyStep (fun s => s.2.any Connecting.isUpsert)
    Connecting.selectedPage Connecting.start_initial (by decide +kernel)
  obtain ⟨x, hMem, hUpsert⟩ := List.any_eq_true.mp hLog
  refine ⟨log, ⟨x, hMem, ?_⟩, authorizations_single_use hReach⟩
  unfold Connecting.isUpsert at hUpsert
  split at hUpsert
  · rename_i hQuestion
    rw [hQuestion]
    trivial
  · cases hUpsert

/-- A code is exchanged after the expiry of its state. -/
theorem code_exchanged_late :
    ¬ ∀ (d : Deployment) (s : OAuthSystemState) (log : List OAuthExchange),
      Reachable (oauthSystem d) anyStep (s, log) →
      ∀ x ∈ log, x.question.IsExchange → ∀ y ∈ log, ∀ state,
        y.question = .query (.insertState state) → stateHashOf d x = some state.stateHash →
        x.found.now < state.expiresAt := by
  intro h
  obtain ⟨⟨s, log⟩, hReach, hLog⟩ := exists_reachable_of_run
    (oauthSystem Connecting.deployment) anyStep
    (fun s => s.2.any Connecting.isLateExchange && s.2.any Connecting.insertsState)
    Connecting.lateExchange Connecting.start_initial (by decide +kernel)
  obtain ⟨hExchange, hInsert⟩ := Bool.and_eq_true_iff.mp hLog
  obtain ⟨x, hX, hExchange⟩ := List.any_eq_true.mp hExchange
  obtain ⟨y, hY, hInsert⟩ := List.any_eq_true.mp hInsert
  unfold Connecting.isLateExchange at hExchange
  unfold Connecting.insertsState at hInsert
  split at hExchange
  · rename_i hQuestion
    split at hInsert
    · rename_i state hState
      obtain ⟨hNow, hHash⟩ := of_decide_eq_true hExchange
      obtain ⟨hExpires, hSame⟩ := of_decide_eq_true hInsert
      have hIs : x.question.IsExchange := by
        rw [hQuestion]
        trivial
      have hInTime := h _ _ _ hReach x hX hIs y hY state hState (hHash.trans (by rw [hSame]))
      rw [hNow, hExpires] at hInTime
      exact absurd hInTime (by decide)
    · cases hInsert
  · cases hExchange

end SocialPromotion.OAuth
