import SocialPromotion.Model.OAuthSystem
import SocialPromotion.Properties.StoredSecrets

/-!
# What a call may ask for

Each of the three calls asks for an exchange, for an account or for a selection only after the
replies that entitle it to.

* `OAuthCall.permits`: a callback exchanges its code once, with the verifier of the state that it
  was given for its own route, and stores what it gets for the user of that state; a page selection
  commits, and stores one account, for the user and the page it was called with;
* `OAuthCall.obeys`: no call asks for more, whatever it is told.
-/

namespace SocialPromotion.OAuth

open Program

abbrev OAuthHistory := List (OAuthRequest × OAuthReply)

/-- The route that the provider of a platform calls back on. -/
def OAuthPlatform.callbackRoute : OAuthPlatform → OAuthCallbackRoute
  | .linkedin => .linkedin
  | .facebook => .metaRoute
  | .threads => .threads
  | .x => .x

def OAuthRequest.IsExchange : OAuthRequest → Prop
  | .exchangeCode _ => True
  | _ => False

def OAuthRequest.IsUpsert : OAuthRequest → Prop
  | .query (.upsertSocialAccount _) => True
  | _ => False

def OAuthRequest.IsTake : OAuthRequest → Prop
  | .query (.takeSelection _ _) => True
  | _ => False

/-- A callback was given a state for its route. -/
def Granted (d : Deployment) (callbackRoute : OAuthCallbackRoute) (query : CallbackQuery)
    (history : OAuthHistory) (state : OAuthAuthorizationState) : Prop :=
  state.callbackRoute = callbackRoute ∧
    ∃ queryState reply, given query.state = some queryState ∧
      (.query (.consumeState (d.hashState queryState)), reply) ∈ history ∧
      reply.rows = .ok (some (.state state))

/-- A page selection was taken for the user, and the page was found in it. -/
def Selected (d : Deployment) (userId selectionId pageId : Text) (history : OAuthHistory)
    (scope : List Text) (item : FacebookPageItem) : Prop :=
  (∃ reply, (.query (.takeSelection (d.hashState selectionId) userId), reply) ∈ history ∧
    reply.rows = .ok (some (.selection scope))) ∧
  ∃ reply, (.query (.findSelectionItem (d.hashState selectionId) pageId), reply) ∈ history ∧
    reply.rows = .ok (some (.item item))

def Committed (history : OAuthHistory) : Prop :=
  ∃ reply row, (.query .commit, reply) ∈ history ∧ reply.rows = .ok row

namespace OAuthCall

variable (d : Deployment)

def beginPermits (userId : Text) (platform : OAuthPlatform) (draws : Draws) :
    OAuthRequest → Prop
  | .query (.insertState state) => state.stateHash = d.hashState draws.token ∧
    state.userId = userId ∧ state.platform = platform ∧
    state.callbackRoute = platform.callbackRoute ∧
    TokenService.encrypt d.cipher d.surroundings (draws.iv 0) draws.codeVerifier =
      .ok state.codeVerifierEncrypted
  | .query (.insertUser _) | .now => True
  | _ => False

def callbackPermits (callbackRoute : OAuthCallbackRoute) (query : CallbackQuery)
    (history : OAuthHistory) : OAuthRequest → Prop
  | .query (.consumeState stateHash) =>
    ∃ queryState, given query.state = some queryState ∧ stateHash = d.hashState queryState
  | .exchangeCode request => (∀ e ∈ history, ¬ e.1.IsExchange) ∧
    ∃ state codeVerifier, Granted d callbackRoute query history state ∧
      request.platform = state.platform ∧
      OauthService.decrypt d state.codeVerifierEncrypted = .ok codeVerifier ∧
      request.body.lookup "code_verifier" = some codeVerifier
  | .query (.upsertSocialAccount credential) =>
    ∃ state, Granted d callbackRoute query history state ∧ credential.userId = state.userId
  | .query (.insertSelection _ userId _ _) =>
    ∃ state, Granted d callbackRoute query history state ∧ userId = state.userId
  | .query (.insertUser _) | .query (.insertState _) | .query (.takeSelection _ _)
  | .query (.findSelectionItem _ _) => False
  | _ => True

def selectPermits (userId selectionId pageId : Text) (platform : PagePlatform)
    (history : OAuthHistory) : OAuthRequest → Prop
  | .query .begin => ∀ e ∈ history, ¬ e.1.IsTake
  | .query (.takeSelection selectionHash user) =>
    selectionHash = d.hashState selectionId ∧ user = userId
  | .query (.findSelectionItem selectionHash page) =>
    selectionHash = d.hashState selectionId ∧ page = pageId
  | .query .commit => ∃ scope item, Selected d userId selectionId pageId history scope item
  | .query (.upsertSocialAccount credential) => (∀ e ∈ history, ¬ e.1.IsUpsert) ∧
    Committed history ∧ ∃ scope item, Selected d userId selectionId pageId history scope item ∧
      credential.userId = userId ∧ credential.platform = platform.social ∧
      credential.accessTokenEncrypted = item.pageAccessTokenEncrypted ∧
      (platform = .facebook → credential.platformAccountId = item.pageId)
  | .query .rollback | .query (.insertAuditLog _ _ _ _ _) | .connect
  | .fetchInstagramAccount _ _ => True
  | _ => False

/-- What a call may ask after its exchanges so far. -/
def permits : OAuthCall → OAuthHistory → OAuthRequest → Prop
  | .beginAuthorization userId platform draws, _ => beginPermits d userId platform draws
  | .completeCallback callbackRoute query _, history =>
    callbackPermits d callbackRoute query history
  | .selectFacebookPage userId selectionId pageId platform, history =>
    selectPermits d userId selectionId pageId platform history

end OAuthCall

/-! ## Statements -/

section Statements

variable {d : Deployment} {permits : OAuthHistory → OAuthRequest → Prop} {history : OAuthHistory}
  {α : Type} {goal : OAuthHistory → Except ThrownError α → Prop}

/-- A statement whose first row decides how to go on. -/
theorem obeys_query_bind {statement : OAuthStatement} {f : Option OAuthRow → OAuthPromise α}
    (h : permits history (.query statement))
    (hNext : ∀ reply row, reply.rows = .ok row →
      Obeys permits goal (history ++ [(.query statement, reply)]) (f row))
    (hError : ∀ reply error, goal (history ++ [(.query statement, reply)]) (.error error)) :
    Obeys permits goal history (PgOAuthAccountRepository.query statement >>= f) := by
  have hAsk : Obeys permits goal history ((Program.ask (.query statement) >>= fun reply =>
      (liftM (reply.rows.mapError PlainError.toThrown) : OAuthPromise (Option OAuthRow))) >>= f) := by
    rw [bind_assoc]
    refine Obeys.ask_bind h fun reply => Obeys.lift_bind (fun row hRow => ?_) fun e _ => hError ..
    refine hNext reply row ?_
    cases hRows : reply.rows with
    | ok row' =>
      rw [hRows] at hRow
      injection hRow with hRow
      rw [hRow]
    | error error =>
      rw [hRows] at hRow
      cases hRow
  exact hAsk

/-- A transaction, with the statement of its `catch` clause. -/
theorem obeys_rollingBack {work : OAuthPromise α}
    (ends : OAuthHistory → Except ThrownError α → Prop) (h : Obeys permits ends history work)
    (hRollback : ∀ xs, permits xs (.query .rollback))
    (hOk : ∀ xs a, ends xs (.ok a) → goal xs (.ok a))
    (hError : ∀ xs e reply error, ends xs (.error e) →
      goal (xs ++ [(.query .rollback, reply)]) (.error error)) :
    Obeys permits goal history (PgOAuthAccountRepository.rollingBack work) := by
  refine h.catching hOk fun xs e hEnds => ?_
  exact obeys_query_bind (hRollback xs) (fun reply _ _ => hError xs e reply e hEnds)
    fun reply error => hError xs e reply error hEnds

theorem obeys_connect_bind {f : Unit → OAuthPromise α} (h : permits history .connect)
    (hNext : ∀ reply, Obeys permits goal (history ++ [(.connect, reply)]) (f ()))
    (hStart : ∀ error, goal history (.error error))
    (hError : ∀ reply error, goal (history ++ [(.connect, reply)]) (.error error)) :
    Obeys permits goal history (PgOAuthAccountRepository.connect d >>= f) := by
  unfold PgOAuthAccountRepository.connect PgOAuthAccountRepository.db
  rw [bind_assoc]
  refine Obeys.lift_bind (fun _ _ => ?_) fun e _ => hStart e
  rw [bind_assoc]
  refine Obeys.ask_bind h fun reply => ?_
  rw [bind_assoc]
  exact Obeys.lift_bind (fun _ _ => hNext reply) fun e _ => hError reply e

end Statements

/-! ## Requests that need nothing -/

section Asked

variable {d : Deployment} {allowed : OAuthRequest → Prop}

theorem asks_check {α : Type} (result : Except ThrownError α) :
    (liftM result : OAuthPromise α).Asks allowed :=
  Asks.ofExcept result

theorem asks_query {statement : OAuthStatement} (h : allowed (.query statement)) :
    (PgOAuthAccountRepository.query statement).Asks allowed :=
  (Asks.ask h).bind fun _ => asks_check _

theorem asks_createState {state : OAuthAuthorizationState}
    (hUser : allowed (.query (.insertUser state.userId)))
    (hState : allowed (.query (.insertState state))) :
    (PgOAuthAccountRepository.createState d state).Asks allowed := by
  unfold PgOAuthAccountRepository.createState
  exact Asks.bind (asks_check _) fun _ => Asks.bind (asks_query hUser) fun _ =>
    Asks.bind (asks_query hState) fun _ => trivial

theorem asks_upsertSocialAccount {credential : SocialAccountCredential}
    (hUpsert : allowed (.query (.upsertSocialAccount credential)))
    (hAudit : ∀ userId action entityType entityId metadata,
      allowed (.query (.insertAuditLog userId action entityType entityId metadata))) :
    (PgOAuthAccountRepository.upsertSocialAccount d credential).Asks allowed := by
  refine (asks_check _).bind fun _ => (asks_query hUpsert).bind fun row => ?_
  cases row with
  | none => trivial
  | some row =>
    cases row with
    | account account =>
      unfold PgOAuthAccountRepository.writeAudit
      exact Asks.bind (Asks.bind (asks_query (hAudit ..)) fun _ => trivial) fun _ => trivial
    | state | selection | item => trivial

theorem asks_forM {β : Type} {body : β → OAuthPromise PUnit} (h : ∀ x, (body x).Asks allowed)
    (l : List β) : (l.forM body).Asks allowed := by
  induction l with
  | nil => trivial
  | cons x l ih => exact (h x).bind fun _ => ih

theorem asks_createFacebookPageSelection {selectionHash userId : Text} {scope : List Text}
    {expiresAt : Time} {pages : List FacebookPageItem} (hConnect : allowed .connect)
    (hInsert : allowed (.query (.insertSelection selectionHash userId scope expiresAt)))
    (hItem : ∀ page, allowed (.query (.insertSelectionItem selectionHash page)))
    (hBegin : allowed (.query .begin)) (hCommit : allowed (.query .commit))
    (hRollback : allowed (.query .rollback)) :
    (PgOAuthAccountRepository.createFacebookPageSelection d selectionHash userId scope expiresAt
      pages).Asks allowed := by
  refine Asks.bind ((asks_check _).bind fun _ => (Asks.ask hConnect).bind fun _ =>
    (asks_check _).bind fun _ => trivial) fun _ => Asks.catching ?_ fun error =>
      (asks_query hRollback).bind fun _ => trivial
  refine Asks.bind (asks_query hBegin) fun _ => Asks.bind (asks_query hInsert) fun _ =>
    Asks.bind (asks_forM (fun page => ?_) pages) fun _ => Asks.bind (asks_query hCommit) fun _ => ?_
  · exact Asks.bind (asks_query (hItem page)) fun _ => trivial
  · trivial

theorem asks_fetchIdentity {provider : OAuthProvider} {accessToken : Text}
    (h : ∀ url, allowed (.fetchProfile url accessToken)) :
    (ConfigurableOAuthProvider.fetchIdentity d provider accessToken).Asks allowed :=
  Asks.bind (asks_check _) fun url => (Asks.ask (h url)).bind fun _ => (asks_check _).bind fun _ =>
    (asks_check _).bind fun _ => asks_check _

theorem asks_listManagedPages {accessToken : Text}
    (h : ∀ url, allowed (.fetchManagedPages url accessToken)) :
    (listManagedPages d accessToken).Asks allowed :=
  Asks.bind (asks_check _) fun url => (asks_check _).bind fun _ => (Asks.ask (h url)).bind fun _ =>
    (asks_check _).bind fun _ => asks_check _

theorem asks_expiryOf (payload : List (String × Json)) (h : allowed .now) :
    (ConfigurableOAuthProvider.expiryOf payload).Asks allowed := by
  unfold ConfigurableOAuthProvider.expiryOf
  split
  · exact (Asks.ask h).bind fun _ => trivial
  · trivial

end Asked

/-! ## The three calls -/

section Calls

variable {d : Deployment}

theorem provider_eq_ok {platform : OAuthPlatform} {provider : OAuthProvider}
    (h : OauthService.provider platform = .ok provider) :
    provider.platform = platform ∧ provider.callbackRoute = platform.callbackRoute := by
  cases platform <;> injection h with h <;> subst h <;> exact ⟨rfl, rfl⟩

theorem asks_beginAuthorization (userId : Text) (platform : OAuthPlatform) (draws : Draws) :
    (OauthService.beginAuthorization d userId platform draws).Asks
      (OAuthCall.beginPermits d userId platform draws) := by
  unfold OauthService.beginAuthorization
  refine (asks_check _).bind fun _ => ?_
  cases hProvider : OauthService.provider platform with
  | error e => trivial
  | ok provider =>
    cases hEncrypt : TokenService.encrypt d.cipher d.surroundings (draws.iv 0)
      draws.codeVerifier with
    | error e => trivial
    | ok codeVerifierEncrypted =>
      obtain ⟨-, hRoute⟩ := provider_eq_ok hProvider
      exact (Asks.ask trivial).bind fun reply =>
        (asks_createState trivial ⟨rfl, rfl, rfl, hRoute, hEncrypt⟩).bind fun _ => asks_check _

/-- What a callback may ask once it has exchanged its code. -/
def AfterExchange (state : OAuthAuthorizationState) : OAuthRequest → Prop
  | .query (.upsertSocialAccount credential) => credential.userId = state.userId
  | .query (.insertSelection _ userId _ _) => userId = state.userId
  | .query .begin | .query .commit | .query .rollback | .query (.insertSelectionItem _ _)
  | .query (.insertAuditLog _ _ _ _ _) | .connect | .fetchProfile _ _ | .fetchManagedPages _ _
  | .now => True
  | _ => False

theorem asks_offerPages (provider : OAuthProvider) (state : OAuthAuthorizationState)
    (tokenSet : OAuthTokenSet) (draws : Draws) :
    (OauthService.offerPages d provider state tokenSet draws).Asks (AfterExchange state) := by
  unfold OauthService.offerPages
  refine Asks.bind (asks_check _) fun _ => Asks.bind (asks_listManagedPages fun _ => trivial)
    fun pages => Asks.bind (asks_check _) fun _ => Asks.bind (Asks.ask trivial) fun reply =>
      Asks.bind (asks_check _) fun items => Asks.bind ?_ fun _ => ?_
  · exact asks_createFacebookPageSelection trivial rfl (fun _ => trivial) trivial trivial trivial
  · trivial

theorem asks_connectIdentity (provider : OAuthProvider) (state : OAuthAuthorizationState)
    (tokenSet : OAuthTokenSet) (draws : Draws) :
    (OauthService.connectIdentity d provider state tokenSet draws).Asks (AfterExchange state) := by
  unfold OauthService.connectIdentity
  exact (asks_fetchIdentity fun _ => trivial).bind fun _ => (asks_check _).bind fun _ =>
    (asks_check _).bind fun _ => (asks_check _).bind fun _ =>
      asks_upsertSocialAccount rfl fun _ _ _ _ _ => trivial

theorem asks_afterExchange (provider : OAuthProvider) (state : OAuthAuthorizationState)
    (tokenSet : OAuthTokenSet) (draws : Draws) :
    (OauthService.afterExchange d provider state tokenSet draws).Asks (AfterExchange state) := by
  unfold OauthService.afterExchange
  split
  · exact (asks_offerPages ..).bind fun _ => trivial
  · exact (asks_connectIdentity ..).bind fun _ => trivial

theorem Granted.append {callbackRoute : OAuthCallbackRoute} {query : CallbackQuery}
    {history more : OAuthHistory} {state : OAuthAuthorizationState}
    (h : Granted d callbackRoute query history state) :
    Granted d callbackRoute query (history ++ more) state := by
  obtain ⟨hRoute, queryState, reply, hQuery, hMem, hRows⟩ := h
  exact ⟨hRoute, queryState, reply, hQuery, List.mem_append_left _ hMem, hRows⟩

/-- Whatever follows the exchange of a code is permitted to the callback with its state. -/
theorem afterExchange_permitted {callbackRoute : OAuthCallbackRoute} {query : CallbackQuery}
    {history : OAuthHistory} {state : OAuthAuthorizationState} {op : OAuthRequest}
    (hGranted : Granted d callbackRoute query history state) (h : AfterExchange state op) :
    OAuthCall.callbackPermits d callbackRoute query history op := by
  cases op with
  | query statement =>
    cases statement with
    | upsertSocialAccount credential => exact ⟨state, hGranted, h⟩
    | insertSelection => exact ⟨state, hGranted, h⟩
    | insertUser | insertState | consumeState | takeSelection | findSelectionItem => exact h.elim
    | insertAuditLog | begin | commit | rollback | insertSelectionItem => trivial
  | exchangeCode request => exact h.elim
  | connect | fetchProfile | fetchManagedPages | fetchInstagramAccount | now => trivial

theorem state?_eq_some {row : Option OAuthRow} {state : OAuthAuthorizationState}
    (h : row.bind OAuthRow.state? = some state) : row = some (.state state) := by
  obtain ⟨row, rfl, hState⟩ := Option.bind_eq_some_iff.mp h
  cases row with
  | state state' =>
    injection hState with hState
    rw [hState]
  | account | selection | item => cases hState

theorem approvedCode_eq_ok {consumed : Option OAuthAuthorizationState}
    {callbackRoute : OAuthCallbackRoute} {query : CallbackQuery} {state : OAuthAuthorizationState}
    {code : Text} (h : OauthService.approvedCode consumed callbackRoute query = .ok (state, code)) :
    consumed = some state ∧ state.callbackRoute = callbackRoute := by
  unfold OauthService.approvedCode at h
  split at h
  · cases h
  · rename_i state' hFilter
    obtain ⟨hConsumed, hRoute⟩ := Option.filter_eq_some_iff.mp hFilter
    split at h
    · cases h
    · split at h
      · cases h
      · injection h with h
        injection h with hState hCode
        rw [← hState]
        exact ⟨hConsumed, of_decide_eq_true hRoute⟩

/-- The code is exchanged in the first exchange after the consumption of the state. -/
theorem obeys_exchangeCode {callbackRoute : OAuthCallbackRoute} {query : CallbackQuery}
    {history : OAuthHistory} {state : OAuthAuthorizationState} {provider : OAuthProvider}
    {codeVerifier : Text} (code : Text)
    (hGranted : Granted d callbackRoute query history state)
    (hNone : ∀ e ∈ history, ¬ e.1.IsExchange) (hProvider : provider.platform = state.platform)
    (hVerifier : OauthService.decrypt d state.codeVerifierEncrypted = .ok codeVerifier) :
    Obeys (OAuthCall.callbackPermits d callbackRoute query)
      (fun xs (_ : Except ThrownError OAuthTokenSet) =>
        Granted d callbackRoute query xs state) history
      (ConfigurableOAuthProvider.exchangeCode d provider code codeVerifier) := by
  unfold ConfigurableOAuthProvider.exchangeCode
  refine Obeys.lift_bind (fun redirectUri _ => ?_) fun _ _ => hGranted
  refine Obeys.lift_bind (fun clientId _ => ?_) fun _ _ => hGranted
  refine Obeys.lift_bind (fun clientSecret _ => ?_) fun _ _ => hGranted
  refine Obeys.lift_bind (fun url _ => ?_) fun _ _ => hGranted
  refine Obeys.ask_bind ⟨hNone, state, codeVerifier, hGranted, hProvider, hVerifier, rfl⟩
    fun reply => ?_
  -- what follows reads the reply, and the clock
  refine Asks.obeys (fun op => op = .now) ?_ (fun more op _ hOp => ?_) fun more _ _ =>
    hGranted.append.append
  · refine (asks_check _).bind fun response => (asks_check _).bind fun payload => ?_
    split
    · trivial
    · exact Asks.bind (asks_expiryOf payload rfl) fun _ => Asks.bind (asks_check _) fun _ => trivial
  · rw [hOp]
    trivial

/-- A callback exchanges its code only after its state was taken. -/
theorem obeys_completeCallback (callbackRoute : OAuthCallbackRoute) (query : CallbackQuery)
    (draws : Draws) :
    Obeys (OAuthCall.callbackPermits d callbackRoute query) anyEnd []
      (OauthService.completeCallback d callbackRoute query draws) := by
  unfold OauthService.completeCallback
  split
  · trivial
  · rename_i queryState hQuery
    unfold PgOAuthAccountRepository.consumeState PgOAuthAccountRepository.db
    rw [bind_assoc]
    refine Obeys.lift_bind (fun _ _ => ?_) fun _ _ => trivial
    rw [bind_assoc]
    refine obeys_query_bind ⟨queryState, hQuery, rfl⟩ (fun reply row hRow => ?_) fun _ _ => trivial
    refine Obeys.lift_bind (fun approved hApproved => ?_) fun _ _ => trivial
    obtain ⟨state, code⟩ := approved
    obtain ⟨hState, hRoute⟩ := approvedCode_eq_ok hApproved
    have hRowState := state?_eq_some hState
    refine Obeys.lift_bind (fun provider hProvider => ?_) fun _ _ => trivial
    refine Obeys.lift_bind (fun codeVerifier hVerifier => ?_) fun _ _ => trivial
    have hGranted : Granted d callbackRoute query
        ([] ++ [(.query (.consumeState (d.hashState queryState)), reply)]) state :=
      ⟨hRoute, queryState, reply, hQuery, List.mem_singleton_self _, by rw [hRow, hRowState]⟩
    refine (obeys_exchangeCode code hGranted ?_ (provider_eq_ok hProvider).1 hVerifier).bind
      (fun xs tokenSet hStill => ?_) fun _ _ _ => trivial
    · intro e hMem
      rw [List.mem_singleton.mp hMem]
      exact id
    · exact (asks_afterExchange provider state tokenSet draws).obeys _
        (fun more op _ hOp => afterExchange_permitted hStill.append hOp) fun _ _ _ => trivial

/-! ### selectFacebookPage -/

section Select

variable {userId selectionId pageId : Text} {platform : PagePlatform} {history more : OAuthHistory}
  {scope : List Text} {item : FacebookPageItem}

theorem Selected.append (h : Selected d userId selectionId pageId history scope item) :
    Selected d userId selectionId pageId (history ++ more) scope item := by
  obtain ⟨⟨taking, hTaking, hScope⟩, finding, hFinding, hItem⟩ := h
  exact ⟨⟨taking, List.mem_append_left _ hTaking, hScope⟩, finding,
    List.mem_append_left _ hFinding, hItem⟩

theorem Committed.append (h : Committed history) : Committed (history ++ more) := by
  obtain ⟨reply, row, hMem, hRows⟩ := h
  exact ⟨reply, row, List.mem_append_left _ hMem, hRows⟩

/-- Nothing was upserted, and a record that came out is that of a committed selection. -/
structure Consumption (d : Deployment) (userId selectionId pageId : Text) (history : OAuthHistory)
    (result : Except ThrownError (Option FacebookPageSelectionRecord)) : Prop where
  unsaved : ∀ e ∈ history, ¬ e.1.IsUpsert
  committed : ∀ selected, result = .ok (some selected) → Committed history ∧
    ∃ scope item, Selected d userId selectionId pageId history scope item ∧
      selected.userId = userId ∧ selected.pageId = item.pageId ∧
      selected.pageAccessTokenEncrypted = item.pageAccessTokenEncrypted

theorem unsaved_concat {e : OAuthRequest × OAuthReply} (h : ∀ e ∈ history, ¬ e.1.IsUpsert)
    (hOther : ¬ e.1.IsUpsert) : ∀ e' ∈ history ++ [e], ¬ e'.1.IsUpsert := by
  intro e' hMem
  rcases List.mem_append.mp hMem with hMem | hMem
  · exact h e' hMem
  · rw [List.mem_singleton.mp hMem]
    exact hOther

/-- No record came out. -/
theorem Consumption.of_none {result : Except ThrownError (Option FacebookPageSelectionRecord)}
    (h : ∀ e ∈ history, ¬ e.1.IsUpsert) (hNone : ∀ selected, result ≠ .ok (some selected)) :
    Consumption d userId selectionId pageId history result :=
  ⟨h, fun selected hResult => absurd hResult (hNone selected)⟩

/-- A selection is taken and its item read in one transaction, and nothing is saved before it commits. -/
theorem obeys_consumeFacebookPageSelection :
    Obeys (OAuthCall.selectPermits d userId selectionId pageId platform)
      (Consumption d userId selectionId pageId) []
      (PgOAuthAccountRepository.consumeFacebookPageSelection d (d.hashState selectionId) userId
        pageId) := by
  have hNothing : ∀ e ∈ ([] : OAuthHistory), ¬ e.1.IsUpsert := List.forall_mem_nil _
  refine obeys_connect_bind trivial (fun connected => ?_)
    (fun _ => .of_none hNothing nofun) fun _ _ => .of_none (unsaved_concat hNothing id) nofun
  have hConnected := unsaved_concat (e := (.connect, connected)) hNothing id
  refine obeys_rollingBack (Consumption d userId selectionId pageId) ?_
    (fun _ => trivial) (fun _ _ h => h) fun xs _ _ _ h => .of_none (unsaved_concat h.unsaved id) nofun
  refine obeys_query_bind ?_ (fun begun _ _ => ?_)
    fun _ _ => .of_none (unsaved_concat hConnected id) nofun
  · intro e hMem
    rw [List.mem_singleton.mp hMem]
    exact id
  have hBegun := unsaved_concat (e := (.query .begin, begun)) hConnected id
  refine obeys_query_bind ⟨rfl, rfl⟩ (fun taken row hTaken => ?_)
    fun _ _ => .of_none (unsaved_concat hBegun id) nofun
  have hAfterTaking := unsaved_concat
    (e := (.query (.takeSelection (d.hashState selectionId) userId), taken)) hBegun id
  -- without a row of the UPDATE, or without the page, the transaction is rolled back
  have hRolledBack : ∀ xs : OAuthHistory, (∀ e ∈ xs, ¬ e.1.IsUpsert) →
      Obeys (OAuthCall.selectPermits d userId selectionId pageId platform)
        (Consumption d userId selectionId pageId) xs
        (do
          let _ ← PgOAuthAccountRepository.query .rollback
          return none) := fun xs hUnsaved =>
    obeys_query_bind trivial (fun _ _ _ => .of_none (unsaved_concat hUnsaved id) nofun)
      fun _ _ => .of_none (unsaved_concat hUnsaved id) nofun
  split
  · rename_i scope
    refine obeys_query_bind ⟨rfl, rfl⟩ (fun found row hFound => ?_)
      fun _ _ => .of_none (unsaved_concat hAfterTaking id) nofun
    have hAfterFinding := unsaved_concat
      (e := (.query (.findSelectionItem (d.hashState selectionId) pageId), found)) hAfterTaking id
    split
    · rename_i item
      have hSelected : Selected d userId selectionId pageId
          ([(.connect, connected)] ++ [(.query .begin, begun)] ++
            [(.query (.takeSelection (d.hashState selectionId) userId), taken)] ++
            [(.query (.findSelectionItem (d.hashState selectionId) pageId), found)]) scope item :=
        ⟨⟨taken, by simp, hTaken⟩, found, by simp, hFound⟩
      refine obeys_query_bind ⟨scope, item, hSelected⟩ (fun committed row hCommitted => ?_)
        fun _ _ => .of_none (unsaved_concat hAfterFinding id) nofun
      refine ⟨unsaved_concat hAfterFinding id, fun selected hResult => ?_⟩
      injection hResult with hResult
      injection hResult with hResult
      rw [← hResult]
      exact ⟨⟨committed, row, by simp, hCommitted⟩, scope, item, hSelected.append, rfl, rfl, rfl⟩
    · exact hRolledBack _ hAfterFinding
  · exact hRolledBack _ hAfterTaking

/-- Looking up the account of a page asks Instagram at most. -/
theorem asks_pageAccount (selected : FacebookPageSelectionRecord) (platform : PagePlatform) :
    (OauthService.pageAccount d selected platform).Asks
      (fun op => ∃ url accessToken, op = .fetchInstagramAccount url accessToken) := by
  cases platform with
  | facebook => trivial
  | instagram =>
    unfold OauthService.pageAccount
    dsimp only
    split
    · trivial
    · refine Asks.bind (asks_check _) fun _ => Asks.bind (asks_check _) fun _ =>
        Asks.bind (asks_check _) fun _ => Asks.bind (asks_check _) fun accessToken =>
          Asks.bind (Asks.ask ?_) fun reply => ?_
      · exact ⟨_, _, rfl⟩
      · split
        · trivial
        · exact asks_check _

/-- The account of a page for Facebook is the page. -/
theorem pageAccount_facebook (selected : FacebookPageSelectionRecord) :
    OauthService.pageAccount d selected .facebook =
      .pure (selected.pageId, selected.pageName) := rfl

/-- `selectFacebookPage` saves the page of a selection that it took in the same call. -/
theorem obeys_selectFacebookPage :
    Obeys (OAuthCall.selectPermits d userId selectionId pageId platform) anyEnd []
      (OauthService.selectFacebookPage d userId selectionId pageId platform) := by
  unfold OauthService.selectFacebookPage
  refine Obeys.lift_bind (fun _ _ => ?_) fun _ _ => trivial
  refine Obeys.lift_bind (fun _ _ => ?_) fun _ _ => trivial
  refine obeys_consumeFacebookPageSelection.bind (fun xs result hConsumed => ?_)
    fun _ _ _ => trivial
  split
  · trivial
  · rename_i selected
    obtain ⟨hCommitted, scope, item, hSelected, hUser, hPage, hToken⟩ :=
      hConsumed.committed selected rfl
    -- the account of the page, after which still nothing is upserted
    have hAccount : Obeys (OAuthCall.selectPermits d userId selectionId pageId platform)
        (fun ys result => (∃ more, ys = xs ++ more) ∧ (∀ e ∈ ys, ¬ e.1.IsUpsert) ∧
          (platform = .facebook → result = .ok (selected.pageId, selected.pageName))) xs
        (OauthService.pageAccount d selected platform) := by
      cases platform with
      | facebook =>
        rw [pageAccount_facebook]
        exact ⟨⟨[], (List.append_nil xs).symm⟩, hConsumed.unsaved, fun _ => rfl⟩
      | instagram =>
        refine (asks_pageAccount selected .instagram).obeys _ (fun more op _ hOp => ?_)
          fun more result hMore => ⟨⟨more, rfl⟩, fun e hMem => ?_, nofun⟩
        · obtain ⟨url, accessToken, rfl⟩ := hOp
          trivial
        · rcases List.mem_append.mp hMem with hMem | hMem
          · exact hConsumed.unsaved e hMem
          · obtain ⟨url, accessToken, hOp⟩ := hMore e hMem
            rw [hOp]
            exact id
    refine hAccount.bind (fun ys account hEnds => ?_) fun _ _ _ => trivial
    obtain ⟨⟨more, rfl⟩, hUnsaved, hFacebook⟩ := hEnds
    obtain ⟨platformAccountId, accountName⟩ := account
    refine Obeys.lift_bind (fun tokenKeyVersion _ => ?_) fun _ _ => trivial
    unfold PgOAuthAccountRepository.upsertSocialAccount PgOAuthAccountRepository.db
    refine Obeys.lift_bind (fun _ _ => ?_) fun _ _ => trivial
    refine obeys_query_bind ⟨hUnsaved, hCommitted.append, scope, item, hSelected.append, hUser, rfl,
      hToken, fun hPlatform => ?_⟩ (fun reply row _ => ?_) fun _ _ => trivial
    · injection hFacebook hPlatform with hAccount
      injection hAccount with hId
      exact hId.trans hPage
    · split
      · refine Asks.obeys (fun op => ∃ userId action entityType entityId metadata,
          op = .query (.insertAuditLog userId action entityType entityId metadata)) ?_
          (fun _ op _ hOp => ?_) fun _ _ _ => trivial
        · unfold PgOAuthAccountRepository.writeAudit
          exact Asks.bind (Asks.bind (asks_query ⟨_, _, _, _, _, rfl⟩) fun _ => trivial)
            fun _ => trivial
        · obtain ⟨_, _, _, _, _, rfl⟩ := hOp
          trivial
      · trivial

end Select

/-- **No call asks for more than its replies entitle it to.** -/
theorem OAuthCall.obeys (call : OAuthCall) :
    Obeys (call.permits d) anyEnd [] (call.program d) := by
  cases call with
  | beginAuthorization userId platform draws =>
    refine Asks.obeys (beginPermits d userId platform draws) ?_ (fun _ _ _ hOp => hOp)
      fun _ _ _ => trivial
    exact (asks_beginAuthorization userId platform draws).bind fun _ => trivial
  | completeCallback callbackRoute query draws =>
    refine (obeys_completeCallback callbackRoute query draws).bind (fun _ result _ => ?_)
      fun _ _ _ => trivial
    cases result <;> trivial
  | selectFacebookPage userId selectionId pageId platform =>
    exact obeys_selectFacebookPage.bind (fun _ _ _ => trivial) fun _ _ _ => trivial

end Calls

end SocialPromotion.OAuth
