import SocialPromotion.Model.Sessions
import SocialPromotion.Properties.AuthenticationErrors

/-!
# What a route handler may ask for

Each handler exchanges a code, stores a session or reaches the backend only after the replies that
entitle it to.

* `savedState_cookie`: the callback reads in the cookie of a login what the login drew;
* `relayBody_eq_ok`: a body that is relayed is the stream as it came, all of it and within the bound;
* `WebCall.permits`, `WebCall.obeys`: no handler asks for more, whatever it is told.
-/

namespace SocialPromotion.Web

open Program OAuth ServiceJwtVerifier

abbrev WebHistory := List (WebQuestion × WebReply)

-- ---------------------------------------------------------------------------
-- Checks and readers
-- ---------------------------------------------------------------------------

section Readers

variable {f : Frontend}

theorem plain_digit (n : Nat) (h : n < 64) : JsonText.isPlain (Base64url.digit n) = true := by
  interval_cases n
  all_goals rfl

/-- Base64url needs no escape in JSON. -/
theorem plain_encode (octets : List UInt8) : JsonText.IsPlain (Base64url.encode octets) := by
  have hOctet : ∀ a : UInt8, a.toNat < 256 := UInt8.toNat_lt
  intro c hMem
  induction octets using Base64url.encode.induct with
  | case1 => cases hMem
  | case2 a =>
    have hA := hOctet a
    simp only [Base64url.encode, List.mem_cons, List.not_mem_nil, or_false] at hMem
    rcases hMem with rfl | rfl
    all_goals exact plain_digit _ (by omega)
  | case3 a b =>
    have hA := hOctet a
    have hB := hOctet b
    simp only [Base64url.encode, List.mem_cons, List.not_mem_nil, or_false] at hMem
    rcases hMem with rfl | rfl | rfl
    all_goals exact plain_digit _ (by omega)
  | case4 a b c' rest ih =>
    have hA := hOctet a
    have hB := hOctet b
    have hC := hOctet c'
    simp only [Base64url.encode, List.mem_cons] at hMem
    rcases hMem with rfl | rfl | rfl | rfl | hMem
    case inr.inr.inr.inr => exact ih hMem
    all_goals exact plain_digit _ (by omega)

/-- The callback reads in the cookie of a login what the login drew. -/
theorem savedState_cookie (draws : LoginDraws) : savedState (some draws.cookie) =
    .ok (.object [("state".toList, .string draws.state),
      ("verifier".toList, .string draws.verifier)]) := by
  have hNames : JsonText.IsPlain "state".toList ∧ JsonText.IsPlain "verifier".toList :=
    ⟨List.all_eq_true.mp rfl, List.all_eq_true.mp rfl⟩
  have hPlain : ∀ e ∈ [("state".toList, draws.state), ("verifier".toList, draws.verifier)],
      JsonText.IsPlain e.1 ∧ JsonText.IsPlain e.2 := by
    intro e hMem
    simp only [List.mem_cons, List.not_mem_nil, or_false] at hMem
    rcases hMem with rfl | rfl
    · exact ⟨hNames.1, plain_encode _⟩
    · exact ⟨hNames.2, plain_encode _⟩
  have hParse : JsonText.parse draws.cookie = some (.object
      [("state".toList, .string draws.state), ("verifier".toList, .string draws.verifier)]) :=
    JsonText.parse_stringify (List.cons_ne_nil _ _) hPlain
  have hFilter : (some draws.cookie).filter (fun text => !text.isEmpty) = some draws.cookie := rfl
  rw [savedState, hFilter]
  dsimp only
  rw [hParse]
  rfl

/-- A callback with the cookie of a login exchanges its code with the verifier of the login, whose
state it was sent. -/
theorem tokenRequest_cookie {origin : Text} {draws : LoginDraws} {code state : Option Text}
    {request : TokenRequest}
    (h : tokenRequest f origin (some draws.cookie) code state = .ok request) :
    state = some draws.state ∧ ∃ c, code = some c ∧ request.body.lookup "code" = some c ∧
      request.body.lookup "code_verifier" = some draws.verifier := by
  unfold tokenRequest at h
  rw [savedState_cookie] at h
  obtain ⟨saved, hSaved, h⟩ := Keyed.bind_eq_ok.mp h
  obtain rfl := Except.ok.inj hSaved
  split at h
  · cases h
  · rename_i c hCode
    obtain ⟨⟨⟩, hState, h⟩ := Keyed.bind_eq_ok.mp h
    obtain ⟨url, -, h⟩ := Keyed.bind_eq_ok.mp h
    obtain ⟨⟨⟩, -, h⟩ := Keyed.bind_eq_ok.mp h
    obtain rfl := Except.ok.inj h
    have hSame : decide (state = some draws.state) = true := require_eq_ok.mp hState
    exact ⟨of_decide_eq_true hSame, c, (Option.filter_eq_some_iff.mp hCode).1, rfl, rfl⟩

theorem sessionMaxAge_bounds (n : JsNumber) : 1 ≤ sessionMaxAge n ∧ sessionMaxAge n ≤ 3600 := by
  have hHour : (1 : Rat) ≤ 3600 := by norm_num
  cases n with
  | nan => exact ⟨hHour, le_refl _⟩
  | infinity negative =>
    cases negative
    · exact ⟨hHour, le_refl _⟩
    · exact ⟨le_refl _, hHour⟩
  | finite value =>
    rw [sessionMaxAge]
    split
    · exact ⟨hHour, le_refl _⟩
    · exact ⟨le_min hHour (le_max_left 1 value), min_le_left _ _⟩

theorem readTokens_maxAge {tokens : FetchAnswer} {token : Text} {maxAge : Rat}
    (h : readTokens f tokens = .ok (token, maxAge)) : 1 ≤ maxAge ∧ maxAge ≤ 3600 := by
  unfold readTokens at h
  split at h
  · cases h
  · obtain ⟨tokens, -, h⟩ := Keyed.bind_eq_ok.mp h
    obtain ⟨⟨⟩, -, h⟩ := Keyed.bind_eq_ok.mp h
    split at h
    · cases h
    · split at h
      · obtain ⟨-, rfl⟩ := Prod.mk.inj (Except.ok.inj h)
        exact sessionMaxAge_bounds _
      · cases h
    · cases h

/-- The loop of `boundedBody` gives all chunks, and never more octets than the bound. -/
theorem readChunks_eq_ok {fails : Bool} {rest chunks result : List (List UInt8)} {size : Nat}
    (hSize : size = chunks.flatten.length) (hBound : size ≤ maximumBody)
    (h : readChunks fails rest size chunks = .ok result) :
    result = chunks ++ rest ∧ fails = false ∧ result.flatten.length ≤ maximumBody := by
  induction rest generalizing size chunks with
  | nil =>
    rw [readChunks] at h
    split at h
    · cases h
    · rename_i hFails
      obtain rfl := Except.ok.inj h
      exact ⟨(List.append_nil _).symm, Bool.eq_false_of_not_eq_true hFails, hSize ▸ hBound⟩
  | cons value rest ih =>
    rw [readChunks] at h
    split at h
    · cases h
    · rename_i hFits
      obtain ⟨rfl, hEnds, hLength⟩ := ih (by simp [hSize]) (Nat.le_of_not_lt hFits) h
      exact ⟨by simp, hEnds, hLength⟩

/-- A request has the body of another one: none where it is a GET or a HEAD, and else the octets of
the whole stream, if there is one. -/
def BodyAsItCame (asked : ProxyRequest) (body : Option (List UInt8)) : Prop :=
  if asked.method = .GET ∨ asked.method = .HEAD then body = none
  else body = asked.body.map (fun stream => stream.chunks.flatten) ∧
    ∀ stream ∈ asked.body, stream.fails = false ∧ stream.chunks.flatten.length ≤ maximumBody

/-- A body that is relayed is the stream as it came, all of it and within the bound. -/
theorem relayBody_eq_ok {request : ProxyRequest} {body : Option (List UInt8)}
    (h : relayBody request = .ok body) : BodyAsItCame request body := by
  unfold relayBody at h
  unfold BodyAsItCame
  split at h
  · rename_i hMethod
    rw [if_pos hMethod]
    exact (Except.ok.inj h).symm
  · rename_i hMethod
    rw [if_neg hMethod]
    cases hStream : request.body with
    | none =>
      rw [hStream] at h
      exact ⟨(Except.ok.inj h).symm, fun _ hMem => by cases hMem⟩
    | some stream =>
      rw [hStream, boundedBody] at h
      cases hChunks : readChunks stream.fails stream.chunks 0 [] with
      | error e =>
        rw [hChunks] at h
        cases h
      | ok chunks =>
        rw [hChunks] at h
        obtain rfl := Except.ok.inj h
        have hNone : 0 = ([] : List (List UInt8)).flatten.length := rfl
        obtain ⟨rfl, hEnds, hLength⟩ := readChunks_eq_ok hNone (Nat.zero_le _) hChunks
        refine ⟨rfl, fun _ hMem => ?_⟩
        obtain rfl := Option.some.inj hMem
        exact ⟨hEnds, hLength⟩

end Readers

-- ---------------------------------------------------------------------------
-- Permissions
-- ---------------------------------------------------------------------------

namespace WebCall

section Permits

variable (f : Frontend) (browser : Nat)

def loginPermits (draws : LoginDraws) : WebQuestion → Prop
  | .respond b response => b = browser ∧ response.promotionSession = none ∧
    ∀ cookie, response.promotionOauth = some cookie → cookie.value = draws.cookie ∧
      ∃ url origin clientId, response.location = some (.authorization
        ⟨url, authorizationParameters f origin clientId draws⟩)
  | _ => False

/-- A callback has sent its code with the verifier in its cookie. -/
def Exchanged (code state : Option Text) (request : TokenRequest) (reply : WebReply)
    (history : WebHistory) : Prop :=
  ∃ arrival origin, history = [(.cookies browser, arrival), (.exchange request, reply)] ∧
    tokenRequest f origin arrival.promotionOauth code state = .ok request

/-- Where a callback asks for the integrations. -/
def checkUrl : Text :=
  (f.env "BACKEND_API_URL").getD "undefined".toList ++ "/integrations".toList

/-- A callback has had its token accepted by the backend. -/
def Accepted (code state : Option Text) (session : SetCookie) (history : WebHistory) : Prop :=
  ∃ request reply check, Exchanged f browser code state request reply (history.take 2) ∧
    history.drop 2 = [(.check (checkUrl f) session.value, check)] ∧
    readTokens f reply.tokens = .ok (session.value, session.maxAge) ∧
    (check.backend.any fun answer => responseOk answer.1) = true

def callbackPermits (code state : Option Text) (history : WebHistory) : WebQuestion → Prop
  | .cookies b => b = browser ∧ history = []
  | .exchange request => ∃ arrival origin, history = [(.cookies browser, arrival)] ∧
    tokenRequest f origin arrival.promotionOauth code state = .ok request
  | .check url token => url = checkUrl f ∧ ∃ request reply maxAge,
    Exchanged f browser code state request reply history ∧
      readTokens f reply.tokens = .ok (token, maxAge)
  | .respond b response => b = browser ∧
    (∀ cookie, response.promotionOauth = some cookie → cookie.maxAge = 0) ∧
    ∀ session, response.promotionSession = some session →
      Accepted f browser code state session history
  | .relay _ => False

def logoutPermits (url : Text) (origin : Option Text) : WebQuestion → Prop
  | .respond b response => b = browser ∧ response.promotionOauth = none ∧
    ∀ session, response.promotionSession = some session → session.maxAge = 0 ∧
      ∃ own, ownOrigin f url = .ok own ∧ origin = some own
  | _ => False

def proxyPermits (request : ProxyRequest) (history : WebHistory) : WebQuestion → Prop
  | .cookies b => b = browser ∧ history = [] ∧ allowedPath request.path = true ∧
    foreign f request = .ok false
  | .relay relayed => ∃ arrival token base, history = [(.cookies browser, arrival)] ∧
    arrival.promotionSession = some token ∧ f.setting "BACKEND_API_URL" = some base ∧
    relayed.method = request.method ∧ relayed.url = backendUrl base request ∧
    relayed.authorization = "Bearer ".toList ++ token ∧
    relayed.contentType = request.contentType.getD "application/json".toList ∧
    BodyAsItCame request relayed.body ∧ allowedPath request.path = true ∧
    foreign f request = .ok false
  | .respond b response => b = browser ∧ response.promotionOauth = none ∧
    response.promotionSession = none
  | _ => False

end Permits

/-- What a handler may ask after its exchanges so far. -/
def permits (f : Frontend) (call : WebCall) (history : WebHistory) : WebQuestion → Prop :=
  match call.route with
  | .login draws => loginPermits f call.browser draws
  | .callback code state => callbackPermits f call.browser code state history
  | .logout url origin => logoutPermits f call.browser url origin
  | .proxy request => proxyPermits f call.browser request history

end WebCall

section Obeys

variable {f : Frontend} {browser : Nat}

theorem obeys_respond {permits : WebHistory → WebQuestion → Prop} {history : WebHistory}
    {response : WebResponse} (h : permits history (.respond browser response)) :
    Obeys permits anyEnd history (respond browser response) :=
  ⟨h, fun _ => trivial⟩

theorem obeys_login (draws : LoginDraws) :
    Obeys (fun _ => WebCall.loginPermits f browser draws) anyEnd [] (login f browser draws) := by
  unfold login
  split
  · refine Obeys.lift_bind (fun url _ => ?_) fun _ _ => trivial
    split
    · exact obeys_respond ⟨rfl, rfl, fun cookie h => by cases h⟩
    · refine obeys_respond ⟨rfl, rfl, fun cookie h => ?_⟩
      obtain rfl := Option.some.inj h
      exact ⟨rfl, _, _, _, rfl⟩
  · exact obeys_respond ⟨rfl, rfl, fun cookie h => by cases h⟩

/-- The `try` block ends well only where the backend has accepted the token. -/
theorem obeys_signIn {origin : Text} {code state : Option Text} {arrival : WebReply} :
    Obeys (WebCall.callbackPermits f browser code state)
      (fun xs result => ∀ token maxAge, result = .ok (token, maxAge) →
        WebCall.Accepted f browser code state ⟨token, maxAge⟩ xs)
      [(.cookies browser, arrival)] (signIn f origin arrival.promotionOauth code state) := by
  have hNot : ∀ (xs : WebHistory) (e : ThrownError) (token : Text) (maxAge : Rat),
      (.error e : Except ThrownError (Text × Rat)) = .ok (token, maxAge) →
      WebCall.Accepted f browser code state ⟨token, maxAge⟩ xs := by
    intro xs e token maxAge h
    cases h
  unfold signIn
  refine Obeys.lift_bind (fun request hRequest => ?_) fun e _ => hNot _ e
  refine Obeys.ask_bind ⟨arrival, origin, rfl, hRequest⟩ fun exchange => ?_
  refine Obeys.lift_bind (fun tokens hTokens => ?_) fun e _ => hNot _ e
  obtain ⟨token, maxAge⟩ := tokens
  have hExchanged : WebCall.Exchanged f browser code state request exchange
      ([(.cookies browser, arrival)] ++ [(.exchange request, exchange)]) :=
    ⟨arrival, origin, rfl, hRequest⟩
  refine Obeys.ask_bind ⟨rfl, request, exchange, maxAge, hExchanged, hTokens⟩ fun check => ?_
  refine Obeys.lift_bind (fun _ hCheck => ?_) fun e _ => hNot _ e
  intro token' maxAge' hEnd
  obtain ⟨rfl, rfl⟩ := Prod.mk.inj (Except.ok.inj hEnd)
  exact ⟨request, exchange, check, hExchanged, rfl, hTokens, require_eq_ok.mp hCheck⟩

/-- The callback sets a session only from the token that the backend gave for its code and its state. -/
theorem obeys_callback (code state : Option Text) :
    Obeys (WebCall.callbackPermits f browser code state) anyEnd []
      (callback f browser code state) := by
  unfold callback
  refine Obeys.ask_bind ⟨rfl, rfl⟩ fun arrival => ?_
  split
  · exact obeys_respond ⟨rfl, fun cookie h => (by cases h), fun session h => by cases h⟩
  · rename_i origin _
    refine Obeys.lift_bind (fun home _ => ?_) fun _ _ => trivial
    have hTry : Obeys (WebCall.callbackPermits f browser code state)
        (fun xs result => ∀ token maxAge, result = .ok (some (token, maxAge)) →
          WebCall.Accepted f browser code state ⟨token, maxAge⟩ xs)
        ([] ++ [(.cookies browser, arrival)])
        (Program.catching
          (do return some (← signIn f origin arrival.promotionOauth code state))
          fun _ => return none) := by
      have hSignIn : Obeys (WebCall.callbackPermits f browser code state)
          (fun xs result => ∀ token maxAge, result = .ok (some (token, maxAge)) →
            WebCall.Accepted f browser code state ⟨token, maxAge⟩ xs)
          ([] ++ [(.cookies browser, arrival)])
          (do return some (← signIn f origin arrival.promotionOauth code state)) := by
        refine obeys_signIn.bind ?_ ?_
        · intro xs session h token maxAge hEnd
          obtain rfl := Option.some.inj (Except.ok.inj hEnd)
          exact h token maxAge rfl
        · intro xs e _ token maxAge hEnd
          cases hEnd
      refine hSignIn.catching (fun xs session h => h) ?_
      intro xs e _ token maxAge hEnd
      cases Except.ok.inj hEnd
    refine hTry.bind (fun xs session hSession => ?_) fun _ _ _ => trivial
    split
    · rename_i token maxAge
      refine obeys_respond ⟨rfl, fun cookie h => ?_, fun session h => ?_⟩
      · obtain rfl := Option.some.inj h
        rfl
      · obtain rfl := Option.some.inj h
        exact hSession token maxAge rfl
    · refine Obeys.lift_bind (fun failed _ => ?_) fun _ _ => trivial
      refine obeys_respond ⟨rfl, fun cookie h => ?_, fun session h => by cases h⟩
      obtain rfl := Option.some.inj h
      rfl

theorem obeys_logout (url : Text) (origin : Option Text) :
    Obeys (fun _ => WebCall.logoutPermits f browser url origin) anyEnd []
      (logout f browser url origin) := by
  unfold logout
  refine Obeys.lift_bind (fun own hOwn => ?_) fun _ _ => trivial
  split
  · exact obeys_respond ⟨rfl, rfl, fun session h => by cases h⟩
  · rename_i hOrigin
    refine Obeys.lift_bind (fun home _ => ?_) fun _ _ => trivial
    refine obeys_respond ⟨rfl, rfl, fun session h => ?_⟩
    obtain rfl := Option.some.inj h
    exact ⟨rfl, own, hOwn, not_not.mp hOrigin⟩

/-- The proxy relays a request of an allowed path with the session of its browser, and sets no cookie. -/
theorem obeys_proxy (request : ProxyRequest) :
    Obeys (WebCall.proxyPermits f browser request) anyEnd [] (proxy f browser request) := by
  have hPlain : ∀ (history : WebHistory) (response : WebResponse),
      response.promotionOauth = none → response.promotionSession = none →
      Obeys (WebCall.proxyPermits f browser request) anyEnd history (respond browser response) :=
    fun history response hOauth hSession => obeys_respond ⟨rfl, hOauth, hSession⟩
  unfold proxy
  split
  · exact hPlain _ _ rfl rfl
  · rename_i hPath
    have hAllowed : allowedPath request.path = true := not_not.mp hPath
    refine Obeys.lift_bind (fun isForeign hForeign => ?_) fun _ _ => trivial
    cases isForeign with
    | true => exact hPlain _ _ rfl rfl
    | false =>
      refine Obeys.ask_bind ⟨rfl, rfl, hAllowed, hForeign⟩ fun arrival => ?_
      split
      · exact hPlain _ _ rfl rfl
      · rename_i token hToken
        have hSession := (Option.filter_eq_some_iff.mp hToken).1
        split
        · exact hPlain _ _ rfl rfl
        · rename_i base hBase
          unfold relay
          split
          · exact hPlain _ _ rfl rfl
          · exact hPlain _ _ rfl rfl
          · rename_i body hBody
            refine Obeys.ask_bind ⟨arrival, token, base, rfl, hSession, hBase, rfl, rfl, rfl, rfl,
              relayBody_eq_ok hBody, hAllowed, hForeign⟩ fun reply => ?_
            split
            · exact hPlain _ _ rfl rfl
            · exact hPlain _ _ rfl rfl

/-- **No handler asks for more** than it is permitted, whatever it is told. -/
theorem WebCall.obeys (call : WebCall) :
    Obeys (call.permits f) anyEnd [] (call.program f) := by
  obtain ⟨browser, route⟩ := call
  cases route with
  | login draws => exact obeys_login draws
  | callback code state => exact obeys_callback code state
  | logout url origin => exact obeys_logout url origin
  | proxy request => exact obeys_proxy request

end Obeys

end SocialPromotion.Web
