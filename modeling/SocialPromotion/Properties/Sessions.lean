import SocialPromotion.Steps.WebCalls

/-!
# Sessions are earned

A browser gets a session from a callback alone, for the code of an authorization that a login of
this very browser has begun, and the proxy reaches the backend with that session only.

* `Started`: a login has sent its browser to the provider;
* `SignIn`: a callback has exchanged its code with the verifier of that login, has had the token
  accepted by the backend, and has handed it to the browser;
* `Earned`: what the jars hold, and what browsers send of them;
* `sessions_earned`: every request to the backend carries a session that its browser has earned
  less than an hour before, and no other site can send one that changes something or log out.
-/

namespace SocialPromotion.Web

open LTS Processes OAuth

-- ---------------------------------------------------------------------------
-- Logins and sign-ins in a record
-- ---------------------------------------------------------------------------

/-- A login of a browser has sent it to the provider, with the state and the challenge of what it
drew. -/
def Started (f : Frontend) (log : List WebExchange) (browser : Nat) (draws : LoginDraws) : Prop :=
  ∃ x ∈ log, x.call = ⟨browser, .login draws⟩ ∧ ∃ response url origin clientId,
    x.question = .respond browser response ∧ response.location = some (.authorization
      ⟨url, authorizationParameters f origin clientId draws⟩)

/-- A callback with the state of a login of its browser: `exchange` gives the token for a code and
the verifier of the login, `check` has it accepted by the backend, and `answer` hands it to the
browser. -/
structure SignIn (f : Frontend) (log : List WebExchange) (browser : Nat) (token : Text)
    (draws : LoginDraws) (exchange check answer : WebExchange) : Prop where
  started : Started f log browser draws
  recorded : exchange ∈ log ∧ check ∈ log ∧ answer ∈ log
  process : check.process = exchange.process ∧ answer.process = exchange.process
  exchanged : ∃ code request, exchange.call = ⟨browser, .callback (some code) (some draws.state)⟩ ∧
    exchange.question = .exchange request ∧ request.body.lookup "code" = some code ∧
    request.body.lookup "code_verifier" = some draws.verifier
  granted : ∃ maxAge, readTokens f exchange.reply.tokens = .ok (token, maxAge)
  accepted : check.question = .check (WebCall.checkUrl f) token ∧
    (check.reply.backend.any fun answer => responseOk answer.1) = true
  stored : ∃ response cookie, answer.question = .respond browser response ∧
    response.promotionSession = some cookie ∧ cookie.value = token

/-- A browser has got a session at a time. -/
def SignedIn (f : Frontend) (log : List WebExchange) (browser : Nat) (token : Text) (since : Time) :
    Prop :=
  ∃ draws exchange check answer, SignIn f log browser token draws exchange check answer ∧
    answer.found.now = since

/-- The milliseconds of an hour. -/
def hour : Rat := 3600000

section Records

variable {f : Frontend} {log more : List WebExchange} {browser : Nat} {token : Text} {since : Time}
  {draws : LoginDraws}

theorem Started.append (h : Started f log browser draws) :
    Started f (log ++ more) browser draws := by
  obtain ⟨x, hMem, hCall⟩ := h
  exact ⟨x, List.mem_append_left _ hMem, hCall⟩

theorem SignedIn.append (h : SignedIn f log browser token since) :
    SignedIn f (log ++ more) browser token since := by
  obtain ⟨draws, exchange, check, answer, hSignIn, hSince⟩ := h
  obtain ⟨hExchange, hCheck, hAnswer⟩ := hSignIn.recorded
  exact ⟨draws, exchange, check, answer, { hSignIn with
    started := hSignIn.started.append
    recorded := ⟨List.mem_append_left _ hExchange, List.mem_append_left _ hCheck,
      List.mem_append_left _ hAnswer⟩ }, hSince⟩

end Records

-- ---------------------------------------------------------------------------
-- The jars
-- ---------------------------------------------------------------------------

theorem jar_setJar (s : Browsers) (b b' : Nat) (jar : CookieJar) :
    (s.setJar b jar).jar b' = if b' = b then jar else s.jar b' := by
  unfold Browsers.jar Browsers.setJar
  split
  · rename_i h
    rw [h, AList.lookup_insert]
    rfl
  · rename_i h
    rw [AList.lookup_insert_ne h]

/-- A login cookie is that of a login of its browser, and a session was earned by its browser, no
earlier than an hour before it expires; so it is with what browsers have sent. -/
structure Earned (f : Frontend) (s : Browsers) (log : List WebExchange) : Prop where
  oauth : ∀ b cookie, (s.jar b).promotionOauth = some cookie →
    ∃ draws, Started f log b draws ∧ cookie.value = draws.cookie
  session : ∀ b cookie, (s.jar b).promotionSession = some cookie →
    ∃ since, SignedIn f log b cookie.value since ∧ cookie.expiresAt ≤ since + hour
  sentOauth : ∀ x ∈ log, ∀ b text, x.question = .cookies b → x.reply.promotionOauth = some text →
    ∃ draws, Started f log b draws ∧ text = draws.cookie
  sentSession : ∀ x ∈ log, ∀ b token, x.question = .cookies b →
    x.reply.promotionSession = some token →
    ∃ since, SignedIn f log b token since ∧ (x.found.now : Rat) < since + hour

section Steps

variable {f : Frontend} {s t : Browsers} {log : List WebExchange} {x : WebExchange}

theorem sent_eq_some {now : Time} {cookie : StoredCookie} {text : Text}
    (h : cookie.sent now = some text) : text = cookie.value ∧ (now : Rat) < cookie.expiresAt := by
  unfold StoredCookie.sent at h
  split at h
  · rename_i hTime
    exact ⟨(Option.some.inj h).symm, hTime⟩
  · cases h

theorem store_eq_some {now : Time} {cookie : SetCookie} {stored : StoredCookie}
    (h : cookie.store now = some stored) :
    0 < cookie.maxAge ∧ stored = ⟨cookie.value, now + cookie.maxAge * 1000⟩ := by
  unfold SetCookie.store at h
  split at h
  · cases h
  · rename_i hAge
    exact ⟨not_le.mp hAge, (Option.some.inj h).symm⟩

/-- The jars stay, and nothing is sent of them. -/
theorem Earned.kept (h : Earned f s log) (hJars : ∀ b, t.jar b = s.jar b)
    (hQuestion : ∀ b, x.question ≠ .cookies b) : Earned f t (log ++ [x]) where
  oauth b cookie hCookie := by
    obtain ⟨draws, hStarted, hValue⟩ := h.oauth b cookie (hJars b ▸ hCookie)
    exact ⟨draws, hStarted.append, hValue⟩
  session b cookie hCookie := by
    obtain ⟨since, hSignedIn, hTime⟩ := h.session b cookie (hJars b ▸ hCookie)
    exact ⟨since, hSignedIn.append, hTime⟩
  sentOauth y hMem b text hAsked hText := by
    rcases List.mem_append.mp hMem with hMem | hMem
    · obtain ⟨draws, hStarted, hCookie⟩ := h.sentOauth y hMem b text hAsked hText
      exact ⟨draws, hStarted.append, hCookie⟩
    · exact absurd (List.mem_singleton.mp hMem ▸ hAsked) (hQuestion b)
  sentSession y hMem b token hAsked hToken := by
    rcases List.mem_append.mp hMem with hMem | hMem
    · obtain ⟨since, hSignedIn, hTime⟩ := h.sentSession y hMem b token hAsked hToken
      exact ⟨since, hSignedIn.append, hTime⟩
    · exact absurd (List.mem_singleton.mp hMem ▸ hAsked) (hQuestion b)

/-- What a browser sends is what its jar holds. -/
theorem Earned.arrived (h : Earned f s log) {b : Nat} (hFound : x.found = s)
    (hQuestion : x.question = .cookies b)
    (hReply : x.reply.promotionOauth = (s.jar b).promotionOauth.bind (StoredCookie.sent s.now) ∧
      x.reply.promotionSession = (s.jar b).promotionSession.bind (StoredCookie.sent s.now)) :
    Earned f s (log ++ [x]) where
  oauth b cookie hCookie := by
    obtain ⟨draws, hStarted, hValue⟩ := h.oauth b cookie hCookie
    exact ⟨draws, hStarted.append, hValue⟩
  session b cookie hCookie := by
    obtain ⟨since, hSignedIn, hTime⟩ := h.session b cookie hCookie
    exact ⟨since, hSignedIn.append, hTime⟩
  sentOauth y hMem b' text hAsked hText := by
    rcases List.mem_append.mp hMem with hMem | hMem
    · obtain ⟨draws, hStarted, hCookie⟩ := h.sentOauth y hMem b' text hAsked hText
      exact ⟨draws, hStarted.append, hCookie⟩
    · obtain rfl := List.mem_singleton.mp hMem
      obtain rfl : b = b' := WebQuestion.cookies.inj (hQuestion.symm.trans hAsked)
      obtain ⟨cookie, hCookie, hSent⟩ := Option.bind_eq_some_iff.mp (hReply.1.symm.trans hText)
      obtain ⟨draws, hStarted, hValue⟩ := h.oauth b cookie hCookie
      exact ⟨draws, hStarted.append, (sent_eq_some hSent).1.trans hValue⟩
  sentSession y hMem b' token hAsked hToken := by
    rcases List.mem_append.mp hMem with hMem | hMem
    · obtain ⟨since, hSignedIn, hTime⟩ := h.sentSession y hMem b' token hAsked hToken
      exact ⟨since, hSignedIn.append, hTime⟩
    · obtain rfl := List.mem_singleton.mp hMem
      obtain rfl : b = b' := WebQuestion.cookies.inj (hQuestion.symm.trans hAsked)
      obtain ⟨cookie, hCookie, hSent⟩ := Option.bind_eq_some_iff.mp (hReply.2.symm.trans hToken)
      obtain ⟨hValue, hNow⟩ := sent_eq_some hSent
      obtain ⟨since, hSignedIn, hTime⟩ := h.session b cookie hCookie
      exact ⟨since, hValue ▸ hSignedIn.append, hFound ▸ lt_of_lt_of_le hNow hTime⟩

/-- A response that sets no cookie but earned ones. -/
theorem Earned.responded (h : Earned f s log) {b : Nat} {response : WebResponse}
    (hQuestion : x.question = .respond b response)
    (hOauth : ∀ set cookie, response.promotionOauth = some set → set.store s.now = some cookie →
      ∃ draws, Started f (log ++ [x]) b draws ∧ cookie.value = draws.cookie)
    (hSession : ∀ set cookie, response.promotionSession = some set →
      set.store s.now = some cookie → ∃ since, SignedIn f (log ++ [x]) b cookie.value since ∧
        cookie.expiresAt ≤ since + hour) :
    Earned f (s.setJar b (Browsers.received s.now (s.jar b) response)) (log ++ [x]) := by
  have hKept : Earned f s (log ++ [x]) :=
    h.kept (fun _ => rfl) fun b' hAsked => by cases hQuestion.symm.trans hAsked
  constructor
  case oauth =>
    intro b' cookie hCookie
    rw [jar_setJar] at hCookie
    split at hCookie
    · rename_i hSame
      subst hSame
      cases hSet : response.promotionOauth with
      | none =>
        simp only [Browsers.received, hSet] at hCookie
        exact hKept.oauth b' cookie hCookie
      | some set =>
        simp only [Browsers.received, hSet] at hCookie
        exact hOauth set cookie hSet hCookie
    · exact hKept.oauth b' cookie hCookie
  case session =>
    intro b' cookie hCookie
    rw [jar_setJar] at hCookie
    split at hCookie
    · rename_i hSame
      subst hSame
      cases hSet : response.promotionSession with
      | none =>
        simp only [Browsers.received, hSet] at hCookie
        exact hKept.session b' cookie hCookie
      | some set =>
        simp only [Browsers.received, hSet] at hCookie
        exact hSession set cookie hSet hCookie
    · exact hKept.session b' cookie hCookie
  case sentOauth => exact hKept.sentOauth
  case sentSession => exact hKept.sentSession

/-- The exchanges of a callback whose token was accepted make a sign-in. -/
theorem signedIn_of_accepted (h : Earned f s log) {b : Nat} {code state : Option Text}
    {response : WebResponse} {session : SetCookie}
    (hCall : x.call = ⟨b, .callback code state⟩)
    (hCalls : ∀ y ∈ log, y.process = x.process → y.call = x.call)
    (hQuestion : x.question = .respond b response) (hSet : response.promotionSession = some session)
    (hAccepted : WebCall.Accepted f b code state session (history x.process log)) :
    SignedIn f (log ++ [x]) b session.value x.found.now ∧ session.maxAge ≤ 3600 := by
  obtain ⟨request, reply, check, ⟨arrival, origin, hTake, hRequest⟩, hDrop, hTokens, hOk⟩ :=
    hAccepted
  have hHistory : history x.process log = [(.cookies b, arrival), (.exchange request, reply),
      (.check (WebCall.checkUrl f) session.value, check)] := by
    rw [← List.take_append_drop 2 (history x.process log), hTake, hDrop]
    rfl
  have hExchange : ∀ e ∈ history x.process log,
      ∃ y ∈ log, y.process = x.process ∧ y.question = e.1 ∧ y.reply = e.2 := by
    intro e hMem
    obtain ⟨y, hY, hProcess, rfl⟩ := mem_history.mp hMem
    exact ⟨y, hY, hProcess, rfl, rfl⟩
  rw [hHistory] at hExchange
  obtain ⟨y₀, hMem₀, -, hAsked₀, hReply₀⟩ := hExchange (.cookies b, arrival) (by simp)
  obtain ⟨y₁, hMem₁, hProcess₁, hAsked₁, hReply₁⟩ := hExchange (.exchange request, reply) (by simp)
  obtain ⟨y₂, hMem₂, hProcess₂, hAsked₂, hReply₂⟩ :=
    hExchange (.check (WebCall.checkUrl f) session.value, check) (by simp)
  -- the cookie that the callback came with is that of a login of the browser
  cases hSaved : arrival.promotionOauth with
  | none =>
    rw [hSaved] at hRequest
    obtain ⟨value, hValue, -⟩ := Keyed.bind_eq_ok.mp hRequest
    cases hValue
  | some text =>
    obtain ⟨draws, hStarted, rfl⟩ := h.sentOauth y₀ hMem₀ b text hAsked₀ (hReply₀ ▸ hSaved)
    rw [hSaved] at hRequest
    obtain ⟨rfl, c, rfl, hCode, hVerifier⟩ := tokenRequest_cookie hRequest
    refine ⟨⟨draws, y₁, y₂, x, ⟨hStarted.append, ?_, ?_, ?_, ?_, ?_, ?_⟩, rfl⟩,
      (readTokens_maxAge hTokens).2⟩
    · exact ⟨List.mem_append_left _ hMem₁, List.mem_append_left _ hMem₂,
        List.mem_append_right _ (List.mem_singleton_self x)⟩
    · exact ⟨hProcess₂.trans hProcess₁.symm, hProcess₁.symm⟩
    · exact ⟨c, request, (hCalls y₁ hMem₁ hProcess₁).trans hCall, hAsked₁, hCode, hVerifier⟩
    · exact ⟨session.maxAge, by rw [hReply₁]; exact hTokens⟩
    · exact ⟨hAsked₂, by rw [hReply₂]; exact hOk⟩
    · exact ⟨response, session, hQuestion, hSet, rfl⟩

/-- **One answer** keeps the jars earned. -/
theorem earned_answer (h : Earned f s log) (hFound : x.found = s)
    (hPermitted : x.call.permits f (history x.process log) x.question)
    (hCalls : ∀ y ∈ log, y.process = x.process → y.call = x.call)
    (hAnswer : s.answer x.process x.question x.world = some (x.reply, t)) :
    Earned f t (log ++ [x]) := by
  cases hQuestion : x.question with
  | cookies b =>
    rw [hQuestion] at hAnswer
    obtain ⟨hReply, rfl⟩ := Prod.mk.inj (Option.some.inj hAnswer)
    exact h.arrived hFound hQuestion (by rw [← hReply]; exact ⟨rfl, rfl⟩)
  | exchange | check | relay =>
    rw [hQuestion] at hAnswer
    obtain ⟨-, rfl⟩ := Prod.mk.inj (Option.some.inj hAnswer)
    exact h.kept (fun _ => rfl) fun b hAsked => by cases hQuestion.symm.trans hAsked
  | respond b response =>
    rw [hQuestion] at hAnswer hPermitted
    obtain ⟨-, rfl⟩ := Prod.mk.inj (Option.some.inj hAnswer)
    obtain ⟨browser, route, hCall⟩ : ∃ browser route, x.call = ⟨browser, route⟩ := ⟨_, _, rfl⟩
    rw [hCall] at hPermitted
    cases route with
    | login draws =>
      obtain ⟨rfl, hNone, hSent⟩ := hPermitted
      refine h.responded hQuestion (fun set cookie hSet hStore => ?_) fun set cookie hSet => ?_
      · obtain ⟨hValue, url, origin, clientId, hLocation⟩ := hSent set hSet
        obtain ⟨-, rfl⟩ := store_eq_some hStore
        exact ⟨draws, ⟨x, List.mem_append_right _ (List.mem_singleton_self x), hCall, response, url,
          origin, clientId, hQuestion, hLocation⟩, hValue⟩
      · rw [hNone] at hSet
        cases hSet
    | callback code state =>
      obtain ⟨rfl, hDeleted, hAccepted⟩ := hPermitted
      refine h.responded hQuestion (fun set cookie hSet hStore => ?_)
        fun set cookie hSet hStore => ?_
      · have hAge := (store_eq_some hStore).1
        rw [hDeleted set hSet] at hAge
        exact absurd hAge (lt_irrefl _)
      · obtain ⟨hSignedIn, hAge⟩ :=
          signedIn_of_accepted h hCall hCalls hQuestion hSet (hAccepted set hSet)
        obtain ⟨-, rfl⟩ := store_eq_some hStore
        refine ⟨x.found.now, hSignedIn, ?_⟩
        show (s.now : Rat) + set.maxAge * 1000 ≤ x.found.now + hour
        rw [hFound, hour]
        linarith
    | logout url origin =>
      obtain ⟨rfl, hNone, hDeleted⟩ := hPermitted
      refine h.responded hQuestion (fun set cookie hSet => ?_) fun set cookie hSet hStore => ?_
      · rw [hNone] at hSet
        cases hSet
      · have hAge := (store_eq_some hStore).1
        rw [(hDeleted set hSet).1] at hAge
        exact absurd hAge (lt_irrefl _)
    | proxy request =>
      obtain ⟨rfl, hOauth, hSession⟩ := hPermitted
      refine h.responded hQuestion (fun set cookie hSet => ?_) fun set cookie hSet => ?_
      · rw [hOauth] at hSet
        cases hSet
      · rw [hSession] at hSet
        cases hSet

end Steps

-- ---------------------------------------------------------------------------
-- Every run
-- ---------------------------------------------------------------------------

section Runs

variable {f : Frontend} {s : WebState} {log : List WebExchange}

/-- What cookies and records stand for, in every state of every run. -/
theorem earned (h : Reachable (webSystem f) anyStep (s, log)) : Earned f s.shared log := by
  refine Processes.holds (I := Earned f) WebCall.obeys ?_ ?_ ?_ h
  · intro shared hInitial
    have hJar : ∀ b, shared.jar b = {} := by
      intro b
      unfold Browsers.jar
      rw [show shared.jars = ∅ from hInitial, AList.lookup_empty]
      rfl
    refine ⟨fun b cookie hCookie => ?_, fun b cookie hCookie => ?_, List.forall_mem_nil _,
      List.forall_mem_nil _⟩
    · rw [hJar] at hCookie
      cases hCookie
    · rw [hJar] at hCookie
      cases hCookie
  · intro shared log own shared' hEarned hOwn
    cases own with
    | tick ms =>
      obtain rfl := Option.some.inj hOwn
      exact ⟨hEarned.oauth, hEarned.session, hEarned.sentOauth, hEarned.sentSession⟩
    | clear browser =>
      obtain rfl := Option.some.inj hOwn
      refine ⟨fun b cookie hCookie => ?_, fun b cookie hCookie => ?_, hEarned.sentOauth,
        hEarned.sentSession⟩
      · rw [jar_setJar] at hCookie
        split at hCookie
        · cases hCookie
        · exact hEarned.oauth b cookie hCookie
      · rw [jar_setJar] at hCookie
        split at hCookie
        · cases hCookie
        · exact hEarned.session b cookie hCookie
  · intro s log x shared _ hEarned hFound hPermitted hCalls hAnswer
    exact earned_answer hEarned hFound hPermitted hCalls hAnswer

/-- What the backend is asked through the proxy, and who can log out. -/
structure SessionsEarned (f : Frontend) (log : List WebExchange) : Prop where
  /-- A request carries a session that its browser has earned less than an hour before it came. It
  goes to one of the roots of the backend, along plain segments, with the body as it came; and if it
  is more than a GET, it came from a page of the application. -/
  relayed : ∀ before x after request, log = before ++ x :: after → x.question = .relay request →
    ∃ asked token since, x.call.route = .proxy asked ∧
      SignedIn f before x.call.browser token since ∧
      request.authorization = "Bearer ".toList ++ token ∧
      (∃ y ∈ before, y.process = x.process ∧ y.question = .cookies x.call.browser ∧
        (y.found.now : Rat) < since + hour) ∧
      (∃ base, f.setting "BACKEND_API_URL" = some base ∧ request.url = backendUrl base asked) ∧
      allowedPath asked.path = true ∧ request.method = asked.method ∧
      request.contentType = asked.contentType.getD "application/json".toList ∧
      BodyAsItCame asked request.body ∧
      (asked.method ≠ .GET → ∃ own, ownOrigin f asked.url = .ok own ∧ asked.origin = some own)
  /-- A session is deleted for a page of the application. -/
  loggedOut : ∀ x ∈ log, ∀ b response session, x.question = .respond b response →
    response.promotionSession = some session → session.maxAge ≤ 0 →
    ∃ url own, x.call = ⟨b, .logout url (some own)⟩ ∧ ownOrigin f url = .ok own

/-- What comes from no page of the application is a GET. -/
theorem foreign_eq_ok {request : ProxyRequest} (h : foreign f request = .ok false)
    (hMethod : request.method ≠ .GET) :
    ∃ own, ownOrigin f request.url = .ok own ∧ request.origin = some own := by
  rw [foreign, if_neg hMethod] at h
  cases hOwn : ownOrigin f request.url with
  | error e =>
    rw [hOwn] at h
    cases h
  | ok own =>
    rw [hOwn] at h
    exact ⟨own, rfl, not_not.mp (of_decide_eq_false (Except.ok.inj h))⟩

/-- **Sessions are earned**, however the requests of all browsers and the answers of the provider
and of the backend interleave. -/
theorem sessions_earned (h : Reachable (webSystem f) anyStep (s, log)) : SessionsEarned f log := by
  constructor
  case relayed =>
    intro before x after request hSplit hQuestion
    obtain ⟨s', t, next, hReach, hAnswered⟩ := made h before x after hSplit
    have hEarned := earned hReach
    have hPermitted := (conducted WebCall.obeys hReach).permitted hAnswered
    obtain ⟨browser, route, hCall⟩ : ∃ browser route, x.call = ⟨browser, route⟩ := ⟨_, _, rfl⟩
    rw [hCall, hQuestion] at hPermitted
    cases route with
    | login draws => exact hPermitted.elim
    | callback code state => exact hPermitted.elim
    | logout url origin => exact hPermitted.elim
    | proxy asked =>
      obtain ⟨arrival, token, base, hHistory, hToken, hBase, hMethod, hUrl, hBearer, hType, hBody,
        hPath, hForeign⟩ := hPermitted
      obtain ⟨y, hMem, hProcess, hAsked⟩ := mem_history.mp
        (hHistory ▸ List.mem_singleton_self (WebQuestion.cookies browser, arrival))
      obtain ⟨hAsked, hReply⟩ := Prod.mk.inj hAsked
      obtain ⟨since, hSignedIn, hTime⟩ :=
        hEarned.sentSession y hMem browser token hAsked (hReply ▸ hToken)
      rw [hCall]
      exact ⟨asked, token, since, rfl, hSignedIn, hBearer, ⟨y, hMem, hProcess, hAsked, hTime⟩,
        ⟨base, hBase, hUrl⟩, hPath, hMethod, hType, hBody, foreign_eq_ok hForeign⟩
  case loggedOut =>
    intro x hMem b response session hQuestion hSet hAge
    obtain ⟨before, after, hSplit⟩ := List.append_of_mem hMem
    have hPermitted : x.call.permits f (history x.process before) x.question :=
      (conducted WebCall.obeys h).asked before x after hSplit
    obtain ⟨browser, route, hCall⟩ : ∃ browser route, x.call = ⟨browser, route⟩ := ⟨_, _, rfl⟩
    rw [hCall, hQuestion] at hPermitted
    cases route with
    | login draws =>
      obtain ⟨-, hNone, -⟩ := hPermitted
      rw [hNone] at hSet
      cases hSet
    | callback code state =>
      obtain ⟨-, -, hAccepted⟩ := hPermitted
      obtain ⟨_, reply, _, -, -, hTokens, -⟩ := hAccepted session hSet
      exact absurd (le_trans (readTokens_maxAge hTokens).1 hAge) (by norm_num)
    | logout url origin =>
      obtain ⟨rfl, -, hDeleted⟩ := hPermitted
      obtain ⟨-, own, hOwn, rfl⟩ := hDeleted session hSet
      exact ⟨url, own, hCall, hOwn⟩
    | proxy request =>
      obtain ⟨-, -, hNone⟩ := hPermitted
      rw [hNone] at hSet
      cases hSet

end Runs

-- ---------------------------------------------------------------------------
-- A run
-- ---------------------------------------------------------------------------

namespace Visit

def frontend : Frontend where
  env name := if name = "APP_ORIGIN" then some "https://app".toList else some "https://x".toList
  parseUrl text := some ⟨"https:".toList, text⟩
  resolveUrl path base := some (base ++ path)
  challenge := id
  otherText _ := []
  number _ := .nan

def draws : LoginDraws :=
  ⟨⟨List.replicate 32 (.ofNat 1), rfl⟩, ⟨List.replicate 48 (.ofNat 2), rfl⟩⟩

def start : Browsers := ⟨0, ∅⟩

theorem start_initial (f : Frontend) : (webSystem f).Initial (⟨start, []⟩, []) := ⟨⟨rfl, rfl⟩, rfl⟩

/-- The provider gives a token, and the backend finds all well. -/
def answered (call : Nat) : Processes.Event WebCall Browsers.World Browsers.Own :=
  .answer call ⟨.response ⟨200, fun _ => none, .ok (.object [("access_token", .string ['t'])])⟩,
    some (200, none, [])⟩

def post : ProxyRequest where
  method := .POST
  url := []
  search := []
  path := ["posts".toList]
  origin := some "https://app".toList
  contentType := none
  body := some ⟨[[1, 2], [3]], false⟩

/-- Browser 7 logs in, comes back, and posts. -/
def events : List (Processes.Event WebCall Browsers.World Browsers.Own) :=
  [.start ⟨7, .login draws⟩, answered 0, .start ⟨7, .callback (some ['c']) (some draws.state)⟩,
    answered 1, answered 1, answered 1, answered 1, .own (.tick 3599999), .start ⟨7, .proxy post⟩,
    answered 2, answered 2]

def isRelay (x : WebExchange) : Bool :=
  match x.question with
  | .relay request =>
    request.authorization = "Bearer t".toList ∧ request.body = some [1, 2, 3]
  | _ => false

end Visit

/-- A request is relayed in the last millisecond of a session. -/
theorem sessions_earned_visit : ∃ log : List WebExchange,
    (∃ x ∈ log, Visit.isRelay x = true) ∧ SessionsEarned Visit.frontend log := by
  obtain ⟨⟨s, log⟩, hReach, hLog⟩ := exists_reachable_of_run (webSystem Visit.frontend) anyStep
    (fun s => s.2.any Visit.isRelay) Visit.events (Visit.start_initial _) (by decide +kernel)
  exact ⟨log, List.any_eq_true.mp hLog, sessions_earned hReach⟩

end SocialPromotion.Web
