import SocialPromotion.Sending.Hindrances

/-!
# The checklists of four adapters

For each of them, everything that can stand between a post and its publish request, in the
order in which it comes to it; `o` reads off the reply what hinders that request
itself.

Results:

* `reaches_linkedIn`, `reaches_facebook`, `reaches_threads` and `reaches_instagram`: an adapter
  is hindered by the first entry of its list, or makes the request.
-/

namespace SocialPromotion

open Program

/-- A text that `new URL` takes for an HTTPS URL. -/
def isHttps (s : Surroundings) (text : Text) : Bool :=
  (s.cfg.parseUrl text).any fun url => url.protocol = "https:"

section Checks

variable {quiet : Request × Reply → Prop} {replies : Nat → Reply} {n m : Nat} {s : Surroundings}
  {α : Type} {o : Option Hindrance}

theorem httpsUrl_eq (message : String) {text : Text} (h : isHttps s text = true) :
    httpsUrl s message text = .ok (s.href text) := by
  obtain ⟨url, hUrl, hProtocol⟩ := Option.any_eq_true _ _ |>.mp h
  simp only [httpsUrl, Surroundings.newUrl, hUrl]
  exact congrArg (· >>= fun _ => Except.ok (s.href text)) (if_pos (of_decide_eq_true hProtocol))

theorem httpsUrl_isOk (message : String) {text href : Text}
    (h : httpsUrl s message text = .ok href) : isHttps s text = true ∧ href = s.href text := by
  unfold httpsUrl Surroundings.newUrl at h
  cases hUrl : s.cfg.parseUrl text with
  | none => simp only [hUrl] at h; cases h
  | some url =>
    simp only [hUrl, require, Bind.bind, Except.bind] at h
    by_cases hProtocol : url.protocol = "https:"
    · rw [if_pos hProtocol] at h
      exact ⟨by simp [isHttps, hUrl, hProtocol], (Except.ok.inj h).symm⟩
    · rw [if_neg hProtocol] at h
      cases h

theorem failing_https (message : String) (text : Text) :
    failing (httpsUrl s message text) .input = unmet (isHttps s text) .input := by
  unfold unmet
  cases hUrl : httpsUrl s message text with
  | ok href =>
    rw [if_pos (httpsUrl_isOk message hUrl).1]
    rfl
  | error e =>
    rw [if_neg fun h => nomatch (httpsUrl_eq message h).symm.trans hUrl]
    rfl

theorem hindered_https (message : String) (text : Text) :
    (liftM (httpsUrl s message text) : Promise Text).Hindered quiet Hindrance.Shows replies n
      (unmet (isHttps s text) .input) n := by
  rw [← failing_https message text]
  exact hindered_lift .input (httpsUrl_fails _ _) not_false

/-- A computation that fails no more hinders no more. -/
theorem failing_bind {β : Type} {result : Except ThrownError α} {f : α → Except ThrownError β}
    (hindrance : Hindrance) (h : ∀ a, ∃ b, f a = .ok b) :
    failing (result >>= f) hindrance = failing result hindrance := by
  cases result with
  | error e => rfl
  | ok a =>
    obtain ⟨b, hOk⟩ := h a
    exact congrArg (failing · hindrance) hOk

theorem hindered_configuredUrl (name : String) :
    (liftM (configuredUrl s name) : Promise Text).Hindered quiet Hindrance.Shows replies n
      (failing (configuredUrl s name) .configuration) n :=
  hindered_lift .configuration (configuredUrl_fails _) not_false

/-- The check that a post is for this adapter at all. -/
theorem hindered_platform {c : Prop} [Decidable c] (message : String) :
    (liftM (require c (.typeError message)) : Promise Unit).Hindered quiet Hindrance.Shows replies
      n (unmet c .input) n :=
  hindered_require .input (ambiguous_typeError _) not_false

end Checks

/-- Publish requests are not quiet, and `o` says what hinders one of them; what is no request to
a provider is. -/
structure CountsPublishing (quiet : Request × Reply → Prop) (replies : Nat → Reply)
    (o : Reply → Option Hindrance) : Prop where
  others : ∀ x : Request × Reply, x.1.isFetch = false → quiet x
  fetch : ∀ provider input n, input.publishes = true →
    (fetchOk provider input).Reaches quiet Hindrance.Shows replies n (o (replies n))

/-- The preparatory requests are quiet too. -/
structure CountsOnlyPublishing (quiet : Request × Reply → Prop) (replies : Nat → Reply)
    (o : Reply → Option Hindrance) : Prop extends CountsPublishing quiet replies o where
  prepares : ∀ x : Request × Reply, x.1.publishes = false → quiet x

/-! ## LinkedIn -/

namespace LinkedInAdapter

/-- What the adapter asks of the media and the link. -/
def shapeHindrance (s : Surroundings) (media : List PostMedia) (url : Text) : Option Hindrance :=
  match media, url with
  | [], [] => none
  | [], c :: rest => unmet (isHttps s (c :: rest)) .input
  | [media], _ => unmet ((urnPrefix media.type).isPrefixOf media.url) .input
  | _, _ => some .input

/-- From the commentary on. -/
def postHindrance (s : Surroundings) (commentary : Text) (replies : Nat → Reply)
    (o : Reply → Option Hindrance) : Option Hindrance :=
  unmet (trim commentary ≠ []) .input <|>
    credentialHindrance LinkedInCredentialService s writeScopes (replies 0) (replies 1) <|>
    failing (configuredUrl s "LINKEDIN_POSTS_URL") .configuration <|>
    unmet ((s.setting "LINKEDIN_API_VERSION").any fun version => isDigits version 6)
      .configuration <|> o (replies 2)

def hindrance (s : Surroundings) (post : SocialPost) (replies : Nat → Reply)
    (o : Reply → Option Hindrance) : Option Hindrance :=
  unmet (post.platform = .linkedin) .input <|>
    shapeHindrance s post.media (post.destinationUrl.getD []) <|>
    postHindrance s post.body replies o

end LinkedInAdapter

section LinkedIn

variable {quiet : Request × Reply → Prop} {replies : Nat → Reply} {s : Surroundings}
  {post : SocialPost} {o : Reply → Option Hindrance}

theorem reaches_linkedInPost (h : CountsPublishing quiet replies o) (id : AccountId)
    (commentary : Text) (content : Option Json) :
    (LinkedInAdapter.createPost s id commentary content).Reaches quiet Hindrance.Shows replies 0
      (LinkedInAdapter.postHindrance s commentary replies o) :=
  (hindered_platform _).bind_reaches fun _ => (hindered_writeCredential h.others).bind_reaches
    fun _ => (hindered_configuredUrl _).bind_reaches fun _ =>
      (reaches_requestLinkedIn (h.fetch _ _ _ rfl)).bind

theorem reaches_linkedIn (h : CountsPublishing quiet replies o) :
    (LinkedInAdapter.publish s post).Reaches quiet Hindrance.Shows replies 0
      (LinkedInAdapter.hindrance s post replies o) := by
  have hPost := reaches_linkedInPost (s := s) h post.socialAccountId post.body
  refine (hindered_platform _).bind_reaches fun _ => ?_
  generalize post.destinationUrl.getD [] = url
  match post.media, url with
  | [], [] => exact hPost none
  | [], c :: rest => exact (hindered_https _ _).bind_reaches fun _ => hPost _
  | [media], _ =>
    dsimp only [LinkedInAdapter.shapeHindrance]
    by_cases hUrn : (LinkedInAdapter.urnPrefix media.type).isPrefixOf media.url = true
    · rw [if_pos hUrn]
      exact (hindered_platform _).bind_reaches fun _ => hPost _
    · rw [if_neg hUrn, unmet_of_not hUrn]
      exact ⟨_, Stops.throw quiet replies 0 _,
        iff_of_true (ambiguous_serviceUnavailable _) not_false⟩
  | _ :: _ :: _, _ =>
    exact ⟨_, Stops.throw quiet replies 0 _, iff_of_true (ambiguous_notImplemented _) not_false⟩

end LinkedIn

/-! ## Facebook -/

namespace FacebookAdapter

/-- What the adapter asks of the media, or of the message and the link. -/
def shapeHindrance (s : Surroundings) (message : Text) (media : List PostMedia) (url : Text) :
    Option Hindrance :=
  match media, url with
  | [], [] => unmet (trim message ≠ []) .input
  | [], c :: rest => unmet (isHttps s (c :: rest)) .input
  | [media], _ => unmet (isHttps s media.url) .input
  | _, _ => some .input

def hindrance (s : Surroundings) (post : SocialPost) (replies : Nat → Reply)
    (o : Reply → Option Hindrance) : Option Hindrance :=
  unmet (post.platform = .facebook) .input <|>
    shapeHindrance s post.body post.media (post.destinationUrl.getD []) <|>
    credentialHindrance FacebookCredentialService s writeScopes (replies 0) (replies 1) <|>
    failing (configuredUrl s "FACEBOOK_GRAPH_API_BASE_URL") .configuration <|> o (replies 2)

end FacebookAdapter

section Facebook

variable {quiet : Request × Reply → Prop} {replies : Nat → Reply} {s : Surroundings}
  {post : SocialPost} {o : Reply → Option Hindrance}

theorem reaches_facebookCreate (h : CountsPublishing quiet replies o) (id : AccountId)
    {edge : String} (hEdge : edge ∈ ["feed", "photos", "videos"])
    (parameters : List (String × Text)) :
    (FacebookAdapter.create s id edge parameters).Reaches quiet Hindrance.Shows replies 0
      (credentialHindrance FacebookCredentialService s FacebookAdapter.writeScopes (replies 0)
          (replies 1) <|>
        failing (configuredUrl s "FACEBOOK_GRAPH_API_BASE_URL") .configuration <|>
        o (replies 2)) := by
  refine (hindered_writeCredential h.others).bind_reaches fun credential =>
    (hindered_configuredUrl _).bind_reaches fun base =>
    (reaches_requestJson rfl (h.fetch _ _ _ ?_)).bind
  exact List.any_eq_true.mpr ⟨edge, hEdge, decide_eq_true rfl⟩

theorem reaches_facebook (h : CountsPublishing quiet replies o) :
    (FacebookAdapter.publish s post).Reaches quiet Hindrance.Shows replies 0
      (FacebookAdapter.hindrance s post replies o) := by
  have hCreate {edge : String} (hEdge : edge ∈ ["feed", "photos", "videos"]) :=
    reaches_facebookCreate (s := s) h post.socialAccountId hEdge
  refine (hindered_platform _).bind_reaches fun _ => ?_
  unfold FacebookAdapter.publishText
  generalize post.destinationUrl.getD [] = url
  match post.media, url with
  | [], [] => exact (hindered_platform _).bind_reaches fun _ => hCreate (by simp) _
  | [], c :: rest => exact (hindered_https _ _).bind_reaches fun _ => hCreate (by simp) _
  | [media], _ =>
    dsimp only
    split
    · exact (hindered_https _ _).bind_reaches fun _ => hCreate (by simp) _
    · exact (hindered_https _ _).bind_reaches fun _ => hCreate (by simp) _
  | media :: _ :: _, _ =>
    dsimp only
    split
    · exact ⟨_, Stops.throw quiet replies 0 _,
        iff_of_true (ambiguous_notImplemented _) not_false⟩
    · exact ⟨_, Stops.throw quiet replies 0 _,
        iff_of_true (ambiguous_notImplemented _) not_false⟩

end Facebook

/-! ## Threads -/

namespace ThreadsAdapter

/-- The id of the container in the answer to the request for it. -/
def containerId (response : HttpResponse) : Except ThrownError Text :=
  jsonBody false response >>= idIn "Threads API returned an invalid JSON response."
    "Threads did not return a content container ID."

def shapeHindrance (s : Surroundings) : List PostMedia → Option Hindrance
  | [] => none
  | [media] => unmet (isHttps s media.url) .input
  | _ => some .input

/-- Up to the request for the container, which `o` hinders. -/
def containerHindrance (s : Surroundings) (media : List PostMedia) (replies : Nat → Reply)
    (o : Option Hindrance) : Option Hindrance :=
  credentialHindrance ThreadsCredentialService s writeScopes (replies 0) (replies 1) <|>
    failing (configuredUrl s "THREADS_GRAPH_API_BASE_URL") .configuration <|>
    shapeHindrance s media <|> o

def hindrance (s : Surroundings) (post : SocialPost) (replies : Nat → Reply)
    (o : Reply → Option Hindrance) : Option Hindrance :=
  unmet (post.platform = .threads) .input <|>
    unmet (bodyAndUrl post ≠ []) .input <|>
    containerHindrance s post.media replies (answerHindrance containerId (replies 2)) <|>
    credentialHindrance ThreadsCredentialService s writeScopes (replies 3) (replies 4) <|>
    failing (configuredUrl s "THREADS_GRAPH_API_BASE_URL") .configuration <|> o (replies 5)

end ThreadsAdapter

section Threads

variable {quiet : Request × Reply → Prop} {replies : Nat → Reply} {n : Nat} {s : Surroundings}
  {post : SocialPost} {o : Reply → Option Hindrance}

theorem hindered_threadsText :
    (liftM (ThreadsAdapter.postText post) : Promise Text).Hindered quiet Hindrance.Shows replies n
      (unmet (bodyAndUrl post ≠ []) .input) n := by
  unfold ThreadsAdapter.postText unmet
  by_cases hEmpty : bodyAndUrl post = []
  · rw [if_pos hEmpty, if_neg (not_not.mpr hEmpty)]
    exact Hindered.throw (iff_of_true (ambiguous_typeError _) not_false)
  · rw [if_neg hEmpty, if_pos hEmpty]
    exact Hindered.pure _

theorem hindered_threadsParameters (text : Text) (media : List PostMedia) :
    (liftM (ThreadsAdapter.containerParameters s text media) : Promise _).Hindered quiet
      Hindrance.Shows replies n (ThreadsAdapter.shapeHindrance s media) n := by
  unfold ThreadsAdapter.containerParameters ThreadsAdapter.shapeHindrance
  match media with
  | [] => exact Hindered.pure _
  | _ :: _ :: _ => exact Hindered.throw (iff_of_true (ambiguous_notImplemented _) not_false)
  | [media] =>
    dsimp only
    split
    · rw [← failing_https "Threads media URLs must use HTTPS.",
        ← failing_bind .input fun href => ⟨_, rfl⟩]
      exact hindered_lift .input ((httpsUrl_fails _ _).bind fun _ => .ok _) not_false
    · rw [← failing_https "Threads media URLs must use HTTPS.",
        ← failing_bind .input fun href => ⟨_, rfl⟩]
      exact hindered_lift .input ((httpsUrl_fails _ _).bind fun _ => .ok _) not_false

theorem hindered_threadsContainer (h : CountsOnlyPublishing quiet replies o) (id : AccountId)
    (text : Text) (media : List PostMedia) :
    (ThreadsAdapter.createContainer s id text media).Hindered quiet Hindrance.Shows replies 0
      (ThreadsAdapter.containerHindrance s media replies
        (answerHindrance ThreadsAdapter.containerId (replies 2))) 3 := by
  refine (hindered_writeCredential h.others).bind fun credential =>
    (hindered_configuredUrl _).bind fun base =>
    (hindered_threadsParameters text media).bind fun parameters => ?_
  unfold ThreadsAdapter.postEdge FetchThreadsHttpClient.request
  rw [requestJson_lift _ _ (withQuery_post rfl)]
  exact hindered_fetchOk (h.prepares _ rfl) fun response =>
    (jsonBody_fails _ _).bind fun _ => idIn_fails _ _ _

theorem reaches_threads (h : CountsOnlyPublishing quiet replies o) :
    (ThreadsAdapter.publish s post).Reaches quiet Hindrance.Shows replies 0
      (ThreadsAdapter.hindrance s post replies o) := by
  refine (hindered_platform _).bind_reaches fun _ => hindered_threadsText.bind_reaches fun text =>
    (hindered_threadsContainer h _ _ _).bind_reaches fun containerId =>
    (hindered_writeCredential h.others).bind_reaches fun credential =>
    (hindered_configuredUrl _).bind_reaches fun base => ?_
  exact (reaches_requestJson rfl (h.fetch _ _ _ rfl)).bind.bind

end Threads

/-! ## Instagram -/

namespace InstagramAdapter

/-- The id of the container in the answer to the request for it. -/
def containerId (response : HttpResponse) : Except ThrownError Text :=
  jsonBody false response >>= idIn invalidJson "Instagram did not return a media container ID."

/-- What one answer about the container says. -/
def ready (response : HttpResponse) : Except ThrownError Bool :=
  jsonBody false response >>= containerReady

/-- Whether a URL can be made for questions about the container. -/
def pollable (s : Surroundings) (containerId base : Text) : Bool :=
  (s.cfg.parseUrl (Endpoint.text ⟨base, [containerId]⟩)).isSome

/-- Up to the request for the container, which `o` hinders. -/
def containerHindrance (s : Surroundings) (media : PostMedia) (replies : Nat → Reply)
    (o : Option Hindrance) : Option Hindrance :=
  credentialHindrance InstagramCredentialService s writeScopes (replies 0) (replies 1) <|>
    unmet (isHttps s media.url) .input <|>
    failing (configuredUrl s "INSTAGRAM_GRAPH_API_BASE_URL") .configuration <|> o

/-- The wait with the attempts that are left, from question `n` on; `after` takes over at the
question where the container is ready. -/
def pollHindrance (s : Surroundings) (containerId : Text) (replies : Nat → Reply)
    (after : Nat → Option Hindrance) : Nat → Nat → Option Hindrance
  | 0, _ => some .notReady
  | left + 1, n =>
    failing (configuredUrl s "INSTAGRAM_GRAPH_API_BASE_URL") .configuration <|>
      unmet ((configuredUrl s "INSTAGRAM_GRAPH_API_BASE_URL").toOption.any
        (pollable s containerId)) .configuration <|>
      answerHindrance ready (replies n) <|>
      if answerValue ready (replies n) = some true then after (n + 1)
      else pollHindrance s containerId replies after left (if 0 < left then n + 2 else n + 1)

/-- From the container that is ready, at question `n`. -/
def publishHindrance (s : Surroundings) (replies : Nat → Reply) (o : Reply → Option Hindrance)
    (n : Nat) : Option Hindrance :=
  credentialHindrance InstagramCredentialService s writeScopes (replies n) (replies (n + 1)) <|>
    failing (configuredUrl s "INSTAGRAM_GRAPH_API_BASE_URL") .configuration <|>
    o (replies (n + 2))

/-- From the container that was created. -/
def waitHindrance (s : Surroundings) (containerId : Text) (replies : Nat → Reply)
    (o : Reply → Option Hindrance) : Option Hindrance :=
  credentialHindrance InstagramCredentialService s writeScopes (replies 3) (replies 4) <|>
    failing (positiveIntegerEnv s "INSTAGRAM_CONTAINER_MAX_ATTEMPTS" 30) .configuration <|>
    failing (positiveIntegerEnv s "INSTAGRAM_CONTAINER_POLL_INTERVAL_MS" 5000) .configuration <|>
    pollHindrance s containerId replies (publishHindrance s replies o)
      ((positiveIntegerEnv s "INSTAGRAM_CONTAINER_MAX_ATTEMPTS" 30).toOption.getD 0) 5

def hindrance (s : Surroundings) (post : SocialPost) (replies : Nat → Reply)
    (o : Reply → Option Hindrance) : Option Hindrance :=
  unmet (post.platform = .instagram) .input <|>
    match post.media with
    | [media] =>
      containerHindrance s media replies (answerHindrance containerId (replies 2)) <|>
        waitHindrance s ((answerValue containerId (replies 2)).getD []) replies o
    | _ => some .input

end InstagramAdapter

section Instagram

variable {quiet : Request × Reply → Prop} {replies : Nat → Reply} {n : Nat} {s : Surroundings}
  {post : SocialPost} {o : Reply → Option Hindrance} {α : Type}

theorem hindered_instagramParameters (media : PostMedia) (caption : Text) :
    (liftM (InstagramAdapter.containerParameters s media caption) : Promise _).Hindered quiet
      Hindrance.Shows replies n (unmet (isHttps s media.url) .input) n := by
  rw [← failing_https "Instagram media URLs must use HTTPS."]
  have hBound {f : Text → Except ThrownError (List (String × Text))}
      (hOk : ∀ href, ∃ parameters, f href = .ok parameters) :
      (liftM (InstagramAdapter.https s media.url >>= f) : Promise _).Hindered quiet
        Hindrance.Shows replies n (failing (InstagramAdapter.https s media.url) .input) n := by
    rw [← failing_bind .input hOk]
    refine hindered_lift .input ((httpsUrl_fails _ _).bind fun href => ?_) not_false
    obtain ⟨parameters, hParameters⟩ := hOk href
    rw [hParameters]
    exact .ok _
  unfold InstagramAdapter.containerParameters
  cases media.type with
  | image => exact hBound fun href => ⟨_, rfl⟩
  | video => exact hBound fun href => ⟨_, rfl⟩

/-- The request for a container, and what its id is used for. -/
theorem reaches_instagramContainer (h : CountsOnlyPublishing quiet replies o) (id : AccountId)
    (media : PostMedia) (caption : Text) {f : Text → Promise α} {r : Text → Option Hindrance}
    (hNext : ∀ containerId, (f containerId).Reaches quiet Hindrance.Shows replies 3
      (r containerId)) :
    (InstagramAdapter.createContainer s id media caption >>= f).Reaches quiet Hindrance.Shows
      replies 0 (InstagramAdapter.containerHindrance s media replies
        (answerHindrance InstagramAdapter.containerId (replies 2)) <|>
          r ((answerValue InstagramAdapter.containerId (replies 2)).getD [])) := by
  unfold InstagramAdapter.createContainer InstagramAdapter.containerHindrance
  simp only [bind_assoc, hindrance_assoc]
  refine (hindered_writeCredential h.others).bind_reaches fun credential =>
    (hindered_instagramParameters media caption).bind_reaches fun parameters =>
    (hindered_configuredUrl _).bind_reaches fun base => ?_
  unfold InstagramAdapter.postEdge FetchInstagramHttpClient.request
  rw [requestJson_lift _ _ (withQuery_post rfl), bind_assoc]
  refine reaches_after_fetchOk (h.prepares _ rfl) (fun response =>
    (jsonBody_fails _ _).bind fun _ => idIn_fails _ _ _) fun containerId hValue => ?_
  rw [show answerValue InstagramAdapter.containerId (replies 2) = some containerId from hValue]
  exact hNext containerId

theorem pause_passes (h : CountsOnlyPublishing quiet replies o) (left intervalMs n : Nat) :
    (InstagramAdapter.pause left intervalMs).Passes quiet replies n
      (if 0 < left then n + 1 else n) () := by
  unfold InstagramAdapter.pause
  by_cases hLeft : 0 < left
  · rw [if_pos hLeft, if_pos hLeft]
    exact (Passes.ask (h.prepares _ rfl)).bind (Passes.pure ..)
  · rw [if_neg hLeft, if_neg hLeft]
    exact Passes.pure ..

/-- One question about the container, whose URL is parsed again. -/
theorem reaches_poll (h : CountsOnlyPublishing quiet replies o) (containerId base token : Text)
    {g : Bool → Promise α} {now later : Option Hindrance}
    (hReady : (g true).Reaches quiet Hindrance.Shows replies (n + 1) now)
    (hLater : (g false).Reaches quiet Hindrance.Shows replies (n + 1) later) :
    ((FetchInstagramHttpClient.request s ⟨.instagram, .get, ⟨base, [containerId]⟩, token,
      .parameters [("fields", "status_code,status".toList)]⟩ >>= fun response =>
        (liftM (InstagramAdapter.containerReady response.body) : Promise Bool)) >>= g).Reaches quiet
      Hindrance.Shows replies n
      (unmet (InstagramAdapter.pollable s containerId base) .configuration <|>
        answerHindrance InstagramAdapter.ready (replies n) <|>
        if answerValue InstagramAdapter.ready (replies n) = some true then now else later) := by
  unfold FetchInstagramHttpClient.request
  by_cases hUrl : InstagramAdapter.pollable s containerId base = true
  · rw [requestJson_lift _ _ (if_neg fun hInvalid => absurd hInvalid.2
      (Option.isSome_iff_ne_none.mp hUrl)), bind_assoc, unmet_of hUrl]
    refine reaches_after_fetchOk (h.prepares _ rfl) (fun response =>
      (jsonBody_fails _ _).bind fun _ => containerReady_fails _) fun ready hValue => ?_
    rw [show answerValue InstagramAdapter.ready (replies n) = some ready from hValue]
    cases ready with
    | true => exact hReady
    | false => exact hLater
  · have hInvalid : s.cfg.parseUrl (Endpoint.text ⟨base, [containerId]⟩) = none :=
      Option.not_isSome_iff_eq_none.mp hUrl
    unfold requestJson
    rw [withQuery, if_pos ⟨rfl, hInvalid⟩, unmet_of_not hUrl]
    exact ⟨_, Stops.throw quiet replies n _, iff_of_true (ambiguous_serviceUnavailable _) not_false⟩

/-- By induction on the attempts that are left, for every question to go on from. -/
theorem reaches_pollContainer (h : CountsOnlyPublishing quiet replies o)
    (credential : PublishingCredential) (containerId : Text) (intervalMs : Nat)
    {f : Unit → Promise α} {after : Nat → Option Hindrance}
    (hNext : ∀ n, (f ()).Reaches quiet Hindrance.Shows replies n (after n)) (left n : Nat) :
    (InstagramAdapter.pollContainer s credential containerId intervalMs left >>= f).Reaches quiet
      Hindrance.Shows replies n
      (InstagramAdapter.pollHindrance s containerId replies after left n) := by
  induction left generalizing n with
  | zero =>
    exact ⟨_, Stops.throw quiet replies n _, iff_of_true (ambiguous_serviceUnavailable _) not_false⟩
  | succ left ih =>
    unfold InstagramAdapter.pollContainer InstagramAdapter.pollHindrance
    simp only [bind_assoc]
    refine reaches_lift .configuration (configuredUrl_fails _) not_false fun base hBase => ?_
    rw [hBase, ← bind_assoc]
    refine reaches_poll h containerId base _ (hNext (n + 1)) ?_
    dsimp only
    rw [bind_assoc]
    exact (pause_passes h left intervalMs (n + 1)).bind_reaches (ih _)

theorem reaches_instagram (h : CountsOnlyPublishing quiet replies o) :
    (InstagramAdapter.publish s post).Reaches quiet Hindrance.Shows replies 0
      (InstagramAdapter.hindrance s post replies o) := by
  refine (hindered_platform _).bind_reaches fun _ => ?_
  match post.media with
  | [] =>
    exact ⟨_, Stops.throw quiet replies 0 _, iff_of_true (ambiguous_notImplemented _) not_false⟩
  | _ :: _ :: _ =>
    exact ⟨_, Stops.throw quiet replies 0 _, iff_of_true (ambiguous_notImplemented _) not_false⟩
  | [media] =>
    refine reaches_instagramContainer h _ _ _
      (r := fun containerId => InstagramAdapter.waitHindrance s containerId replies o)
      fun containerId => ?_
    unfold InstagramAdapter.waitUntilReady InstagramAdapter.waitHindrance
    simp only [bind_assoc]
    refine (hindered_writeCredential h.others).bind_reaches fun credential =>
      reaches_lift .configuration (positiveIntegerEnv_fails _ _) not_false
        fun attempts hAttempts =>
      (hindered_lift .configuration (positiveIntegerEnv_fails _ _) not_false).bind_reaches
        fun intervalMs => ?_
    rw [hAttempts]
    refine reaches_pollContainer h _ _ _ (fun n => ?_) attempts 5
    refine (hindered_writeCredential h.others).bind_reaches fun credential =>
      (hindered_configuredUrl _).bind_reaches fun base => ?_
    exact (reaches_requestJson rfl (h.fetch _ _ _ rfl)).bind.bind

end Instagram

end SocialPromotion
