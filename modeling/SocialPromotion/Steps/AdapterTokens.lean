import SocialPromotion.Model.SocialAccounts
import SocialPromotion.Sending.Requests

/-!
# The token of a request

Whatever an adapter asks of a provider, it asks with the token of an account that it has looked up
before.

* `obeys_writeCredential`: what a credential was made of;
* one lemma for each method, from `obeys_linkedInPost` to `obeys_xPost`;
* `Part.obeys`: no process of a publication sends a token that it has not found.
-/

namespace SocialPromotion.Accounts

open Program

abbrev AdapterHistory := List (Request × Reply)

/-- A credential that an adapter has made of its account. -/
structure Credited (s : Surroundings) (id : AccountId) (service : CredentialService)
    (credential : PublishingCredential) (history : AdapterHistory) : Prop where
  made : ∃ found account clock, (.findActiveSocialAccount id service.platform, found) ∈ history ∧
    found.account = .ok (some account) ∧ (.clock, clock) ∈ history ∧
      service.credential s account clock.date = .ok credential

theorem Credited.append {s : Surroundings} {id : AccountId} {service : CredentialService}
    {credential : PublishingCredential} {history : AdapterHistory}
    (h : Credited s id service credential history) (more : AdapterHistory) :
    Credited s id service credential (history ++ more) := by
  obtain ⟨found, account, clock, hFound, hAccount, hClock, hCredential⟩ := h.made
  exact ⟨found, account, clock, List.mem_append_left _ hFound, hAccount,
    List.mem_append_left _ hClock, hCredential⟩

/-- A request with the token of a credential, to its provider. -/
def Carries (service : CredentialService) (credential : PublishingCredential)
    (request : HttpRequest) : Prop :=
  request.accessToken = credential.accessToken ∧ request.platform = service.platform

/-- What a publication for an account may ask after its exchanges so far. -/
def permits (s : Surroundings) (id : AccountId) (history : AdapterHistory) : Request → Prop
  | .fetch request => ∃ service credential,
    Credited s id service credential history ∧ Carries service credential request
  | _ => True

section Credentials

variable {s : Surroundings} {id : AccountId} {service : CredentialService} {α : Type}

theorem obeys_findActiveSocialAccount (history : AdapterHistory) (platform : SocialPlatform) :
    Obeys (permits s id)
      (fun xs result => ∀ account, result = .ok (some account) →
        ∃ found, (.findActiveSocialAccount id platform, found) ∈ xs ∧
          found.account = .ok (some account))
      history (findActiveSocialAccount s id platform) := by
  unfold findActiveSocialAccount
  refine Obeys.lift_bind (fun _ _ => ?_) fun e _ account h => by cases h
  refine Obeys.ask_bind trivial fun reply => ?_
  refine Obeys.ofExcept fun account h => ?_
  cases hAccount : reply.account with
  | error e =>
    rw [hAccount] at h
    cases h
  | ok found =>
    rw [hAccount] at h
    obtain rfl := Except.ok.inj h
    exact ⟨reply, List.mem_append_right _ (List.mem_singleton_self _), hAccount⟩

theorem obeys_resolve (history : AdapterHistory) :
    Obeys (permits s id)
      (fun xs result => ∀ credential, result = .ok credential →
        Credited s id service credential xs)
      history (service.resolve s id) := by
  unfold CredentialService.resolve
  refine (obeys_findActiveSocialAccount history service.platform).bind (fun xs account h => ?_)
    fun xs e _ credential h => by cases h
  cases account with
  | none => exact fun credential h => by cases h
  | some account =>
    obtain ⟨found, hFound, hAccount⟩ := h account rfl
    refine Obeys.ask_bind trivial fun clock => ?_
    refine Obeys.ofExcept fun credential hCredential => ⟨found, account, clock, ?_, hAccount, ?_,
      hCredential⟩
    · exact List.mem_append_left _ hFound
    · exact List.mem_append_right _ (List.mem_singleton_self _)

/-- A credential is made of an account that was found. -/
theorem obeys_writeCredential (scopes : PublishingCredential → List String)
    (missing : String → String) (history : AdapterHistory) :
    Obeys (permits s id)
      (fun xs result => ∀ credential, result = .ok credential →
        Credited s id service credential xs)
      history (writeCredential service s scopes missing id) := by
  unfold writeCredential
  refine (obeys_resolve history).bind (fun xs credential h => ?_)
    fun xs e _ credential h => by cases h
  refine Obeys.lift_bind (fun _ _ => ?_) fun e _ credential h => by cases h
  intro credential' hEnd
  obtain rfl := Except.ok.inj hEnd
  exact h credential rfl

/-- What follows may use the token. -/
theorem obeys_credential_bind {scopes : PublishingCredential → List String}
    {missing : String → String} {history : AdapterHistory} {f : PublishingCredential → Promise α}
    (h : ∀ credential, (f credential).Asks (Request.Among (Carries service credential))) :
    Obeys (permits s id) anyEnd history (writeCredential service s scopes missing id >>= f) := by
  refine (obeys_writeCredential scopes missing history).bind (fun xs credential hCredential => ?_)
    fun _ _ _ => trivial
  refine Asks.obeys _ (h credential) (fun more op _ hAllowed => ?_) fun _ _ _ => trivial
  cases op with
  | fetch request => exact ⟨service, credential, (hCredential credential rfl).append more, hAllowed⟩
  | _ => trivial

/-- A check, or a value that is computed, before what obeys. -/
theorem obeys_lift_bind {β : Type} {history : AdapterHistory} {result : Except ThrownError β}
    {f : β → Promise α} (h : ∀ b, Obeys (permits s id) anyEnd history (f b)) :
    Obeys (permits s id) anyEnd history ((liftM result : Promise β) >>= f) :=
  Obeys.lift_bind (fun b _ => h b) fun _ _ => trivial

/-- One method after the other. -/
theorem obeys_bind {β : Type} {history : AdapterHistory} {p : Promise β} {f : β → Promise α}
    (h : Obeys (permits s id) anyEnd history p)
    (hNext : ∀ xs b, Obeys (permits s id) anyEnd xs (f b)) :
    Obeys (permits s id) anyEnd history (p >>= f) :=
  h.bind (fun xs b _ => hNext xs b) fun _ _ _ => trivial

end Credentials

-- ---------------------------------------------------------------------------
-- The adapters, method by method
-- ---------------------------------------------------------------------------

section Methods

variable {s : Surroundings} {id : AccountId} {history : AdapterHistory}

theorem obeys_linkedInPost (commentary : Text) (content : Option Json) :
    Obeys (permits s id) anyEnd history (LinkedInAdapter.createPost s id commentary content) := by
  refine obeys_lift_bind fun _ => obeys_credential_bind fun credential => ?_
  refine (asks_lift _).bind fun _ => (asks_requestLinkedIn ⟨rfl, rfl⟩).bind fun response => ?_
  split
  · exact asks_published ..
  · trivial

theorem obeys_facebookCreate (edge : String) (parameters : List (String × Text)) :
    Obeys (permits s id) anyEnd history (FacebookAdapter.create s id edge parameters) := by
  refine obeys_credential_bind fun credential => ?_
  refine (asks_lift _).bind fun _ => (asks_requestJson _ _ _ ⟨rfl, rfl⟩).bind fun _ =>
    (asks_lift _).bind fun payload => ?_
  split
  · trivial
  · exact asks_published ..

theorem obeys_threadsContainer (text : Text) (media : List PostMedia) :
    Obeys (permits s id) anyEnd history (ThreadsAdapter.createContainer s id text media) :=
  obeys_credential_bind fun _ => (asks_lift _).bind fun _ => (asks_lift _).bind fun _ =>
    asks_threadsEdge _ ⟨rfl, rfl⟩

theorem obeys_threadsPublish (containerId : Text) :
    Obeys (permits s id) anyEnd history (ThreadsAdapter.publishContainer s id containerId) :=
  obeys_credential_bind fun _ => (asks_lift _).bind fun _ =>
    (asks_threadsEdge _ ⟨rfl, rfl⟩).bind fun _ => asks_published ..

theorem obeys_instagramContainer (media : PostMedia) (caption : Text) :
    Obeys (permits s id) anyEnd history (InstagramAdapter.createContainer s id media caption) :=
  obeys_credential_bind fun _ => (asks_lift _).bind fun _ => (asks_lift _).bind fun _ =>
    asks_instagramEdge _ ⟨rfl, rfl⟩

theorem asks_pollContainer_token {credential : PublishingCredential} (containerId : Text)
    (intervalMs left : Nat) :
    (InstagramAdapter.pollContainer s credential containerId intervalMs left).Asks
      (Request.Among (Carries InstagramCredentialService credential)) := by
  induction left with
  | zero => trivial
  | succ left ih =>
    refine (asks_lift _).bind fun _ => (asks_requestJson _ _ _ ⟨rfl, rfl⟩).bind fun _ =>
      (asks_lift _).bind fun ready => ?_
    cases ready with
    | true => trivial
    | false =>
      refine Asks.bind ?_ fun _ => ih
      unfold InstagramAdapter.pause
      split
      · exact (Asks.ask trivial).bind fun _ => trivial
      · trivial

theorem obeys_waitUntilReady (containerId : Text) :
    Obeys (permits s id) anyEnd history (InstagramAdapter.waitUntilReady s id containerId) :=
  obeys_credential_bind fun _ => (asks_lift _).bind fun _ => (asks_lift _).bind fun _ =>
    asks_pollContainer_token ..

theorem obeys_instagramPublish (containerId : Text) :
    Obeys (permits s id) anyEnd history (InstagramAdapter.publishContainer s id containerId) :=
  obeys_credential_bind fun _ => (asks_lift _).bind fun _ =>
    (asks_instagramEdge _ ⟨rfl, rfl⟩).bind fun _ => asks_published ..

theorem obeys_uploadMedia (media : PostMedia) :
    Obeys (permits s id) anyEnd history (XAdapter.uploadMedia s id media) :=
  obeys_credential_bind fun _ => (asks_read _).bind fun _ =>
    (asks_billed _ _ ((asks_lift _).bind fun _ => asks_requestJson _ _ _ ⟨rfl, rfl⟩)).bind
      fun _ => asks_lift _

theorem obeys_xPost (text : Text) (mediaIds : List Text) :
    Obeys (permits s id) anyEnd history (XAdapter.createPost s id text mediaIds) := by
  refine obeys_credential_bind fun credential => ?_
  refine (asks_billed _ _ ((asks_lift _).bind fun _ => asks_requestJson _ _ _ ⟨rfl, rfl⟩)).bind
    fun _ => (asks_lift _).bind fun members => ?_
  split
  · exact asks_published ..
  · trivial

end Methods

-- ---------------------------------------------------------------------------
-- The publications
-- ---------------------------------------------------------------------------

section Publications

variable {s : Surroundings} (post : SocialPost)

theorem obeys_linkedIn :
    Obeys (permits s post.socialAccountId) anyEnd [] (LinkedInAdapter.publish s post) := by
  refine obeys_lift_bind fun _ => ?_
  split
  · exact obeys_linkedInPost ..
  · exact obeys_lift_bind fun _ => obeys_linkedInPost ..
  · split
    · exact obeys_lift_bind fun _ => obeys_linkedInPost ..
    · trivial
  · trivial

theorem obeys_facebook :
    Obeys (permits s post.socialAccountId) anyEnd [] (FacebookAdapter.publish s post) := by
  refine obeys_lift_bind fun _ => ?_
  split
  · unfold FacebookAdapter.publishText
    split
    · exact obeys_lift_bind fun _ => obeys_facebookCreate ..
    · exact obeys_lift_bind fun _ => obeys_facebookCreate ..
  · split
    · exact obeys_lift_bind fun _ => obeys_lift_bind fun _ => obeys_facebookCreate ..
    · exact obeys_lift_bind fun _ => obeys_lift_bind fun _ => obeys_facebookCreate ..

theorem obeys_threads :
    Obeys (permits s post.socialAccountId) anyEnd [] (ThreadsAdapter.publish s post) := by
  refine obeys_lift_bind fun _ => obeys_lift_bind fun _ => ?_
  exact obeys_bind (obeys_threadsContainer ..) fun _ _ => obeys_threadsPublish ..

theorem obeys_instagram :
    Obeys (permits s post.socialAccountId) anyEnd [] (InstagramAdapter.publish s post) := by
  refine obeys_lift_bind fun _ => ?_
  split
  · refine obeys_bind (obeys_instagramContainer ..) fun _ _ => ?_
    exact obeys_bind (obeys_waitUntilReady ..) fun _ _ => obeys_instagramPublish ..
  · trivial

/-- What a process obeys whose value nobody waits for. -/
theorem obeys_ended {α : Type} {id : AccountId} {p : Promise α}
    (h : Obeys (permits s id) anyEnd [] p) :
    Obeys (permits s id) anyEnd [] (p >>= fun _ => return : Promise Unit) :=
  obeys_bind h fun _ _ => trivial

/-- A publication that is one program. -/
theorem obeys_single {id : AccountId} {p : Promise PublishResult}
    (h : Obeys (permits s id) anyEnd [] p) (part : Part) :
    Obeys (permits s id) anyEnd [] (part.program (.single p)) := by
  cases part with
  | whole => exact obeys_ended h
  | upload n => trivial
  | post mediaIds => trivial

theorem obeys_x (part : Part) :
    Obeys (permits s post.socialAccountId) anyEnd [] (part.program (XAdapter.publish s post)) := by
  unfold XAdapter.publish
  split
  · refine obeys_single ?_ part
    trivial
  split
  · refine obeys_single ?_ part
    trivial
  split
  · exact obeys_single (obeys_lift_bind fun _ => obeys_xPost ..) part
  unfold XAdapter.publishMedia
  split
  · refine obeys_single ?_ part
    trivial
  split
  · refine obeys_single ?_ part
    trivial
  cases part with
  | whole => trivial
  | upload n =>
    dsimp only [Part.program]
    split
    · rename_i task hTask
      obtain ⟨item, -, rfl⟩ := List.mem_map.mp (List.mem_of_getElem? hTask)
      exact obeys_ended (obeys_uploadMedia item)
    · trivial
  | post mediaIds => exact obeys_ended (obeys_xPost ..)

/-- **No process of a publication** sends a token that it has not found. -/
theorem Part.obeys (platform : SocialPlatform) (part : Part) :
    Obeys (permits s post.socialAccountId) anyEnd []
      (part.program (adapterPublish s platform post)) := by
  cases platform with
  | linkedin => exact obeys_single (obeys_linkedIn post) part
  | facebook => exact obeys_single (obeys_facebook post) part
  | instagram => exact obeys_single (obeys_instagram post) part
  | threads => exact obeys_single (obeys_threads post) part
  | x => exact obeys_x post part

end Publications

-- ---------------------------------------------------------------------------
-- The calls
-- ---------------------------------------------------------------------------

abbrev AccountHistory := List (AccountRequest × AccountReply)

/-- The exchanges of an adapter. -/
def adapterHistory (history : AccountHistory) : AdapterHistory :=
  history.filterMap fun e => match e.1 with
    | .adapter request => some (request, e.2.adapter)
    | _ => none

theorem adapterHistory_adapter (xs : List (Request × AccountReply)) :
    adapterHistory (xs.map (Prod.map .adapter id)) = xs.map (Prod.map id AccountReply.adapter) := by
  induction xs with
  | nil => rfl
  | cons x xs ih => exact congrArg (_ :: ·) ih

theorem mem_adapterHistory {history : AccountHistory} {request : Request} {reply : Reply}
    (h : (request, reply) ∈ adapterHistory history) :
    ∃ whole, (.adapter request, whole) ∈ history ∧ whole.adapter = reply := by
  obtain ⟨⟨question, whole⟩, hMem, hEq⟩ := List.mem_filterMap.mp h
  dsimp only at hEq
  split at hEq
  · rename_i request'
    obtain ⟨rfl, rfl⟩ := Prod.mk.inj (Option.some.inj hEq)
    exact ⟨whole, hMem, rfl⟩
  · cases hEq

theorem ok_of_mapError {α : Type} {result : Except PlainError α} {a : α}
    (h : result.mapError PlainError.toThrown = .ok a) : result = .ok a := by
  cases result with
  | error e => cases h
  | ok b => rw [Except.ok.inj h]

/-- What `disconnect` may ask: it answers once its UPDATE has met a row and is recorded. -/
def disconnectPermits (userId integrationId : Text) (history : AccountHistory) :
    AccountRequest → Prop
  | .disconnect user account => user = userId ∧ account = integrationId
  | .insertAuditLog user action _ account =>
    user = userId ∧ action = "social_account.disconnected" ∧ account = integrationId
  | .disconnected account => account = integrationId ∧
    (∃ reply, (.disconnect userId integrationId, reply) ∈ history ∧ reply.rowCount = .ok 1) ∧
    ∃ entityType reply rowCount, (.insertAuditLog userId "social_account.disconnected" entityType
      integrationId, reply) ∈ history ∧ reply.rowCount = .ok rowCount
  | _ => False

/-- What a call may ask after its exchanges so far. -/
def AccountCall.permits (s : Surroundings) (call : AccountCall) (history : AccountHistory) :
    AccountRequest → Prop :=
  match call with
  | .connect _ => fun question => ∃ request, question = .oauth request
  | .disconnect userId integrationId => disconnectPermits userId integrationId history
  | .publish _ post _ => fun question => ∃ request, question = .adapter request ∧
    Accounts.permits s post.socialAccountId (adapterHistory history) request

theorem obeys_disconnect {d : OAuth.Deployment} (userId integrationId : Text) :
    Obeys (disconnectPermits userId integrationId) anyEnd []
      (Accounts.disconnect d userId integrationId) := by
  unfold Accounts.disconnect
  refine Obeys.lift_bind (fun _ _ => ?_) fun _ _ => trivial
  refine Obeys.ask_bind ⟨rfl, rfl⟩ fun reply => ?_
  refine Obeys.lift_bind (fun rowCount hCount => ?_) fun _ _ => trivial
  split
  · rename_i hOne
    refine Obeys.ask_bind ⟨rfl, rfl, rfl⟩ fun audit => ?_
    refine Obeys.lift_bind (fun written hWritten => ?_) fun _ _ => trivial
    have hCount : reply.rowCount = .ok rowCount := ok_of_mapError hCount
    have hWritten : audit.rowCount = .ok written := ok_of_mapError hWritten
    refine Obeys.ask_bind ⟨rfl, ⟨reply, ?_, hOne ▸ hCount⟩, "social_account", audit, written, ?_,
      hWritten⟩ fun _ => trivial
    · simp
    · exact List.mem_append_right _ (List.mem_singleton_self _)
  · trivial

/-- **No call asks for more** than it is permitted. -/
theorem AccountCall.obeys {d : OAuth.Deployment} (call : AccountCall) :
    Obeys (call.permits d.surroundings) anyEnd [] (call.program d) := by
  cases call with
  | connect credential =>
    have hAny : Obeys (fun _ _ => True) anyEnd []
        (OAuth.PgOAuthAccountRepository.upsertSocialAccount d credential) := Obeys.any fun _ _ =>
      trivial
    have hConnect : Obeys ((AccountCall.connect credential).permits d.surroundings) anyEnd []
        ((OAuth.PgOAuthAccountRepository.upsertSocialAccount d credential).embed .oauth
          AccountReply.oauth) :=
      Obeys.embed (fun _ request _ => ⟨request, rfl⟩) [] hAny
    exact hConnect.bind (fun _ _ _ => trivial) fun _ _ _ => trivial
  | disconnect userId integrationId => exact obeys_disconnect userId integrationId
  | publish platform post part =>
    refine Obeys.embed (fun xs request hPermits => ⟨request, rfl, ?_⟩) []
      (Part.obeys post platform part)
    rw [adapterHistory_adapter]
    exact hPermits

end SocialPromotion.Accounts
