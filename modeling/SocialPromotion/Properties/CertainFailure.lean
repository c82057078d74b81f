import SocialPromotion.Sending.Errors
import SocialPromotion.Sending.Requests

/-!
# A certain failure published nothing

A failure that is not ambiguous lets the job be sent again. It is classified from the status
of the thrown error alone, wherever that error comes from, so the argument is about every
error that can still be thrown once the final request is out: it is ambiguous, unless it is
the provider's own 4xx answer to that request.

Results:

* `certain_failure_not_accepted`: where a provider answers 4xx to no write that it accepted,
  a failure that is not ambiguous leaves no accepted publish request behind.
-/

namespace SocialPromotion

open Program

/-- A 4xx answers no write that the provider accepted. -/
def Reply.Honest (reply : Reply) : Prop :=
  ∀ response, reply.http = .response response → 400 ≤ response.status → response.status < 500 →
    reply.accepted = false

/-- Every reply of a publication is honest. -/
def HonestReplies (replies : Replies Reply) : Prop :=
  (∀ n, (replies.main n).Honest) ∧ ∀ i n, (replies.task i n).Honest

section Phases

variable {replies : Nat → Reply} {α β : Type} {n : Nat}

/-- A certain failure of the program leaves no accepted publish request behind. -/
def RejectedOnly (replies : Nat → Reply) (p : Promise α) : Prop :=
  ∀ n e, (p.run replies n).result = .error e → ¬ Ambiguous e →
    ∀ x ∈ (p.run replies n).exchanges, x.1.publishes → x.2.accepted = false

/-- No request in the text of the program is a publish request. -/
def Prepares (p : Promise α) : Prop := p.Asks (Request.Among fun r => r.publishes = false)

theorem not_publishes_of_among {request : Request}
    (h : request.Among fun r => r.publishes = false) : request.publishes = false := by
  cases request with
  | fetch request => exact h
  | _ => rfl

theorem Prepares.exchanges {p : Promise α} (h : Prepares p) {x : Request × Reply}
    (hMem : x ∈ (p.run replies n).exchanges) : x.1.publishes = false :=
  not_publishes_of_among (Asks.exchanges h hMem)

theorem RejectedOnly.of_prepares {p : Promise α} (h : Prepares p) : RejectedOnly replies p := by
  intro n e _ _ x hMem hPublishes
  rw [h.exchanges hMem] at hPublishes
  cases hPublishes

theorem RejectedOnly.after {p : Promise α} {f : α → Promise β} (h : Prepares p)
    (hNext : ∀ a, RejectedOnly replies (f a)) : RejectedOnly replies (p >>= f) := by
  intro n e hError hCertain x hMem hPublishes
  cases hResult : (p.run replies n).result with
  | error e' =>
    rw [run_bind_error hResult] at hMem
    rw [h.exchanges hMem] at hPublishes
    cases hPublishes
  | ok a =>
    rw [run_bind_ok hResult] at hError hMem
    obtain hFirst | hRest := List.mem_append.mp hMem
    · rw [h.exchanges hFirst] at hPublishes
      cases hPublishes
    · exact hNext a _ e hError hCertain x hRest hPublishes

/-- What follows the publish request may only throw ambiguous errors. -/
theorem RejectedOnly.before {p : Promise α} {f : α → Promise β} (h : RejectedOnly replies p)
    (hThrows : ∀ a, (f a).Throws Ambiguous) : RejectedOnly replies (p >>= f) := by
  intro n e hError hCertain x hMem
  cases hResult : (p.run replies n).result with
  | error e' =>
    rw [run_bind_error hResult] at hError hMem
    obtain rfl : e' = e := Except.error.inj hError
    exact h n e' hResult hCertain x hMem
  | ok a =>
    rw [run_bind_ok hResult] at hError
    exact absurd ((hThrows a).result hError) hCertain

/-- A handler that asks for nothing public and throws again what it was given. -/
theorem RejectedOnly.catching {p : Promise α} {handler : ThrownError → Promise α}
    (h : RejectedOnly replies p) (hPrepares : ∀ e, Prepares (handler e))
    (hThrows : ∀ e, (handler e).Throws fun e' => e' = e) :
    RejectedOnly replies (p.catching handler) := by
  intro n e hError hCertain x hMem hPublishes
  cases hResult : (p.run replies n).result with
  | ok a =>
    rw [run_catching_ok handler hResult, hResult] at hError
    cases hError
  | error e' =>
    rw [run_catching_error handler hResult] at hError hMem
    obtain rfl : e = e' := (hThrows e').result hError
    obtain hFirst | hRest := List.mem_append.mp hMem
    · exact h n e hResult hCertain x hFirst hPublishes
    · rw [(hPrepares e).exchanges hRest] at hPublishes
      cases hPublishes

end Phases

/-! ## Around the request -/

section Requests

variable {s : Surroundings} {replies : Nat → Reply} {α β : Type}

theorem throws_lift {result : Except ThrownError α} (h : FailsAmbiguously result) :
    (liftM result : Promise α).Throws Ambiguous :=
  Throws.ofExcept h

theorem throws_published (remotePostId : Text) (remotePostUrl : Option Text) :
    (published remotePostId remotePostUrl).Throws Ambiguous :=
  fun _ => trivial

/-- The provider's own 4xx answer is the one certain failure of a request. -/
theorem rejectedOnly_fetchOk (hHonest : ∀ n, (replies n).Honest) (provider : String)
    (input : HttpRequest) : RejectedOnly replies (fetchOk provider input) := by
  intro n e hError hCertain x hMem _
  have hRun : (fetchOk provider input).run replies n =
      ⟨[(.fetch input, replies n)], okResponse provider (replies n).http⟩ := run_ask_lift _ _
  rw [hRun] at hError hMem
  obtain rfl := List.mem_singleton.mp hMem
  unfold okResponse at hError
  split at hError
  case h_1 error departed hHttp =>
    obtain rfl := Except.error.inj hError
    exact absurd (ambiguous_plain error) hCertain
  case h_2 response hHttp =>
    split at hError
    · cases hError
    · obtain rfl := Except.error.inj hError
      rw [ambiguous_socialApiHttpError_iff, not_not] at hCertain
      exact hHonest n response hHttp hCertain.1 hCertain.2

theorem rejectedOnly_requestJson (hHonest : ∀ n, (replies n).Honest)
    (provider invalidUrl : String) (emptyOn204 : Bool) (input : HttpRequest) :
    RejectedOnly replies (requestJson s provider invalidUrl emptyOn204 input) := by
  refine RejectedOnly.after (asks_lift _) fun _ =>
    (rejectedOnly_fetchOk hHonest provider input).before fun response => ?_
  exact Throws.bind (throws_lift (jsonBody_fails _ _)) fun _ => trivial

theorem rejectedOnly_requestLinkedIn (hHonest : ∀ n, (replies n).Honest) (input : HttpRequest) :
    RejectedOnly replies (FetchLinkedInHttpClient.request s input) := by
  refine RejectedOnly.after (asks_lift _) fun _ =>
    (rejectedOnly_fetchOk hHonest "LinkedIn" input).before fun response => ?_
  exact Throws.bind (throws_lift (linkedInBody_fails _)) fun _ => trivial

theorem throws_settle {allowed : ThrownError → Prop} (id : Text) (outcome : XUsageOutcome)
    (reference : Option Text) :
    (XAdapter.settleWithoutBreakingPublication s id outcome reference).Throws allowed :=
  Throws.catching fun _ => trivial

/-- Whatever becomes of the settlement, the error is the one of the request. -/
theorem rejectedOnly_billed {request : Promise ClientResponse}
    (credential : PublishingCredential) (operation : XUsageOperation)
    (h : RejectedOnly replies request) :
    RejectedOnly replies (XAdapter.billed s credential operation request) := by
  refine RejectedOnly.after (asks_lift _) fun _ => RejectedOnly.after (asks_reserve _) fun id =>
    RejectedOnly.catching (h.before fun response => ?_) (fun e => ?_) fun e => ?_
  · exact Throws.bind (throws_lift (data_fails _)) fun members =>
      (throws_settle ..).bind fun _ => trivial
  · exact (asks_settle ..).bind fun _ => trivial
  · exact (throws_settle ..).bind fun _ => rfl

end Requests

/-! ## The adapters -/

section Adapters

variable {s : Surroundings} {replies : Nat → Reply} {post : SocialPost}

theorem rejectedOnly_linkedInPost (hHonest : ∀ n, (replies n).Honest) {id : AccountId}
    {commentary : Text} {content : Option Json} :
    RejectedOnly replies (LinkedInAdapter.createPost s id commentary content) := by
  refine RejectedOnly.after (asks_lift _) fun _ =>
    RejectedOnly.after (asks_writeCredential ..) fun credential =>
    RejectedOnly.after (asks_lift _) fun url =>
    (rejectedOnly_requestLinkedIn hHonest _).before fun response => ?_
  split
  · exact throws_published _ _
  · exact ambiguous_serviceUnavailable _

theorem rejectedOnly_linkedIn (hHonest : ∀ n, (replies n).Honest) :
    RejectedOnly replies (LinkedInAdapter.publish s post) := by
  refine RejectedOnly.after (asks_lift _) fun _ => ?_
  split
  · exact rejectedOnly_linkedInPost hHonest
  · exact RejectedOnly.after (asks_lift _) fun _ => rejectedOnly_linkedInPost hHonest
  · split
    · exact RejectedOnly.after (asks_lift _) fun _ => rejectedOnly_linkedInPost hHonest
    · exact RejectedOnly.of_prepares trivial
  · exact RejectedOnly.of_prepares trivial

theorem rejectedOnly_facebookCreate (hHonest : ∀ n, (replies n).Honest) {id : AccountId}
    {edge : String} {parameters : List (String × Text)} :
    RejectedOnly replies (FacebookAdapter.create s id edge parameters) := by
  refine RejectedOnly.after (asks_writeCredential ..) fun credential =>
    RejectedOnly.after (asks_lift _) fun base =>
    (rejectedOnly_requestJson hHonest _ _ _ _).before fun response =>
    Throws.bind (throws_lift (objectMembers_fails _ _)) fun payload => ?_
  split
  · exact ambiguous_serviceUnavailable _
  · exact throws_published _ _

theorem rejectedOnly_facebook (hHonest : ∀ n, (replies n).Honest) :
    RejectedOnly replies (FacebookAdapter.publish s post) := by
  refine RejectedOnly.after (asks_lift _) fun _ => ?_
  split
  · unfold FacebookAdapter.publishText
    split <;> exact RejectedOnly.after (asks_lift _) fun _ =>
      rejectedOnly_facebookCreate hHonest
  · split <;> exact RejectedOnly.after (asks_lift _) fun _ =>
      RejectedOnly.after (asks_lift _) fun _ => rejectedOnly_facebookCreate hHonest

/-- The container is not public yet. -/
theorem rejectedOnly_threads (hHonest : ∀ n, (replies n).Honest) :
    RejectedOnly replies (ThreadsAdapter.publish s post) := by
  refine RejectedOnly.after (asks_lift _) fun _ => RejectedOnly.after (asks_lift _) fun text =>
    RejectedOnly.after (asks_threadsContainer _ fun _ _ _ _ _ => rfl) fun containerId =>
    RejectedOnly.after (asks_writeCredential ..) fun credential =>
    RejectedOnly.after (asks_lift _) fun base => ?_
  refine RejectedOnly.before ?_ fun remotePostId => throws_published _ _
  exact (rejectedOnly_requestJson hHonest _ _ _ _).before fun response =>
    throws_lift (idIn_fails _ _ _)

theorem rejectedOnly_instagram (hHonest : ∀ n, (replies n).Honest) :
    RejectedOnly replies (InstagramAdapter.publish s post) := by
  refine RejectedOnly.after (asks_lift _) fun _ => ?_
  split
  case h_2 => exact RejectedOnly.of_prepares trivial
  refine RejectedOnly.after (asks_instagramContainer _ fun _ _ _ _ _ => rfl) fun containerId =>
    RejectedOnly.after (asks_waitUntilReady _ fun _ _ => rfl) fun _ =>
    RejectedOnly.after (asks_writeCredential ..) fun credential =>
    RejectedOnly.after (asks_lift _) fun base => ?_
  refine RejectedOnly.before ?_ fun remotePostId => throws_published _ _
  exact (rejectedOnly_requestJson hHonest _ _ _ _).before fun response =>
    throws_lift (idIn_fails _ _ _)

theorem rejectedOnly_xPost (hHonest : ∀ n, (replies n).Honest) {id : AccountId} {text : Text}
    {mediaIds : List Text} : RejectedOnly replies (XAdapter.createPost s id text mediaIds) := by
  refine RejectedOnly.after (asks_writeCredential ..) fun credential =>
    (rejectedOnly_billed _ _ (RejectedOnly.after (asks_lift _) fun base =>
      rejectedOnly_requestJson hHonest _ _ _ _)).before fun response =>
    Throws.bind (throws_lift (data_fails _)) fun members => ?_
  split
  · exact throws_published _ _
  · exact ambiguous_serviceUnavailable _

/-- The uploads are not public, and the post only follows them where none failed. -/
theorem rejectedOnly_xMedia {replies : Replies Reply} (hHonest : HonestReplies replies)
    {id : AccountId} {text : Text} {media : List PostMedia} {e : ThrownError}
    (hError : ((Process.all (media.map (XAdapter.uploadMedia s id))
      (XAdapter.createPost s id text)).run replies).result = .error e) (hCertain : ¬ Ambiguous e) :
    ∀ x ∈ ((Process.all (media.map (XAdapter.uploadMedia s id))
      (XAdapter.createPost s id text)).run replies).exchanges,
        x.1.publishes → x.2.accepted = false := by
  intro x hMem hPublishes
  have hUploads : ∀ task ∈ media.map (XAdapter.uploadMedia s id), Prepares task := by
    intro task hTask
    obtain ⟨item, -, rfl⟩ := List.mem_map.mp hTask
    exact asks_uploadMedia _ fun _ _ _ => rfl
  have hQuiet := Process.asks_runTasks replies.task hUploads
  obtain ⟨e', hRun⟩ | ⟨values, hRun⟩ := Process.run_all_cases replies
    (media.map (XAdapter.uploadMedia s id)) (XAdapter.createPost s id text)
  · rw [hRun] at hMem
    rw [not_publishes_of_among (hQuiet x hMem)] at hPublishes
    cases hPublishes
  · rw [hRun] at hError hMem
    obtain hFirst | hRest := List.mem_append.mp hMem
    · rw [not_publishes_of_among (hQuiet x hFirst)] at hPublishes
      cases hPublishes
    · exact rejectedOnly_xPost hHonest.1 0 e hError hCertain x hRest hPublishes

theorem rejectedOnly_x {replies : Replies Reply} (hHonest : HonestReplies replies) :
    ∀ e, ((XAdapter.publish s post).run replies).result = .error e → ¬ Ambiguous e →
      ∀ x ∈ ((XAdapter.publish s post).run replies).exchanges,
        x.1.publishes → x.2.accepted = false := by
  have hThrow (error : ThrownError) :
      RejectedOnly replies.main (Program.throw error : Promise PublishResult) :=
    RejectedOnly.of_prepares trivial
  unfold XAdapter.publish
  split
  · exact hThrow _ 0
  split
  · exact hThrow _ 0
  split
  · exact RejectedOnly.after (asks_lift _) (fun _ => rejectedOnly_xPost hHonest.1) 0
  unfold XAdapter.publishMedia
  split
  · exact hThrow _ 0
  split
  · exact hThrow _ 0
  · exact fun e => rejectedOnly_xMedia hHonest

end Adapters

section Publication

variable {s : Surroundings} {replies : Replies Reply}

/-- An accepted publish request is left behind by no certain failure of an adapter. -/
theorem adapterPublish_rejectedOnly (hHonest : HonestReplies replies) (platform : SocialPlatform)
    (post : SocialPost) {e : ThrownError}
    (hError : ((adapterPublish s platform post).run replies).result = .error e)
    (hCertain : ¬ Ambiguous e) :
    ∀ x ∈ ((adapterPublish s platform post).run replies).exchanges,
      x.1.publishes → x.2.accepted = false := by
  cases platform with
  | linkedin => exact rejectedOnly_linkedIn hHonest.1 0 e hError hCertain
  | facebook => exact rejectedOnly_facebook hHonest.1 0 e hError hCertain
  | instagram => exact rejectedOnly_instagram hHonest.1 0 e hError hCertain
  | threads => exact rejectedOnly_threads hHonest.1 0 e hError hCertain
  | x => exact rejectedOnly_x hHonest e hError hCertain

theorem failure_of_failedWith {job failed : SocialPublishJob} {e error : ThrownError}
    {failure : PublishFailure}
    (h : PublishingService.failedWith job e = .failed failed error failure) :
    failure = classifyPublishFailure e :=
  (PublishExecution.failed.inj h).2.2.symm

/-- An adapter's result without an id is no certain failure. -/
theorem ambiguous_noRemotePostId : Ambiguous (.error "Adapter returned no remotePostId.") :=
  ambiguous_of_status fun _ h => nomatch h

/-- **Non-ambiguous means not published**: where a provider answers 4xx to no write that it
accepted, a failure that `publish` classifies as certain leaves no accepted publish request
behind. -/
theorem certain_failure_not_accepted (hHonest : HonestReplies replies) (post : Post)
    (job : SocialPublishJob) {failed : SocialPublishJob} {error : ThrownError}
    {failure : PublishFailure}
    (hFailed : (PublishingService.publish s replies post job).execution =
      .failed failed error failure) (hCertain : failure.ambiguous = false) :
    ∀ x ∈ (PublishingService.publish s replies post job).exchanges,
      x.1.publishes → x.2.accepted = false := by
  unfold PublishingService.publish at hFailed ⊢
  split
  · exact fun _ hMem => absurd hMem List.not_mem_nil
  next formatted request hStart =>
    simp only [hStart] at hFailed
    cases hResult : ((adapterPublish s job.platform formatted).run replies).result with
    | error e =>
      rw [hResult] at hFailed
      have hFailure := failure_of_failedWith hFailed
      refine adapterPublish_rejectedOnly hHonest job.platform formatted hResult fun hAmbiguous => ?_
      rw [hFailure, hAmbiguous] at hCertain
      cases hCertain
    | ok result =>
      rw [hResult] at hFailed
      unfold PublishingService.publishFinish at hFailed
      dsimp only at hFailed
      split at hFailed
      · have hFailure := failure_of_failedWith hFailed
        rw [hFailure, ambiguous_noRemotePostId] at hCertain
        cases hCertain
      · cases hFailed

end Publication

/-- X refuses a post, after the ledger has a reservation for it. -/
def refusedByX : Replies Reply :=
  Deployment.replies .x (.response ⟨422, fun _ => none, .ok .null⟩)

theorem certain_failure_not_accepted_refused :
    (PublishingService.publish Deployment.surroundings refusedByX Deployment.post
      (Deployment.job .x)).execution =
      .failed (PublishingService.fail (Deployment.job .x) .invalidRequest
          (safeMessage (ThrownError.socialApiHttpError "X" 422)))
        (ThrownError.socialApiHttpError "X" 422)
        (classifyPublishFailure (ThrownError.socialApiHttpError "X" 422)) ∧
      ∀ x ∈ (PublishingService.publish Deployment.surroundings refusedByX Deployment.post
        (Deployment.job .x)).exchanges, x.1.publishes → x.2.accepted = false :=
  have hFailed : (PublishingService.publish Deployment.surroundings refusedByX Deployment.post
      (Deployment.job .x)).execution =
      .failed (PublishingService.fail (Deployment.job .x) .invalidRequest
          (safeMessage (ThrownError.socialApiHttpError "X" 422)))
        (ThrownError.socialApiHttpError "X" 422)
        (classifyPublishFailure (ThrownError.socialApiHttpError "X" 422)) := by
    decide +kernel
  ⟨hFailed, certain_failure_not_accepted ⟨fun _ _ _ _ _ => rfl, fun _ _ _ _ _ _ => rfl⟩
    Deployment.post (Deployment.job .x) hFailed (by decide +kernel)⟩

end SocialPromotion
