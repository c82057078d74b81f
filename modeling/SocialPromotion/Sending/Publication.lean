import SocialPromotion.Sending.Checklists

/-!
# The checklist of a publication

The X adapter reads and uploads its media side by side, each upload with a credential and a
reservation of its own, and posts only where none of them fails. With it the checklist of a
publication is complete.

Results:

* `reaches_x`, and `reaches_adapterPublish`: the adapter of a platform is hindered by the first
  entry of its list, or makes its publish request.
-/

namespace SocialPromotion

open Program

namespace XAdapter

/-- The id of the medium in the answer to its upload. -/
def uploadedId (response : HttpResponse) : Except ThrownError Text :=
  jsonBody true response >>= mediaId

def readHindrance (s : Surroundings) (media : PostMedia) (reply : Reply) : Option Hindrance :=
  failing (FetchXMediaSource.allowedUrl s media.url) .mediaSource <|>
    match FetchXMediaSource.positiveInteger s "X_MEDIA_MAX_BYTES" with
    | .error _ => some .configuration
    | .ok maximumBytes =>
      failing (FetchXMediaSource.received s media.type maximumBytes reply.media) .mediaSource

def uploadHindrance (s : Surroundings) (media : PostMedia) (replies : Nat → Reply) :
    Option Hindrance :=
  credentialHindrance XCredentialService s writeScopes (replies 0) (replies 1) <|>
    readHindrance s media (replies 2) <|>
    reservationHindrance s .mediaUpload (replies 3) <|>
    failing (configuredUrl s "X_API_BASE_URL") .configuration <|>
    answerHindrance uploadedId (replies 4)

/-- From the text on. -/
def postHindrance (s : Surroundings) (text : Text) (replies : Nat → Reply)
    (o : Reply → Option Hindrance) : Option Hindrance :=
  credentialHindrance XCredentialService s writeScopes (replies 0) (replies 1) <|>
    reservationHindrance s (if containsUrl text then .postCreateWithUrl else .postCreate)
      (replies 2) <|>
    failing (configuredUrl s "X_API_BASE_URL") .configuration <|> o (replies 3)

def hindrance (s : Surroundings) (post : SocialPost) (replies : Replies Reply)
    (o : Reply → Option Hindrance) : Option Hindrance :=
  unmet (post.platform = .x) .input <|>
    unmet (bodyAndUrl post ≠ [] ∨ post.media ≠ []) .input <|>
    match post.media with
    | [] => unmet (trim (bodyAndUrl post) ≠ []) .input <|>
        postHindrance s (bodyAndUrl post) replies.main o
    | media :: others =>
      unmet ((media :: others).length ≤ 4) .input <|>
        firstRejected (fun hindrance => hindrance) replies.settled ((media :: others).mapIdx fun i item =>
          uploadHindrance s item (replies.task i)) <|>
        postHindrance s (bodyAndUrl post) replies.main o

end XAdapter

section X

variable {quiet : Request × Reply → Prop} {replies : Nat → Reply} {n : Nat} {s : Surroundings}
  {o : Reply → Option Hindrance} {id : AccountId}

theorem hindered_read (h : CountsPublishing quiet replies o) (media : PostMedia) :
    (FetchXMediaSource.read s media).Hindered quiet Hindrance.Shows replies n
      (XAdapter.readHindrance s media (replies n)) (n + 1) := by
  refine (hindered_lift .mediaSource (allowedUrl_fails _) not_false).bind fun _ => ?_
  cases hMaximum : FetchXMediaSource.positiveInteger s "X_MEDIA_MAX_BYTES" with
  | error e =>
    exact hindered_lift_error .configuration rfl
      (iff_of_true (positiveInteger_fails _ e hMaximum) not_false)
  | ok maximumBytes =>
    refine hindered_lift_ok rfl (Hindered.ask_bind (h.others _ rfl) ?_)
    exact hindered_lift .mediaSource (received_fails _ _ _) not_false

/-- The answer is read twice, the second time for the id of the medium. -/
theorem answerHindrance_bind {α β : Type} (rest : HttpResponse → Except ThrownError α)
    (g : α → Except ThrownError β) (reply : Reply) :
    answerHindrance (fun response => rest response >>= g) reply =
      (answerHindrance rest reply <|>
        (answerValue rest reply).elim none fun a => failing (g a) .noAnswer) := by
  unfold answerHindrance answerValue
  cases reply.http with
  | failed error departed => rfl
  | response response =>
    dsimp only
    split
    · cases rest response <;> rfl
    · rfl

/-- What the settlement waits for. -/
def XAdapter.billable (response : HttpResponse) :
    Except ThrownError (ClientResponse × List (String × Json)) := do
  let body ← jsonBody true response
  let members ← XAdapter.data body
  return ({ status := response.status, headers := response.headers, body }, members)

theorem billable_fails (response : HttpResponse) :
    FailsAmbiguously (XAdapter.billable response) :=
  (jsonBody_fails _ _).bind fun _ => (data_fails _).bind fun _ => .ok _

theorem uploadedId_eq (response : HttpResponse) : XAdapter.uploadedId response =
    XAdapter.billable response >>= fun billed => XAdapter.mediaId billed.1.body := by
  unfold XAdapter.uploadedId XAdapter.billable XAdapter.mediaId
  cases jsonBody true response with
  | error e => rfl
  | ok body =>
    cases hData : XAdapter.data body with
    | error e => simp only [Bind.bind, Except.bind, hData]
    | ok members => simp only [Bind.bind, Except.bind, hData, Pure.pure, Except.pure]

/-- The X client, with the part of its answer that the settlement waits for. -/
theorem xRequest_bind {α : Type} {input : HttpRequest} (h : input.method = .post)
    (f : ClientResponse → List (String × Json) → Promise α) :
    (FetchXHttpClient.request s input >>= fun response =>
      (liftM (XAdapter.data response.body) : Promise _) >>= f response) =
    (fetchOk "X" input >>= fun response => (liftM (XAdapter.billable response) : Promise _)) >>=
      fun billed => f billed.1 billed.2 := by
  unfold FetchXHttpClient.request requestJson
  rw [withQuery_post h]
  simp only [bind_assoc]
  refine congrArg (fetchOk "X" input >>= ·) (funext fun response => ?_)
  unfold XAdapter.billable
  cases jsonBody true response with
  | error e => rfl
  | ok body =>
    cases hData : XAdapter.data body with
    | error e =>
      show (liftM (XAdapter.data body) : Promise _) >>= f _ =
        (liftM (XAdapter.data body >>= fun members => Except.ok (_, members)) : Promise _) >>= _
      rw [hData]
      rfl
    | ok members =>
      show (liftM (XAdapter.data body) : Promise _) >>= f _ =
        (liftM (XAdapter.data body >>= fun members => Except.ok (_, members)) : Promise _) >>= _
      rw [hData]
      rfl

/-- An upload with its settlement, once it has a reservation. -/
theorem hindered_settledUpload (h : CountsOnlyPublishing quiet replies o) (reservation : Text)
    {input : Text → HttpRequest} (hPost : ∀ base, (input base).method = .post)
    (hPrepares : ∀ base, (input base).publishes = false) :
    (((do
        let base ← configuredUrl s "X_API_BASE_URL"
        let response ← FetchXHttpClient.request s (input base)
        let members ← XAdapter.data response.body
        XAdapter.settleWithoutBreakingPublication s reservation .succeeded
          (Json.nonEmptyString (Json.member "id" members))
        return response : Promise ClientResponse).catching fun error => do
          XAdapter.settleWithoutBreakingPublication s reservation .failed none
          Program.throw error) >>= fun response =>
      (liftM (XAdapter.mediaId response.body) : Promise Text)).Hindered quiet Hindrance.Shows
        replies n (failing (configuredUrl s "X_API_BASE_URL") .configuration <|>
          answerHindrance XAdapter.uploadedId (replies n))
        (if (s.setting "DATABASE_URL").isSome then n + 2 else n + 1) := by
  cases hBase : configuredUrl s "X_API_BASE_URL" with
  | error e =>
    refine ⟨e, Stops.bind (Stops.catching (Stops.throw quiet replies n e) fun m => ?_), ?_⟩
    · exact rethrown h.others reservation e m
    · exact iff_of_true (configuredUrl_fails _ e hBase) not_false
  | ok base =>
    show Hindered quiet Hindrance.Shows replies _ n
      (answerHindrance XAdapter.uploadedId (replies n)) _
    have hQuiet : quiet (.fetch (input base), replies n) := h.prepares _ (hPrepares base)
    have hRequest := xRequest_bind (s := s) (hPost base) fun response members => do
      XAdapter.settleWithoutBreakingPublication s reservation .succeeded
        (Json.nonEmptyString (Json.member "id" members))
      return response
    have hAttempt {α : Type} (f : Text → Promise α) :
      (liftM (Except.ok base : Except ThrownError Text) : Promise Text) >>= f = f base := rfl
    rw [funext uploadedId_eq, answerHindrance_bind, hAttempt, hRequest]
    cases hAnswer : answerHindrance XAdapter.billable (replies n) with
    | some hindrance =>
      obtain ⟨e, hStops, hShows⟩ := fetchOk_stops "X" hQuiet billable_fails hAnswer
      exact ⟨e, (hStops.bind.catching (rethrown h.others reservation e)).bind, hShows⟩
    | none =>
      obtain ⟨response, billed, hHttp, hBilled, hFetched⟩ :=
        fetchOk_passes "X" hQuiet hAnswer
      have hValue : answerValue XAdapter.billable (replies n) = some billed := by
        simp only [answerValue, hHttp, hBilled, Except.toOption]
      have hPasses : (fetchOk "X" (input base) >>= fun response =>
          (liftM (XAdapter.billable response) : Promise _)).Passes quiet replies n (n + 1)
            billed := by
        refine hFetched.bind ?_
        rw [hBilled]
        exact Passes.pure ..
      rw [hValue]
      -- the settlement goes through whatever the ledger says
      have hSettled : (do
          XAdapter.settleWithoutBreakingPublication s reservation .succeeded
            (Json.nonEmptyString (Json.member "id" billed.2))
          return billed.1 : Promise ClientResponse).Passes quiet replies (n + 1)
            (if (s.setting "DATABASE_URL").isSome then n + 2 else n + 1) billed.1 :=
        (settle_passes h.others ..).bind (Passes.pure ..)
      refine (hPasses.bind hSettled).catching.bind_hindered ?_
      exact hindered_lift .noAnswer (mediaId_fails _) not_false

theorem hindered_uploadMedia (h : CountsOnlyPublishing quiet replies o) (media : PostMedia) :
    ∃ m, (XAdapter.uploadMedia s id media).Hindered quiet Hindrance.Shows replies 0
      (XAdapter.uploadHindrance s media replies) m := by
  refine ⟨if (s.setting "DATABASE_URL").isSome then 6 else 5,
    (hindered_writeCredential h.others).bind fun credential =>
      (hindered_read h.toCountsPublishing media).bind fun base64 => ?_⟩
  unfold XAdapter.billed reservationHindrance
  simp only [bind_assoc, hindrance_assoc]
  refine (hindered_lift .configuration (estimate_fails _) not_false).bind fun quote => ?_
  rw [← hindrance_assoc]
  refine (hindered_reserve h.others _).bind fun reservation => ?_
  refine hindered_settledUpload h reservation ?_ ?_
  · exact fun _ => rfl
  · exact fun _ => rfl

theorem reaches_xPost (h : CountsPublishing quiet replies o) (text : Text) (mediaIds : List Text) :
    (XAdapter.createPost s id text mediaIds).Reaches quiet Hindrance.Shows replies 0
      (XAdapter.postHindrance s text replies o) := by
  refine (hindered_writeCredential h.others).bind_reaches fun credential =>
    (reaches_billed h.others ?_).bind
  exact (hindered_configuredUrl _).bind_reaches fun base =>
    reaches_requestJson rfl (h.fetch _ _ _ rfl)

end X

section Publication

variable {quiet : Request × Reply → Prop} {replies : Replies Reply} {s : Surroundings}
  {post : SocialPost} {o : Reply → Option Hindrance}

/-- Each upload has its own replies, and its own entry in the list. -/
theorem uploads_hindered (h : ∀ i, CountsOnlyPublishing quiet (replies.task i) o) (id : AccountId)
    (media : List PostMedia) :
    Process.TasksHindered quiet Hindrance.Shows replies.task
      (media.map (XAdapter.uploadMedia s id))
      (media.mapIdx fun i item => XAdapter.uploadHindrance s item (replies.task i)) := by
  refine ⟨by simp, fun i hindrance task hHindrance hTask => ?_⟩
  rw [List.getElem?_mapIdx] at hHindrance
  rw [List.getElem?_map] at hTask
  obtain ⟨item, hItem, rfl⟩ := Option.map_eq_some_iff.mp hTask
  rw [hItem] at hHindrance
  obtain rfl := Option.some.inj hHindrance
  exact hindered_uploadMedia (h i) item

/-- A check that throws before there is any program to run. -/
theorem reaches_xInput {e : ThrownError} (h : Ambiguous e) :
    ((Process.single (Program.throw e) : Process Request Reply ThrownError Text PublishResult).run
      replies).Reaches quiet Hindrance.Shows (some .input) :=
  ⟨e, rfl, fun _ hMem => absurd hMem List.not_mem_nil, iff_of_true h not_false⟩

/-- Without media there is only the post itself. -/
theorem reaches_xText (h : CountsPublishing quiet replies.main o) (hMedia : post.media = []) :
    ((XAdapter.publish s post).run replies).Reaches quiet Hindrance.Shows
      (XAdapter.hindrance s post replies o) := by
  unfold XAdapter.publish XAdapter.hindrance XAdapter.postText
  rw [hMedia]
  by_cases hPlatform : post.platform = .x
  case neg =>
    rw [if_pos hPlatform, unmet_of_not hPlatform]
    exact reaches_xInput (ambiguous_typeError _)
  rw [if_neg (not_not.mpr hPlatform), unmet_of hPlatform]
  by_cases hEmpty : bodyAndUrl post = []
  · rw [if_pos ⟨hEmpty, rfl⟩, unmet_of_not (by simp [hEmpty])]
    exact reaches_xInput (ambiguous_typeError _)
  rw [if_neg fun hBoth => hEmpty hBoth.1, unmet_of (Or.inl hEmpty)]
  have hText : (XAdapter.publishText s post.socialAccountId (bodyAndUrl post)).Reaches quiet
      Hindrance.Shows replies.main 0 (unmet (trim (bodyAndUrl post) ≠ []) .input <|>
        XAdapter.postHindrance s (bodyAndUrl post) replies.main o) :=
    (hindered_platform _).bind_reaches fun _ => reaches_xPost h _ _
  exact hText.conversation

theorem reaches_x (hMain : CountsOnlyPublishing quiet replies.main o)
    (hTask : ∀ i, CountsOnlyPublishing quiet (replies.task i) o) :
    ((XAdapter.publish s post).run replies).Reaches quiet Hindrance.Shows
      (XAdapter.hindrance s post replies o) := by
  by_cases hMedia : post.media = []
  · exact reaches_xText hMain.toCountsPublishing hMedia
  obtain ⟨media, others, hItems⟩ := List.exists_cons_of_ne_nil hMedia
  have hAny : bodyAndUrl post ≠ [] ∨ media :: others ≠ [] := Or.inr (List.cons_ne_nil _ _)
  unfold XAdapter.publish XAdapter.hindrance XAdapter.postText XAdapter.publishMedia
  rw [hItems]
  by_cases hPlatform : post.platform = .x
  case neg =>
    rw [if_pos hPlatform, unmet_of_not hPlatform]
    exact reaches_xInput (ambiguous_typeError _)
  rw [if_neg (not_not.mpr hPlatform), unmet_of hPlatform,
    if_neg fun hEmpty => nomatch hEmpty.2]
  rw [unmet_of hAny]
  dsimp only
  rw [if_neg (List.cons_ne_nil _ _)]
  by_cases hLength : (media :: others).length > 4
  · rw [if_pos hLength, unmet_of_not (Nat.not_le.mpr hLength)]
    exact reaches_xInput (ambiguous_notImplemented _)
  · rw [if_neg hLength, unmet_of (Nat.not_lt.mp hLength)]
    exact Process.run_all_reaches (uploads_hindered hTask _ _) fun mediaIds =>
      reaches_xPost hMain.toCountsPublishing _ mediaIds

/-- What hinders the adapter of a platform. -/
def PublishingService.hindrance (s : Surroundings) (platform : SocialPlatform) (post : SocialPost)
    (replies : Replies Reply) (o : Reply → Option Hindrance) : Option Hindrance :=
  match platform with
  | .linkedin => LinkedInAdapter.hindrance s post replies.main o
  | .facebook => FacebookAdapter.hindrance s post replies.main o
  | .instagram => InstagramAdapter.hindrance s post replies.main o
  | .threads => ThreadsAdapter.hindrance s post replies.main o
  | .x => XAdapter.hindrance s post replies o

theorem reaches_adapterPublish (hMain : CountsOnlyPublishing quiet replies.main o)
    (hTask : ∀ i, CountsOnlyPublishing quiet (replies.task i) o) (platform : SocialPlatform) :
    ((adapterPublish s platform post).run replies).Reaches quiet Hindrance.Shows
      (PublishingService.hindrance s platform post replies o) := by
  cases platform with
  | linkedin => exact (reaches_linkedIn hMain.toCountsPublishing).conversation
  | facebook => exact (reaches_facebook hMain.toCountsPublishing).conversation
  | instagram => exact (reaches_instagram hMain).conversation
  | threads => exact (reaches_threads hMain).conversation
  | x => exact reaches_x hMain hTask

/-- Nothing hinders a publish request itself, as long as only its being made counts. -/
theorem countsOnlyPublishing (replies : Nat → Reply) :
    CountsOnlyPublishing (fun x => x.1.publishes = false) replies fun _ => none where
  others x hOther := by
    obtain ⟨request, reply⟩ := x
    cases request with
    | fetch => cases hOther
    | _ => rfl
  prepares x hPrepares := hPrepares
  fetch provider input n hPublishes := fetchOk_reaches (Bool.ne_false_iff.mpr hPublishes)

/-- Exactly an adapter that nothing hinders makes its publish request. -/
theorem publishes_iff {platform : SocialPlatform} :
    (∃ x ∈ ((adapterPublish s platform post).run replies).exchanges, x.1.publishes = true) ↔
      PublishingService.hindrance s platform post replies (fun _ => none) = none := by
  rw [← (reaches_adapterPublish (countsOnlyPublishing replies.main)
    (fun i => countsOnlyPublishing (replies.task i)) platform).iff]
  simp only [Bool.not_eq_false]

end Publication

end SocialPromotion
