import SocialPromotion.Sending.Preflight
import SocialPromotion.Sending.Publication

/-!
# What the preflight admits

A post without issues may be scheduled. What its adapters then ask of it is not what `issues`
looked at: an empty text is no issue, and neither is a link that is no HTTPS URL.

Results:

* `preflight_sends_iff`: with a valid credential and configuration, the adapter sends a write to
  its provider exactly where the text and the link pass its own checks;
* `blank_commentary_not_sent`: a post without issues of which LinkedIn is never sent anything.
-/

namespace SocialPromotion

open Program

/-- A request that writes at a provider. -/
def Request.writes : Request → Bool
  | .fetch request => request.method = .post
  | _ => false

/-! ## Up to the first write -/

section Writes

variable {replies : Nat → Reply} {s : Surroundings} {post : SocialPost} {n : Nat}

/-- Only writes count. -/
abbrev NoWrite (x : Request × Reply) : Prop := x.1.writes = false

theorem noWrite_of_local (x : Request × Reply) (h : x.1.isFetch = false) : NoWrite x := by
  obtain ⟨request, reply⟩ := x
  cases request with
  | fetch => cases h
  | _ => rfl

theorem fetchOk_writes {provider : String} {input : HttpRequest} (h : input.method = .post) :
    (fetchOk provider input).Reaches NoWrite Hindrance.Shows replies n none := by
  refine fetchOk_reaches fun hNoWrite => ?_
  rw [NoWrite, Request.writes, h] at hNoWrite
  cases hNoWrite

theorem countsWrites (replies : Nat → Reply) :
    CountsPublishing NoWrite replies fun _ => none where
  others := noWrite_of_local
  fetch provider input n hPublishes := by
    unfold HttpRequest.publishes at hPublishes
    rw [Bool.and_eq_true, decide_eq_true_eq] at hPublishes
    exact fetchOk_writes hPublishes.1

theorem threads_writes (id : AccountId) (text : Text) (media : List PostMedia) :
    (ThreadsAdapter.createContainer s id text media).Reaches NoWrite Hindrance.Shows replies 0
      (ThreadsAdapter.containerHindrance s media replies none) :=
  (hindered_writeCredential noWrite_of_local).bind_reaches fun _ =>
    (hindered_configuredUrl _).bind_reaches fun _ =>
    (hindered_threadsParameters text media).bind_reaches fun _ =>
    (reaches_requestJson rfl (fetchOk_writes rfl)).bind

theorem instagram_writes (id : AccountId) (media : PostMedia) (caption : Text) :
    (InstagramAdapter.createContainer s id media caption).Reaches NoWrite Hindrance.Shows replies
      0 (InstagramAdapter.containerHindrance s media replies none) :=
  (hindered_writeCredential noWrite_of_local).bind_reaches fun _ =>
    (hindered_instagramParameters media caption).bind_reaches fun _ =>
    (hindered_configuredUrl _).bind_reaches fun _ =>
    (reaches_requestJson rfl (fetchOk_writes rfl)).bind

/-- An upload, up to its request. -/
theorem upload_writes (id : AccountId) (media : PostMedia) :
    (XAdapter.uploadMedia s id media).Reaches NoWrite Hindrance.Shows replies 0
      (credentialHindrance XCredentialService s XAdapter.writeScopes (replies 0) (replies 1) <|>
        XAdapter.readHindrance s media (replies 2) <|>
        reservationHindrance s .mediaUpload (replies 3) <|>
        failing (configuredUrl s "X_API_BASE_URL") .configuration <|> none) :=
  (hindered_writeCredential noWrite_of_local).bind_reaches fun _ =>
    (hindered_read (countsWrites replies) media).bind_reaches fun _ =>
    (reaches_billed noWrite_of_local ((hindered_configuredUrl _).bind_reaches fun _ =>
      reaches_requestJson rfl (fetchOk_writes rfl))).bind

end Writes

/-! ## A deployment that is in order -/

def credentialServiceOf : SocialPlatform → CredentialService
  | .linkedin => LinkedInCredentialService
  | .instagram => InstagramCredentialService
  | .facebook => FacebookCredentialService
  | .threads => ThreadsCredentialService
  | .x => XCredentialService

def writeScopesOf : SocialPlatform → PublishingCredential → List String
  | .linkedin => LinkedInAdapter.writeScopes
  | .instagram => InstagramAdapter.writeScopes
  | .facebook => FacebookAdapter.writeScopes
  | .threads => ThreadsAdapter.writeScopes
  | .x => XAdapter.writeScopes

/-- The variable with the URL of the provider. -/
def endpointOf : SocialPlatform → String
  | .linkedin => "LINKEDIN_POSTS_URL"
  | .instagram => "INSTAGRAM_GRAPH_API_BASE_URL"
  | .facebook => "FACEBOOK_GRAPH_API_BASE_URL"
  | .threads => "THREADS_GRAPH_API_BASE_URL"
  | .x => "X_API_BASE_URL"

/-- The account is valid whenever it is looked up, and the platform is configured. For X that
takes the cost ledger and, where there is media, an approved and answering host. -/
structure Deployed (s : Surroundings) (platform : SocialPlatform) (media : List PostMedia)
    (replies : Replies Reply) : Prop where
  credential : ∀ n, credentialHindrance (credentialServiceOf platform) s (writeScopesOf platform)
    (replies.main n) (replies.main (n + 1)) = none
  endpoint : ∃ url, configuredUrl s (endpointOf platform) = .ok url
  version : platform = .linkedin →
    ((s.setting "LINKEDIN_API_VERSION").any fun version => isDigits version 6) = true
  ledger : platform = .x → ∀ operation n, reservationHindrance s operation (replies.main n) = none
  uploads : platform = .x → ∀ i n, credentialHindrance XCredentialService s XAdapter.writeScopes
    (replies.task i n) (replies.task i (n + 1)) = none ∧
      reservationHindrance s .mediaUpload (replies.task i n) = none
  source : platform = .x → ∀ item ∈ media, ∀ i n,
    XAdapter.readHindrance s item (replies.task i n) = none

/-! ## What the adapters check -/

/-- What the text, the link and the media must satisfy for the adapter of a platform, once they
have passed the preflight. -/
def Publishable (s : Surroundings) (content : PostContent) (platform : SocialPlatform) : Prop :=
  let url := content.url.getD []
  match platform with
  | .linkedin => ¬ BlankOverride content .linkedin ∧ (url = [] ∨ isHttps s url = true)
  | .facebook => content.media ≠ [] ∨
      if url = [] then ¬ BlankOverride content .facebook else isHttps s url = true
  | .instagram => True
  | .threads => ¬ BlankOverride content .threads ∨ url ≠ []
  | .x => ¬ BlankOverride content .x ∨ ¬ Blank url ∨ content.media ≠ []

section Checks

variable {s : Surroundings} {replies : Replies Reply} {post : SocialPost}

theorem linkedIn_unhindered_iff (hDeployed : Deployed s .linkedin post.media replies)
    (hPlatform : post.platform = .linkedin) (hMedia : post.media = []) :
    LinkedInAdapter.hindrance s post replies.main (fun _ => none) = none ↔
      ¬ Blank post.body ∧
        (post.destinationUrl.getD [] = [] ∨ isHttps s (post.destinationUrl.getD []) = true) := by
  have hCredential := hDeployed.credential 0
  have hEndpoint := failing_ok .configuration hDeployed.endpoint
  have hVersion := hDeployed.version rfl
  have hPost : LinkedInAdapter.postHindrance s post.body replies.main (fun _ => none) = none ↔
      ¬ Blank post.body := by
    rw [← trim_eq_nil_iff]
    simp only [LinkedInAdapter.postHindrance, Option.orElse_eq_none, unmet_eq_none]
    exact ⟨fun h => h.1, fun h => ⟨h, hCredential, hEndpoint, hVersion, trivial⟩⟩
  have hShape : LinkedInAdapter.shapeHindrance s [] (post.destinationUrl.getD []) = none ↔
      post.destinationUrl.getD [] = [] ∨ isHttps s (post.destinationUrl.getD []) = true := by
    cases post.destinationUrl.getD [] with
    | nil => exact iff_of_true rfl (Or.inl rfl)
    | cons c rest => simp [LinkedInAdapter.shapeHindrance]
  simp only [LinkedInAdapter.hindrance, Option.orElse_eq_none, unmet_eq_none]
  rw [hMedia, hShape, hPost, and_iff_right hPlatform, and_comm]

theorem facebook_unhindered_iff (hDeployed : Deployed s .facebook post.media replies)
    (hPlatform : post.platform = .facebook) (hMany : post.media.length ≤ 1)
    (hMedia : ∀ item ∈ post.media, isHttps s item.url = true) :
    FacebookAdapter.hindrance s post replies.main (fun _ => none) = none ↔
      post.media ≠ [] ∨ if post.destinationUrl.getD [] = [] then ¬ Blank post.body
        else isHttps s (post.destinationUrl.getD []) = true := by
  have hCredential := hDeployed.credential 0
  have hEndpoint := failing_ok .configuration hDeployed.endpoint
  simp only [FacebookAdapter.hindrance, Option.orElse_eq_none, unmet_eq_none]
  rw [and_iff_right hPlatform, and_iff_left ⟨hCredential, hEndpoint, trivial⟩]
  match hItems : post.media, post.destinationUrl.getD [] with
  | [], [] => simp [FacebookAdapter.shapeHindrance, trim_eq_nil_iff]
  | [], c :: rest => simp [FacebookAdapter.shapeHindrance]
  | [item], _ =>
    have hHttps := hMedia item (by simp [hItems])
    simp [FacebookAdapter.shapeHindrance, hHttps]
  | _ :: _ :: _, _ => simp [hItems] at hMany

theorem threads_unhindered_iff (hDeployed : Deployed s .threads post.media replies)
    (hPlatform : post.platform = .threads) (hMany : post.media.length ≤ 1)
    (hMedia : ∀ item ∈ post.media, isHttps s item.url = true) :
    (unmet (post.platform = .threads) .input <|> unmet (bodyAndUrl post ≠ []) .input <|>
      ThreadsAdapter.containerHindrance s post.media replies.main none) = none ↔
        ¬ Blank post.body ∨ post.destinationUrl.getD [] ≠ [] := by
  have hCredential := hDeployed.credential 0
  have hEndpoint := failing_ok .configuration hDeployed.endpoint
  have hShape : ThreadsAdapter.shapeHindrance s post.media = none := by
    match hItems : post.media with
    | [] => rfl
    | [item] => exact unmet_eq_none.mpr (hMedia item (by simp [hItems]))
    | _ :: _ :: _ => simp [hItems] at hMany
  have hText : bodyAndUrl post ≠ [] ↔ ¬ Blank post.body ∨ post.destinationUrl.getD [] ≠ [] := by
    unfold bodyAndUrl
    rw [joinNonEmpty_pair, ← trim_eq_nil_iff]
    split
    next hBody => simp [hBody]
    next hBody =>
      split
      · simp [hBody]
      · simp [hBody]
  simp only [ThreadsAdapter.containerHindrance, Option.orElse_eq_none, unmet_eq_none]
  rw [hText, and_iff_right hPlatform]
  exact and_iff_left ⟨hCredential, hEndpoint, hShape, trivial⟩

/-- The text of X is blank with the post's own and its link. -/
theorem x_unhindered_iff (hDeployed : Deployed s .x post.media replies)
    (hPlatform : post.platform = .x) (hMedia : post.media = []) :
    XAdapter.hindrance s post replies (fun _ => none) = none ↔
      ¬ Blank post.body ∨ ¬ Blank (post.destinationUrl.getD []) := by
  have hCredential := hDeployed.credential 0
  have hEndpoint := failing_ok .configuration hDeployed.endpoint
  have hText : trim (bodyAndUrl post) ≠ [] ↔
      ¬ Blank post.body ∨ ¬ Blank (post.destinationUrl.getD []) := by
    rw [Ne, trim_eq_nil_iff, bodyAndUrl, blank_joinNonEmpty_iff blank_newline,
      blank_trim_iff, not_and_or]
  have hNotEmpty : trim (bodyAndUrl post) ≠ [] → bodyAndUrl post ≠ [] := by
    intro h hEmpty
    rw [hEmpty] at h
    exact h rfl
  simp only [XAdapter.hindrance, XAdapter.postHindrance, hMedia, Option.orElse_eq_none,
    unmet_eq_none]
  rw [and_iff_right hPlatform, hText]
  constructor
  · exact fun h => h.2.1
  · exact fun h => ⟨Or.inl (hNotEmpty (hText.mpr h)), h, hCredential, hDeployed.ledger rfl _ 2,
      hEndpoint, trivial⟩

end Checks

/-! ## Sending -/

section Sending

variable {s : Surroundings} {replies : Replies Reply} {post : SocialPost}

/-- The run of the adapter of a platform writes at its provider. -/
def SendsWrite (s : Surroundings) (replies : Replies Reply) (platform : SocialPlatform)
    (post : SocialPost) : Prop :=
  ∃ x ∈ ((adapterPublish s platform post).run replies).exchanges, x.1.writes = true

theorem sendsWrite_iff {platform : SocialPlatform} {hindrance : Option Hindrance}
    (h : ((adapterPublish s platform post).run replies).Reaches NoWrite Hindrance.Shows
      hindrance) : SendsWrite s replies platform post ↔ hindrance = none := by
  rw [← h.iff]
  simp only [NoWrite, Bool.not_eq_false, SendsWrite]

theorem linkedIn_sends : SendsWrite s replies .linkedin post ↔
    LinkedInAdapter.hindrance s post replies.main (fun _ => none) = none :=
  sendsWrite_iff (reaches_linkedIn (countsWrites replies.main)).conversation

theorem facebook_sends : SendsWrite s replies .facebook post ↔
    FacebookAdapter.hindrance s post replies.main (fun _ => none) = none :=
  sendsWrite_iff (reaches_facebook (countsWrites replies.main)).conversation

theorem xText_sends (hMedia : post.media = []) : SendsWrite s replies .x post ↔
    XAdapter.hindrance s post replies (fun _ => none) = none :=
  sendsWrite_iff (reaches_xText (countsWrites replies.main) hMedia)

theorem threads_sends : SendsWrite s replies .threads post ↔
    (unmet (post.platform = .threads) .input <|> unmet (bodyAndUrl post ≠ []) .input <|>
      ThreadsAdapter.containerHindrance s post.media replies.main none) = none := by
  have hReaches : (ThreadsAdapter.publish s post).Reaches NoWrite Hindrance.Shows replies.main 0
      (unmet (post.platform = .threads) .input <|> unmet (bodyAndUrl post ≠ []) .input <|>
        ThreadsAdapter.containerHindrance s post.media replies.main none) :=
    (hindered_platform _).bind_reaches fun _ => hindered_threadsText.bind_reaches fun _ =>
      (threads_writes ..).bind
  exact sendsWrite_iff hReaches.conversation

/-- Instagram has no check that the preflight and the media service leave open. -/
theorem instagram_sends (hDeployed : Deployed s .instagram post.media replies)
    (hPlatform : post.platform = .instagram) (hOne : post.media.length = 1)
    (hMedia : ∀ item ∈ post.media, isHttps s item.url = true) :
    SendsWrite s replies .instagram post := by
  obtain ⟨item, hItem⟩ := List.length_eq_one_iff.mp hOne
  have hUnhindered : InstagramAdapter.containerHindrance s item replies.main none = none := by
    simp only [InstagramAdapter.containerHindrance, Option.orElse_eq_none, unmet_eq_none]
    exact ⟨hDeployed.credential 0, hMedia item (hItem ▸ List.mem_singleton_self item),
      failing_ok .configuration hDeployed.endpoint, trivial⟩
  have hReaches : (InstagramAdapter.publish s post).Reaches NoWrite Hindrance.Shows replies.main 0
      (unmet (post.platform = .instagram) .input <|> none) := by
    refine (hindered_platform _).bind_reaches fun _ => ?_
    rw [hItem, ← hUnhindered]
    exact (instagram_writes ..).bind
  have hRun : ((adapterPublish s .instagram post).run replies).Reaches NoWrite Hindrance.Shows
      (unmet (post.platform = .instagram) .input <|> none) := hReaches.conversation
  rw [sendsWrite_iff hRun, Option.orElse_eq_none, unmet_eq_none]
  exact ⟨hPlatform, rfl⟩

/-- With media, X is sent the first upload whatever the text. -/
theorem xMedia_sends (hDeployed : Deployed s .x post.media replies)
    (hPlatform : post.platform = .x) (hMedia : post.media ≠ []) (hCount : post.media.length ≤ 4) :
    SendsWrite s replies .x post := by
  obtain ⟨item, others, hItems⟩ := List.exists_cons_of_ne_nil hMedia
  have hItem : item ∈ post.media := hItems ▸ List.mem_cons_self
  have hUpload : (XAdapter.uploadMedia s post.socialAccountId item).Reaches NoWrite
      Hindrance.Shows (replies.task 0) 0 none := by
    have hEndpoint : failing (configuredUrl s "X_API_BASE_URL") .configuration = none :=
      failing_ok .configuration hDeployed.endpoint
    have hReaches : (XAdapter.uploadMedia s post.socialAccountId item).Reaches NoWrite
        Hindrance.Shows (replies.task 0) 0 _ := upload_writes ..
    rwa [(hDeployed.uploads rfl 0 0).1, hDeployed.source rfl item hItem 0 2,
      (hDeployed.uploads rfl 0 3).2, hEndpoint] at hReaches
  obtain ⟨x, hMem, hWrites⟩ := hUpload
  have hRun : adapterPublish s .x post = .all
      (post.media.map (XAdapter.uploadMedia s post.socialAccountId)) fun mediaIds =>
        XAdapter.createPost s post.socialAccountId (bodyAndUrl post) mediaIds := by
    unfold adapterPublish XAdapter.publish XAdapter.postText XAdapter.publishMedia
    dsimp only
    rw [if_neg (not_not.mpr hPlatform), if_neg fun hEmpty => hMedia hEmpty.2]
    rw [hItems] at hCount ⊢
    dsimp only
    rw [if_neg (List.cons_ne_nil _ _), if_neg (Nat.not_lt.mpr hCount)]
  refine ⟨x, ?_, Bool.not_eq_false _ |>.mp hWrites⟩
  rw [hRun]
  refine Process.mem_run_all (i := 0) ?_ hMem
  rw [hItems]
  rfl

/-- The media of a stored post have passed the media service. -/
theorem isHttps_of_validateMedia {media : List PostMedia}
    (h : validateMedia s.cfg media = .ok media) : ∀ item ∈ media, isHttps s item.url = true := by
  unfold validateMedia at h
  split at h
  next hAll => exact List.all_eq_true.mp hAll
  · cases h

/-- **A post that passes the preflight is sent exactly where its text and its link pass the checks
of the adapter as well.** The content is one that the API accepts: with a text that is not blank,
at most four media and those valid. -/
theorem preflight_sends_iff {record : PostRecord} {job : SocialPublishJob} {formatted : SocialPost}
    (hBody : trim record.post.content.body ≠ []) (hCount : record.post.content.media.length ≤ 4)
    (hValid : validateMedia s.cfg record.post.content.media = .ok record.post.content.media)
    (hIssues : PostService.issues s.cfg record = .ok []) (hJob : job ∈ record.jobs)
    (hFormat : FormatterService.format s.cfg.isTagChar record.post job = .ok formatted)
    (hDeployed : Deployed s job.platform record.post.content.media replies) :
    SendsWrite s replies job.platform formatted ↔
      Publishable s record.post.content job.platform := by
  have hText (h : job.platform ≠ .instagram) :
      Blank formatted.body ↔ BlankOverride record.post.content job.platform :=
    body_blank_iff (fun hBlank => hBody (trim_eq_nil_iff.mpr hBlank)) h hFormat
  obtain ⟨-, -, -, hInstagram, hLinkedIn, hMany⟩ := issuesOf_nil (issues_nil hIssues hJob)
  obtain ⟨hPlatform, hUrl, hMedia, -⟩ := format_ok hFormat
  have hHttps := isHttps_of_validateMedia hValid
  rw [← hMedia] at hCount hHttps hDeployed hInstagram hLinkedIn hMany
  unfold Publishable
  rw [← hUrl, ← hMedia]
  generalize job.platform = platform at *
  cases platform with
  | linkedin =>
    rw [← hText nofun]
    exact linkedIn_sends.trans (linkedIn_unhindered_iff hDeployed hPlatform (hLinkedIn rfl))
  | facebook =>
    rw [← hText nofun]
    exact facebook_sends.trans (facebook_unhindered_iff hDeployed hPlatform (hMany nofun) hHttps)
  | instagram =>
    exact iff_of_true (instagram_sends hDeployed hPlatform (hInstagram rfl) hHttps) trivial
  | threads =>
    rw [← hText nofun]
    exact threads_sends.trans (threads_unhindered_iff hDeployed hPlatform (hMany nofun) hHttps)
  | x =>
    rw [← hText nofun]
    by_cases hNone : formatted.media = []
    · refine (xText_sends hNone).trans ((x_unhindered_iff hDeployed hPlatform hNone).trans ?_)
      simp [hNone]
    · exact iff_of_true (xMedia_sends hDeployed hPlatform hNone hCount) (Or.inr (Or.inr hNone))

end Sending

/-- LinkedIn is ready to create a post. -/
def readyLinkedIn : Replies Reply :=
  Deployment.replies .linkedin (.response ⟨201, fun _ => some ['u'], .ok .null⟩)

theorem deployed_linkedIn : Deployed Deployment.surroundings .linkedin [] readyLinkedIn where
  credential n := by
    show credentialHindrance LinkedInCredentialService Deployment.surroundings
      LinkedInAdapter.writeScopes (readyLinkedIn.main 0) (readyLinkedIn.main 0) = none
    decide +kernel
  endpoint := ⟨['1'], by decide +kernel⟩
  version _ := by decide +kernel
  ledger hX := nomatch hX
  uploads hX := nomatch hX
  source hX := nomatch hX

/-- A post for LinkedIn with a blank text of its own there. -/
def blankRecord : PostRecord := ⟨Deployment.blankCommentary, [Deployment.job .linkedin]⟩

/-- The preflight finds nothing, and nothing is ever sent. -/
theorem blank_commentary_not_sent :
    trim blankRecord.post.content.body ≠ [] ∧
      PostService.issues Deployment.surroundings.cfg blankRecord = .ok [] ∧
      ¬ ∃ x ∈ (PublishingService.publish Deployment.surroundings readyLinkedIn blankRecord.post
          (Deployment.job .linkedin)).exchanges, x.1.writes = true := by
  decide +kernel

theorem preflight_sends_iff_approved :
    SendsWrite Deployment.surroundings readyLinkedIn .linkedin
      (Deployment.formatted .linkedin (.linkedin "T\n\nHi".toList)) :=
  have hIssues : PostService.issues Deployment.surroundings.cfg
      ⟨Deployment.post, [Deployment.job .linkedin]⟩ = .ok [] := by decide +kernel
  have hFormat : FormatterService.format Deployment.surroundings.cfg.isTagChar Deployment.post
      (Deployment.job .linkedin) =
        .ok (Deployment.formatted .linkedin (.linkedin "T\n\nHi".toList)) := by decide +kernel
  have hBlank : ¬ BlankOverride Deployment.post.content .linkedin :=
    fun ⟨_, hOverride, _⟩ => nomatch hOverride
  (preflight_sends_iff (by decide) (by decide) rfl hIssues (by decide) hFormat
    deployed_linkedIn).mpr ⟨hBlank, Or.inl rfl⟩

end SocialPromotion
