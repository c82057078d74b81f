import SocialPromotion.Sending.Preflight
import SocialPromotion.Sending.Publication

/-!
# Where the link of a post goes

The link travels by another way on every platform: LinkedIn and Facebook attach it, Threads
and X write it after the text, and Instagram has it in the caption. Facebook attaches it to a
text alone; with a photo or a video it is left out.

Results:

* `link_kept_iff`: every request with the content of the post carries its link, except on
  Facebook with media where the text does not happen to have it;
* `facebook_photo_without_link`: a photo that is posted without the link.
-/

namespace SocialPromotion

open Program

def linkParameter (values : List (String × Text)) : Option Text :=
  (values.find? fun v => v.1 = "link").map Prod.snd

/-- The link that a request attaches: a parameter for Facebook, the source of an article for
LinkedIn. -/
def HttpRequest.attachment (request : HttpRequest) : Option Text :=
  match request.payload with
  | .none => none
  | .parameters values => linkParameter values
  | .json members =>
    match Json.member "content" members with
    | some (.object content) =>
      match Json.member "article" content with
      | some (.object article) =>
        match Json.member "source" article with
        | some (.string source) => some source
        | _ => none
      | _ => none
    | _ => none

/-- A text with the link in it, as it was given or normalised. -/
def mentions (s : Surroundings) (url text : Text) : Bool :=
  text ≠ [] ∧ (includes text url ∨ includes text (s.href url))

def HttpRequest.carries (s : Surroundings) (url : Text) (request : HttpRequest) : Bool :=
  request.attachment = some (s.href url) ∨ request.text.any (mentions s url)

/-- A write with the content of the post: neither the upload of a medium nor the publication of
a container. -/
def HttpRequest.bearsContent (request : HttpRequest) : Bool :=
  request.method = .post ∧ ["threads_publish", "media_publish", "upload"].all fun edge =>
    request.url.path.getLast? ≠ some edge.toList

/-- A request that is no write with content, or carries the link. -/
def Request.keepsLink (s : Surroundings) (url : Text) : Request → Bool
  | .fetch request => !request.bearsContent || request.carries s url
  | _ => true

section Links

variable {s : Surroundings} {post : SocialPost} {url : Text} {request : HttpRequest}

theorem mentions_of_infix {text : Text} (hUrl : url ≠ []) (h : url <:+: text) :
    mentions s url text = true := by
  have hText : text ≠ [] := fun hEmpty => hUrl (List.infix_nil.mp (hEmpty ▸ h))
  simp [mentions, includes, hText, h]

theorem carries_of_text {text : Text} (hText : request.text = some text)
    (h : mentions s url text = true) : request.carries s url = true := by
  simp [HttpRequest.carries, hText, h]

theorem carries_of_attachment (h : request.attachment = some (s.href url)) :
    request.carries s url = true := by
  simp [HttpRequest.carries, h]

/-- The text of Threads and X ends in the link. -/
theorem mentions_bodyAndUrl (hUrl : post.destinationUrl = some url) (hNonempty : url ≠ []) :
    mentions s url (bodyAndUrl post) = true := by
  refine mentions_of_infix hNonempty (infix_joinNonEmpty ?_ hNonempty)
  rw [hUrl]
  exact List.mem_cons_of_mem _ (List.mem_singleton_self url)

theorem originalFor_url (content : PostContent) (platform : SocialPlatform) :
    (originalFor content platform).url = content.url := by
  unfold originalFor
  cases (content.platformBodies.getD {}).get platform <;> rfl

/-- The caption of Instagram has the link between the text and the hashtags. -/
theorem mentions_caption {isTagChar : Char → Bool} {post : Post} {job : SocialPublishJob}
    {formatted : SocialPost} (hJob : job.platform = .instagram)
    (h : FormatterService.format isTagChar post job = .ok formatted)
    (hUrl : post.content.url = some url) (hNonempty : url ≠ []) :
    mentions s url formatted.body = true := by
  obtain ⟨-, -, -, content, hContent, hText⟩ := format_ok h
  rw [hJob] at hContent
  obtain ⟨source, -, hContent⟩ := Keyed.bind_eq_ok.mp hContent
  obtain ⟨message, -, hContent⟩ := Keyed.bind_eq_ok.mp hContent
  obtain rfl := Except.ok.inj hContent
  rw [hText]
  refine mentions_of_infix hNonempty (infix_joinNonEmpty ?_ hNonempty)
  rw [originalFor_url, hUrl]
  exact List.mem_cons_of_mem _ List.mem_cons_self

theorem linkParameter_cons {name : String} {value : Text} {others : List (String × Text)}
    (h : name ≠ "link") : linkParameter ((name, value) :: others) = linkParameter others := by
  unfold linkParameter
  rw [List.find?_cons_of_neg (by simpa using h)]

theorem linkParameter_optionalText {name : String} {body : Text}
    {others : List (String × Text)} (h : name ≠ "link") :
    linkParameter (FacebookAdapter.optionalText name body ++ others) = linkParameter others := by
  unfold FacebookAdapter.optionalText
  split
  · rfl
  · exact linkParameter_cons h

/-- Facebook's photos and videos have no link of their own. -/
theorem linkParameter_facebookMedia {edge : String} {parameters : List (String × Text)}
    (hMedia : post.media ≠ [])
    (h : FacebookAdapter.edgeOf s post = some (edge, parameters)) :
    linkParameter parameters = none := by
  have hOptional {name : String} {body : Text} (hName : name ≠ "link") :
      linkParameter (FacebookAdapter.optionalText name body) = none := by
    rw [← List.append_nil (FacebookAdapter.optionalText ..), linkParameter_optionalText hName]
    rfl
  unfold FacebookAdapter.edgeOf at h
  split at h
  case h_1 hNone _ => exact absurd hNone hMedia
  case h_2 hNone _ => exact absurd hNone hMedia
  case h_3 =>
    split at h
    · obtain ⟨-, rfl⟩ := Prod.mk.inj (Option.some.inj h)
      exact (linkParameter_cons (by decide)).trans (hOptional (by decide))
    · obtain ⟨-, rfl⟩ := Prod.mk.inj (Option.some.inj h)
      exact (linkParameter_cons (by decide)).trans (hOptional (by decide))
  case h_4 => cases h

/-- Facebook's text has it. -/
theorem linkParameter_facebookText {edge : String} {parameters : List (String × Text)}
    (hMedia : post.media = []) (hUrl : post.destinationUrl = some url) (hNonempty : url ≠ [])
    (h : FacebookAdapter.edgeOf s post = some (edge, parameters)) :
    linkParameter parameters = some (s.href url) := by
  unfold FacebookAdapter.edgeOf at h
  rw [hMedia, hUrl] at h
  cases url with
  | nil => exact absurd rfl hNonempty
  | cons c rest =>
    obtain ⟨-, rfl⟩ := Prod.mk.inj (Option.some.inj h)
    exact linkParameter_optionalText (by decide)

/-- LinkedIn's text has it as the source of an article. -/
theorem attachment_linkedIn {endpoint token author : Text} {content : Option Json}
    (hMedia : post.media = []) (hUrl : post.destinationUrl = some url) (hNonempty : url ≠ [])
    (h : LinkedInAdapter.contentOf s post = some content) :
    (HttpRequest.mk .linkedin .post ⟨endpoint, []⟩ token
      (.json (LinkedInAdapter.postBody author post.body content))).attachment =
        some (s.href url) := by
  unfold LinkedInAdapter.contentOf at h
  rw [hMedia, hUrl] at h
  cases url with
  | nil => exact absurd rfl hNonempty
  | cons c rest =>
    obtain rfl := Option.some.inj h
    simp [HttpRequest.attachment, LinkedInAdapter.postBody, Json.member]

/-- **A request of an adapter carries the link**, where LinkedIn has no media and Facebook has
none either, or a text with the link in it. -/
theorem Sends.keepsLink {platform : SocialPlatform} (h : Sends s post platform request)
    (hUrl : post.destinationUrl = some url) (hNonempty : url ≠ [])
    (hLinkedIn : platform = .linkedin → post.media = [])
    (hInstagram : platform = .instagram → mentions s url post.body = true)
    (hFacebook : platform = .facebook → post.media ≠ [] → mentions s url post.body = true) :
    (Request.fetch request).keepsLink s url = true := by
  have hCarries {request : HttpRequest} (hRequest : request.carries s url = true) :
      (Request.fetch request).keepsLink s url = true := by
    simp [Request.keepsLink, hRequest]
  have hBody {text : Text} (hText : mentions s url text = true) : text ≠ [] := by
    rintro rfl
    cases hText
  cases h with
  | linkedInPost h =>
    exact hCarries (carries_of_attachment (attachment_linkedIn (hLinkedIn rfl) hUrl hNonempty h))
  | facebookPost h =>
    by_cases hMedia : post.media = []
    · exact hCarries (carries_of_attachment (linkParameter_facebookText hMedia hUrl hNonempty h))
    · have hText := hFacebook rfl hMedia
      refine hCarries (carries_of_text ?_ hText)
      exact (textParameter_edgeOf h).trans (if_neg (hBody hText))
  | threadsContainer h =>
    exact hCarries (carries_of_text (textParameter_threads h) (mentions_bodyAndUrl hUrl hNonempty))
  | instagramContainer h =>
    have hText := hInstagram rfl
    exact hCarries (carries_of_text
      ((textParameter_instagram h).trans (if_neg (hBody hText))) hText)
  | xPost => exact hCarries (carries_of_text rfl (mentions_bodyAndUrl hUrl hNonempty))
  | threadsPublish | instagramPublish | instagramPoll | xUpload => rfl

end Links

section Publication

variable {s : Surroundings} {replies : Replies Reply} {post : SocialPost} {url : Text}

theorem edge_of_edgeOf {edge : String} {parameters : List (String × Text)}
    (h : FacebookAdapter.edgeOf s post = some (edge, parameters)) :
    edge ∈ ["feed", "photos", "videos"] := by
  unfold FacebookAdapter.edgeOf at h
  split at h
  case h_4 => cases h
  case h_3 =>
    split at h <;> obtain ⟨rfl, -⟩ := Prod.mk.inj (Option.some.inj h) <;> decide
  all_goals
    obtain ⟨rfl, -⟩ := Prod.mk.inj (Option.some.inj h)
    decide

/-- Facebook gets no other request than the one that publishes. -/
theorem Sends.facebook {request : HttpRequest} (h : Sends s post .facebook request) :
    request.publishes = true ∧ request.bearsContent = true ∧
      (post.media ≠ [] → request.attachment = none) ∧
      request.text = if post.body = [] then none else some post.body := by
  cases h with
  | @facebookPost base page token edge parameters h =>
    have hEdge := edge_of_edgeOf h
    refine ⟨List.any_eq_true.mpr ⟨edge, hEdge, decide_eq_true rfl⟩, ?_,
      fun hMedia => linkParameter_facebookMedia hMedia h, textParameter_edgeOf h⟩
    obtain rfl | rfl | rfl : edge = "feed" ∨ edge = "photos" ∨ edge = "videos" := by
      simpa using hEdge
    · rfl
    · rfl
    · rfl

theorem asks_of_mem {platform : SocialPlatform} {x : Request × Reply}
    (hMem : x ∈ ((adapterPublish s platform post).run replies).exchanges) :
    x.1.Among (Sends s post platform) :=
  (adapterPublish_asks platform).exchanges hMem

/-- With media, a request to Facebook keeps the link where the text has it. -/
theorem Sends.facebookMedia {request : HttpRequest} (h : Sends s post .facebook request)
    (hMedia : post.media ≠ []) :
    (Request.fetch request).keepsLink s url = mentions s url post.body := by
  obtain ⟨-, hBears, hAttachment, hText⟩ := h.facebook
  have hNil : mentions s url [] = false := rfl
  simp only [Request.keepsLink, HttpRequest.carries, hBears, hAttachment hMedia, hText]
  by_cases hBody : post.body = []
  · rw [if_pos hBody, hBody, hNil]
    simp
  · rw [if_neg hBody]
    simp

/-- On Facebook with media the link is kept exactly where the text has it, or where the run
does not get to its request. -/
theorem facebookMedia_kept_iff (hMedia : post.media ≠ []) :
    (∀ x ∈ ((adapterPublish s .facebook post).run replies).exchanges,
      x.1.keepsLink s url = true) ↔
    (PublishingService.hindrance s .facebook post replies (fun _ => none) = none →
      mentions s url post.body = true) := by
  constructor
  · intro h hUnhindered
    obtain ⟨⟨request, reply⟩, hMem, hPublishes⟩ := publishes_iff.mpr hUnhindered
    have hKept := h _ hMem
    have hSends := asks_of_mem hMem
    cases request with
    | fetch request => rwa [hSends.facebookMedia hMedia] at hKept
    | _ => cases hPublishes
  · rintro h ⟨request, reply⟩ hMem
    have hSends := asks_of_mem hMem
    cases request with
    | fetch request =>
      rw [hSends.facebookMedia hMedia]
      exact h (publishes_iff.mp ⟨_, hMem, hSends.facebook.1⟩)
    | _ => rfl

/-- **The link is never dropped, except from photos and videos on Facebook**: of a post without
issues, every write with content that a run of the adapter makes carries the link, exactly where
the job is none of Facebook with media, or the text has the link anyway, or something hinders
the run before its request. -/
theorem link_kept_iff {record : PostRecord} (hIssues : PostService.issues s.cfg record = .ok [])
    {job : SocialPublishJob} (hJob : job ∈ record.jobs) {formatted : SocialPost}
    (hFormat : FormatterService.format s.cfg.isTagChar record.post job = .ok formatted)
    (hUrl : record.post.content.url = some url) (hNonempty : url ≠ []) :
    (∀ x ∈ ((adapterPublish s job.platform formatted).run replies).exchanges,
      x.1.keepsLink s url = true) ↔
    (job.platform = .facebook → record.post.content.media ≠ [] →
      PublishingService.hindrance s .facebook formatted replies (fun _ => none) = none →
      mentions s url formatted.body = true) := by
  obtain ⟨-, -, -, -, hLinkedIn, -⟩ := issuesOf_nil (issues_nil hIssues hJob)
  obtain ⟨-, hDestination, hMedia, -⟩ := format_ok hFormat
  by_cases hPhoto : job.platform = .facebook ∧ record.post.content.media ≠ []
  · rw [forall_prop_of_true hPhoto.1, forall_prop_of_true hPhoto.2, hPhoto.1]
    exact facebookMedia_kept_iff (hMedia ▸ hPhoto.2)
  · refine iff_of_true ?_ fun hFacebook hNotEmpty => absurd ⟨hFacebook, hNotEmpty⟩ hPhoto
    rintro ⟨request, reply⟩ hMem
    have hSends := asks_of_mem hMem
    cases request with
    | fetch request =>
      refine hSends.keepsLink (hDestination.trans hUrl) hNonempty ?_ ?_ ?_
      · exact fun hPlatform => hMedia.trans (hLinkedIn hPlatform)
      · exact fun hPlatform => mentions_caption hPlatform hFormat hUrl hNonempty
      · exact fun hPlatform hNotEmpty => absurd ⟨hPlatform, hMedia ▸ hNotEmpty⟩ hPhoto
    | _ => rfl

end Publication

/-- A photo for Facebook and for Threads, with a link. -/
def photoRecord : PostRecord where
  post := { Deployment.post with
    content := { Deployment.post.content with
      url := some "https://example.org/a".toList
      media := [⟨.image, "https://example.org/i.jpg".toList⟩] } }
  jobs := [Deployment.job .facebook, Deployment.job .threads]

/-- Facebook gets the photo and the text, and no link. -/
theorem facebook_photo_without_link :
    PostService.issues Deployment.surroundings.cfg photoRecord = .ok [] ∧
      ¬ ∀ x ∈ (PublishingService.publish Deployment.surroundings
          (Deployment.replies .facebook (.response ⟨200, fun _ => none, .ok .null⟩))
          photoRecord.post (Deployment.job .facebook)).exchanges,
        x.1.keepsLink Deployment.surroundings "https://example.org/a".toList = true := by
  decide +kernel

/-- What Threads is given of it. -/
def photoForThreads : SocialPost :=
  { Deployment.formatted .threads (.threads "Hi".toList) with
    destinationUrl := some "https://example.org/a".toList
    media := [⟨.image, "https://example.org/i.jpg".toList⟩] }

theorem link_kept_iff_threads :
    FormatterService.format Deployment.surroundings.cfg.isTagChar photoRecord.post
        (Deployment.job .threads) = .ok photoForThreads ∧
      ∀ x ∈ ((adapterPublish Deployment.surroundings .threads photoForThreads).run
        (Deployment.replies .threads
          (.response ⟨200, fun _ => none, .ok (.object [("id", .string ['c'])])⟩))).exchanges,
      x.1.keepsLink Deployment.surroundings "https://example.org/a".toList = true :=
  have hIssues : PostService.issues Deployment.surroundings.cfg photoRecord = .ok [] := by
    decide +kernel
  have hJob : Deployment.job .threads ∈ photoRecord.jobs := by decide
  have hFormat : FormatterService.format Deployment.surroundings.cfg.isTagChar photoRecord.post
      (Deployment.job .threads) = .ok photoForThreads := by decide +kernel
  ⟨hFormat, (link_kept_iff hIssues hJob hFormat rfl (by decide)).mpr
    fun hFacebook => nomatch hFacebook⟩

end SocialPromotion
