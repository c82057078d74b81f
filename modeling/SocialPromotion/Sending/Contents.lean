import SocialPromotion.Lib.Keyed
import SocialPromotion.Sending.Checklists

/-!
# What the adapters send

Every request that the adapter of a platform may send to its provider, with its payload, and
the text that a request takes to the readers of a post.

Results:

* `Sends`: the provider requests of an adapter, kind by kind;
* `adapterPublish_asks`: an adapter sends no other;
* `Sends.text_eq`: the text they take along is the formatted one, or that and the link.
-/

namespace SocialPromotion

open Program

/-- `content` in the body of the LinkedIn request, where there is a request. -/
def LinkedInAdapter.contentOf (s : Surroundings) (post : SocialPost) : Option (Option Json) :=
  match post.media, post.destinationUrl.getD [] with
  | [], [] => some none
  | [], c :: rest => some (some (.object [("article", .object
      [("source", .string (s.href (c :: rest))), ("title", .string post.title),
        ("description", .string post.body)])]))
  | [media], _ => some (some (.object [("media", .object
      (("id", .string media.url) ::
        if post.title = [] then [] else [("title", .string post.title)]))]))
  | _, _ => none

/-- The edge of the Facebook request and its parameters. -/
def FacebookAdapter.edgeOf (s : Surroundings) (post : SocialPost) :
    Option (String × List (String × Text)) :=
  match post.media, post.destinationUrl.getD [] with
  | [], [] => some ("feed", optionalText "message" post.body)
  | [], c :: rest =>
    some ("feed", optionalText "message" post.body ++ [("link", s.href (c :: rest))])
  | [media], _ =>
    match media.type with
    | .image => some ("photos", ("url", s.href media.url) :: optionalText "caption" post.body)
    | .video =>
      some ("videos", ("file_url", s.href media.url) :: optionalText "description" post.body)
  | _, _ => none

/-- The requests that the adapter of a platform may send for a post. -/
inductive Sends (s : Surroundings) (post : SocialPost) : SocialPlatform → HttpRequest → Prop
  | linkedInPost {url token author : Text} {content : Option Json}
      (h : LinkedInAdapter.contentOf s post = some content) :
      Sends s post .linkedin ⟨.linkedin, .post, ⟨url, []⟩, token,
        .json (LinkedInAdapter.postBody author post.body content)⟩
  | facebookPost {base page token : Text} {edge : String} {parameters : List (String × Text)}
      (h : FacebookAdapter.edgeOf s post = some (edge, parameters)) :
      Sends s post .facebook ⟨.facebook, .post, ⟨base, [page, edge.toList]⟩, token,
        .parameters parameters⟩
  | threadsContainer {base user token : Text} {parameters : List (String × Text)}
      (h : ThreadsAdapter.containerParameters s (bodyAndUrl post) post.media = .ok parameters) :
      Sends s post .threads ⟨.threads, .post, ⟨base, [user, "threads".toList]⟩, token,
        .parameters parameters⟩
  | threadsPublish {base user token containerId : Text} :
      Sends s post .threads ⟨.threads, .post, ⟨base, [user, "threads_publish".toList]⟩, token,
        .parameters [("creation_id", containerId)]⟩
  | instagramContainer {base user token : Text} {media : PostMedia}
      {parameters : List (String × Text)}
      (h : InstagramAdapter.containerParameters s media post.body = .ok parameters) :
      Sends s post .instagram ⟨.instagram, .post, ⟨base, [user, "media".toList]⟩, token,
        .parameters parameters⟩
  | instagramPoll {base token containerId : Text} :
      Sends s post .instagram ⟨.instagram, .get, ⟨base, [containerId]⟩, token,
        .parameters [("fields", "status_code,status".toList)]⟩
  | instagramPublish {base user token containerId : Text} :
      Sends s post .instagram ⟨.instagram, .post, ⟨base, [user, "media_publish".toList]⟩, token,
        .parameters [("creation_id", containerId)]⟩
  | xUpload {base token base64 category : Text} :
      Sends s post .x ⟨.x, .post, ⟨base, ["2".toList, "media".toList, "upload".toList]⟩, token,
        .json [("media", .string base64), ("media_category", .string category)]⟩
  | xPost {base token : Text} {mediaIds : List Text} :
      Sends s post .x ⟨.x, .post, ⟨base, ["2".toList, "tweets".toList]⟩, token,
        .json (XAdapter.tweetBody (bodyAndUrl post) mediaIds)⟩

section Adapters

variable {s : Surroundings} {post : SocialPost}

theorem asks_linkedIn :
    (LinkedInAdapter.publish s post).Asks (Request.Among (Sends s post .linkedin)) := by
  have hPost {content : Option Json} (h : LinkedInAdapter.contentOf s post = some content) :
      (LinkedInAdapter.createPost s post.socialAccountId post.body content).Asks
        (Request.Among (Sends s post .linkedin)) :=
    asks_linkedInPost _ fun _ _ _ => .linkedInPost h
  refine (asks_lift _).bind fun _ => ?_
  unfold LinkedInAdapter.contentOf at hPost
  generalize post.destinationUrl.getD [] = url, post.media = media at hPost ⊢
  match media, url with
  | [], [] => exact hPost rfl
  | [], c :: rest =>
    refine asks_lift_bind fun href hHref => ?_
    obtain ⟨-, rfl⟩ := httpsUrl_isOk _ hHref
    exact hPost rfl
  | [media], _ =>
    dsimp only
    split
    · exact (asks_lift _).bind fun _ => hPost rfl
    · trivial
  | _ :: _ :: _, _ => trivial

theorem asks_facebook :
    (FacebookAdapter.publish s post).Asks (Request.Among (Sends s post .facebook)) := by
  have hCreate {edge : String} {parameters : List (String × Text)}
      (h : FacebookAdapter.edgeOf s post = some (edge, parameters)) :
      (FacebookAdapter.create s post.socialAccountId edge parameters).Asks
        (Request.Among (Sends s post .facebook)) :=
    asks_facebookCreate _ fun _ _ _ => .facebookPost h
  refine (asks_lift _).bind fun _ => ?_
  unfold FacebookAdapter.publishText
  unfold FacebookAdapter.edgeOf at hCreate
  generalize post.destinationUrl.getD [] = url, post.media = media at hCreate ⊢
  match media, url with
  | [], [] => exact (asks_lift _).bind fun _ => hCreate rfl
  | [], c :: rest =>
    refine asks_lift_bind fun href hHref => ?_
    obtain ⟨-, rfl⟩ := httpsUrl_isOk _ hHref
    exact hCreate rfl
  | [⟨.image, _⟩], _ | [⟨.video, _⟩], _ =>
    refine (asks_lift _).bind fun _ => asks_lift_bind fun href hHref => ?_
    obtain ⟨-, rfl⟩ := httpsUrl_isOk _ hHref
    exact hCreate rfl
  | ⟨.image, _⟩ :: _ :: _, _ | ⟨.video, _⟩ :: _ :: _, _ => trivial

theorem asks_threads :
    (ThreadsAdapter.publish s post).Asks (Request.Among (Sends s post .threads)) := by
  refine (asks_lift _).bind fun _ => asks_lift_bind fun text hText => ?_
  have hEq : text = bodyAndUrl post := by
    unfold ThreadsAdapter.postText at hText
    split at hText
    · cases hText
    · exact (Except.ok.inj hText).symm
  subst hEq
  exact (asks_threadsContainer _ fun _ _ _ _ h => .threadsContainer h).bind fun containerId =>
    asks_threadsPublish _ fun _ _ _ => .threadsPublish

theorem asks_instagram :
    (InstagramAdapter.publish s post).Asks (Request.Among (Sends s post .instagram)) := by
  refine (asks_lift _).bind fun _ => ?_
  split
  case h_2 => trivial
  exact (asks_instagramContainer _ fun _ _ _ _ h => .instagramContainer h).bind
    fun containerId => (asks_waitUntilReady _ fun _ _ => .instagramPoll).bind
    fun _ => asks_instagramPublish _ fun _ _ _ => .instagramPublish

theorem asks_x : (XAdapter.publish s post).Asks (Request.Among (Sends s post .x)) := by
  have hPost (mediaIds : List Text) :
      (XAdapter.createPost s post.socialAccountId (bodyAndUrl post) mediaIds).Asks
        (Request.Among (Sends s post .x)) :=
    asks_xPost _ fun _ _ => .xPost
  unfold XAdapter.publish XAdapter.postText
  split
  · trivial
  by_cases hEmpty : bodyAndUrl post = [] ∧ post.media = []
  · rw [if_pos hEmpty]
    trivial
  rw [if_neg hEmpty]
  dsimp only
  split
  · exact (asks_lift _).bind fun _ => hPost []
  unfold XAdapter.publishMedia
  split
  · trivial
  split
  · trivial
  refine ⟨fun task hTask => ?_, hPost⟩
  obtain ⟨item, -, rfl⟩ := List.mem_map.mp hTask
  exact asks_uploadMedia _ fun _ _ _ => .xUpload

/-- **An adapter sends nothing to its provider but the requests of `Sends`.** -/
theorem adapterPublish_asks (platform : SocialPlatform) :
    (adapterPublish s platform post).Asks (Request.Among (Sends s post platform)) := by
  cases platform with
  | linkedin => exact asks_linkedIn
  | facebook => exact asks_facebook
  | instagram => exact asks_instagram
  | threads => exact asks_threads
  | x => exact asks_x

end Adapters

/-! ## Texts -/

def textNames : List String := ["message", "caption", "description", "text"]

def textParameter (values : List (String × Text)) : Option Text :=
  (values.find? fun v => v.1 ∈ textNames).map Prod.snd

/-- The text of a post in a request to a provider. -/
def HttpRequest.text (request : HttpRequest) : Option Text :=
  match request.payload with
  | .none => none
  | .json members =>
    match members.find? fun m => m.1 = "commentary" ∨ m.1 = "text" with
    | some (_, .string text) => some text
    | _ => none
  | .parameters values => textParameter values

def Request.text : Request → Option Text
  | .fetch request => request.text
  | _ => none

/-- The text that a platform gets: LinkedIn, Facebook and Instagram as it was formatted,
Threads and X with the link after it. -/
def SocialPost.sentText (post : SocialPost) : SocialPlatform → Text
  | .linkedin | .facebook | .instagram => post.body
  | .threads | .x => bodyAndUrl post

theorem textParameter_cons {name : String} {value : Text} {others : List (String × Text)}
    (h : name ∉ textNames) : textParameter ((name, value) :: others) = textParameter others := by
  unfold textParameter
  rw [List.find?_cons_of_neg (by simpa using h)]

theorem textParameter_optionalText {name : String} {body : Text}
    {others : List (String × Text)} (hName : name ∈ textNames)
    (hOthers : textParameter others = none) :
    textParameter (FacebookAdapter.optionalText name body ++ others) =
      if body = [] then none else some body := by
  unfold FacebookAdapter.optionalText
  split
  · exact hOthers
  · unfold textParameter
    rw [List.cons_append, List.find?_cons_of_pos]
    · rfl
    · exact decide_eq_true hName

/-- The URL of the media comes first, and an optional text next. -/
theorem textParameter_media {name textName : String} {href body : Text}
    (hName : name ∉ textNames) (hText : textName ∈ textNames) :
    textParameter ((name, href) :: FacebookAdapter.optionalText textName body) =
      if body = [] then none else some body := by
  rw [textParameter_cons hName, ← List.append_nil (FacebookAdapter.optionalText ..)]
  exact textParameter_optionalText hText rfl

theorem textParameter_edgeOf {s : Surroundings} {post : SocialPost} {edge : String}
    {parameters : List (String × Text)}
    (h : FacebookAdapter.edgeOf s post = some (edge, parameters)) :
    textParameter parameters = if post.body = [] then none else some post.body := by
  unfold FacebookAdapter.edgeOf at h
  split at h
  · obtain ⟨-, rfl⟩ := Prod.mk.inj (Option.some.inj h)
    rw [← List.append_nil (FacebookAdapter.optionalText ..)]
    exact textParameter_optionalText (by decide) rfl
  · obtain ⟨-, rfl⟩ := Prod.mk.inj (Option.some.inj h)
    exact textParameter_optionalText (by decide) (textParameter_cons (by decide))
  · split at h
    · obtain ⟨-, rfl⟩ := Prod.mk.inj (Option.some.inj h)
      exact textParameter_media (by decide) (by decide)
    · obtain ⟨-, rfl⟩ := Prod.mk.inj (Option.some.inj h)
      exact textParameter_media (by decide) (by decide)
  · cases h

theorem textParameter_threads {s : Surroundings} {text : Text} {media : List PostMedia}
    {parameters : List (String × Text)}
    (h : ThreadsAdapter.containerParameters s text media = .ok parameters) :
    textParameter parameters = some text := by
  unfold ThreadsAdapter.containerParameters at h
  split at h
  · obtain rfl := Except.ok.inj h
    exact textParameter_cons (by decide)
  · split at h
    · obtain ⟨href, -, h⟩ := Keyed.bind_eq_ok.mp h
      obtain rfl := Except.ok.inj h
      rw [textParameter_cons (by decide), textParameter_cons (by decide)]
      rfl
    · obtain ⟨href, -, h⟩ := Keyed.bind_eq_ok.mp h
      obtain rfl := Except.ok.inj h
      rw [textParameter_cons (by decide), textParameter_cons (by decide)]
      rfl
  · cases h

theorem textParameter_instagram {s : Surroundings} {caption : Text} {media : PostMedia}
    {parameters : List (String × Text)}
    (h : InstagramAdapter.containerParameters s media caption = .ok parameters) :
    textParameter parameters = if caption = [] then none else some caption := by
  obtain ⟨href, -, h⟩ := Keyed.bind_eq_ok.mp h
  split at h
  · obtain rfl := Except.ok.inj h
    exact textParameter_media (by decide) (by decide)
  · obtain rfl := Except.ok.inj h
    rw [List.cons_append, textParameter_cons (by decide)]
    exact textParameter_media (by decide) (by decide)

/-- **The only text that a request of an adapter takes along is the one of its platform.** -/
theorem Sends.text_eq {s : Surroundings} {post : SocialPost} {platform : SocialPlatform}
    {request : HttpRequest} {text : Text} (h : Sends s post platform request)
    (hText : request.text = some text) : text = post.sentText platform := by
  have hOptional {body : Text} (hBody : (if body = [] then none else some body) = some text) :
      text = body := by
    split at hBody
    · cases hBody
    · exact (Option.some.inj hBody).symm
  cases h with
  | linkedInPost h =>
    simp [HttpRequest.text, LinkedInAdapter.postBody] at hText
    exact hText.symm
  | facebookPost h => exact hOptional ((textParameter_edgeOf h).symm.trans hText)
  | threadsContainer h => exact Option.some.inj (hText.symm.trans (textParameter_threads h))
  | instagramContainer h => exact hOptional ((textParameter_instagram h).symm.trans hText)
  | xPost =>
    simp [HttpRequest.text, XAdapter.tweetBody] at hText
    exact hText.symm
  | xUpload => simp [HttpRequest.text] at hText
  | threadsPublish | instagramPublish | instagramPoll =>
    exact nomatch (textParameter_cons (by decide)).symm.trans hText

end SocialPromotion
