import SocialPromotion.Model.Clients

/-!
# The provider adapters

`publish` of the five adapters, and `PublishingService.publish` around it. An adapter method
is a program over the requests of `Request`; only the X adapter has several of them in flight
at once, its media uploads.
-/

namespace SocialPromotion

/-- The result of a publication, with `publishedAt: new Date()`. -/
def published (remotePostId : Text) (remotePostUrl : Option Text) : Promise PublishResult := do
  let date ← newDate
  return {
    remotePostId := String.ofList remotePostId
    remotePostUrl := remotePostUrl.map String.ofList
    publishedAt := date }

/-- The id in an answer, under the adapter's messages for an answer that is no object and for
one without an id. -/
def idIn (invalidJson missingId : String) (body : Json) : Except ThrownError Text := do
  let payload ← objectMembers invalidJson body
  match Json.nonEmptyString (Json.member "id" payload) with
  | some id => return id
  | none => throw (.serviceUnavailable missingId)

/-! ## linkedin.adapter.ts -/

namespace LinkedInAdapter

def writeScopes (credential : PublishingCredential) : List String :=
  if "urn:li:organization:".toList.isPrefixOf credential.providerId then
    ["w_organization_social"]
  else ["w_member_social"]

def credentialForWrite (s : Surroundings) : AccountId → Promise PublishingCredential :=
  writeCredential LinkedInCredentialService s writeScopes
    fun scope => "LinkedIn account is missing required scope: " ++ scope ++ "."

/-- The body of the request; `content` is left out where it is `undefined`. -/
def postBody (author commentary : Text) (content : Option Json) : List (String × Json) :=
  [("author", .string author), ("commentary", .string commentary),
    ("visibility", .string "PUBLIC".toList),
    ("distribution", .object [("feedDistribution", .string "MAIN_FEED".toList),
      ("targetEntities", .array []), ("thirdPartyDistributionChannels", .array [])])] ++
  (content.map fun content => ("content", content)).toList ++
  [("lifecycleState", .string "PUBLISHED".toList), ("isReshareDisabledByAuthor", .boolean false)]

def createPost (s : Surroundings) (socialAccountId : AccountId) (commentary : Text)
    (content : Option Json) : Promise PublishResult := do
  require (trim commentary ≠ []) (.typeError "LinkedIn commentary is required.")
  let credential ← credentialForWrite s socialAccountId
  let url ← configuredUrl s "LINKEDIN_POSTS_URL"
  let response ← FetchLinkedInHttpClient.request s {
    platform := .linkedin
    method := .post
    url := ⟨url, []⟩
    accessToken := credential.accessToken
    payload := .json (postBody credential.providerId commentary content) }
  match response.status, (response.headers "x-restli-id").getD [] with
  | 201, c :: rest => published (c :: rest) none
  | _, _ =>
    throw (ThrownError.serviceUnavailable "LinkedIn did not return a created post URN.")

def publishText (s : Surroundings) (socialAccountId : AccountId) (commentary : Text) :
    Promise PublishResult :=
  createPost s socialAccountId commentary none

def urnPrefix : MediaType → Text
  | .image => "urn:li:image:".toList
  | .video => "urn:li:video:".toList

/-- `publishImage` and `publishVideo`: `assertUrn` repeats the check of their caller. -/
def publishMedia (s : Surroundings) (socialAccountId : AccountId) (commentary : Text)
    (media : PostMedia) (title : Text) : Promise PublishResult := do
  require ((urnPrefix media.type).isPrefixOf media.url) (.typeError
    ("Expected a LinkedIn " ++ String.ofList (FetchXMediaSource.typeText media.type) ++ " URN."))
  createPost s socialAccountId commentary (some (.object [("media", .object
    (("id", .string media.url) :: if title = [] then [] else [("title", .string title)]))]))

def publishArticle (s : Surroundings) (socialAccountId : AccountId)
    (commentary source title description : Text) : Promise PublishResult := do
  let href ← httpsUrl s "LinkedIn article source must use HTTPS." source
  createPost s socialAccountId commentary (some (.object [("article", .object
    [("source", .string href), ("title", .string title), ("description", .string description)])]))

def publish (s : Surroundings) (post : SocialPost) : Promise PublishResult := do
  require (post.platform = .linkedin) (.typeError "LinkedIn adapter can publish only LinkedIn posts.")
  match post.media, post.destinationUrl.getD [] with
  | [], [] => publishText s post.socialAccountId post.body
  | [], c :: rest => publishArticle s post.socialAccountId post.body (c :: rest) post.title post.body
  | [media], _ =>
    if (urnPrefix media.type).isPrefixOf media.url then
      publishMedia s post.socialAccountId post.body media post.title
    else throw (ThrownError.serviceUnavailable
      "LinkedIn media must be uploaded first and supplied as an Image or Video URN.")
  | _, _ => throw (ThrownError.notImplemented
      "LinkedIn multi-image publishing requires the dedicated MultiImage API.")

end LinkedInAdapter

/-! ## facebook.adapter.ts -/

namespace FacebookAdapter

def writeScopes (_ : PublishingCredential) : List String := ["pages_manage_posts"]

def writeCredential (s : Surroundings) : AccountId → Promise PublishingCredential :=
  SocialPromotion.writeCredential FacebookCredentialService s writeScopes
    fun scope => "Facebook Page is missing required scope: " ++ scope ++ "."

def https (s : Surroundings) : Text → Except ThrownError Text :=
  httpsUrl s "Facebook media and links must use HTTPS."

/-- A parameter that is left out where its text is empty. -/
def optionalText (name : String) (text : Text) : List (String × Text) :=
  if text = [] then [] else [(name, text)]

def create (s : Surroundings) (socialAccountId : AccountId) (edge : String)
    (parameters : List (String × Text)) : Promise PublishResult := do
  let credential ← writeCredential s socialAccountId
  let base ← configuredUrl s "FACEBOOK_GRAPH_API_BASE_URL"
  let response ← FetchFacebookHttpClient.request s {
    platform := .facebook
    method := .post
    url := ⟨base, [credential.providerId, edge.toList]⟩
    accessToken := credential.accessToken
    payload := .parameters parameters }
  let payload ← objectMembers "Meta Graph API returned an invalid JSON response." response.body
  match (Json.nonEmptyString (Json.member "post_id" payload)).or
    (Json.nonEmptyString (Json.member "id" payload)) with
  | none =>
    throw (ThrownError.serviceUnavailable "Meta Graph API did not return a post or media ID.")
  | some remotePostId =>
    published remotePostId (Json.nonEmptyString (Json.member "permalink_url" payload))

def publishText (s : Surroundings) (socialAccountId : AccountId) (message : Text)
    (link : Option Text) : Promise PublishResult := do
  match link.getD [] with
  | [] =>
    require (trim message ≠ []) (.typeError "Facebook Page feed requires a message or link.")
    create s socialAccountId "feed" (optionalText "message" message)
  | c :: rest =>
    let href ← https s (c :: rest)
    create s socialAccountId "feed" (optionalText "message" message ++ [("link", href)])

def publishImage (s : Surroundings) (socialAccountId : AccountId) (imageUrl caption : Text) :
    Promise PublishResult := do
  let href ← https s imageUrl
  create s socialAccountId "photos" (("url", href) :: optionalText "caption" caption)

def publishVideo (s : Surroundings) (socialAccountId : AccountId) (videoUrl description : Text) :
    Promise PublishResult := do
  let href ← https s videoUrl
  create s socialAccountId "videos" (("file_url", href) :: optionalText "description" description)

def publish (s : Surroundings) (post : SocialPost) : Promise PublishResult := do
  require (post.platform = .facebook) (.typeError "Facebook adapter can publish only Facebook posts.")
  match post.media with
  | [] => publishText s post.socialAccountId post.body post.destinationUrl
  | media :: others =>
    match media.type with
    | .image =>
      require (others = [])
        (.notImplemented "Facebook multi-image publishing needs an album workflow.")
      publishImage s post.socialAccountId media.url post.body
    | .video =>
      require (others = [])
        (.notImplemented "Facebook multi-video publishing needs a separate workflow.")
      publishVideo s post.socialAccountId media.url post.body

end FacebookAdapter

/-! ## threads.adapter.ts -/

/-- `parts.filter(Boolean).join('\n')` of the trimmed body and the destination URL, as the
Threads and the X adapter send it. -/
def bodyAndUrl (post : SocialPost) : Text :=
  joinNonEmpty ['\n'] [trim post.body, post.destinationUrl.getD []]

namespace ThreadsAdapter

def writeScopes (_ : PublishingCredential) : List String := ["threads_content_publish"]

def writeCredential (s : Surroundings) : AccountId → Promise PublishingCredential :=
  SocialPromotion.writeCredential ThreadsCredentialService s writeScopes
    fun scope => "Threads account is missing required scope: " ++ scope ++ "."

def https (s : Surroundings) : Text → Except ThrownError Text :=
  httpsUrl s "Threads media URLs must use HTTPS."

def postText (post : SocialPost) : Except ThrownError Text :=
  if bodyAndUrl post = [] then
    .error (.typeError "Threads publishing requires post text or a destination URL.")
  else .ok (bodyAndUrl post)

def containerParameters (s : Surroundings) (text : Text) (media : List PostMedia) :
    Except ThrownError (List (String × Text)) :=
  match media with
  | [] => .ok [("media_type", "TEXT".toList), ("text", text)]
  | [media] =>
    match media.type with
    | .image => do
      return [("media_type", "IMAGE".toList), ("image_url", ← https s media.url), ("text", text)]
    | .video => do
      return [("media_type", "VIDEO".toList), ("video_url", ← https s media.url), ("text", text)]
  | _ => .error (.notImplemented "Threads carousel publishing is not implemented.")

/-- A POST to an edge of the account, for the id in its answer. -/
def postEdge (s : Surroundings) (credential : PublishingCredential) (base : Text) (edge : String)
    (parameters : List (String × Text)) (missingId : String) : Promise Text := do
  let response ← FetchThreadsHttpClient.request s {
    platform := .threads
    method := .post
    url := ⟨base, [credential.providerId, edge.toList]⟩
    accessToken := credential.accessToken
    payload := .parameters parameters }
  idIn "Threads API returned an invalid JSON response." missingId response.body

def createContainer (s : Surroundings) (socialAccountId : AccountId) (text : Text)
    (media : List PostMedia) : Promise Text := do
  let credential ← writeCredential s socialAccountId
  let base ← configuredUrl s "THREADS_GRAPH_API_BASE_URL"
  let parameters ← containerParameters s text media
  postEdge s credential base "threads" parameters
    "Threads did not return a content container ID."

def publishContainer (s : Surroundings) (socialAccountId : AccountId) (containerId : Text) :
    Promise PublishResult := do
  let credential ← writeCredential s socialAccountId
  let base ← configuredUrl s "THREADS_GRAPH_API_BASE_URL"
  let remotePostId ← postEdge s credential base "threads_publish" [("creation_id", containerId)]
    "Threads did not return a published post ID."
  published remotePostId none

def publish (s : Surroundings) (post : SocialPost) : Promise PublishResult := do
  require (post.platform = .threads) (.typeError "Threads adapter can publish only Threads posts.")
  let text ← postText post
  let containerId ← createContainer s post.socialAccountId text post.media
  publishContainer s post.socialAccountId containerId

end ThreadsAdapter

/-! ## instagram.adapter.ts -/

namespace InstagramAdapter

def writeScopes (_ : PublishingCredential) : List String := ["instagram_content_publish"]

def writeCredential (s : Surroundings) : AccountId → Promise PublishingCredential :=
  SocialPromotion.writeCredential InstagramCredentialService s writeScopes
    fun scope => "Instagram account is missing required scope: " ++ scope ++ "."

def https (s : Surroundings) : Text → Except ThrownError Text :=
  httpsUrl s "Instagram media URLs must use HTTPS."

def invalidJson : String := "Instagram Graph API returned an invalid JSON response."

def positiveIntegerEnv (s : Surroundings) (name : String) (fallback : Nat) :
    Except ThrownError Nat :=
  match s.setting name with
  | none => .ok fallback
  | some raw =>
    let invalid : Except ThrownError Nat := .error
      (.serviceUnavailable (name ++ " must be a positive integer no greater than 120."))
    match (s.number raw).integer? with
    | some (.ofNat value) => if value = 0 ∨ value > 120 then invalid else .ok value
    | _ => invalid

def containerParameters (s : Surroundings) (media : PostMedia) (caption : Text) :
    Except ThrownError (List (String × Text)) := do
  let href ← https s media.url
  match media.type with
  | .image => return ("image_url", href) :: FacebookAdapter.optionalText "caption" caption
  | .video => return [("media_type", "REELS".toList), ("video_url", href)] ++
      FacebookAdapter.optionalText "caption" caption

/-- A POST to an edge of the account, for the id in its answer. -/
def postEdge (s : Surroundings) (credential : PublishingCredential) (base : Text) (edge : String)
    (parameters : List (String × Text)) (missingId : String) : Promise Text := do
  let response ← FetchInstagramHttpClient.request s {
    platform := .instagram
    method := .post
    url := ⟨base, [credential.providerId, edge.toList]⟩
    accessToken := credential.accessToken
    payload := .parameters parameters }
  idIn invalidJson missingId response.body

def createContainer (s : Surroundings) (socialAccountId : AccountId) (media : PostMedia)
    (caption : Text) : Promise Text := do
  let credential ← writeCredential s socialAccountId
  let parameters ← containerParameters s media caption
  let base ← configuredUrl s "INSTAGRAM_GRAPH_API_BASE_URL"
  postEdge s credential base "media" parameters "Instagram did not return a media container ID."

/-- What one answer about the container says: it is ready, or not yet, or never. -/
def containerReady (body : Json) : Except ThrownError Bool := do
  let payload ← objectMembers invalidJson body
  let status := (Json.nonEmptyString (Json.member "status_code" payload)).or
    (Json.nonEmptyString (Json.member "status" payload))
  if status = some "FINISHED".toList then return true
  else if status = some "ERROR".toList then
    throw (.serviceUnavailable "Instagram media container entered ERROR.")
  else if status = some "EXPIRED".toList then
    throw (.serviceUnavailable "Instagram media container entered EXPIRED.")
  else return false

/-- The wait before the next attempt, if there is one. -/
def pause (left intervalMs : Nat) : Promise Unit :=
  if 0 < left then do
    let _ ← Program.ask (.setTimeout intervalMs)
    return ()
  else return ()

/-- The loop of `waitUntilReady` with the attempts that are left. -/
def pollContainer (s : Surroundings) (credential : PublishingCredential) (containerId : Text)
    (intervalMs : Nat) : Nat → Promise Unit
  | 0 => throw (ThrownError.serviceUnavailable
      "Instagram media container did not become ready before timeout.")
  | left + 1 => do
    let base ← configuredUrl s "INSTAGRAM_GRAPH_API_BASE_URL"
    let response ← FetchInstagramHttpClient.request s {
      platform := .instagram
      method := .get
      url := ⟨base, [containerId]⟩
      accessToken := credential.accessToken
      payload := .parameters [("fields", "status_code,status".toList)] }
    match ← containerReady response.body with
    | true => return ()
    | false =>
      pause left intervalMs
      pollContainer s credential containerId intervalMs left

def waitUntilReady (s : Surroundings) (socialAccountId : AccountId) (containerId : Text) :
    Promise Unit := do
  let credential ← writeCredential s socialAccountId
  let attempts ← positiveIntegerEnv s "INSTAGRAM_CONTAINER_MAX_ATTEMPTS" 30
  let intervalMs ← positiveIntegerEnv s "INSTAGRAM_CONTAINER_POLL_INTERVAL_MS" 5000
  pollContainer s credential containerId intervalMs attempts

def publishContainer (s : Surroundings) (socialAccountId : AccountId) (containerId : Text) :
    Promise PublishResult := do
  let credential ← writeCredential s socialAccountId
  let base ← configuredUrl s "INSTAGRAM_GRAPH_API_BASE_URL"
  let remotePostId ← postEdge s credential base "media_publish" [("creation_id", containerId)]
    "Instagram did not return a published media ID."
  published remotePostId none

def publish (s : Surroundings) (post : SocialPost) : Promise PublishResult := do
  require (post.platform = .instagram) (.typeError "Instagram adapter can publish only Instagram posts.")
  match post.media with
  | [media] =>
    let containerId ← createContainer s post.socialAccountId media post.body
    waitUntilReady s post.socialAccountId containerId
    publishContainer s post.socialAccountId containerId
  | _ => throw (ThrownError.notImplemented ("Instagram publishing requires exactly one image or " ++
      "video until carousel publishing is implemented."))

end InstagramAdapter

/-! ## x.adapter.ts -/

namespace XAdapter

def writeScopes (_ : PublishingCredential) : List String :=
  ["tweet.read", "tweet.write", "users.read"]

def writeCredential (s : Surroundings) : AccountId → Promise PublishingCredential :=
  SocialPromotion.writeCredential XCredentialService s writeScopes
    fun scope => "X account is missing required scope: " ++ scope ++ "."

def object : Json → Except ThrownError (List (String × Json)) :=
  objectMembers "X API returned an invalid JSON response."

/-- `data(value)`; a missing `data` is no object either. -/
def data (value : Json) : Except ThrownError (List (String × Json)) := do
  let members ← object value
  object ((Json.member "data" members).getD .null)

def settleWithoutBreakingPublication (s : Surroundings) (id : Text) (outcome : XUsageOutcome)
    (externalReference : Option Text) : Promise Unit :=
  (PgXUsageLedger.settle s id outcome externalReference).catching fun _ => return ()

/-- A request between its reservation in the ledger and the settlement of that. -/
def billed (s : Surroundings) (credential : PublishingCredential) (operation : XUsageOperation)
    (request : Promise ClientResponse) : Promise ClientResponse := do
  let quote ← XApiCostService.estimate s operation
  let id ← PgXUsageLedger.reserve s {
    socialAccountId := credential.socialAccountId
    operation
    estimatedCostMicrousd := quote.estimatedCostMicrousd
    pricingVersion := quote.pricingVersion }
  let attempt : Promise ClientResponse := do
    let response ← request
    let members ← data response.body
    settleWithoutBreakingPublication s id .succeeded
      (Json.nonEmptyString (Json.member "id" members))
    return response
  attempt.catching fun error => do
    settleWithoutBreakingPublication s id .failed none
    throw error

def mediaCategory : MediaType → Text
  | .image => "tweet_image".toList
  | .video => "tweet_video".toList

/-- The id in the answer to an upload. -/
def mediaId (body : Json) : Except ThrownError Text := do
  let members ← data body
  match Json.nonEmptyString (Json.member "id" members) with
  | some id => return id
  | none => throw (.serviceUnavailable "X Media Upload did not return a media ID.")

def uploadMedia (s : Surroundings) (socialAccountId : AccountId) (media : PostMedia) :
    Promise Text := do
  let credential ← writeCredential s socialAccountId
  let base64 ← FetchXMediaSource.read s media
  let response ← billed s credential .mediaUpload do
    let base ← configuredUrl s "X_API_BASE_URL"
    FetchXHttpClient.request s {
      platform := .x
      method := .post
      url := ⟨base, ["2".toList, "media".toList, "upload".toList]⟩
      accessToken := credential.accessToken
      payload := .json [("media", .string base64),
        ("media_category", .string (mediaCategory media.type))] }
  mediaId response.body

/-- `/https?:\/\//i.test(text)`. -/
def containsUrl (text : Text) : Bool :=
  let lower := text.map Char.toLower
  includes lower "http://".toList || includes lower "https://".toList

/-- The body of the request; `media` is left out where there is none. -/
def tweetBody (text : Text) (mediaIds : List Text) : List (String × Json) :=
  ("text", .string text) :: match mediaIds with
    | [] => []
    | ids => [("media", .object [("media_ids", .array (ids.map .string))])]

def createPost (s : Surroundings) (socialAccountId : AccountId) (text : Text)
    (mediaIds : List Text) : Promise PublishResult := do
  let credential ← writeCredential s socialAccountId
  let operation := if containsUrl text then .postCreateWithUrl else .postCreate
  let response ← billed s credential operation do
    let base ← configuredUrl s "X_API_BASE_URL"
    FetchXHttpClient.request s {
      platform := .x
      method := .post
      url := ⟨base, ["2".toList, "tweets".toList]⟩
      accessToken := credential.accessToken
      payload := .json (tweetBody text mediaIds) }
  let members ← data response.body
  match Json.nonEmptyString (Json.member "id" members) with
  | some remotePostId => published remotePostId none
  | none => throw (ThrownError.serviceUnavailable "X API did not return a created post ID.")

def postText (post : SocialPost) : Except ThrownError Text :=
  if bodyAndUrl post = [] ∧ post.media = [] then
    .error (.typeError "X publishing requires text or media.")
  else .ok (bodyAndUrl post)

def publishText (s : Surroundings) (socialAccountId : AccountId) (text : Text) :
    Promise PublishResult := do
  require (trim text ≠ []) (.typeError "X post text is required when no media is attached.")
  createPost s socialAccountId text []

/-- `Promise.all` over the uploads, and the post with their ids. -/
def publishMedia (s : Surroundings) (socialAccountId : AccountId) (text : Text)
    (media : List PostMedia) : Process Request Reply ThrownError Text PublishResult :=
  if media = [] then .single (throw (ThrownError.typeError
    "X media publishing requires at least one media item."))
  else if media.length > 4 then .single (throw (ThrownError.notImplemented
    "X publishing supports at most four attached media items in this adapter."))
  else .all (media.map (uploadMedia s socialAccountId)) fun mediaIds =>
    createPost s socialAccountId text mediaIds

def publish (s : Surroundings) (post : SocialPost) :
    Process Request Reply ThrownError Text PublishResult :=
  if post.platform ≠ .x then
    .single (throw (ThrownError.typeError "X adapter can publish only X posts."))
  else match postText post with
    | .error error => .single (throw error)
    | .ok text =>
      match post.media with
      | [] => .single (publishText s post.socialAccountId text)
      | media :: others => publishMedia s post.socialAccountId text (media :: others)

end XAdapter

/-! ## publishing.service.ts -/

/-- `publish` of the registered adapter. -/
def adapterPublish (s : Surroundings) (platform : SocialPlatform) (post : SocialPost) :
    Process Request Reply ThrownError Text PublishResult :=
  match platform with
  | .linkedin => .single (LinkedInAdapter.publish s post)
  | .facebook => .single (FacebookAdapter.publish s post)
  | .instagram => .single (InstagramAdapter.publish s post)
  | .threads => .single (ThreadsAdapter.publish s post)
  | .x => XAdapter.publish s post

namespace PublishingService

/-- What `publish` asked for, with the replies, and the execution it returns. -/
structure Publication where
  exchanges : List (Request × Reply)
  execution : PublishExecution

/-- `publish` with the call of the adapter in its place. -/
def publish (s : Surroundings) (replies : Replies Reply) (post : Post) (job : SocialPublishJob) :
    Publication :=
  match publishStart s.cfg post job with
  | .settled execution => ⟨[], execution⟩
  | .call formatted _ =>
    let conversation := (adapterPublish s job.platform formatted).run replies
    ⟨conversation.exchanges, publishFinish job conversation.result⟩

end PublishingService

end SocialPromotion
