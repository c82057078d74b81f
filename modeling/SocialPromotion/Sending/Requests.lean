import SocialPromotion.Model.Adapters

/-!
# What the adapters ask for

The requests in the text of each adapter method, whatever the replies. The lemmas are for any
set of allowed requests that has all those that are no request to a provider.

Results:

* `Request.publishes`: which request makes a post public;
* one lemma for each method, from `asks_linkedInPost` to `asks_xPost`.
-/

namespace SocialPromotion

open Program

def Request.isFetch : Request → Bool
  | .fetch _ => true
  | _ => false

/-- The request that makes a post public. -/
def HttpRequest.publishes (request : HttpRequest) : Bool :=
  request.method = .post && match request.platform with
  | .linkedin => request.url.path = []
  | .facebook => ["feed", "photos", "videos"].any fun edge =>
      request.url.path.getLast? = some edge.toList
  | .instagram => request.url.path.getLast? = some "media_publish".toList
  | .threads => request.url.path.getLast? = some "threads_publish".toList
  | .x => request.url.path = ["2".toList, "tweets".toList]

def Request.publishes : Request → Bool
  | .fetch request => request.publishes
  | _ => false

/-- Everything but the requests to a provider, and of those the ones that `sends` has. -/
def Request.Among (sends : HttpRequest → Prop) : Request → Prop
  | .fetch request => sends request
  | _ => True

section Methods

variable {s : Surroundings} {sends : HttpRequest → Prop} {α β : Type}

theorem asks_lift (result : Except ThrownError α) :
    (liftM result : Promise α).Asks (Request.Among sends) :=
  Asks.ofExcept result

/-- What follows a check may use that it passed. -/
theorem asks_lift_bind {result : Except ThrownError α} {f : α → Promise β}
    (h : ∀ a, result = .ok a → (f a).Asks (Request.Among sends)) :
    ((liftM result : Promise α) >>= f).Asks (Request.Among sends) := by
  cases result with
  | ok a => exact h a rfl
  | error e => trivial

theorem asks_newDate : newDate.Asks (Request.Among sends) :=
  (Asks.ask trivial).bind fun _ => trivial

theorem asks_published (remotePostId : Text) (remotePostUrl : Option Text) :
    (published remotePostId remotePostUrl).Asks (Request.Among sends) :=
  asks_newDate.bind fun _ => trivial

theorem asks_findActiveSocialAccount (id : AccountId) (platform : SocialPlatform) :
    (findActiveSocialAccount s id platform).Asks (Request.Among sends) :=
  (asks_lift _).bind fun _ => (Asks.ask trivial).bind fun _ => asks_lift _

theorem asks_resolve (service : CredentialService) (id : AccountId) :
    (service.resolve s id).Asks (Request.Among sends) := by
  refine (asks_findActiveSocialAccount id _).bind fun account => ?_
  cases account with
  | none => trivial
  | some account => exact asks_newDate.bind fun _ => asks_lift _

theorem asks_writeCredential (service : CredentialService)
    (scopes : PublishingCredential → List String) (missing : String → String) (id : AccountId) :
    (writeCredential service s scopes missing id).Asks (Request.Among sends) :=
  (asks_resolve service id).bind fun _ => (asks_lift _).bind fun _ => trivial

theorem asks_fetchOk {input : HttpRequest} (provider : String) (h : sends input) :
    (fetchOk provider input).Asks (Request.Among sends) :=
  Asks.bind (Asks.ask h) fun _ => asks_lift _

theorem asks_requestJson {input : HttpRequest} (provider invalidUrl : String) (emptyOn204 : Bool)
    (h : sends input) :
    (requestJson s provider invalidUrl emptyOn204 input).Asks (Request.Among sends) :=
  (asks_lift _).bind fun _ => (asks_fetchOk provider h).bind fun _ =>
    (asks_lift _).bind fun _ => trivial

theorem asks_requestLinkedIn {input : HttpRequest} (h : sends input) :
    (FetchLinkedInHttpClient.request s input).Asks (Request.Among sends) :=
  (asks_lift _).bind fun _ => (asks_fetchOk _ h).bind fun _ => (asks_lift _).bind fun _ => trivial

theorem asks_read (media : PostMedia) :
    (FetchXMediaSource.read s media).Asks (Request.Among sends) :=
  (asks_lift _).bind fun _ => (asks_lift _).bind fun _ => (Asks.ask trivial).bind fun _ =>
    asks_lift _

theorem asks_reserve (input : XUsageReservation) :
    (PgXUsageLedger.reserve s input).Asks (Request.Among sends) :=
  (asks_lift _).bind fun _ => (Asks.ask trivial).bind fun _ => asks_lift _

theorem asks_settle (id : Text) (outcome : XUsageOutcome) (reference : Option Text) :
    (XAdapter.settleWithoutBreakingPublication s id outcome reference).Asks
      (Request.Among sends) :=
  Asks.catching ((asks_lift _).bind fun _ => (Asks.ask trivial).bind fun _ => asks_lift _)
    fun _ => trivial

theorem asks_billed {request : Promise ClientResponse} (credential : PublishingCredential)
    (operation : XUsageOperation) (h : request.Asks (Request.Among sends)) :
    (XAdapter.billed s credential operation request).Asks (Request.Among sends) :=
  (asks_lift _).bind fun _ => (asks_reserve _).bind fun _ => Asks.catching
    (h.bind fun _ => (asks_lift _).bind fun _ => (asks_settle ..).bind fun _ => trivial)
    fun _ => (asks_settle ..).bind fun _ => trivial

/-! ## The adapters, method by method -/

theorem asks_linkedInPost {commentary : Text} {content : Option Json} (id : AccountId)
    (h : ∀ url token author, sends ⟨.linkedin, .post, ⟨url, []⟩, token,
      .json (LinkedInAdapter.postBody author commentary content)⟩) :
    (LinkedInAdapter.createPost s id commentary content).Asks (Request.Among sends) := by
  refine (asks_lift _).bind fun _ => (asks_writeCredential ..).bind fun _ =>
    (asks_lift _).bind fun _ => (asks_requestLinkedIn (h ..)).bind fun response => ?_
  split
  · exact asks_published ..
  · trivial

theorem asks_facebookCreate {edge : String} {parameters : List (String × Text)} (id : AccountId)
    (h : ∀ base page token, sends ⟨.facebook, .post, ⟨base, [page, edge.toList]⟩, token,
      .parameters parameters⟩) :
    (FacebookAdapter.create s id edge parameters).Asks (Request.Among sends) := by
  refine (asks_writeCredential ..).bind fun _ => (asks_lift _).bind fun _ =>
    (asks_requestJson _ _ _ (h ..)).bind fun _ => (asks_lift _).bind fun payload => ?_
  split
  · trivial
  · exact asks_published ..

theorem asks_threadsEdge {base : Text} {edge : String} {parameters : List (String × Text)}
    {credential : PublishingCredential} (missingId : String)
    (h : sends ⟨.threads, .post, ⟨base, [credential.providerId, edge.toList]⟩,
      credential.accessToken, .parameters parameters⟩) :
    (ThreadsAdapter.postEdge s credential base edge parameters missingId).Asks
      (Request.Among sends) :=
  (asks_requestJson _ _ _ h).bind fun _ => asks_lift _

theorem asks_threadsContainer {text : Text} {media : List PostMedia} (id : AccountId)
    (h : ∀ base user token parameters,
      ThreadsAdapter.containerParameters s text media = .ok parameters →
      sends ⟨.threads, .post, ⟨base, [user, "threads".toList]⟩, token, .parameters parameters⟩) :
    (ThreadsAdapter.createContainer s id text media).Asks (Request.Among sends) :=
  (asks_writeCredential ..).bind fun _ => (asks_lift _).bind fun _ =>
    asks_lift_bind fun _ hParameters => asks_threadsEdge _ (h _ _ _ _ hParameters)

theorem asks_threadsPublish {containerId : Text} (id : AccountId)
    (h : ∀ base user token, sends ⟨.threads, .post, ⟨base, [user, "threads_publish".toList]⟩,
      token, .parameters [("creation_id", containerId)]⟩) :
    (ThreadsAdapter.publishContainer s id containerId).Asks (Request.Among sends) :=
  (asks_writeCredential ..).bind fun _ => (asks_lift _).bind fun _ =>
    (asks_threadsEdge _ (h ..)).bind fun _ => asks_published ..

theorem asks_instagramEdge {base : Text} {edge : String} {parameters : List (String × Text)}
    {credential : PublishingCredential} (missingId : String)
    (h : sends ⟨.instagram, .post, ⟨base, [credential.providerId, edge.toList]⟩,
      credential.accessToken, .parameters parameters⟩) :
    (InstagramAdapter.postEdge s credential base edge parameters missingId).Asks
      (Request.Among sends) :=
  (asks_requestJson _ _ _ h).bind fun _ => asks_lift _

theorem asks_instagramContainer {media : PostMedia} {caption : Text} (id : AccountId)
    (h : ∀ base user token parameters,
      InstagramAdapter.containerParameters s media caption = .ok parameters →
      sends ⟨.instagram, .post, ⟨base, [user, "media".toList]⟩, token, .parameters parameters⟩) :
    (InstagramAdapter.createContainer s id media caption).Asks (Request.Among sends) :=
  (asks_writeCredential ..).bind fun _ => asks_lift_bind fun _ hParameters =>
    (asks_lift _).bind fun _ => asks_instagramEdge _ (h _ _ _ _ hParameters)

theorem asks_pollContainer {credential : PublishingCredential} {containerId : Text}
    (intervalMs : Nat)
    (h : ∀ base token, sends ⟨.instagram, .get, ⟨base, [containerId]⟩, token,
      .parameters [("fields", "status_code,status".toList)]⟩) (left : Nat) :
    (InstagramAdapter.pollContainer s credential containerId intervalMs left).Asks
      (Request.Among sends) := by
  induction left with
  | zero => trivial
  | succ left ih =>
    refine (asks_lift _).bind fun _ => (asks_requestJson _ _ _ (h ..)).bind fun _ =>
      (asks_lift _).bind fun ready => ?_
    cases ready with
    | true => trivial
    | false =>
      refine Asks.bind ?_ fun _ => ih
      unfold InstagramAdapter.pause
      split
      · exact (Asks.ask trivial).bind fun _ => trivial
      · trivial

theorem asks_waitUntilReady {containerId : Text} (id : AccountId)
    (h : ∀ base token, sends ⟨.instagram, .get, ⟨base, [containerId]⟩, token,
      .parameters [("fields", "status_code,status".toList)]⟩) :
    (InstagramAdapter.waitUntilReady s id containerId).Asks (Request.Among sends) :=
  (asks_writeCredential ..).bind fun _ => (asks_lift _).bind fun _ => (asks_lift _).bind fun _ =>
    asks_pollContainer _ h _

theorem asks_instagramPublish {containerId : Text} (id : AccountId)
    (h : ∀ base user token, sends ⟨.instagram, .post, ⟨base, [user, "media_publish".toList]⟩,
      token, .parameters [("creation_id", containerId)]⟩) :
    (InstagramAdapter.publishContainer s id containerId).Asks (Request.Among sends) :=
  (asks_writeCredential ..).bind fun _ => (asks_lift _).bind fun _ =>
    (asks_instagramEdge _ (h ..)).bind fun _ => asks_published ..

theorem asks_uploadMedia {media : PostMedia} (id : AccountId)
    (h : ∀ base token base64, sends ⟨.x, .post,
      ⟨base, ["2".toList, "media".toList, "upload".toList]⟩, token,
      .json [("media", .string base64),
        ("media_category", .string (XAdapter.mediaCategory media.type))]⟩) :
    (XAdapter.uploadMedia s id media).Asks (Request.Among sends) :=
  (asks_writeCredential ..).bind fun _ => (asks_read _).bind fun _ =>
    (asks_billed _ _ ((asks_lift _).bind fun _ => asks_requestJson _ _ _ (h ..))).bind fun _ =>
    asks_lift _

theorem asks_xPost {text : Text} {mediaIds : List Text} (id : AccountId)
    (h : ∀ base token, sends ⟨.x, .post, ⟨base, ["2".toList, "tweets".toList]⟩, token,
      .json (XAdapter.tweetBody text mediaIds)⟩) :
    (XAdapter.createPost s id text mediaIds).Asks (Request.Among sends) := by
  refine (asks_writeCredential ..).bind fun _ =>
    (asks_billed _ _ ((asks_lift _).bind fun _ => asks_requestJson _ _ _ (h ..))).bind fun _ =>
    (asks_lift _).bind fun payload => ?_
  split
  · exact asks_published ..
  · trivial

end Methods

/-! ## A deployment

Everything is configured, one account is connected, and every URL counts as HTTPS. -/

namespace Deployment

def unset : List String :=
  ["OAUTH_TOKEN_ENCRYPTION_KEYS", "OAUTH_TOKEN_ENCRYPTION_KEY_VERSION",
    "INSTAGRAM_CONTAINER_MAX_ATTEMPTS", "INSTAGRAM_CONTAINER_POLL_INTERVAL_MS",
    "X_API_MAX_ESTIMATED_COST_MICRO_USD_PER_REQUEST"]

def surroundings : Surroundings where
  cfg := {
    adapters := fun _ => some ⟨false, false⟩
    isTagChar := Char.isAlphanum
    parseUrl := fun text => some ⟨"https:", text⟩ }
  env name :=
    if name ∈ unset then none
    else if name = "LINKEDIN_API_VERSION" then some "202506".toList
    else some ['1']
  hostname _ := ['1']
  href := id
  number _ := .finite 1
  toLowerCase := id
  parseJson _ := none
  fromBase64 _ := List.replicate 32 0
  toBase64 _ := ['1']
  decipher _ _ _ _ := some ['t']

def account (platform : SocialPlatform) : ActiveSocialAccountCredential where
  id := 7
  platform := platform
  platformAccountId := ['1']
  accessTokenEncrypted := "v1.a.b.c".toList
  expiresAt := none
  scope := ["w_member_social", "pages_manage_posts", "instagram_content_publish",
    "threads_content_publish", "tweet.read", "tweet.write", "users.read"]

/-- The account is found, and the provider's answer is `http`. -/
def reply (platform : SocialPlatform) (http : FetchAnswer) : Reply where
  account := .ok (some (account platform))
  http := http
  accepted := false
  media := .failed ⟨true, none, none⟩
  reserve := .ok (some ['r'])
  settle := .ok ()
  date := 1000

def replies (platform : SocialPlatform) (http : FetchAnswer) : Replies Reply where
  main _ := reply platform http
  task _ _ := reply platform http
  settled := []

def post : Post where
  id := 0
  campaignId := 10
  ownerId := 100
  content := ⟨['T'], ['H', 'i'], none, [], none⟩
  scheduledAt := 1000
  status := .scheduled
  revision := 2

/-- That post with a blank text for LinkedIn. -/
def blankCommentary : Post :=
  { post with content := { post.content with platformBodies := some { linkedin := .text [] } } }

/-- A job of the post under its request. -/
def job (platform : SocialPlatform) : SocialPublishJob where
  id := 1
  postId := 0
  platform := platform
  accountId := 7
  status := .remoteRequesting
  scheduledAt := 1000
  publishedAt := none
  remotePostId := none
  remotePostUrl := none
  errorCode := none
  errorMessage := none
  retryCount := 0
  leaseExpiresAt := some 2000
  nextRetryAt := none
  remoteRequestKey := some (.socialPublish 1)
  remoteRequestStartedAt := some 900

/-- What an adapter is given for a job of that post whose platform takes the text as it is. -/
def formatted (platform : SocialPlatform) (content : PlatformContent) : SocialPost where
  localPostId := 0
  socialAccountId := 7
  platform := platform
  title := ['T']
  body := FormatterService.textFor content
  destinationUrl := none
  media := []
  formattedContent := content

end Deployment

end SocialPromotion
