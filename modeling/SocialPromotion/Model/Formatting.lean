import Mathlib.Data.List.DropRight
import SocialPromotion.Model.Failures

/-!
# Platform formatters

`formatters/*.ts` and `formatter.service.ts`: from the stored content of a post to the text
each platform receives. The preview and the worker both go through `FormatterService.format`
with the same five formatters.

The regular expressions use the Unicode classes `\p{L}` and `\p{N}`, which belong to the
JavaScript engine; `isTagChar` stands for the class `[\p{L}\p{N}_]`.
-/

namespace SocialPromotion

/-! ## text-formatting.ts -/

/-- The characters of `\s`, which are also the ones `trim` removes. -/
def isSpace (c : Char) : Bool :=
  let n := c.toNat
  (9 ≤ n && n ≤ 13) || n == 0x20 || n == 0xA0 || n == 0x1680 || (0x2000 ≤ n && n ≤ 0x200A) ||
    n == 0x2028 || n == 0x2029 || n == 0x202F || n == 0x205F || n == 0x3000 || n == 0xFEFF

def trimEnd (text : Text) : Text := text.rdropWhile isSpace
def trim (text : Text) : Text := trimEnd (text.dropWhile isSpace)

/-- `parts.filter(Boolean).join(separator)`: an empty text is falsy. -/
def joinNonEmpty (separator : Text) (parts : List Text) : Text :=
  (parts.filter fun part => !part.isEmpty).intersperse separator |>.flatten

structure OriginalCampaignContent where
  /-- `none` is the `null` of a platform override. -/
  message : Option Text
  url : Option Text
  title : Text

/-- Reading a property of `null` raises a `TypeError`. -/
def readText : Option Text → Except ThrownError Text
  | some text => .ok text
  | none => .error (.typeError "Cannot read properties of null")

def titleAndMessage (input : OriginalCampaignContent) : Except ThrownError Text := do
  let message ← readText input.message
  return joinNonEmpty ['\n', '\n'] [trim input.title, trim message]

def compact (text : Text) (maximumCharacters : Nat) : Text :=
  let characters := trim text
  if characters.length ≤ maximumCharacters then characters
  else trimEnd (characters.take (max 1 (maximumCharacters - 1))) ++ ['…']

/-- One step of a global search for `/(?:^|\s)#([\p{L}\p{N}_]{1,50})/gu`. -/
inductive HashtagPiece
  | tag (matched : Text)
  | char (c : Char)
deriving DecidableEq, Repr

/-- The match that begins at the front of `rest`, if there is one. -/
def matchHashtag (isTagChar : Char → Bool) (atStart : Bool) (rest : Text) : Option Text :=
  let tagOf (pre : Text) (after : Text) : Option Text :=
    match (after.takeWhile isTagChar).take 50 with
    | [] => none
    | tag => some (pre ++ '#' :: tag)
  match rest with
  | '#' :: after => if atStart then tagOf [] after else none
  | c :: '#' :: after => if isSpace c then tagOf [c] after else none
  | _ => none

/-- The pieces of a text in order; every step consumes at least one character, so the
length of the text is fuel enough. -/
def hashtagPiecesFrom (isTagChar : Char → Bool) : Nat → Bool → Text → List HashtagPiece
  | 0, _, _ => []
  | _, _, [] => []
  | fuel + 1, atStart, c :: rest =>
    match matchHashtag isTagChar atStart (c :: rest) with
    | some tag => .tag tag :: hashtagPiecesFrom isTagChar fuel false ((c :: rest).drop tag.length)
    | none => .char c :: hashtagPiecesFrom isTagChar fuel false rest

def hashtagPieces (isTagChar : Char → Bool) (text : Text) : List HashtagPiece :=
  hashtagPiecesFrom isTagChar text.length true text

def extractHashtags (isTagChar : Char → Bool) (message : Text) : List Text :=
  let tags := (hashtagPieces isTagChar message).filterMap fun
    | .tag matched => some matched
    | .char _ => none
  let withHash (tag : Text) : Text :=
    '#' :: match trim tag with
      | '#' :: name => name
      | name => name
  (tags.map withHash).eraseDups.take 30

/-- `text.replace(/\s{2,}/g, ' ')`. -/
def collapseSpaces (text : Text) : Text :=
  (text.splitBy fun a b => isSpace a == isSpace b).flatMap fun run =>
    if run.all isSpace && 2 ≤ run.length then [' '] else run

def removeHashtags (isTagChar : Char → Bool) (message : Text) : Text :=
  trim <| collapseSpaces <| (hashtagPieces isTagChar message).flatMap fun
    | .tag _ => [' ']
    | .char c => [c]

/-! ## The five formatters -/

inductive PlatformContent
  | linkedin (text : Text)
  | instagram (caption : Text) (hashtags : List Text)
  | facebook (message : Text)
  | threads (text : Text)
  | x (text : Text)
deriving DecidableEq, Repr

structure PlatformContents where
  linkedin : PlatformContent
  instagram : PlatformContent
  facebook : PlatformContent
  threads : PlatformContent
  x : PlatformContent

def PlatformContents.get (contents : PlatformContents) : SocialPlatform → PlatformContent
  | .linkedin => contents.linkedin
  | .instagram => contents.instagram
  | .facebook => contents.facebook
  | .threads => contents.threads
  | .x => contents.x

def LinkedInContentFormatter.format (input : OriginalCampaignContent) :
    Except ThrownError PlatformContent := do
  return .linkedin (← titleAndMessage input)

def InstagramContentFormatter.format (isTagChar : Char → Bool)
    (input : OriginalCampaignContent) : Except ThrownError PlatformContent := do
  let source ← readText input.message
  let hashtags := extractHashtags isTagChar source
  let message ← titleAndMessage { input with message := some (removeHashtags isTagChar source) }
  let caption := joinNonEmpty ['\n', '\n']
    [message, input.url.getD [], (hashtags.intersperse [' ']).flatten]
  return .instagram caption hashtags

def FacebookContentFormatter.format (input : OriginalCampaignContent) :
    Except ThrownError PlatformContent := do
  return .facebook (← titleAndMessage input)

def ThreadsContentFormatter.format (input : OriginalCampaignContent) :
    Except ThrownError PlatformContent := do
  return .threads (compact (← readText input.message) 500)

/-- An empty URL is falsy and takes no room. -/
def XContentFormatter.format (input : OriginalCampaignContent) :
    Except ThrownError PlatformContent := do
  let urlLength := match input.url with
    | some (c :: rest) => (c :: rest).length + 1
    | _ => 0
  return .x (compact (← titleAndMessage input) (max 1 (280 - urlLength)))

/-! ## formatter.service.ts -/

structure SocialPost where
  localPostId : PostId
  socialAccountId : AccountId
  platform : SocialPlatform
  title : Text
  body : Text
  destinationUrl : Option Text
  media : List PostMedia
  formattedContent : PlatformContent
deriving DecidableEq, Repr

namespace FormatterService

/-- `formattersByPlatform`, with the five formatters of the module. -/
def formatterFor (isTagChar : Char → Bool) :
    SocialPlatform → OriginalCampaignContent → Except ThrownError PlatformContent
  | .linkedin => LinkedInContentFormatter.format
  | .instagram => InstagramContentFormatter.format isTagChar
  | .facebook => FacebookContentFormatter.format
  | .threads => ThreadsContentFormatter.format
  | .x => XContentFormatter.format

def formatAll (isTagChar : Char → Bool) (post : Post) : Except ThrownError PlatformContents := do
  let original : OriginalCampaignContent :=
    ⟨some post.content.body, post.content.url, post.content.title⟩
  let formatter (platform : SocialPlatform) : Except ThrownError PlatformContent :=
    match (post.content.platformBodies.getD {}).get platform with
    | .absent => formatterFor isTagChar platform original
    | .null => formatterFor isTagChar platform { original with title := [], message := none }
    | .text override =>
      formatterFor isTagChar platform { original with title := [], message := some override }
  let linkedin ← formatter .linkedin
  let instagram ← formatter .instagram
  let facebook ← formatter .facebook
  let threads ← formatter .threads
  let x ← formatter .x
  return { linkedin, instagram, facebook, threads, x }

def textFor : PlatformContent → Text
  | .linkedin text => text
  | .instagram caption _ => caption
  | .facebook message => message
  | .threads text => text
  | .x text => text

def format (isTagChar : Char → Bool) (post : Post) (job : SocialPublishJob) :
    Except ThrownError SocialPost := do
  let contents ← formatAll isTagChar post
  let content := contents.get job.platform
  return {
    localPostId := post.id
    socialAccountId := job.accountId
    platform := job.platform
    title := post.content.title
    body := textFor content
    destinationUrl := post.content.url
    media := post.content.media
    formattedContent := content }

/-- What is formatted depends on the content of the post and on the target of the job
alone. -/
theorem format_congr (isTagChar : Char → Bool) {post post' : Post} {job job' : SocialPublishJob}
    (hId : post.id = post'.id) (hContent : post.content = post'.content)
    (hPlatform : job.platform = job'.platform) (hAccount : job.accountId = job'.accountId) :
    format isTagChar post job = format isTagChar post' job' := by
  unfold format formatAll
  rw [hId, hContent, hPlatform, hAccount]

end FormatterService

end SocialPromotion
