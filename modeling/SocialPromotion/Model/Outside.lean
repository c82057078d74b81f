import Mathlib.Data.Rat.Defs
import SocialPromotion.Lib.Program
import SocialPromotion.Model.PublishingService

/-!
# What the adapters talk to

The questions that a provider adapter puts to the database, to the provider and to the media
host, with the replies they may get; the environment it reads; and the built-in functions of
the runtime that it uses. Three marks in a reply are not data the code sees: whether the
request left this process at all, whether the provider accepted the write, and the reading of
the clock at that moment.
-/

namespace SocialPromotion

/-! ## Built-in values -/

/-- A JavaScript number by its exact value. -/
inductive JsNumber
  | nan
  | infinity (negative : Bool)
  | finite (value : Rat)
deriving DecidableEq, Repr

namespace JsNumber

/-- The value where `Number.isInteger` holds. -/
def integer? : JsNumber → Option Int
  | .finite value => if value.den = 1 then some value.num else none
  | _ => none

/-- The value where `Number.isSafeInteger` holds. -/
def safeInteger? (n : JsNumber) : Option Int :=
  n.integer?.filter fun value => value.natAbs ≤ 9007199254740991

def exceeds (n : JsNumber) (bound : Int) : Bool :=
  match n with
  | .nan => false
  | .infinity negative => !negative
  | .finite value => (bound : Rat) < value

end JsNumber

/-- A parsed JSON text. -/
inductive Json
  | null
  | boolean (value : Bool)
  | number (value : JsNumber)
  | string (value : Text)
  | array (items : List Json)
  | object (members : List (String × Json))

namespace Json

/-- A property of an object; `none` is `undefined`. -/
def member (key : String) (members : List (String × Json)) : Option Json :=
  (members.find? fun m => m.1 = key).map Prod.snd

/-- `typeof value === 'string' && value.length > 0 ? value : null`. -/
def nonEmptyString : Option Json → Option Text
  | some (.string (c :: rest)) => some (c :: rest)
  | _ => none

end Json

/-- An error of `fetch`, of reading a body or of the database driver: unlike the exceptions
of the framework it carries no numeric `status`. -/
structure PlainError where
  isTypeError : Bool
  code : Option String
  message : Option String
deriving DecidableEq, Repr

def PlainError.toThrown (error : PlainError) : ThrownError :=
  ⟨none, error.isTypeError, error.code, error.message⟩

namespace ThrownError

def forbidden (message : String) : ThrownError := httpException 403 message
def notFound (message : String) : ThrownError := httpException 404 message
def notImplemented (message : String) : ThrownError := httpException 501 message
def serviceUnavailable (message : String) : ThrownError := httpException 503 message

end ThrownError

/-- What the process runs in. -/
structure Surroundings where
  cfg : Config
  /-- `process.env`. -/
  env : String → Option Text
  /-- `new URL(text).hostname` and `new URL(text).toString()` where the text parses. -/
  hostname : Text → Text
  href : Text → Text
  /-- `Number(text)`. -/
  number : Text → JsNumber
  toLowerCase : Text → Text
  /-- `JSON.parse`, where `none` is a thrown `SyntaxError`. -/
  parseJson : Text → Option Json
  /-- `Buffer.from(text, 'base64')` and `buffer.toString('base64')`. -/
  fromBase64 : Text → List UInt8
  toBase64 : List UInt8 → Text
  /-- AES-256-GCM under a key with an initialisation vector, a tag and a ciphertext, the last
  three as base64url texts; `none` is a thrown error. -/
  decipher : List UInt8 → Text → Text → Text → Option Text

namespace Surroundings

/-- A variable that is set and not empty. -/
def setting (s : Surroundings) (name : String) : Option Text :=
  (s.env name).filter fun value => !value.isEmpty

/-- `Number(process.env[name])`; `Number(undefined)` is NaN. -/
def numberSetting (s : Surroundings) (name : String) : JsNumber :=
  ((s.env name).map s.number).getD .nan

/-- `new URL(text)`. -/
def newUrl (s : Surroundings) (text : Text) : Except ThrownError Url :=
  match s.cfg.parseUrl text with
  | some url => .ok url
  | none => .error (.typeError "Invalid URL")

end Surroundings

/-! ## Requests and replies -/

structure ActiveSocialAccountCredential where
  id : AccountId
  platform : SocialPlatform
  platformAccountId : Text
  accessTokenEncrypted : Text
  expiresAt : Option Time
  scope : List String
deriving DecidableEq, Repr

inductive HttpMethod
  | get | post | delete
deriving DecidableEq, Repr

/-- A URL as the adapters build it: a base, and the components that follow it after a slash
each, once `encodeURIComponent` has kept slashes out of them. -/
structure Endpoint where
  base : Text
  path : List Text
deriving DecidableEq, Repr

inductive Payload
  | none
  /-- A JSON body. -/
  | json (members : List (String × Json))
  /-- URL search parameters, in the query of a GET and in the body of a POST. -/
  | parameters (values : List (String × Text))

structure HttpRequest where
  platform : SocialPlatform
  method : HttpMethod
  url : Endpoint
  accessToken : Text
  payload : Payload

inductive XUsageOperation
  | postCreate | postCreateWithUrl | mediaUpload | postRead | postDelete
deriving DecidableEq, Repr

inductive XUsageOutcome
  | succeeded | failed
deriving DecidableEq, Repr

structure XUsageReservation where
  socialAccountId : AccountId
  operation : XUsageOperation
  estimatedCostMicrousd : Nat
  pricingVersion : Text
deriving DecidableEq, Repr

/-- What the code waits for outside of itself. -/
inductive Request
  /-- The SELECT on social_accounts. -/
  | findActiveSocialAccount (id : AccountId) (platform : SocialPlatform)
  /-- `fetch` of a provider. -/
  | fetch (request : HttpRequest)
  /-- `fetch` of a media file. -/
  | fetchMedia (url : Text) (type : MediaType)
  /-- The INSERT into x_api_usage_ledger. -/
  | reserve (reservation : XUsageReservation)
  /-- The UPDATE of x_api_usage_ledger. -/
  | settle (id : Text) (outcome : XUsageOutcome) (externalReference : Option Text)
  | setTimeout (intervalMs : Int)
  /-- `new Date()`. -/
  | clock

/-- `json` is what `response.json()` gives, if it is called. -/
structure HttpResponse where
  status : Nat
  headers : String → Option Text
  json : Except PlainError Json

/-- `departed`: whether the request had left this process when `fetch` failed. -/
inductive FetchAnswer
  | response (response : HttpResponse)
  | failed (error : PlainError) (departed : Bool)

/-- A file by its length and its base64 text. -/
structure MediaBytes where
  length : Nat
  base64 : Text
deriving DecidableEq, Repr

inductive MediaAnswer
  | response (status : Nat) (headers : String → Option Text) (bytes : Except PlainError MediaBytes)
  | failed (error : PlainError)

/-- A reply to whatever is asked: each request reads the member that belongs to it. -/
structure Reply where
  account : Except PlainError (Option ActiveSocialAccountCredential)
  http : FetchAnswer
  /-- Whether the provider accepted the write. -/
  accepted : Bool
  media : MediaAnswer
  /-- The id in the first row of the INSERT, if there is one. -/
  reserve : Except PlainError (Option Text)
  settle : Except PlainError Unit
  /-- The clock when the reply is in. -/
  date : Time

/-- Code that waits for replies. -/
abbrev Promise (α : Type) := Program Request Reply ThrownError α

/-- A check that throws unless `c` holds. -/
def require (c : Prop) [Decidable c] (error : ThrownError) : Except ThrownError Unit :=
  if c then .ok () else .error error

/-- `response.ok`. -/
def responseOk (status : Nat) : Bool := 200 ≤ status ∧ status ≤ 299

end SocialPromotion
