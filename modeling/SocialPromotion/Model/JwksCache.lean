import SocialPromotion.Lib.Transition
import SocialPromotion.Model.ServiceJwt

/-!
# The JWKS cache

`getVerificationKey`, `loadJwks` and `fetchJwks` of `service-jwt-verifier.service.ts`, as the event
loop runs them. Code between two waits takes no time, so the clock moves only while nothing is
ready to go on; a call whose wait is over reads and writes the verifier's fields in one step.

A fetch has one creator: the call whose `loadJwks` started it. The creator was the first to wait
for it, and goes on before the calls that joined. A cache object goes by the fetch that made it.
-/

namespace SocialPromotion

namespace ServiceJwtVerifier

structure JwksCache (Key : Type) where
  expiresAt : Time
  keys : List (Text × Key)
  lastUnknownKidRefreshAt : Time

inductive FetchState (Key : Type)
  | inFlight
  /-- `cache` is the object that `parseJwks` made of `document`. -/
  | succeeded (completedAt : Time) (document : JsonValue) (cache : JwksCache Key)
  | failed

namespace FetchState

variable {Key : Type}

def cache : FetchState Key → Option (JwksCache Key)
  | .succeeded _ _ cache => some cache
  | _ => none

def settled : FetchState Key → Bool
  | .inFlight => false
  | _ => true

/-- `cache.lastUnknownKidRefreshAt = now`. -/
def stamp (now : Time) : FetchState Key → FetchState Key
  | .succeeded completedAt document cache =>
    .succeeded completedAt document { cache with lastUnknownKidRefreshAt := now }
  | state => state

end FetchState

structure JwksFetch (Key : Type) where
  startedAt : Time
  /-- The argument of the `loadJwks` that started it. -/
  forceRefresh : Bool
  /-- The call that started it. -/
  creator : Nat
  state : FetchState Key

/-- A call of the guard, on a route that is not public. -/
inductive CallState (Key : Type)
  /-- It waits for a fetch in `loadJwks(false)`. -/
  | loading (fetch : Nat) (jwt : Jwt)
  /-- It waits for a fetch in `loadJwks(true)`, since `now`. -/
  | refreshing (fetch : Nat) (jwt : Jwt) (now : Time)
  /-- `key` is what `getVerificationKey` found, if it came to that. -/
  | done (date : Time) (key : Option Key) (outcome : Except ThrownError AuthenticatedUser)

/-- The fetch that a call waits for. -/
def CallState.awaited {Key : Type} : CallState Key → Option Nat
  | .loading fetch _ => some fetch
  | .refreshing fetch _ _ => some fetch
  | .done _ _ _ => none

structure GuardCall (Key : Type) where
  authorization : Option Text
  state : CallState Key

structure Verifier (Key : Type) where
  clock : Time
  /-- Every fetch so far, in order. -/
  fetches : List (JwksFetch Key)
  /-- `this.jwksCache`. -/
  jwksCache : Option Nat
  /-- `this.jwksRefresh`. -/
  jwksRefresh : Option Nat
  calls : List (GuardCall Key)

inductive JwksAnswer
  /-- `fetch` or `response.json()` fails, or the response is not ok. -/
  | failed
  | document (document : JsonValue)

inductive VerifierEvent
  | tick (ms : Nat)
  /-- A request with its `authorization` header. -/
  | request (authorization : Option Text)
  /-- The fetch that is in flight comes to its end. -/
  | settle (answer : JwksAnswer)
  /-- A call whose fetch is settled goes on. -/
  | resume (call : Nat)

namespace Verifier

variable {Key : Type} (runtime : JwtRuntime Key) (configuration : JwtConfiguration)

/-- The state of a new process, some time after the epoch. -/
def Initial (s : Verifier Key) : Prop :=
  UNKNOWN_KID_REFRESH_COOLDOWN_MS ≤ s.clock ∧ s.fetches = [] ∧ s.jwksCache = none ∧
    s.jwksRefresh = none ∧ s.calls = []

/-! ## Reading the state -/

def fetchState (s : Verifier Key) (f : Nat) : Option (FetchState Key) :=
  s.fetches[f]?.map JwksFetch.state

/-- The cache object that a fetch made. -/
def cache (s : Verifier Key) (f : Nat) : Option (JwksCache Key) :=
  (s.fetchState f).bind FetchState.cache

def settled (s : Verifier Key) (f : Nat) : Bool :=
  (s.fetchState f).any FetchState.settled

/-- The fetch that a call waits for. -/
def awaited (s : Verifier Key) (i : Nat) : Option Nat :=
  s.calls[i]?.bind fun call => call.state.awaited

/-- A call is ready where the fetch it waits for is settled. -/
def ready (s : Verifier Key) (i : Nat) : Bool := (s.awaited i).any s.settled

def idle (s : Verifier Key) : Bool := (List.range s.calls.length).all fun i => !s.ready i

/-- The creator of a fetch goes on before the others. -/
def isNext (s : Verifier Key) (i : Nat) : Bool :=
  (s.awaited i).any fun f => (s.fetches[f]?).any fun fetch =>
    fetch.creator = i || s.awaited fetch.creator ≠ some f

/-! ## Writing it -/

def setFetch (s : Verifier Key) (f : Nat) (update : FetchState Key → FetchState Key) :
    Verifier Key :=
  { s with fetches := s.fetches.modify f fun fetch => { fetch with state := update fetch.state } }

def setCall (s : Verifier Key) (i : Nat) (state : CallState Key) : Verifier Key :=
  { s with calls := s.calls.modify i fun call => { call with state := state } }

def addCall (s : Verifier Key) (authorization : Option Text) (state : CallState Key) :
    Verifier Key :=
  { s with calls := s.calls ++ [⟨authorization, state⟩] }

def stamp (s : Verifier Key) (f : Nat) (now : Time) : Verifier Key :=
  s.setFetch f (FetchState.stamp now)

/-- A fetch starts, and the slot holds its promise. -/
def startFetch (s : Verifier Key) (i : Nat) (forceRefresh : Bool) : Verifier Key :=
  { s with
    fetches := s.fetches ++ [⟨s.clock, forceRefresh, i, .inFlight⟩]
    jwksRefresh := some s.fetches.length }

/-- `loadJwks` past the cache: the fetch to wait for. -/
def refresh (s : Verifier Key) (i : Nat) (forceRefresh : Bool) : Nat × Verifier Key :=
  match s.jwksRefresh with
  | some f => (f, s)
  | none => (s.fetches.length, s.startFetch i forceRefresh)

/-- The cache that `loadJwks(false)` returns at once. -/
def freshCache (s : Verifier Key) : Option Nat :=
  s.jwksCache.filter fun f => (s.cache f).any fun cache => s.clock < cache.expiresAt

/-! ## The code -/

/-- The end of a call. -/
def finish (s : Verifier Key) (i : Nat) (key : Option Key)
    (outcome : Except ThrownError AuthenticatedUser) : Verifier Key :=
  s.setCall i (.done s.clock key outcome)

/-- `verify` once it has a key. -/
def finishWith (s : Verifier Key) (i : Nat) (jwt : Jwt) (key : Key) : Verifier Key :=
  s.finish i (some key) (verifyWith runtime configuration key jwt s.clock)

/-- `getVerificationKey` with the cache that `loadJwks(false)` returned. -/
def lookupKey (s : Verifier Key) (i : Nat) (jwt : Jwt) (f : Nat) : Verifier Key :=
  match s.cache f with
  | none => s
  | some cache =>
    match cache.keys.lookup jwt.kid with
    | some key => s.finishWith runtime configuration i jwt key
    | none =>
      if cache.lastUnknownKidRefreshAt + UNKNOWN_KID_REFRESH_COOLDOWN_MS ≤ s.clock then
        let (f', s') := (s.stamp f s.clock).refresh i true
        s'.setCall i (.refreshing f' jwt s.clock)
      else s.finish i none (.error invalidToken)

/-- `getVerificationKey` with the cache that `loadJwks(true)` returned. -/
def lookupRefreshedKey (s : Verifier Key) (i : Nat) (jwt : Jwt) (f : Nat) (now : Time) :
    Verifier Key :=
  match s.cache f with
  | none => s
  | some cache =>
    match cache.keys.lookup jwt.kid with
    | some key => (s.stamp f now).finishWith runtime configuration i jwt key
    | none => (s.stamp f now).finish i none (.error invalidToken)

/-- A call that finds a fresh cache goes on at once: nothing that it reads changes before its
continuation. -/
def request (s : Verifier Key) (authorization : Option Text) : Verifier Key :=
  let i := s.calls.length
  match ServiceJwtAuthGuard.readRequest configuration authorization with
  | .error error => s.addCall authorization (.done s.clock none (.error error))
  | .ok jwt =>
    match s.freshCache with
    | some f => (s.addCall authorization (.loading f jwt)).lookupKey runtime configuration i jwt f
    | none =>
      let (f, s') := s.refresh i false
      s'.addCall authorization (.loading f jwt)

/-- What `fetchJwks` makes of its answer. -/
def fetched (s : Verifier Key) (answer : JwksAnswer) : FetchState Key :=
  match answer with
  | .failed => .failed
  | .document document =>
    match parseJwks runtime configuration.algorithm document with
    | none => .failed
    | some keys =>
      .succeeded s.clock document ⟨s.clock + configuration.jwksCacheTtlMs, keys, 0⟩

/-- The end of `fetchJwks`. -/
def settle (s : Verifier Key) (answer : JwksAnswer) : Option (Verifier Key) :=
  match s.jwksRefresh with
  | none => none
  | some f =>
    match s.fetchState f with
    | some .inFlight =>
      let state := s.fetched runtime configuration answer
      let s' := s.setFetch f fun _ => state
      some { s' with jwksCache := if state.cache.isSome then some f else s'.jwksCache }
    | _ => none

/-- The `finally` of `loadJwks`, which the creator of the fetch runs. -/
def clearRefresh (s : Verifier Key) (i f : Nat) : Verifier Key :=
  if (s.fetches[f]?).any (fun fetch => fetch.creator = i) ∧ s.jwksRefresh = some f then
    { s with jwksRefresh := none }
  else s

/-- A call goes on after its wait. -/
def resume (s : Verifier Key) (i : Nat) : Option (Verifier Key) :=
  match s.calls[i]?.map GuardCall.state with
  | some (.loading f jwt) =>
    match s.fetchState f with
    | some (.succeeded _ _ _) =>
      some ((s.clearRefresh i f).lookupKey runtime configuration i jwt f)
    | some .failed => some ((s.clearRefresh i f).finish i none (.error invalidToken))
    | _ => none
  | some (.refreshing f jwt now) =>
    match s.fetchState f with
    | some (.succeeded _ _ _) =>
      some ((s.clearRefresh i f).lookupRefreshedKey runtime configuration i jwt f now)
    | some .failed => some ((s.clearRefresh i f).finish i none (.error invalidToken))
    | _ => none
  | _ => none

/-- A fetch that is in flight is aborted after `JWKS_REQUEST_TIMEOUT_MS`. -/
def mayWait (s : Verifier Key) (ms : Nat) : Bool :=
  s.jwksRefresh.all fun f => (s.fetches[f]?).all fun fetch =>
    s.clock + ms ≤ fetch.startedAt + JWKS_REQUEST_TIMEOUT_MS

def step (s : Verifier Key) : VerifierEvent → Option (Verifier Key)
  | .tick ms => if s.idle ∧ s.mayWait ms then some { s with clock := s.clock + ms } else none
  | .request authorization =>
    if s.idle then some (s.request runtime configuration authorization) else none
  | .settle answer => if s.idle then s.settle runtime configuration answer else none
  | .resume i => if s.isNext i then s.resume runtime configuration i else none

end Verifier

end ServiceJwtVerifier

/-- One process that verifies service tokens. -/
def verifierSystem {Key : Type} (runtime : JwtRuntime Key) (configuration : JwtConfiguration) :
    LTS.System (ServiceJwtVerifier.Verifier Key) ServiceJwtVerifier.VerifierEvent where
  Initial := ServiceJwtVerifier.Verifier.Initial
  step := ServiceJwtVerifier.Verifier.step runtime configuration

/-! ## An issuer to run it with -/

namespace Issuer

open ServiceJwtVerifier

/-- A key is its JWK, and every signature is valid. -/
def runtime : JwtRuntime (List (Text × JsonValue)) where
  env _ := none
  parseUrl _ := none
  createPublicKey := some
  verify _ _ _ _ := some true

/-- With the shortest TTL that `parseCacheTtl` admits. -/
def configuration : JwtConfiguration :=
  ⟨.RS256, "api".toList, "issuer".toList, 10000, "https://issuer.test/jwks".toList, by decide⟩

/-- A JWKS with one key, whose kid is `a`. -/
def document : JsonValue :=
  .object [("keys".toList, .array [.object [
    ("kty".toList, .string "RSA".toList), ("kid".toList, .string "a".toList)]])]

def start : Verifier (List (Text × JsonValue)) := ⟨30000, [], none, none, []⟩

theorem start_initial : start.Initial := ⟨Nat.le_refl _, rfl, rfl, rfl, rfl⟩

/-- The header is `{"alg":"RS256","kid":"a"}`, and the payload
`{"iss":"issuer","aud":"api","exp":60,"sub":"user"}`. -/
def known : VerifierEvent :=
  .request (some ("Bearer eyJhbGciOiJSUzI1NiIsImtpZCI6ImEifQ." ++
    "eyJpc3MiOiJpc3N1ZXIiLCJhdWQiOiJhcGkiLCJleHAiOjYwLCJzdWIiOiJ1c2VyIn0.AA").toList)

end Issuer

end SocialPromotion
