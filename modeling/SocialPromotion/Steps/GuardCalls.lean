import SocialPromotion.Steps.Verifier

/-!
# How the calls of the guard end

* `Ended`: the ways in which a call can end;
* `calls_hold`: in every state of every run, the calls that are over have ended so, and those that
  wait have read their header.
-/

namespace SocialPromotion

namespace ServiceJwtVerifier

open LTS

variable {Key : Type} {runtime : JwtRuntime Key} {configuration : JwtConfiguration}

namespace Verifier

/-- A fetch that succeeded at `completedAt` was answered with `document`. -/
def Served (s : Verifier Key) (document : JsonValue) (completedAt : Time) : Prop :=
  ∃ f cache, s.fetchState f = some (.succeeded completedAt document cache)

/-- At `date`, a document of the last TTL has `key` under `kid`. -/
def KeyServed (runtime : JwtRuntime Key) (configuration : JwtConfiguration) (s : Verifier Key)
    (kid : Text) (key : Key) (date : Time) : Prop :=
  ∃ document completedAt keys, s.Served document completedAt ∧
    parseJwks runtime configuration.algorithm document = some keys ∧
    keys.lookup kid = some key ∧ completedAt ≤ date ∧
    date < completedAt + configuration.jwksCacheTtlMs

/-- How a call ends at `date`, with the key that it found. -/
inductive Ended (runtime : JwtRuntime Key) (configuration : JwtConfiguration) (s : Verifier Key)
    (authorization : Option Text) (date : Time) :
    Option Key → Except ThrownError AuthenticatedUser → Prop
  | refused {error : ThrownError}
      (hRead : ServiceJwtAuthGuard.readRequest configuration authorization = .error error) :
      Ended runtime configuration s authorization date none (.error error)
  | keyless {jwt : Jwt}
      (hRead : ServiceJwtAuthGuard.readRequest configuration authorization = .ok jwt) :
      Ended runtime configuration s authorization date none (.error invalidToken)
  | keyed {jwt : Jwt} {key : Key}
      (hRead : ServiceJwtAuthGuard.readRequest configuration authorization = .ok jwt)
      (hKey : s.KeyServed runtime configuration jwt.kid key date) :
      Ended runtime configuration s authorization date (some key)
        (verifyWith runtime configuration key jwt date)

/-- What holds of a call. -/
def CallHolds (runtime : JwtRuntime Key) (configuration : JwtConfiguration) (s : Verifier Key)
    (call : GuardCall Key) : Prop :=
  match call.state with
  | .loading _ jwt | .refreshing _ jwt _ =>
    ServiceJwtAuthGuard.readRequest configuration call.authorization = .ok jwt
  | .done date key outcome => Ended runtime configuration s call.authorization date key outcome

def CallsHold (runtime : JwtRuntime Key) (configuration : JwtConfiguration) (s : Verifier Key) :
    Prop :=
  ∀ (i : Nat) (call : GuardCall Key), s.calls[i]? = some call →
    CallHolds runtime configuration s call

section Served

variable {s t : Verifier Key} {f i : Nat} {document : JsonValue} {completedAt : Time}

theorem Served.setFetch {update : FetchState Key → FetchState Key}
    (h : s.Served document completedAt)
    (hKeeps : ∀ {cache}, s.fetchState f = some (.succeeded completedAt document cache) →
      ∃ cache', update (.succeeded completedAt document cache) =
        .succeeded completedAt document cache') :
    (s.setFetch f update).Served document completedAt := by
  obtain ⟨g, cache, hState⟩ := h
  obtain ⟨fetch, hFetch, hSucceeded⟩ := Option.map_eq_some_iff.mp hState
  have hNow := fetches_setFetch f update hFetch
  by_cases hSame : f = g
  · subst hSame
    obtain ⟨cache', hUpdate⟩ := hKeeps hState
    refine ⟨f, cache', ?_⟩
    rw [fetchState, hNow, Option.map_some, if_pos rfl, hSucceeded, hUpdate]
  · refine ⟨g, cache, ?_⟩
    rw [fetchState, hNow, Option.map_some, if_neg hSame, hSucceeded]

theorem Served.stamp {now : Time} (h : s.Served document completedAt) :
    (s.stamp f now).Served document completedAt :=
  h.setFetch fun _ => ⟨_, rfl⟩

/-- The end of a fetch that is in flight leaves the others. -/
theorem Served.settle {state : FetchState Key} (h : s.Served document completedAt)
    (hState : s.fetchState f = some .inFlight) :
    (s.setFetch f fun _ => state).Served document completedAt := by
  refine h.setFetch fun hSucceeded => ?_
  rw [hState] at hSucceeded
  cases hSucceeded

theorem Served.start {forceRefresh : Bool} (h : s.Served document completedAt) :
    (s.startFetch i forceRefresh).Served document completedAt := by
  obtain ⟨g, cache, hState⟩ := h
  obtain ⟨fetch, hFetch, hSucceeded⟩ := Option.map_eq_some_iff.mp hState
  refine ⟨g, cache, ?_⟩
  rw [fetchState, fetches_startFetch.mpr (.inl hFetch), Option.map_some, hSucceeded]

/-- Only the fetches matter. -/
theorem Served.congr (h : s.Served document completedAt) (hFetches : t.fetches = s.fetches) :
    t.Served document completedAt := by
  obtain ⟨g, cache, hState⟩ := h
  refine ⟨g, cache, ?_⟩
  rw [fetchState, hFetches]
  exact hState

theorem KeyServed.mono {kid : Text} {key : Key} {date : Time}
    (hMono : ∀ document completedAt, s.Served document completedAt →
      t.Served document completedAt)
    (h : s.KeyServed runtime configuration kid key date) :
    t.KeyServed runtime configuration kid key date := by
  obtain ⟨document, completedAt, keys, hServed, hRest⟩ := h
  exact ⟨document, completedAt, keys, hMono _ _ hServed, hRest⟩

theorem CallHolds.mono {call : GuardCall Key}
    (hMono : ∀ document completedAt, s.Served document completedAt →
      t.Served document completedAt)
    (h : CallHolds runtime configuration s call) : CallHolds runtime configuration t call := by
  unfold CallHolds at h ⊢
  cases hState : call.state with
  | loading f jwt =>
    rw [hState] at h
    exact h
  | refreshing f jwt now =>
    rw [hState] at h
    exact h
  | done date key outcome =>
    rw [hState] at h
    cases h with
    | refused hRead => exact .refused hRead
    | keyless hRead => exact .keyless hRead
    | keyed hRead hKey => exact .keyed hRead (hKey.mono hMono)

end Served

section Step

variable {s s' t : Verifier Key} {e : VerifierEvent} {i f : Nat} {jwt : Jwt}

/-- A served document stays one. -/
theorem served_step (h : Coherent runtime configuration s)
    (hStep : VerifierStep runtime configuration s e t) {document : JsonValue} {completedAt : Time}
    (hServed : s.Served document completedAt) : t.Served document completedAt := by
  cases hStep with
  | tick | refused | joined | failed => exact hServed.congr rfl
  | started => exact hServed.start.congr rfl
  | found hLooks => exact hServed.congr (hLooks.looksIn h).fetches
  | cooling hLooks => exact hServed.congr (hLooks.looksIn h).fetches
  | @forced _ s' i f jwt cache hLooks =>
    have hStamped : (s'.stamp f s.clock).Served document completedAt :=
      (hServed.congr (hLooks.looksIn h).fetches).stamp
    have hStarted : ((s'.stamp f s.clock).startFetch i true).Served document completedAt :=
      hStamped.start
    exact hStarted.congr rfl
  | fetchFailed hIdle hSlot hState => exact hServed.settle hState
  | fetched hIdle hSlot hState hKeys => exact (hServed.settle hState).congr rfl
  | @refreshed i f call jwt now =>
    have hStamped : (s.stamp f now).Served document completedAt := hServed.stamp
    exact hStamped.congr rfl

/-- A key of a cache that is fresh is served. -/
theorem keyServed_of_fresh (h : CacheCoherent runtime configuration s) {cache : JwksCache Key}
    {kid : Text} {key : Key} (hCache : s.cache f = some cache)
    (hFresh : s.clock < cache.expiresAt) (hKey : cache.keys.lookup kid = some key) :
    s.KeyServed runtime configuration kid key s.clock := by
  obtain ⟨fetch, completedAt, document, hFetch, hState⟩ := cache_eq_some.mp hCache
  obtain ⟨hKeys, hExpires, -, hCompleted⟩ := h.origin hFetch hState
  refine ⟨document, completedAt, cache.keys, ⟨f, cache, ?_⟩, hKeys, hKey, hCompleted,
    hExpires ▸ hFresh⟩
  rw [fetchState, hFetch, Option.map_some, hState]

theorem CallsHold.add {authorization : Option Text} (h : CallsHold runtime configuration s)
    (state : CallState Key)
    (hNew : CallHolds runtime configuration s ⟨authorization, state⟩) :
    CallsHold runtime configuration (s.addCall authorization state) := by
  intro j call hCall
  have hBefore : CallHolds runtime configuration s call := by
    rcases calls_addCall hCall with hOld | ⟨-, rfl⟩
    · exact h j call hOld
    · exact hNew
  have hMono : ∀ document completedAt, s.Served document completedAt →
      (s.addCall authorization state).Served document completedAt :=
    fun _ _ hServed => hServed.congr rfl
  exact hBefore.mono hMono

theorem CallsHold.set {state : CallState Key} (h : CallsHold runtime configuration s)
    (hNew : ∀ call, s.calls[i]? = some call →
      CallHolds runtime configuration s { call with state := state }) :
    CallsHold runtime configuration (s.setCall i state) := by
  intro j call hCall
  have hBefore : CallHolds runtime configuration s call := by
    rcases calls_setCall hCall with ⟨-, hOld⟩ | ⟨rfl, old, hOld, rfl⟩
    · exact h j call hOld
    · exact hNew old hOld
  have hMono : ∀ document completedAt, s.Served document completedAt →
      (s.setCall i state).Served document completedAt :=
    fun _ _ hServed => hServed.congr rfl
  exact hBefore.mono hMono

/-- A write that touches no call. -/
theorem CallsHold.mono (h : CallsHold runtime configuration s) (hCalls : t.calls = s.calls)
    (hMono : ∀ document completedAt, s.Served document completedAt →
      t.Served document completedAt) : CallsHold runtime configuration t := by
  intro j call hCall
  rw [hCalls] at hCall
  exact (h j call hCall).mono hMono

theorem Looks.callsHold (hLooks : Looks configuration s e s' i jwt f)
    (h : CallsHold runtime configuration s) : CallsHold runtime configuration s' := by
  cases hLooks with
  | hit hIdle hRead hFresh => exact h.add (.loading f jwt) hRead
  | resumed hCall hState hCache hNext => exact h

/-- The call that looks for its key has read its header. -/
theorem LooksIn.read (h : LooksIn runtime configuration s s' i jwt f)
    (hCalls : CallsHold runtime configuration s') {call : GuardCall Key}
    (hCall : s'.calls[i]? = some call) :
    ServiceJwtAuthGuard.readRequest configuration call.authorization = .ok jwt := by
  obtain ⟨call', hCall', hState⟩ := h.loading
  rw [hCall] at hCall'
  injection hCall' with hCall'
  subst hCall'
  have hHolds := hCalls i call hCall
  rw [CallHolds, hState] at hHolds
  exact hHolds

/-- Every step keeps what the calls hold: a new call and one that goes on by what it found, the others
because what a fetch has served stays served. -/
theorem callsHold_step (h : Coherent runtime configuration s)
    (hCalls : CallsHold runtime configuration s)
    (hStep : VerifierStep runtime configuration s e t) : CallsHold runtime configuration t := by
  have hServed : ∀ document completedAt, s.Served document completedAt →
      t.Served document completedAt := fun _ _ => served_step h hStep
  cases hStep with
  | tick => exact hCalls.mono rfl hServed
  | fetchFailed => exact hCalls.mono rfl hServed
  | fetched => exact hCalls.mono rfl hServed
  | refused hRead => exact hCalls.add _ (Ended.refused hRead)
  | @joined authorization jwt f hIdle hRead hStale hSlot =>
    exact hCalls.add (.loading f jwt) hRead
  | @started authorization jwt hRead hStale hSlot =>
    have hStarted : CallsHold runtime configuration (s.startFetch s.calls.length false) :=
      hCalls.mono rfl fun _ _ => Served.start
    exact hStarted.add (.loading s.fetches.length jwt) hRead
  | @found _ s' i f jwt cache key hLooks hCache hKey =>
    have hLooksIn := hLooks.looksIn h
    have hBefore := hLooks.callsHold hCalls
    obtain ⟨cache', hCache', hFresh⟩ := hLooksIn.fresh
    obtain rfl : cache = cache' := Option.some.inj (hCache.symm.trans hCache')
    have hCleared : CallsHold runtime configuration (s'.without f) :=
      hBefore.mono rfl fun _ _ hServed => hServed.congr rfl
    refine hCleared.set fun call hCall => ?_
    have hRead := hLooksIn.read hBefore hCall
    have hKeyServed := keyServed_of_fresh hLooksIn.coherent.cache hCache hFresh hKey
    exact Ended.keyed hRead (hKeyServed.mono fun _ _ hServed => hServed.congr rfl)
  | @cooling _ s' i f jwt cache hLooks hCache hUnknown hRecent =>
    have hBefore := hLooks.callsHold hCalls
    have hCleared : CallsHold runtime configuration (s'.without f) :=
      hBefore.mono rfl fun _ _ hServed => hServed.congr rfl
    refine hCleared.set fun call hCall => ?_
    have hRead := (hLooks.looksIn h).read hBefore hCall
    exact Ended.keyless hRead
  | @forced _ s' i f jwt cache hLooks hCache hUnknown hCooled hFree =>
    have hBefore := hLooks.callsHold hCalls
    have hStarted : CallsHold runtime configuration
        (((s'.without f).stamp f s.clock).startFetch i true) := by
      refine hBefore.mono rfl fun document completedAt hServed => ?_
      have hCleared : (s'.without f).Served document completedAt := hServed.congr rfl
      exact hCleared.stamp.start
    refine hStarted.set fun call hCall => ?_
    have hRead := (hLooks.looksIn h).read hBefore hCall
    exact hRead
  | @failed i f hAwaited hNext hState =>
    have hCleared : CallsHold runtime configuration (s.without f) :=
      hCalls.mono rfl fun _ _ hServed => hServed.congr rfl
    refine hCleared.set fun call hCall => ?_
    have hHolds := hCalls i call hCall
    -- the call waits, so that it has read its header
    rw [awaited, show s.calls[i]? = some call from hCall, Option.bind_some] at hAwaited
    unfold CallHolds at hHolds
    cases hCallState : call.state with
    | loading g jwt =>
      rw [hCallState] at hHolds
      exact Ended.keyless hHolds
    | refreshing g jwt now =>
      rw [hCallState] at hHolds
      exact Ended.keyless hHolds
    | done date key outcome =>
      rw [hCallState] at hAwaited
      cases hAwaited
  | @refreshed i f call jwt now cache hCall hState hNext hCache =>
    have hRead := hCalls i call hCall
    rw [CallHolds, hState] at hRead
    have hAwaited : s.awaited i = some f :=
      Option.bind_eq_some_iff.mpr ⟨call, hCall, by rw [hState]; rfl⟩
    have hFresh := (h.calls.current hAwaited hCache).2
    have hKept : ∀ document completedAt, s.Served document completedAt →
        ((s.stamp f now).without f).Served document completedAt := by
      intro document completedAt hServed
      have hStamped : (s.stamp f now).Served document completedAt := hServed.stamp
      exact hStamped.congr rfl
    have hCleared : CallsHold runtime configuration ((s.stamp f now).without f) :=
      hCalls.mono rfl hKept
    refine hCleared.set fun call' hCall' => ?_
    obtain rfl : call = call' := Option.some.inj (hCall.symm.trans hCall')
    cases hKey : cache.keys.lookup jwt.kid with
    | some key =>
      have hKeyServed := keyServed_of_fresh h.cache hCache hFresh hKey
      exact Ended.keyed hRead (hKeyServed.mono hKept)
    | none => exact Ended.keyless hRead

/-- **Every call of every run** holds what it should. -/
theorem calls_hold (h : Reachable (verifierSystem runtime configuration) anyStep s) :
    CallsHold runtime configuration s := by
  refine Reachable.invariant_of (I := fun s => CallsHold runtime configuration s)
    (fun s hInit => ?_) (fun s e t hReach hCalls _ hMove => ?_) h
  · obtain ⟨-, -, -, -, hCalls⟩ := hInit
    intro i call hCall
    rw [hCalls, List.getElem?_nil] at hCall
    cases hCall
  · exact callsHold_step (coherent_reachable hReach) hCalls (reachable_step hReach hMove)

end Step

end Verifier

end ServiceJwtVerifier

end SocialPromotion
