import SocialPromotion.Steps.JwksCache

/-!
# What one step of the verifier does

* `Coherent`: the slot, the cache and the waiting calls fit together;
* `verifier_step`: what one step of a coherent verifier can do;
* `coherent_reachable`: every state of every run is coherent.
-/

namespace SocialPromotion

namespace ServiceJwtVerifier

open LTS

variable {Key : Type} {runtime : JwtRuntime Key} {configuration : JwtConfiguration}

namespace Verifier

/-! ## What one step does -/

/-- The slot, the cache and the waiting calls fit together. -/
structure Coherent (runtime : JwtRuntime Key) (configuration : JwtConfiguration)
    (s : Verifier Key) : Prop where
  cache : CacheCoherent runtime configuration s
  calls : CallsCoherent s

/-- A call looks for its key in the cache that `loadJwks(false)` returned: `s'` is the state with
the call in it. -/
inductive Looks (configuration : JwtConfiguration) (s : Verifier Key) :
    VerifierEvent → Verifier Key → Nat → Jwt → Nat → Prop
  | hit {authorization : Option Text} {jwt : Jwt} {f : Nat} (hIdle : s.idle = true)
      (hRead : ServiceJwtAuthGuard.readRequest configuration authorization = .ok jwt)
      (hFresh : s.freshCache = some f) :
      Looks configuration s (.request authorization) (s.addCall authorization (.loading f jwt))
        s.calls.length jwt f
  | resumed {i f : Nat} {call : GuardCall Key} {jwt : Jwt} {cache : JwksCache Key}
      (hCall : s.calls[i]? = some call) (hState : call.state = .loading f jwt)
      (hCache : s.cache f = some cache) (hNext : s.isNext i = true) :
      Looks configuration s (.resume i) s i jwt f

/-- The token whose key a step looks for in the cache of `loadJwks(false)`, and that cache. -/
def keyLookup (configuration : JwtConfiguration) (s : Verifier Key) :
    VerifierEvent → Option (Jwt × Nat)
  | .request authorization =>
    match ServiceJwtAuthGuard.readRequest configuration authorization with
    | .ok jwt => s.freshCache.map fun f => (jwt, f)
    | .error _ => none
  | .resume i =>
    match s.calls[i]?.map GuardCall.state with
    | some (.loading f jwt) => some (jwt, f)
    | _ => none
  | _ => none

/-- What one step of a coherent verifier can do. -/
inductive VerifierStep (runtime : JwtRuntime Key) (configuration : JwtConfiguration)
    (s : Verifier Key) : VerifierEvent → Verifier Key → Prop
  | tick {ms : Nat} (hIdle : s.idle = true) (hWait : s.mayWait ms = true) :
      VerifierStep runtime configuration s (.tick ms) { s with clock := s.clock + ms }
  | refused {authorization : Option Text} {error : ThrownError}
      (hRead : ServiceJwtAuthGuard.readRequest configuration authorization = .error error) :
      VerifierStep runtime configuration s (.request authorization)
        (s.addCall authorization (.done s.clock none (.error error)))
  | joined {authorization : Option Text} {jwt : Jwt} {f : Nat} (hIdle : s.idle = true)
      (hRead : ServiceJwtAuthGuard.readRequest configuration authorization = .ok jwt)
      (hStale : s.freshCache = none) (hSlot : s.jwksRefresh = some f) :
      VerifierStep runtime configuration s (.request authorization)
        (s.addCall authorization (.loading f jwt))
  | started {authorization : Option Text} {jwt : Jwt}
      (hRead : ServiceJwtAuthGuard.readRequest configuration authorization = .ok jwt)
      (hStale : s.freshCache = none) (hSlot : s.jwksRefresh = none) :
      VerifierStep runtime configuration s (.request authorization)
        ((s.startFetch s.calls.length false).addCall authorization
          (.loading s.fetches.length jwt))
  | found {e : VerifierEvent} {s' : Verifier Key} {i f : Nat} {jwt : Jwt} {cache : JwksCache Key}
      {key : Key} (hLooks : Looks configuration s e s' i jwt f) (hCache : s'.cache f = some cache)
      (hKey : cache.keys.lookup jwt.kid = some key) :
      VerifierStep runtime configuration s e
        ((s'.without f).finishWith runtime configuration i jwt key)
  | cooling {e : VerifierEvent} {s' : Verifier Key} {i f : Nat} {jwt : Jwt}
      {cache : JwksCache Key} (hLooks : Looks configuration s e s' i jwt f)
      (hCache : s'.cache f = some cache) (hUnknown : cache.keys.lookup jwt.kid = none)
      (hRecent : s.clock < cache.lastUnknownKidRefreshAt + UNKNOWN_KID_REFRESH_COOLDOWN_MS) :
      VerifierStep runtime configuration s e
        ((s'.without f).finish i none (.error invalidToken))
  | forced {e : VerifierEvent} {s' : Verifier Key} {i f : Nat} {jwt : Jwt}
      {cache : JwksCache Key} (hLooks : Looks configuration s e s' i jwt f)
      (hCache : s'.cache f = some cache) (hUnknown : cache.keys.lookup jwt.kid = none)
      (hCooled : cache.lastUnknownKidRefreshAt + UNKNOWN_KID_REFRESH_COOLDOWN_MS ≤ s.clock)
      (hFree : (s'.without f).jwksRefresh = none) :
      VerifierStep runtime configuration s e
        ((((s'.without f).stamp f s.clock).startFetch i true).setCall i
          (.refreshing s.fetches.length jwt s.clock))
  | fetchFailed {answer : JwksAnswer} {f : Nat} (hIdle : s.idle = true)
      (hSlot : s.jwksRefresh = some f) (hState : s.fetchState f = some .inFlight) :
      VerifierStep runtime configuration s (.settle answer) (s.setFetch f fun _ => .failed)
  | fetched {document : JsonValue} {keys : List (Text × Key)} {f : Nat} (hIdle : s.idle = true)
      (hSlot : s.jwksRefresh = some f) (hState : s.fetchState f = some .inFlight)
      (hKeys : parseJwks runtime configuration.algorithm document = some keys) :
      VerifierStep runtime configuration s (.settle (.document document))
        { s.setFetch f (fun _ => .succeeded s.clock document
            ⟨s.clock + configuration.jwksCacheTtlMs, keys, 0⟩) with jwksCache := some f }
  | failed {i f : Nat} (hAwaited : s.awaited i = some f) (hNext : s.isNext i = true)
      (hState : s.fetchState f = some .failed) :
      VerifierStep runtime configuration s (.resume i)
        ((s.without f).finish i none (.error invalidToken))
  | refreshed {i f : Nat} {call : GuardCall Key} {jwt : Jwt} {now : Time}
      {cache : JwksCache Key} (hCall : s.calls[i]? = some call)
      (hState : call.state = .refreshing f jwt now) (hNext : s.isNext i = true)
      (hCache : s.cache f = some cache) :
      VerifierStep runtime configuration s (.resume i)
        (((s.stamp f now).without f).finish i (cache.keys.lookup jwt.kid)
          (match cache.keys.lookup jwt.kid with
            | some key => verifyWith runtime configuration key jwt s.clock
            | none => .error invalidToken))

section Step

variable {s s' t : Verifier Key} {e : VerifierEvent} {i f : Nat} {jwt : Jwt}

theorem of_isNext (h : s.isNext i = true) (hAwaited : s.awaited i = some f)
    {fetch : JwksFetch Key} (hFetch : s.fetches[f]? = some fetch) :
    fetch.creator = i ∨ s.awaited fetch.creator ≠ some f := by
  rw [isNext, hAwaited, Option.any_some, hFetch, Option.any_some, Bool.or_eq_true,
    decide_eq_true_eq, decide_eq_true_eq] at h
  exact h

theorem without_of_eq (hSlot : s.jwksRefresh = some f) :
    s.without f = { s with jwksRefresh := none } := by
  rw [without, hSlot]
  simp [Option.filter]

theorem without_of_ne (hNe : s.jwksRefresh ≠ some f) : s.without f = s := by
  unfold without
  cases hSlot : s.jwksRefresh with
  | none =>
    show { s with jwksRefresh := none } = s
    rw [← hSlot]
  | some g =>
    have hOther : g ≠ f := by
      rintro rfl
      exact hNe hSlot
    rw [Option.filter_some, if_pos (decide_eq_true hOther)]
    show { s with jwksRefresh := some g } = s
    rw [← hSlot]

/-- The slot may be cleared of a fetch that is settled. -/
theorem CacheCoherent.without (h : CacheCoherent runtime configuration s)
    (hSettled : s.settled f = true) : CacheCoherent runtime configuration (s.without f) := by
  by_cases hSlot : s.jwksRefresh = some f
  · rw [without_of_eq hSlot]
    exact h.clear hSlot hSettled
  · rw [without_of_ne hSlot]
    exact h

/-- `finally` clears the slot of the fetch whose creator goes on. -/
theorem clearRefresh_eq (h : CallsCoherent s) (hAwaited : s.awaited i = some f)
    (hNext : s.isNext i = true) : s.clearRefresh i f = s.without f := by
  unfold clearRefresh
  by_cases hSlot : s.jwksRefresh = some f
  · obtain ⟨fetch, hFetch⟩ : ∃ fetch, s.fetches[f]? = some fetch :=
      ⟨_, List.getElem?_eq_getElem (h.waiting hAwaited)⟩
    have hCreator : fetch.creator = i := by
      rcases of_isNext hNext hAwaited hFetch with hIsI | hGone
      · exact hIsI
      · exact absurd (h.creator hSlot hFetch) hGone
    rw [hFetch, if_pos ⟨by simp [hCreator], hSlot⟩, without_of_eq hSlot]
  · rw [if_neg fun hBoth => hSlot hBoth.2]
    exact (without_of_ne hSlot).symm

theorem fresh_of_freshCache (h : s.freshCache = some f) :
    s.jwksCache = some f ∧ ∃ cache, s.cache f = some cache ∧ s.clock < cache.expiresAt := by
  obtain ⟨hCurrent, hFresh⟩ := Option.filter_eq_some_iff.mp h
  obtain ⟨cache, hCache, hTime⟩ := (Option.any_eq_true _ _).mp hFresh
  exact ⟨hCurrent, cache, hCache, of_decide_eq_true hTime⟩

theorem settled_of_cache {cache : JwksCache Key} (h : s.cache f = some cache) :
    s.settled f = true := by
  obtain ⟨state, hState, hCache⟩ := Option.bind_eq_some_iff.mp h
  rw [settled, hState, Option.any_some]
  cases state with
  | inFlight => cases hCache
  | succeeded => rfl
  | failed => rfl

/-- Where a call looks for its key: in the current cache, which is fresh. -/
structure LooksIn (runtime : JwtRuntime Key) (configuration : JwtConfiguration)
    (s s' : Verifier Key) (i : Nat) (jwt : Jwt) (f : Nat) : Prop where
  coherent : Coherent runtime configuration s'
  clock : s'.clock = s.clock
  fetches : s'.fetches = s.fetches
  loading : ∃ call, s'.calls[i]? = some call ∧ call.state = .loading f jwt
  current : s'.jwksCache = some f
  fresh : ∃ cache, s'.cache f = some cache ∧ s'.clock < cache.expiresAt
  next : ∀ {fetch : JwksFetch Key}, s'.fetches[f]? = some fetch →
    fetch.creator = i ∨ s'.awaited fetch.creator ≠ some f

theorem LooksIn.awaited (h : LooksIn runtime configuration s s' i jwt f) :
    s'.awaited i = some f := by
  obtain ⟨call, hCall, hState⟩ := h.loading
  exact Option.bind_eq_some_iff.mpr ⟨call, hCall, by rw [hState]; rfl⟩

/-- The state in which a call looks for its key, after a fresh cache was found or a refresh has ended. -/
theorem Looks.looksIn (h : Coherent runtime configuration s)
    (hLooks : Looks configuration s e s' i jwt f) :
    LooksIn runtime configuration s s' i jwt f := by
  cases hLooks with
  | @hit authorization _ _ hIdle hRead hFresh =>
    obtain ⟨hCurrent, cache, hCache, hTime⟩ := fresh_of_freshCache hFresh
    obtain ⟨fetch, completedAt, document, hFetch, -⟩ := cache_eq_some.mp hCache
    have hLt := (List.getElem?_eq_some_iff.mp hFetch).1
    have hCalls : CallsCoherent (s.addCall authorization (.loading f jwt)) := by
      refine h.calls.add (fun {g} hWaits => ?_) nofun
      injection hWaits with hWaits
      subst hWaits
      refine ⟨hLt, fun {cache'} hCache' => ⟨hCurrent, ?_⟩⟩
      rw [hCache] at hCache'
      injection hCache' with hCache'
      exact hCache' ▸ hTime
    refine ⟨⟨h.cache.withCalls _, hCalls⟩, rfl, rfl, ⟨_, List.getElem?_concat_length, rfl⟩, hCurrent,
      ⟨cache, hCache, hTime⟩, fun {creation} hCreation => .inr fun hWaits => ?_⟩
    -- the creator would be ready
    rw [awaited_addCall_lt (h.calls.creators hCreation)] at hWaits
    refine not_ready_of_idle hIdle creation.creator ?_
    rw [ready, hWaits, Option.any_some]
    exact settled_of_cache hCache
  | @resumed _ _ call _ cache hCall hState hCache hNext =>
    have hAwaited : s.awaited i = some f :=
      Option.bind_eq_some_iff.mpr ⟨call, hCall, by rw [hState]; rfl⟩
    obtain ⟨hCurrent, hTime⟩ := h.calls.current hAwaited hCache
    exact ⟨h, rfl, rfl, ⟨call, hCall, hState⟩, hCurrent, ⟨cache, hCache, hTime⟩,
      of_isNext hNext hAwaited⟩

theorem Looks.keyLookup_eq (h : Looks configuration s e s' i jwt f) :
    s.keyLookup configuration e = some (jwt, f) := by
  cases h with
  | hit hIdle hRead hFresh => simp [keyLookup, hRead, hFresh]
  | resumed hCall hState hCache hNext => simp [keyLookup, hCall, hState]

theorem Looks.cache_eq (h : Looks configuration s e s' i jwt f) (g : Nat) :
    s'.cache g = s.cache g := by
  cases h with
  | hit => rfl
  | resumed => rfl

theorem keyLookup_of_refused {authorization : Option Text} {error : ThrownError}
    (hRead : ServiceJwtAuthGuard.readRequest configuration authorization = .error error) :
    s.keyLookup configuration (.request authorization) = none := by
  simp [keyLookup, hRead]

theorem keyLookup_of_stale {authorization : Option Text} (hStale : s.freshCache = none) :
    s.keyLookup configuration (.request authorization) = none := by
  rw [keyLookup, hStale]
  cases ServiceJwtAuthGuard.readRequest configuration authorization <;> rfl

/-- Where the cooldown is over, no refresh is in flight: an ordinary one would have started from
an expired cache, and an unknown-kid fetch would have stamped this one. -/
theorem LooksIn.free (h : LooksIn runtime configuration s s' i jwt f) {cache : JwksCache Key}
    (hCache : s'.cache f = some cache)
    (hCooled : cache.lastUnknownKidRefreshAt + UNKNOWN_KID_REFRESH_COOLDOWN_MS ≤ s'.clock) :
    (s'.without f).jwksRefresh = none := by
  obtain ⟨hCoherent, -, -, -, hCurrent, ⟨cache', hCache', hTime⟩, -⟩ := h
  rw [hCache] at hCache'
  injection hCache' with hCache'
  subst hCache'
  by_contra hBusy
  obtain ⟨g, hSlot⟩ := Option.ne_none_iff_exists'.mp hBusy
  obtain ⟨hSlot, hNe⟩ := Option.filter_eq_some_iff.mp hSlot
  have hNe : g ≠ f := of_decide_eq_true hNe
  have hLast := hCoherent.cache.slot hSlot
  obtain ⟨fetch, hFetch⟩ : ∃ fetch, s'.fetches[g]? = some fetch :=
    ⟨_, List.getElem?_eq_getElem (by omega)⟩
  have hAbort := hCoherent.cache.abort hSlot hFetch
  have hTimeout : JWKS_REQUEST_TIMEOUT_MS < UNKNOWN_KID_REFRESH_COOLDOWN_MS := by decide
  cases hForced : fetch.forceRefresh with
  | false =>
    have hExpired := hCoherent.cache.expired hSlot hFetch hForced hCurrent hNe.symm hCache
    have hStarted := hCoherent.cache.started hFetch
    exact Nat.not_le_of_lt hTime (hExpired.trans hStarted)
  | true =>
    obtain ⟨creation, _, _, hCreation, -⟩ := cache_eq_some.mp hCache
    have hLt := (List.getElem?_eq_some_iff.mp hCreation).1
    rcases hCoherent.calls.stamps hCurrent hCache hFetch hForced (by omega) with hStamp | ⟨hSame, -⟩
    · have hWithin : s'.clock ≤ cache.lastUnknownKidRefreshAt + JWKS_REQUEST_TIMEOUT_MS :=
        hAbort.trans (Nat.add_le_add_right hStamp _)
      exact Nat.not_lt_of_le (hCooled.trans hWithin) (Nat.add_lt_add_left hTimeout _)
    · exact hNe hSame

theorem LooksIn.settled (h : LooksIn runtime configuration s s' i jwt f) :
    s'.settled f = true := by
  obtain ⟨cache, hCache, -⟩ := h.fresh
  exact settled_of_cache hCache

/-- What `getVerificationKey` does with the cache of `loadJwks(false)`. -/
theorem lookupKey_step (h : Coherent runtime configuration s)
    (hLooks : Looks configuration s e s' i jwt f)
    (hLookup : (s'.without f).lookupKey runtime configuration i jwt f = t) :
    VerifierStep runtime configuration s e t := by
  have hLooksIn := hLooks.looksIn h
  obtain ⟨cache, hCache, -⟩ := hLooksIn.fresh
  subst hLookup
  unfold lookupKey
  rw [show (s'.without f).cache f = some cache from hCache]
  cases hKey : cache.keys.lookup jwt.kid with
  | some key =>
    simp only [hKey]
    exact .found hLooks hCache hKey
  | none =>
    simp only [hKey]
    have hClock : (s'.without f).clock = s.clock := hLooksIn.clock
    rw [hClock]
    split
    · rename_i hCooled
      have hFree := hLooksIn.free hCache (by rw [hLooksIn.clock]; exact hCooled)
      have hFreeStamped : ((s'.without f).stamp f s.clock).jwksRefresh = none := hFree
      have hLength : ((s'.without f).stamp f s.clock).fetches.length = s.fetches.length :=
        (List.length_modify ..).trans (congrArg List.length hLooksIn.fetches)
      unfold refresh
      rw [hFreeStamped, hLength]
      exact .forced hLooks hCache hKey hCooled hFree
    · rename_i hRecent
      exact .cooling hLooks hCache hKey (Nat.lt_of_not_le hRecent)

theorem request_step (h : Coherent runtime configuration s) (hIdle : s.idle = true)
    (authorization : Option Text) :
    VerifierStep runtime configuration s (.request authorization)
      (s.request runtime configuration authorization) := by
  unfold request
  dsimp only
  cases hRead : ServiceJwtAuthGuard.readRequest configuration authorization with
  | error error => exact .refused hRead
  | ok jwt =>
    dsimp only
    cases hFresh : s.freshCache with
    | some f =>
      dsimp only
      refine lookupKey_step h (.hit hIdle hRead hFresh) ?_
      -- the creator of the fetch in the slot waits, so that it is not the one of the cache
      rw [without_of_ne]
      intro hSlot
      obtain ⟨-, cache, hCache, -⟩ := fresh_of_freshCache hFresh
      obtain ⟨fetch, _, _, hFetch, -⟩ := cache_eq_some.mp hCache
      refine not_ready_of_idle hIdle fetch.creator ?_
      rw [ready, h.calls.creator hSlot hFetch, Option.any_some]
      exact settled_of_cache hCache
    | none =>
      dsimp only
      unfold refresh
      cases hSlot : s.jwksRefresh with
      | some f => exact .joined hIdle hRead hFresh hSlot
      | none => exact .started hRead hFresh hSlot

/-- A fetch ends with a failure or with the cache that its document makes. -/
theorem fetched_eq (answer : JwksAnswer) :
    s.fetched runtime configuration answer = .failed ∨
      ∃ document keys, answer = .document document ∧
        parseJwks runtime configuration.algorithm document = some keys ∧
        s.fetched runtime configuration answer =
          .succeeded s.clock document ⟨s.clock + configuration.jwksCacheTtlMs, keys, 0⟩ := by
  cases answer with
  | failed => exact .inl rfl
  | document document =>
    cases hKeys : parseJwks runtime configuration.algorithm document with
    | none =>
      left
      rw [Verifier.fetched, hKeys]
    | some keys =>
      right
      exact ⟨document, keys, rfl, hKeys, by rw [Verifier.fetched, hKeys]⟩

theorem settle_step {answer : JwksAnswer} (hIdle : s.idle = true)
    (hSettle : s.settle runtime configuration answer = some t) :
    VerifierStep runtime configuration s (.settle answer) t := by
  unfold settle at hSettle
  cases hSlot : s.jwksRefresh with
  | none =>
    rw [hSlot] at hSettle
    cases hSettle
  | some f =>
    simp only [hSlot] at hSettle
    split at hSettle
    · rename_i hState
      injection hSettle with hSettle
      subst hSettle
      have hFetched : s.fetched runtime configuration answer = .failed ∨ _ := fetched_eq answer
      rcases hFetched with hFailed | ⟨document, keys, rfl, hKeys, hSucceeded⟩
      · rw [hFailed]
        exact .fetchFailed hIdle hSlot hState
      · rw [hSucceeded]
        exact .fetched hIdle hSlot hState hKeys
    · cases hSettle

/-- A call goes on with the cache of the fetch it waited for, or ends where that failed. -/
theorem resume_step (h : Coherent runtime configuration s) (hNext : s.isNext i = true)
    (hResume : s.resume runtime configuration i = some t) :
    VerifierStep runtime configuration s (.resume i) t := by
  unfold resume at hResume
  split at hResume
  · rename_i f jwt hState
    obtain ⟨call, hCall, hLoading⟩ := Option.map_eq_some_iff.mp hState
    have hAwaited : s.awaited i = some f :=
      Option.bind_eq_some_iff.mpr ⟨call, hCall, by rw [hLoading]; rfl⟩
    rw [clearRefresh_eq h.calls hAwaited hNext] at hResume
    split at hResume
    · rename_i completedAt document cache hSucceeded
      injection hResume with hResume
      have hCache : s.cache f = some cache := by
        rw [Verifier.cache, hSucceeded]
        rfl
      exact lookupKey_step h (.resumed hCall hLoading hCache hNext) hResume
    · rename_i hFailed
      injection hResume with hResume
      exact hResume ▸ .failed hAwaited hNext hFailed
    · cases hResume
  · rename_i f jwt now hState
    obtain ⟨call, hCall, hRefreshing⟩ := Option.map_eq_some_iff.mp hState
    have hAwaited : s.awaited i = some f :=
      Option.bind_eq_some_iff.mpr ⟨call, hCall, by rw [hRefreshing]; rfl⟩
    rw [clearRefresh_eq h.calls hAwaited hNext] at hResume
    split at hResume
    · rename_i completedAt document cache hSucceeded
      injection hResume with hResume
      have hCache : s.cache f = some cache := by
        rw [Verifier.cache, hSucceeded]
        rfl
      have hStep : VerifierStep runtime configuration s _ _ :=
        .refreshed hCall hRefreshing hNext hCache
      unfold lookupRefreshedKey at hResume
      rw [show (s.without f).cache f = some cache from hCache] at hResume
      cases hKey : cache.keys.lookup jwt.kid with
      | some key =>
        simp only [hKey] at hResume hStep
        exact hResume ▸ hStep
      | none =>
        simp only [hKey] at hResume hStep
        exact hResume ▸ hStep
    · rename_i hFailed
      injection hResume with hResume
      exact hResume ▸ .failed hAwaited hNext hFailed
    · cases hResume
  · cases hResume

/-- **One step** of a coherent verifier. -/
theorem verifier_step (h : Coherent runtime configuration s)
    (hStep : (verifierSystem runtime configuration).step s e = some t) :
    VerifierStep runtime configuration s e t := by
  have hStep : s.step runtime configuration e = some t := hStep
  unfold Verifier.step at hStep
  cases e with
  | tick ms =>
    dsimp only at hStep
    split at hStep
    · rename_i hMay
      injection hStep with hStep
      exact hStep ▸ .tick hMay.1 hMay.2
    · cases hStep
  | request authorization =>
    dsimp only at hStep
    split at hStep
    · rename_i hIdle
      injection hStep with hStep
      exact hStep ▸ request_step h hIdle authorization
    · cases hStep
  | settle answer =>
    dsimp only at hStep
    split at hStep
    · rename_i hIdle
      exact settle_step hIdle hStep
    · cases hStep
  | resume i =>
    dsimp only at hStep
    split at hStep
    · rename_i hNext
      exact resume_step h hNext hStep
    · cases hStep

/-- A stamp and the start of a later fetch do not meet. -/
theorem startFetch_stamp {forceRefresh : Bool} {now : Time} (hLt : f < s.fetches.length) :
    (s.stamp f now).startFetch i forceRefresh = (s.startFetch i forceRefresh).stamp f now := by
  have hFetches : ∀ {update : JwksFetch Key → JwksFetch Key} {last : JwksFetch Key},
      s.fetches.modify f update ++ [last] = (s.fetches ++ [last]).modify f update := by
    intro update last
    refine List.ext_getElem? fun g => ?_
    rcases Nat.lt_or_ge g s.fetches.length with hOld | hNew
    · rw [List.getElem?_append_left (by rwa [List.length_modify]), List.getElem?_modify,
        List.getElem?_modify, List.getElem?_append_left hOld]
    · rw [List.getElem?_append_right (by rwa [List.length_modify]), List.length_modify,
        List.getElem?_modify_ne _ _ (by omega), List.getElem?_append_right hNew]
  unfold startFetch stamp setFetch
  simp only [List.length_modify, hFetches]

/-- A call that looks for its key in a cache ends. -/
theorem LooksIn.finished (h : LooksIn runtime configuration s s' i jwt f) {date : Time}
    {key : Option Key} {outcome : Except ThrownError AuthenticatedUser} :
    Coherent runtime configuration ((s'.without f).setCall i (.done date key outcome)) := by
  refine ⟨(h.coherent.cache.without h.settled).withCalls _,
    h.coherent.calls.finish h.awaited h.next ?_⟩
  intro fetch cache hFetch hForced hCreator hCache
  obtain ⟨call, hCall, hLoading⟩ := h.loading
  have hOrdinary := h.coherent.calls.loading hCall hLoading hFetch hCreator
  rw [hForced] at hOrdinary
  cases hOrdinary

/-- A call that looks for its key starts an unknown-kid fetch. -/
theorem LooksIn.forced (h : LooksIn runtime configuration s s' i jwt f)
    (hFree : (s'.without f).jwksRefresh = none) :
    Coherent runtime configuration ((((s'.without f).stamp f s.clock).startFetch i true).setCall i
      (.refreshing s.fetches.length jwt s.clock)) := by
  have hLt : f < s'.fetches.length := h.coherent.calls.waiting h.awaited
  rw [← h.clock, ← h.fetches]
  refine ⟨?_, h.coherent.calls.force h.coherent.cache h.awaited h.current hFree h.next⟩
  refine CacheCoherent.withCalls ?_ _
  rw [startFetch_stamp (s := s'.without f) hLt]
  have hStart : CacheCoherent runtime configuration ((s'.without f).startFetch i true) :=
    (h.coherent.cache.without h.settled).start hFree nofun
  refine hStart.stamp fun _ => ⟨s'.fetches.length, ⟨s'.clock, true, i, .inFlight⟩, ?_, rfl, hLt.le⟩
  exact fetches_startFetch.mpr (.inr ⟨rfl, rfl⟩)

/-- **A step keeps a verifier coherent.** -/
theorem coherent_step (h : Coherent runtime configuration s)
    (hStep : VerifierStep runtime configuration s e t) : Coherent runtime configuration t := by
  cases hStep with
  | tick hIdle hWait => exact ⟨h.cache.tick hWait, h.calls.tick hIdle⟩
  | refused hRead => exact ⟨h.cache.withCalls _, h.calls.add nofun nofun⟩
  | @joined authorization jwt f hIdle hRead hStale hSlot =>
    refine ⟨h.cache.withCalls _, h.calls.add (fun {g} hWaits => ?_) nofun⟩
    injection hWaits with hWaits
    subst hWaits
    have hLast := h.cache.slot hSlot
    obtain ⟨fetch, hFetch⟩ : ∃ fetch, s.fetches[f]? = some fetch :=
      ⟨_, List.getElem?_eq_getElem (by omega)⟩
    exact ⟨by omega, h.calls.current (h.calls.creator hSlot hFetch)⟩
  | @started authorization jwt hRead hStale hSlot =>
    refine ⟨(h.cache.start hSlot fun _ {g cache} hCurrent hCache => ?_).withCalls _,
      h.calls.start hSlot⟩
    by_contra hFresh
    have hTaken : s.freshCache = some g := by
      rw [freshCache, hCurrent, Option.filter_some, if_pos]
      rw [hCache, Option.any_some]
      exact decide_eq_true (Nat.lt_of_not_le hFresh)
    rw [hStale] at hTaken
    cases hTaken
  | found hLooks hCache hKey => exact (hLooks.looksIn h).finished
  | cooling hLooks hCache hUnknown hRecent => exact (hLooks.looksIn h).finished
  | forced hLooks hCache hUnknown hCooled hFree => exact (hLooks.looksIn h).forced hFree
  | fetchFailed hIdle hSlot hState => exact ⟨h.cache.fail hState, h.calls.fail⟩
  | fetched hIdle hSlot hState hKeys =>
    refine ⟨h.cache.succeed hSlot hState hKeys rfl rfl, h.calls.succeed h.cache hIdle hSlot ?_⟩
    have hTtl := configuration.ttlAdmitted.1
    exact Nat.lt_add_of_pos_right (Nat.lt_of_lt_of_le (by decide) hTtl)
  | @failed i f hAwaited hNext hState =>
    have hSettled : s.settled f = true := by
      rw [settled, hState]
      rfl
    refine ⟨(h.cache.without hSettled).withCalls _,
      h.calls.finish hAwaited (of_isNext hNext hAwaited) ?_⟩
    intro fetch cache hFetch hForced hCreator hCache
    rw [Verifier.cache, hState] at hCache
    cases hCache
  | @refreshed i f call jwt now cache hCall hState hNext hCache =>
    have hAwaited : s.awaited i = some f :=
      Option.bind_eq_some_iff.mpr ⟨call, hCall, by rw [hState]; rfl⟩
    obtain ⟨creation, hCreation, hForced, hCreator, hStarted⟩ := h.calls.refreshing hCall hState
    have hStamped : CacheCoherent runtime configuration (s.stamp f now) :=
      h.cache.stamp fun _ => ⟨f, creation, hCreation, hForced, Nat.le_refl f⟩
    have hSettled : (s.stamp f now).settled f = true := by
      obtain ⟨fetch, completedAt, document, hFetch, hSucceeded⟩ := cache_eq_some.mp hCache
      rw [settled, fetchState, stamp, fetches_setFetch f _ hFetch, if_pos rfl, hSucceeded]
      rfl
    refine ⟨(hStamped.without hSettled).withCalls _,
      (h.calls.stamp h.cache hCall hState).finish hAwaited ?_ ?_⟩
    · intro fetch hFetch
      obtain ⟨old, hOld, rfl⟩ := of_fetches_setFetch hFetch
      have hOthers := of_isNext hNext hAwaited hOld
      exact hOthers
    · intro fetch cache' hFetch _ hIsI hCache'
      obtain ⟨old, hOld, rfl⟩ := of_fetches_setFetch hFetch
      obtain ⟨hLast, -⟩ := cache_stamp hCache'
      rw [hCreation] at hOld
      injection hOld with hOld
      rw [hLast rfl, ← hStarted, hOld]

theorem coherent_initial (h : s.Initial) : Coherent runtime configuration s :=
  ⟨.initial h, .initial h⟩

/-- **Every state of every run is coherent.** -/
theorem coherent_reachable (h : Reachable (verifierSystem runtime configuration) anyStep s) :
    Coherent runtime configuration s :=
  h.invariant (fun _ hInit => coherent_initial hInit)
    fun _ _ _ hHolds _ hMove => coherent_step hHolds (verifier_step hHolds hMove)

/-- **Every step of every run** is one of those of `VerifierStep`. -/
theorem reachable_step (h : Reachable (verifierSystem runtime configuration) anyStep s)
    (hStep : (verifierSystem runtime configuration).step s e = some t) :
    VerifierStep runtime configuration s e t :=
  verifier_step (coherent_reachable h) hStep

end Step

end Verifier

end ServiceJwtVerifier

end SocialPromotion
