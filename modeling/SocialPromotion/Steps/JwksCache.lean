import SocialPromotion.Lib.Transition
import SocialPromotion.Model.JwksCache

/-!
# The JWKS cache and the calls that wait for it

* `CacheCoherent`: the fetches, the slot and the cache fit together;
* `CallsCoherent`: so do the fetches and the calls that wait for them;
* one lemma for each write of the verifier: a tick, a start, a stamp, the end of a fetch or a call.
-/

namespace SocialPromotion

namespace ServiceJwtVerifier

open LTS

variable {Key : Type} {runtime : JwtRuntime Key} {configuration : JwtConfiguration}

namespace Verifier

/-! ## The parts of a state after a write -/

section Parts

variable {s : Verifier Key} {f g i j : Nat} {state : CallState Key}
  {authorization : Option Text} {fetch : JwksFetch Key}

/-- What a fetch was before its state was written. -/
theorem of_fetches_setFetch {update : FetchState Key → FetchState Key}
    (h : (s.setFetch f update).fetches[g]? = some fetch) :
    ∃ old, s.fetches[g]? = some old ∧
      fetch = { old with state := if f = g then update old.state else old.state } := by
  have hGet : (s.fetches.modify f _)[g]? = some fetch := h
  rw [List.getElem?_modify] at hGet
  obtain ⟨old, hOld, rfl⟩ := Option.map_eq_some_iff.mp hGet
  refine ⟨old, hOld, ?_⟩
  split <;> rfl

theorem fetches_setFetch (f : Nat) (update : FetchState Key → FetchState Key)
    (h : s.fetches[g]? = some fetch) :
    (s.setFetch f update).fetches[g]? =
      some { fetch with state := if f = g then update fetch.state else fetch.state } := by
  show (s.fetches.modify f _)[g]? = _
  rw [List.getElem?_modify, h]
  by_cases hSame : f = g
  · simp [hSame]
  · simp [hSame]

theorem fetches_startFetch {forceRefresh : Bool} :
    (s.startFetch i forceRefresh).fetches[g]? = some fetch ↔
      s.fetches[g]? = some fetch ∨
        g = s.fetches.length ∧ fetch = ⟨s.clock, forceRefresh, i, .inFlight⟩ := by
  show (s.fetches ++ [_])[g]? = some fetch ↔ _
  rcases Nat.lt_trichotomy g s.fetches.length with hLt | rfl | hGt
  · rw [List.getElem?_append_left hLt]
    simp [hLt.ne]
  · rw [List.getElem?_concat_length, List.getElem?_eq_none (Nat.le_refl _)]
    simp [eq_comm]
  · rw [List.getElem?_eq_none (by simp; omega), List.getElem?_eq_none (by omega)]
    simp [hGt.ne']

theorem awaited_setCall_self (h : i < s.calls.length) :
    (s.setCall i state).awaited i = state.awaited := by
  show ((s.calls.modify i _)[i]?).bind _ = _
  rw [List.getElem?_modify, List.getElem?_eq_getElem h]
  simp

theorem awaited_setCall_ne (h : i ≠ j) : (s.setCall i state).awaited j = s.awaited j := by
  show ((s.calls.modify i _)[j]?).bind _ = _
  rw [List.getElem?_modify, awaited]
  cases s.calls[j]? with
  | none => rfl
  | some call => simp [h]

theorem awaited_addCall_lt (h : i < s.calls.length) :
    (s.addCall authorization state).awaited i = s.awaited i := by
  show ((s.calls ++ [_])[i]?).bind _ = _
  rw [List.getElem?_append_left h]
  rfl

theorem awaited_addCall_new :
    (s.addCall authorization state).awaited s.calls.length = state.awaited := by
  show ((s.calls ++ [_])[s.calls.length]?).bind _ = _
  rw [List.getElem?_concat_length]
  rfl

/-- A call of the longer list is an earlier one or the new one. -/
theorem calls_addCall {call : GuardCall Key}
    (h : (s.addCall authorization state).calls[i]? = some call) :
    s.calls[i]? = some call ∨ i = s.calls.length ∧ call = ⟨authorization, state⟩ := by
  have hGet : (s.calls ++ [_])[i]? = some call := h
  rcases Nat.lt_trichotomy i s.calls.length with hLt | rfl | hGt
  · rw [List.getElem?_append_left hLt] at hGet
    exact .inl hGet
  · rw [List.getElem?_concat_length] at hGet
    injection hGet with hGet
    exact .inr ⟨rfl, hGet.symm⟩
  · rw [List.getElem?_eq_none (by simp; omega)] at hGet
    cases hGet

theorem awaited_addCall (h : (s.addCall authorization state).awaited i = some f) :
    s.awaited i = some f ∨ i = s.calls.length ∧ state.awaited = some f := by
  obtain ⟨call, hCall, hState⟩ := Option.bind_eq_some_iff.mp h
  rcases calls_addCall hCall with hOld | ⟨hNew, rfl⟩
  · exact .inl (Option.bind_eq_some_iff.mpr ⟨call, hOld, hState⟩)
  · exact .inr ⟨hNew, hState⟩

theorem calls_setCall {call : GuardCall Key}
    (h : (s.setCall i state).calls[j]? = some call) :
    i ≠ j ∧ s.calls[j]? = some call ∨
      i = j ∧ ∃ old, s.calls[j]? = some old ∧ call = { old with state := state } := by
  have hGet : (s.calls.modify i _)[j]? = some call := h
  rw [List.getElem?_modify] at hGet
  obtain ⟨old, hOld, rfl⟩ := Option.map_eq_some_iff.mp hGet
  by_cases hSame : i = j
  · exact .inr ⟨hSame, old, hOld, if_pos hSame⟩
  · exact .inl ⟨hSame, by rw [if_neg hSame]; exact hOld⟩

theorem not_ready_of_idle (h : s.idle = true) (i : Nat) : s.ready i ≠ true := by
  intro hReady
  obtain ⟨f, hAwaited, -⟩ := (Option.any_eq_true _ _).mp hReady
  have hLt : i < s.calls.length := by
    obtain ⟨call, hCall, -⟩ := Option.bind_eq_some_iff.mp hAwaited
    exact (List.getElem?_eq_some_iff.mp hCall).1
  have hNotReady := List.all_eq_true.mp h i (List.mem_range.mpr hLt)
  rw [hReady] at hNotReady
  cases hNotReady

theorem lt_of_awaited (h : s.awaited i = some f) : i < s.calls.length := by
  by_contra hGe
  rw [awaited, List.getElem?_eq_none (by omega)] at h
  cases h

theorem cache_eq_some {cache : JwksCache Key} :
    s.cache f = some cache ↔ ∃ fetch completedAt document, s.fetches[f]? = some fetch ∧
      fetch.state = .succeeded completedAt document cache := by
  rw [Verifier.cache, fetchState]
  cases s.fetches[f]? with
  | none => simp
  | some fetch =>
    cases hState : fetch.state with
    | succeeded completedAt document cache' => simp [FetchState.cache, hState]
    | inFlight => simp [FetchState.cache, hState]
    | failed => simp [FetchState.cache, hState]

/-- What a cache was before an object was stamped. -/
theorem cache_stamp {cache : JwksCache Key} {now : Time}
    (h : (s.stamp f now).cache g = some cache) :
    (f = g → cache.lastUnknownKidRefreshAt = now) ∧ ∃ last,
      s.cache g = some { cache with lastUnknownKidRefreshAt := last } ∧
        (f ≠ g → cache.lastUnknownKidRefreshAt = last) := by
  obtain ⟨fetch, completedAt, document, hFetch, hState⟩ := cache_eq_some.mp h
  obtain ⟨old, hOld, rfl⟩ := of_fetches_setFetch hFetch
  by_cases hSame : f = g
  · rw [show (if f = g then _ else old.state) = _ from if_pos hSame] at hState
    cases hOldState : old.state with
    | inFlight =>
      rw [hOldState] at hState
      cases hState
    | failed =>
      rw [hOldState] at hState
      cases hState
    | succeeded completedAt' document' cache' =>
      rw [hOldState] at hState
      injection hState with _ _ hCache
      subst hCache
      exact ⟨fun _ => rfl, cache'.lastUnknownKidRefreshAt,
        cache_eq_some.mpr ⟨old, completedAt', document', hOld, hOldState⟩,
        fun hNe => absurd hSame hNe⟩
  · rw [show (if f = g then _ else old.state) = _ from if_neg hSame] at hState
    exact ⟨fun h => absurd h hSame, cache.lastUnknownKidRefreshAt,
      cache_eq_some.mpr ⟨old, completedAt, document, hOld, hState⟩, fun _ => rfl⟩

end Parts

/-! ## The cache and its fetches -/

/-- What holds of the fetches, the slot and the cache, whoever calls. -/
structure CacheCoherent (runtime : JwtRuntime Key) (configuration : JwtConfiguration)
    (s : Verifier Key) : Prop where
  /-- The slot holds the last fetch, and no other is in flight. -/
  slot : ∀ {f}, s.jwksRefresh = some f → f + 1 = s.fetches.length
  flight : ∀ {f : Nat} {fetch : JwksFetch Key}, s.fetches[f]? = some fetch → fetch.state = .inFlight →
    s.jwksRefresh = some f
  started : ∀ {f : Nat} {fetch : JwksFetch Key}, s.fetches[f]? = some fetch → fetch.startedAt ≤ s.clock
  abort : ∀ {f : Nat} {fetch : JwksFetch Key}, s.jwksRefresh = some f → s.fetches[f]? = some fetch →
    s.clock ≤ fetch.startedAt + JWKS_REQUEST_TIMEOUT_MS
  /-- A cache object comes from the document of its fetch. -/
  origin : ∀ {f : Nat} {fetch : JwksFetch Key} {completedAt : Time} {document : JsonValue}
    {cache : JwksCache Key}, s.fetches[f]? = some fetch →
    fetch.state = .succeeded completedAt document cache →
    parseJwks runtime configuration.algorithm document = some cache.keys ∧
      cache.expiresAt = completedAt + configuration.jwksCacheTtlMs ∧
      fetch.startedAt ≤ completedAt ∧ completedAt ≤ s.clock
  sequential : ∀ {f g : Nat} {fetch later : JwksFetch Key} {completedAt : Time}
    {document : JsonValue} {cache : JwksCache Key}, f < g →
    s.fetches[f]? = some fetch → fetch.state = .succeeded completedAt document cache →
    s.fetches[g]? = some later → completedAt ≤ later.startedAt
  /-- The cache is the one of the last fetch that succeeded. -/
  current : ∀ {f}, s.jwksCache = some f → ∃ cache, s.cache f = some cache
  latest : ∀ {f : Nat} {cache : JwksCache Key}, s.cache f = some cache → ∃ g, s.jwksCache = some g ∧ f ≤ g
  /-- An ordinary refresh starts once the cache has expired. -/
  expired : ∀ {f g : Nat} {fetch : JwksFetch Key} {cache : JwksCache Key}, s.jwksRefresh = some f → s.fetches[f]? = some fetch →
    fetch.forceRefresh = false → s.jwksCache = some g → g ≠ f → s.cache g = some cache →
    cache.expiresAt ≤ fetch.startedAt
  /-- A cache that came after every unknown-kid fetch carries no stamp. -/
  unstamped : ∀ {f : Nat} {cache : JwksCache Key}, s.jwksCache = some f → s.cache f = some cache →
    (∀ {m : Nat} {fetch : JwksFetch Key}, s.fetches[m]? = some fetch → fetch.forceRefresh = true → m < f) →
    cache.lastUnknownKidRefreshAt = 0

namespace CacheCoherent

variable {s : Verifier Key} {f i : Nat} {fetch : JwksFetch Key}

/-- Calls do not matter. -/
theorem withCalls (h : CacheCoherent runtime configuration s) (calls : List (GuardCall Key)) :
    CacheCoherent runtime configuration { s with calls := calls } :=
  ⟨h.slot, h.flight, h.started, h.abort, h.origin, h.sequential, h.current, h.latest, h.expired,
    h.unstamped⟩

theorem initial (h : s.Initial) : CacheCoherent runtime configuration s := by
  obtain ⟨-, hFetches, hCache, hSlot, -⟩ := h
  have hNoFetch : ∀ {f : Nat} {fetch : JwksFetch Key}, s.fetches[f]? ≠ some fetch := by
    intro f fetch hFetch
    rw [hFetches, List.getElem?_nil] at hFetch
    cases hFetch
  have hNoCache : ∀ {f : Nat} {cache : JwksCache Key}, s.cache f ≠ some cache := by
    intro f cache hCacheF
    obtain ⟨fetch, _, _, hFetch, -⟩ := cache_eq_some.mp hCacheF
    exact hNoFetch hFetch
  constructor
  case slot | abort | expired => simp [hSlot]
  case current | unstamped => simp [hCache]
  case latest => exact fun hCacheF => absurd hCacheF hNoCache
  case flight | started | origin => exact fun hFetch => absurd hFetch hNoFetch
  case sequential => exact fun _ hFetch => absurd hFetch hNoFetch

/-- Time passes while the fetch in the slot may still wait. -/
theorem tick (h : CacheCoherent runtime configuration s) {ms : Nat} (hWait : s.mayWait ms) :
    CacheCoherent runtime configuration { s with clock := s.clock + ms } where
  slot := h.slot
  flight := h.flight
  started hFetch := Nat.le_add_right_of_le (h.started hFetch)
  abort {f fetch} hSlot hFetch := by
    rw [mayWait, show s.jwksRefresh = some f from hSlot, Option.all_some,
      show s.fetches[f]? = some fetch from hFetch, Option.all_some, decide_eq_true_eq] at hWait
    exact hWait
  origin hFetch hState :=
    let ⟨hKeys, hExpires, hAfter, hCompleted⟩ := h.origin hFetch hState
    ⟨hKeys, hExpires, hAfter, Nat.le_add_right_of_le hCompleted⟩
  sequential := h.sequential
  current := h.current
  latest := h.latest
  expired := h.expired
  unstamped := h.unstamped

/-- The slot is cleared once its fetch is settled. -/
theorem clear (h : CacheCoherent runtime configuration s) (hSlot : s.jwksRefresh = some f)
    (hSettled : s.settled f = true) :
    CacheCoherent runtime configuration { s with jwksRefresh := none } where
  slot := nofun
  flight {g fetch} hFetch hState := by
    have hSame := h.flight hFetch hState
    rw [hSlot] at hSame
    injection hSame with hSame
    subst hSame
    rw [settled, fetchState, show s.fetches[f]? = some fetch from hFetch, Option.map_some,
      Option.any_some, hState] at hSettled
    cases hSettled
  started := h.started
  abort := nofun
  origin := h.origin
  sequential := h.sequential
  current := h.current
  latest := h.latest
  expired := nofun
  unstamped := h.unstamped

/-- A fetch starts where the slot is free; an ordinary one needs an expired cache. -/
theorem start (h : CacheCoherent runtime configuration s) {forceRefresh : Bool}
    (hFree : s.jwksRefresh = none)
    (hExpired : forceRefresh = false → ∀ {g cache}, s.jwksCache = some g →
      s.cache g = some cache → cache.expiresAt ≤ s.clock) :
    CacheCoherent runtime configuration (s.startFetch i forceRefresh) := by
  have hCache : ∀ {g cache}, (s.startFetch i forceRefresh).cache g = some cache →
      s.cache g = some cache := by
    intro g cache hCacheG
    obtain ⟨fetch, completedAt, document, hFetch, hState⟩ := cache_eq_some.mp hCacheG
    rcases fetches_startFetch.mp hFetch with hOld | ⟨-, rfl⟩
    · exact cache_eq_some.mpr ⟨fetch, completedAt, document, hOld, hState⟩
    · cases hState
  have hKept : ∀ {g fetch}, s.fetches[g]? = some fetch →
      (s.startFetch i forceRefresh).fetches[g]? = some fetch :=
    fun hFetch => fetches_startFetch.mpr (.inl hFetch)
  constructor
  case slot =>
    intro f hSlot
    injection hSlot with hSlot
    rw [← hSlot]
    show s.fetches.length + 1 = (s.fetches ++ [_]).length
    rw [List.length_append, List.length_singleton]
  case flight =>
    intro f fetch hFetch hState
    rcases fetches_startFetch.mp hFetch with hOld | ⟨rfl, -⟩
    · have hSlot := h.flight hOld hState
      rw [hFree] at hSlot
      cases hSlot
    · rfl
  case started =>
    intro f fetch hFetch
    rcases fetches_startFetch.mp hFetch with hOld | ⟨-, rfl⟩
    · exact h.started hOld
    · exact Nat.le_refl _
  case abort =>
    intro f fetch hSlot hFetch
    injection hSlot with hSlot
    rcases fetches_startFetch.mp hFetch with hOld | ⟨-, rfl⟩
    · rw [← hSlot, List.getElem?_eq_none (Nat.le_refl _)] at hOld
      cases hOld
    · exact Nat.le_add_right _ _
  case origin =>
    intro f fetch completedAt document cache hFetch hState
    rcases fetches_startFetch.mp hFetch with hOld | ⟨-, rfl⟩
    · exact h.origin hOld hState
    · cases hState
  case sequential =>
    intro f g fetch later completedAt document cache hLt hFetch hState hLater
    rcases fetches_startFetch.mp hFetch with hOld | ⟨-, rfl⟩
    · rcases fetches_startFetch.mp hLater with hOldLater | ⟨-, rfl⟩
      · exact h.sequential hLt hOld hState hOldLater
      · exact (h.origin hOld hState).2.2.2
    · cases hState
  case current =>
    intro f hCurrent
    obtain ⟨cache, hCacheF⟩ := h.current hCurrent
    obtain ⟨fetch, completedAt, document, hFetch, hState⟩ := cache_eq_some.mp hCacheF
    exact ⟨cache, cache_eq_some.mpr ⟨fetch, completedAt, document, hKept hFetch, hState⟩⟩
  case latest => exact fun hCacheF => h.latest (hCache hCacheF)
  case expired =>
    intro f g fetch cache hSlot hFetch hOrdinary hCurrent hNe hCacheG
    injection hSlot with hSlot
    rcases fetches_startFetch.mp hFetch with hOld | ⟨-, rfl⟩
    · rw [← hSlot, List.getElem?_eq_none (Nat.le_refl _)] at hOld
      cases hOld
    · exact hExpired hOrdinary hCurrent (hCache hCacheG)
  case unstamped =>
    intro f cache hCurrent hCacheF hAll
    exact h.unstamped hCurrent (hCache hCacheF) fun hFetch => hAll (hKept hFetch)

/-- The state of a fetch is written, and the document of a cache object stays what it was. -/
theorem setFetch (h : CacheCoherent runtime configuration s)
    {update : FetchState Key → FetchState Key}
    (hFlight : ∀ {state}, update state = .inFlight → state = .inFlight)
    (hOrigin : ∀ {state completedAt document cache}, s.fetchState f = some state →
      update state = .succeeded completedAt document cache →
      ∃ last, state = .succeeded completedAt document
        { cache with lastUnknownKidRefreshAt := last })
    (hKept : ∀ {completedAt document cache}, s.fetchState f =
      some (.succeeded completedAt document cache) →
      ∃ cache', update (.succeeded completedAt document cache) =
        .succeeded completedAt document cache')
    (hUnstamped : ∀ {cache}, s.jwksCache = some f → (s.setFetch f update).cache f = some cache →
      (∀ {m : Nat} {fetch : JwksFetch Key}, s.fetches[m]? = some fetch →
        fetch.forceRefresh = true → m < f) → cache.lastUnknownKidRefreshAt = 0) :
    CacheCoherent runtime configuration (s.setFetch f update) := by
  -- a state before the write, of a fetch that has succeeded after it
  have hBefore : ∀ {g : Nat} {old : JwksFetch Key} {completedAt : Time} {document : JsonValue}
      {cache : JwksCache Key}, s.fetches[g]? = some old →
      (if f = g then update old.state else old.state) = .succeeded completedAt document cache →
      ∃ last, old.state = .succeeded completedAt document
        { cache with lastUnknownKidRefreshAt := last } := by
    intro g old completedAt document cache hOld hState
    by_cases hSame : f = g
    · rw [if_pos hSame] at hState
      exact hOrigin (by rw [fetchState, hSame, hOld]; rfl) hState
    · rw [if_neg hSame] at hState
      exact ⟨cache.lastUnknownKidRefreshAt, hState⟩
  have hCache : ∀ {g : Nat} {cache : JwksCache Key}, (s.setFetch f update).cache g = some cache →
      ∃ last, s.cache g = some { cache with lastUnknownKidRefreshAt := last } := by
    intro g cache hCacheG
    obtain ⟨fetch, completedAt, document, hFetch, hState⟩ := cache_eq_some.mp hCacheG
    obtain ⟨old, hOld, rfl⟩ := of_fetches_setFetch hFetch
    obtain ⟨last, hLast⟩ := hBefore hOld hState
    exact ⟨last, cache_eq_some.mpr ⟨old, completedAt, document, hOld, hLast⟩⟩
  constructor
  case slot => exact fun hSlot => (h.slot hSlot).trans (List.length_modify ..).symm
  case flight =>
    intro g fetch hFetch hInFlight
    obtain ⟨old, hOld, rfl⟩ := of_fetches_setFetch hFetch
    refine h.flight hOld ?_
    by_cases hSame : f = g
    · exact hFlight (by simpa [hSame] using hInFlight)
    · simpa [hSame] using hInFlight
  case started =>
    intro g fetch hFetch
    obtain ⟨old, hOld, rfl⟩ := of_fetches_setFetch hFetch
    have hStarted := h.started hOld
    exact hStarted
  case abort =>
    intro g fetch hSlot hFetch
    obtain ⟨old, hOld, rfl⟩ := of_fetches_setFetch hFetch
    have hAbort := h.abort hSlot hOld
    exact hAbort
  case origin =>
    intro g fetch completedAt document cache hFetch hState
    obtain ⟨old, hOld, rfl⟩ := of_fetches_setFetch hFetch
    obtain ⟨last, hLast⟩ := hBefore hOld hState
    have hOrigin := h.origin hOld hLast
    exact hOrigin
  case sequential =>
    intro g g' fetch later completedAt document cache hLt hFetch hState hLater
    obtain ⟨old, hOld, rfl⟩ := of_fetches_setFetch hFetch
    obtain ⟨oldLater, hOldLater, rfl⟩ := of_fetches_setFetch hLater
    obtain ⟨last, hLast⟩ := hBefore hOld hState
    have hBounded := h.sequential hLt hOld hLast hOldLater
    exact hBounded
  case current =>
    intro g hCurrent
    obtain ⟨cache, hCacheG⟩ := h.current hCurrent
    obtain ⟨fetch, completedAt, document, hFetch, hState⟩ := cache_eq_some.mp hCacheG
    have hNow := fetches_setFetch f update hFetch
    by_cases hSame : f = g
    · obtain ⟨cache', hCache'⟩ := hKept (by rw [fetchState, hSame, hFetch, Option.map_some, hState])
      exact ⟨cache', cache_eq_some.mpr ⟨_, completedAt, document, hNow, by
        simp only [hSame, if_true, hState, hCache']⟩⟩
    · exact ⟨cache, cache_eq_some.mpr ⟨_, completedAt, document, hNow, by
        simp only [hSame, if_false, hState]⟩⟩
  case latest =>
    intro g cache hCacheG
    obtain ⟨last, hLast⟩ := hCache hCacheG
    exact h.latest hLast
  case expired =>
    intro g g' fetch cache hSlot hFetch hOrdinary hCurrent hNe hCacheG
    obtain ⟨old, hOld, rfl⟩ := of_fetches_setFetch hFetch
    obtain ⟨last, hLast⟩ := hCache hCacheG
    have hExpired := h.expired hSlot hOld hOrdinary hCurrent hNe hLast
    exact hExpired
  case unstamped =>
    intro g cache hCurrent hCacheG hAll
    have hAllBefore : ∀ {m : Nat} {fetch : JwksFetch Key}, s.fetches[m]? = some fetch →
        fetch.forceRefresh = true → m < g := fun hFetch hForced =>
      hAll (fetches_setFetch f update hFetch) hForced
    by_cases hSame : f = g
    · subst hSame
      exact hUnstamped hCurrent hCacheG hAllBefore
    · obtain ⟨fetch, completedAt, document, hFetch, hState⟩ := cache_eq_some.mp hCacheG
      obtain ⟨old, hOld, rfl⟩ := of_fetches_setFetch hFetch
      rw [show (if f = g then update old.state else old.state) = old.state from if_neg hSame]
        at hState
      exact h.unstamped hCurrent (cache_eq_some.mpr ⟨old, completedAt, document, hOld, hState⟩)
        hAllBefore

/-- The fetch in the slot fails. -/
theorem fail (h : CacheCoherent runtime configuration s)
    (hState : s.fetchState f = some .inFlight) :
    CacheCoherent runtime configuration (s.setFetch f fun _ => .failed) := by
  refine h.setFetch nofun (fun _ hFailed => nomatch hFailed) (fun hSucceeded => ?_)
    fun _ hCache => ?_
  · rw [hState] at hSucceeded
    cases hSucceeded
  · obtain ⟨fetch, completedAt, document, hFetch, hSucceeded⟩ := cache_eq_some.mp hCache
    obtain ⟨old, hOld, rfl⟩ := of_fetches_setFetch hFetch
    simp at hSucceeded

/-- A cache object is stamped; if it is the current one, an unknown-kid fetch has started since
its own fetch did, or its own is one. -/
theorem stamp (h : CacheCoherent runtime configuration s) {now : Time}
    (hForced : s.jwksCache = some f → ∃ m fetch, s.fetches[m]? = some fetch ∧
      fetch.forceRefresh = true ∧ f ≤ m) :
    CacheCoherent runtime configuration (s.stamp f now) := by
  refine h.setFetch (fun {state} hFlight => ?_) (fun {state _ _ _} _ hSucceeded => ?_)
    (fun _ => ⟨_, rfl⟩) fun hCurrent _ hAll => ?_
  · cases state with
    | inFlight => rfl
    | succeeded => cases hFlight
    | failed => cases hFlight
  · cases state with
    | inFlight => cases hSucceeded
    | failed => cases hSucceeded
    | succeeded completedAt document cache =>
      injection hSucceeded with hCompleted hDocument hCache
      exact ⟨cache.lastUnknownKidRefreshAt, by rw [hCompleted, hDocument, ← hCache]⟩
  · obtain ⟨m, fetch, hFetch, hIsForced, hLe⟩ := hForced hCurrent
    have hLt := hAll hFetch hIsForced
    omega

/-- The fetch in the slot succeeds. -/
theorem succeed (h : CacheCoherent runtime configuration s) {document : JsonValue}
    {made : JwksCache Key} (hSlot : s.jwksRefresh = some f)
    (hState : s.fetchState f = some .inFlight)
    (hKeys : parseJwks runtime configuration.algorithm document = some made.keys)
    (hExpires : made.expiresAt = s.clock + configuration.jwksCacheTtlMs)
    (hUnstamped : made.lastUnknownKidRefreshAt = 0) :
    CacheCoherent runtime configuration
      { s.setFetch f (fun _ => .succeeded s.clock document made) with jwksCache := some f } := by
  have hLast := h.slot hSlot
  have hBound : ∀ {g : Nat} {fetch : JwksFetch Key}, s.fetches[g]? = some fetch → g ≤ f := by
    intro g fetch hFetch
    have hLt := (List.getElem?_eq_some_iff.mp hFetch).1
    omega
  -- what a fetch was before this one succeeded
  have hBefore : ∀ {g : Nat} {fetch : JwksFetch Key},
      (s.setFetch f fun _ => .succeeded s.clock document made).fetches[g]? = some fetch →
      ∃ old, s.fetches[g]? = some old ∧ fetch = { old with
        state := if f = g then .succeeded s.clock document made else old.state } :=
    of_fetches_setFetch
  constructor
  case slot => exact fun hSlot => (h.slot hSlot).trans (List.length_modify ..).symm
  case flight =>
    intro g fetch hFetch hInFlight
    obtain ⟨old, hOld, rfl⟩ := hBefore hFetch
    by_cases hSame : f = g
    · exact absurd hInFlight (by simp [hSame])
    · exact h.flight hOld (by simpa [hSame] using hInFlight)
  case started =>
    intro g fetch hFetch
    obtain ⟨old, hOld, rfl⟩ := hBefore hFetch
    have hStarted := h.started hOld
    exact hStarted
  case abort =>
    intro g fetch hSlot hFetch
    obtain ⟨old, hOld, rfl⟩ := hBefore hFetch
    have hAbort := h.abort hSlot hOld
    exact hAbort
  case origin =>
    intro g fetch completedAt document' cache hFetch hSucceeded
    obtain ⟨old, hOld, rfl⟩ := hBefore hFetch
    by_cases hSame : f = g
    · rw [show (if f = g then _ else old.state) = _ from if_pos hSame] at hSucceeded
      injection hSucceeded with hCompleted hDocument hCache
      subst hCompleted hDocument hCache
      have hStarted := h.started hOld
      exact ⟨hKeys, hExpires, hStarted, Nat.le_refl _⟩
    · rw [show (if f = g then _ else old.state) = _ from if_neg hSame] at hSucceeded
      have hOrigin := h.origin hOld hSucceeded
      exact hOrigin
  case sequential =>
    intro g g' fetch later completedAt document' cache hLt hFetch hSucceeded hLater
    obtain ⟨old, hOld, rfl⟩ := hBefore hFetch
    obtain ⟨oldLater, hOldLater, rfl⟩ := hBefore hLater
    have hLe := hBound hOldLater
    rw [show (if f = g then _ else old.state) = _ from if_neg (by omega)] at hSucceeded
    have hBounded := h.sequential hLt hOld hSucceeded hOldLater
    exact hBounded
  case current =>
    intro g hCurrent
    injection hCurrent with hCurrent
    subst hCurrent
    obtain ⟨old, hOld, -⟩ := Option.map_eq_some_iff.mp hState
    have hNow := fetches_setFetch f (fun _ => .succeeded s.clock document made) hOld
    rw [if_pos rfl] at hNow
    exact ⟨_, cache_eq_some.mpr ⟨_, _, _, hNow, rfl⟩⟩
  case latest =>
    intro g cache hCacheG
    obtain ⟨fetch, completedAt, document', hFetch, -⟩ := cache_eq_some.mp hCacheG
    obtain ⟨old, hOld, -⟩ := hBefore hFetch
    exact ⟨f, rfl, hBound hOld⟩
  case expired =>
    intro g g' fetch cache hSlot' hFetch hOrdinary hCurrent hNe
    injection hCurrent with hCurrent
    have hSame : some f = some g := hSlot.symm.trans hSlot'
    injection hSame with hSame
    exact absurd (hCurrent.symm.trans hSame) hNe
  case unstamped =>
    intro g cache hCurrent hCacheG _
    injection hCurrent with hCurrent
    subst hCurrent
    obtain ⟨fetch, completedAt, document', hFetch, hSucceeded⟩ := cache_eq_some.mp hCacheG
    obtain ⟨old, hOld, rfl⟩ := hBefore hFetch
    rw [show (if f = f then _ else old.state) = _ from if_pos rfl] at hSucceeded
    injection hSucceeded with _ _ hCache
    rw [← hCache, hUnstamped]

end CacheCoherent

/-! ## The calls that wait -/

/-- What holds of the calls and the fetches they wait for. -/
structure CallsCoherent (s : Verifier Key) : Prop where
  /-- The slot is held as long as the creator of its fetch waits. -/
  creator : ∀ {f : Nat} {fetch : JwksFetch Key}, s.jwksRefresh = some f →
    s.fetches[f]? = some fetch → s.awaited fetch.creator = some f
  holds : ∀ {f : Nat} {fetch : JwksFetch Key}, s.fetches[f]? = some fetch →
    s.awaited fetch.creator = some f → s.jwksRefresh = some f
  creators : ∀ {f : Nat} {fetch : JwksFetch Key}, s.fetches[f]? = some fetch →
    fetch.creator < s.calls.length
  waiting : ∀ {i f : Nat}, s.awaited i = some f → f < s.fetches.length
  /-- A call that is ready goes on with the current cache, which is fresh. -/
  current : ∀ {i f : Nat} {cache : JwksCache Key}, s.awaited i = some f →
    s.cache f = some cache → s.jwksCache = some f ∧ s.clock < cache.expiresAt
  loading : ∀ {i f : Nat} {call : GuardCall Key} {jwt : Jwt} {fetch : JwksFetch Key},
    s.calls[i]? = some call → call.state = .loading f jwt → s.fetches[f]? = some fetch →
    fetch.creator = i → fetch.forceRefresh = false
  refreshing : ∀ {i f : Nat} {call : GuardCall Key} {jwt : Jwt} {now : Time},
    s.calls[i]? = some call → call.state = .refreshing f jwt now →
    ∃ fetch, s.fetches[f]? = some fetch ∧ fetch.forceRefresh = true ∧ fetch.creator = i ∧
      fetch.startedAt = now
  /-- The current cache carries the start of every unknown-kid fetch since its own, or its own is
  one and the creator has still to stamp it. -/
  stamps : ∀ {f m : Nat} {cache : JwksCache Key} {fetch : JwksFetch Key},
    s.jwksCache = some f → s.cache f = some cache → s.fetches[m]? = some fetch →
    fetch.forceRefresh = true → f ≤ m →
    fetch.startedAt ≤ cache.lastUnknownKidRefreshAt ∨ m = f ∧ s.awaited fetch.creator = some m

/-- The slot without a fetch whose creator has gone on. -/
def without (s : Verifier Key) (f : Nat) : Verifier Key :=
  { s with jwksRefresh := s.jwksRefresh.filter fun g => g ≠ f }

namespace CallsCoherent

variable {s : Verifier Key} {f i : Nat} {fetch : JwksFetch Key} {authorization : Option Text}
  {jwt : Jwt}

theorem initial (h : s.Initial) : CallsCoherent s := by
  obtain ⟨-, hFetches, -, -, hCalls⟩ := h
  have hNoFetch : ∀ {f : Nat} {fetch : JwksFetch Key}, s.fetches[f]? ≠ some fetch := by
    intro f fetch hFetch
    rw [hFetches, List.getElem?_nil] at hFetch
    cases hFetch
  have hNoCall : ∀ {i : Nat} {call : GuardCall Key}, s.calls[i]? ≠ some call := by
    intro i call hCall
    rw [hCalls, List.getElem?_nil] at hCall
    cases hCall
  have hNotAwaited : ∀ {i f : Nat}, s.awaited i ≠ some f := by
    intro i f hAwaited
    obtain ⟨call, hCall, -⟩ := Option.bind_eq_some_iff.mp hAwaited
    exact hNoCall hCall
  constructor
  case creator => exact fun _ hFetch => absurd hFetch hNoFetch
  case holds | creators => exact fun hFetch => absurd hFetch hNoFetch
  case waiting | current => exact fun hAwaited => absurd hAwaited hNotAwaited
  case loading | refreshing => exact fun hCall => absurd hCall hNoCall
  case stamps => exact fun _ _ hFetch => absurd hFetch hNoFetch

/-- Time passes while no call is ready. -/
theorem tick (h : CallsCoherent s) {ms : Nat} (hIdle : s.idle = true) :
    CallsCoherent { s with clock := s.clock + ms } where
  creator := h.creator
  holds := h.holds
  creators := h.creators
  waiting := h.waiting
  current {i f cache} hAwaited hCache := by
    exfalso
    have hReady : s.ready i = true := by
      obtain ⟨fetch, completedAt, document, hFetch, hState⟩ := cache_eq_some.mp hCache
      rw [ready, show s.awaited i = some f from hAwaited, Option.any_some, settled, fetchState,
        show s.fetches[f]? = some fetch from hFetch, Option.map_some, Option.any_some, hState]
      rfl
    exact not_ready_of_idle hIdle i hReady
  loading := h.loading
  refreshing := h.refreshing
  stamps := h.stamps

/-- A call comes in, and waits for no fetch or for one that is in flight or current. -/
theorem add (h : CallsCoherent s) {state : CallState Key}
    (hWaits : ∀ {f}, state.awaited = some f → f < s.fetches.length ∧
      ∀ {cache}, s.cache f = some cache → s.jwksCache = some f ∧ s.clock < cache.expiresAt)
    (hState : ∀ {f jwt now}, state ≠ .refreshing f jwt now) :
    CallsCoherent (s.addCall authorization state) := by
  constructor
  case creator =>
    intro f fetch hSlot hFetch
    rw [awaited_addCall_lt (h.creators hFetch)]
    exact h.creator hSlot hFetch
  case holds =>
    intro f fetch hFetch hCreator
    rw [awaited_addCall_lt (h.creators hFetch)] at hCreator
    exact h.holds hFetch hCreator
  case creators =>
    intro f fetch hFetch
    have hLt := h.creators hFetch
    show fetch.creator < (s.calls ++ [_]).length
    rw [List.length_append]
    exact Nat.lt_add_right _ hLt
  case waiting =>
    intro i f hAwaited
    rcases awaited_addCall hAwaited with hOld | ⟨-, hNew⟩
    · exact h.waiting hOld
    · exact (hWaits hNew).1
  case current =>
    intro i f cache hAwaited hCache
    rcases awaited_addCall hAwaited with hOld | ⟨-, hNew⟩
    · exact h.current hOld hCache
    · exact (hWaits hNew).2 hCache
  case loading =>
    intro i f call jwt fetch hCall hLoading hFetch hCreator
    rcases calls_addCall hCall with hOld | ⟨rfl, -⟩
    · exact h.loading hOld hLoading hFetch hCreator
    · -- the creators are earlier calls
      exact absurd (h.creators hFetch) (by omega)
  case refreshing =>
    intro i f call jwt now hCall hRefreshing
    rcases calls_addCall hCall with hOld | ⟨-, rfl⟩
    · exact h.refreshing hOld hRefreshing
    · exact absurd hRefreshing hState
  case stamps =>
    intro f m cache fetch hCurrent hCache hFetch hForced hLe
    rw [awaited_addCall_lt (h.creators hFetch)]
    exact h.stamps hCurrent hCache hFetch hForced hLe

/-- A call comes in and starts an ordinary refresh. -/
theorem start (h : CallsCoherent s) (hFree : s.jwksRefresh = none) :
    CallsCoherent ((s.startFetch s.calls.length false).addCall authorization
      (.loading s.fetches.length jwt)) := by
  have hCacheOf : ∀ {g : Nat} {cache : JwksCache Key},
      (s.startFetch s.calls.length false).cache g = some cache → s.cache g = some cache := by
    intro g cache hCacheG
    obtain ⟨fetch, completedAt, document, hFetch, hState⟩ := cache_eq_some.mp hCacheG
    rcases fetches_startFetch.mp hFetch with hOld | ⟨-, rfl⟩
    · exact cache_eq_some.mpr ⟨fetch, completedAt, document, hOld, hState⟩
    · cases hState
  have hEarlier : ∀ {j : Nat}, j < s.calls.length →
      ((s.startFetch s.calls.length false).addCall authorization
        (.loading s.fetches.length jwt)).awaited j = s.awaited j :=
    fun hLt => awaited_addCall_lt (s := s.startFetch s.calls.length false) hLt
  have hLength : (s.startFetch s.calls.length false).fetches.length = s.fetches.length + 1 :=
    List.length_append ..
  constructor
  case creator =>
    intro f fetch hSlot hFetch
    injection hSlot with hSlot
    rcases fetches_startFetch.mp hFetch with hOld | ⟨rfl, rfl⟩
    · rw [← hSlot, List.getElem?_eq_none (Nat.le_refl _)] at hOld
      cases hOld
    · exact awaited_addCall_new
  case holds =>
    intro f fetch hFetch hCreator
    rcases fetches_startFetch.mp hFetch with hOld | ⟨rfl, -⟩
    · rw [hEarlier (h.creators hOld)] at hCreator
      have hSlot := h.holds hOld hCreator
      rw [hFree] at hSlot
      cases hSlot
    · rfl
  case creators =>
    intro f fetch hFetch
    show fetch.creator < (s.calls ++ [_]).length
    rw [List.length_append]
    rcases fetches_startFetch.mp hFetch with hOld | ⟨-, rfl⟩
    · exact Nat.lt_add_right _ (h.creators hOld)
    · exact Nat.lt_succ_self _
  case waiting =>
    intro i f hAwaited
    show f < (s.startFetch s.calls.length false).fetches.length
    rcases awaited_addCall hAwaited with hOld | ⟨-, hNew⟩
    · have hLt := h.waiting hOld
      omega
    · injection hNew with hNew
      omega
  case current =>
    intro i f cache hAwaited hCacheF
    have hCacheS := hCacheOf hCacheF
    rcases awaited_addCall hAwaited with hOld | ⟨-, hNew⟩
    · exact h.current hOld hCacheS
    · injection hNew with hNew
      obtain ⟨fetch, _, _, hFetch, -⟩ := cache_eq_some.mp hCacheS
      rw [← hNew, List.getElem?_eq_none (Nat.le_refl _)] at hFetch
      cases hFetch
  case loading =>
    intro i f call jwt fetch hCall hLoading hFetch hCreator
    rcases fetches_startFetch.mp hFetch with hOldFetch | ⟨-, rfl⟩
    · rcases calls_addCall hCall with hOld | ⟨rfl, -⟩
      · exact h.loading hOld hLoading hOldFetch hCreator
      · have hLt := h.creators hOldFetch
        exact absurd hLt (by rw [hCreator]; exact Nat.lt_irrefl _)
    · rfl
  case refreshing =>
    intro i f call jwt now hCall hRefreshing
    rcases calls_addCall hCall with hOld | ⟨-, rfl⟩
    · obtain ⟨fetch, hFetch, hRest⟩ := h.refreshing hOld hRefreshing
      exact ⟨fetch, fetches_startFetch.mpr (.inl hFetch), hRest⟩
    · cases hRefreshing
  case stamps =>
    intro f m cache fetch hCurrent hCacheF hFetch hForced hLe
    rcases fetches_startFetch.mp hFetch with hOld | ⟨-, rfl⟩
    · rw [hEarlier (h.creators hOld)]
      exact h.stamps hCurrent (hCacheOf hCacheF) hOld hForced hLe
    · cases hForced

/-- A call ends whose fetch is settled; its creator clears the slot, and a creator whose fetch an
unknown kid began has stamped its cache. -/
theorem finish (h : CallsCoherent s) (hAwaited : s.awaited i = some f)
    (hNext : ∀ {fetch : JwksFetch Key}, s.fetches[f]? = some fetch →
      fetch.creator = i ∨ s.awaited fetch.creator ≠ some f)
    (hStamped : ∀ {fetch : JwksFetch Key} {cache : JwksCache Key}, s.fetches[f]? = some fetch →
      fetch.forceRefresh = true → fetch.creator = i → s.cache f = some cache →
      fetch.startedAt ≤ cache.lastUnknownKidRefreshAt)
    {date : Time} {key : Option Key} {outcome : Except ThrownError AuthenticatedUser} :
    CallsCoherent ((s.without f).setCall i (.done date key outcome)) := by
  have hLt := lt_of_awaited hAwaited
  have hSelf : ((s.without f).setCall i (.done date key outcome)).awaited i = none :=
    awaited_setCall_self (s := s.without f) hLt
  have hOther : ∀ {j : Nat}, i ≠ j →
      ((s.without f).setCall i (.done date key outcome)).awaited j = s.awaited j :=
    fun hNe => awaited_setCall_ne (s := s.without f) hNe
  have hBefore : ∀ {j g : Nat}, ((s.without f).setCall i (.done date key outcome)).awaited j =
      some g → i ≠ j ∧ s.awaited j = some g := by
    intro j g hWaits
    by_cases hSame : i = j
    · rw [← hSame, hSelf] at hWaits
      cases hWaits
    · exact ⟨hSame, (hOther hSame).symm.trans hWaits⟩
  constructor
  case creator =>
    intro g fetch hSlot hFetch
    obtain ⟨hSlotS, hNe⟩ := Option.filter_eq_some_iff.mp hSlot
    have hCreator := h.creator hSlotS hFetch
    have hNotI : i ≠ fetch.creator := by
      rintro rfl
      rw [hAwaited] at hCreator
      injection hCreator with hSame
      exact of_decide_eq_true hNe hSame.symm
    rw [hOther hNotI]
    exact hCreator
  case holds =>
    intro g fetch hFetch hCreator
    obtain ⟨hNotI, hWaits⟩ := hBefore hCreator
    refine Option.filter_eq_some_iff.mpr ⟨h.holds hFetch hWaits, decide_eq_true ?_⟩
    rintro rfl
    rcases hNext hFetch with hIsI | hGone
    · exact hNotI hIsI.symm
    · exact hGone hWaits
  case creators => exact fun hFetch => (h.creators hFetch).trans_eq (List.length_modify ..).symm
  case waiting => exact fun hWaits => h.waiting (hBefore hWaits).2
  case current => exact fun hWaits hCache => h.current (hBefore hWaits).2 hCache
  case loading =>
    intro j g call jwt fetch hCall hLoading hFetch hCreator
    rcases calls_setCall hCall with ⟨-, hOld⟩ | ⟨-, old, -, rfl⟩
    · exact h.loading hOld hLoading hFetch hCreator
    · cases hLoading
  case refreshing =>
    intro j g call jwt now hCall hRefreshing
    rcases calls_setCall hCall with ⟨-, hOld⟩ | ⟨-, old, -, rfl⟩
    · exact h.refreshing hOld hRefreshing
    · cases hRefreshing
  case stamps =>
    intro g m cache fetch hCurrent hCache hFetch hForced hLe
    rcases h.stamps hCurrent hCache hFetch hForced hLe with hDone | ⟨rfl, hWaits⟩
    · exact .inl hDone
    · by_cases hIsI : i = fetch.creator
      · -- the creator ends
        rw [← hIsI, hAwaited] at hWaits
        injection hWaits with hSame
        subst hSame
        exact .inl (hStamped hFetch hForced hIsI.symm hCache)
      · exact .inr ⟨rfl, (hOther hIsI).trans hWaits⟩

/-- The creator of an unknown-kid fetch stamps the cache that it made. -/
theorem stamp (h : CallsCoherent s) (hCache : CacheCoherent runtime configuration s)
    {call : GuardCall Key} {now : Time} (hCall : s.calls[i]? = some call)
    (hState : call.state = .refreshing f jwt now) : CallsCoherent (s.stamp f now) := by
  obtain ⟨creation, hCreation, hForced, hCreator, hStarted⟩ := h.refreshing hCall hState
  have hAwaited : s.awaited i = some f :=
    Option.bind_eq_some_iff.mpr ⟨call, hCall, by rw [hState]; rfl⟩
  have hLast := hCache.slot (h.holds hCreation (hCreator.symm ▸ hAwaited))
  have hBefore : ∀ {g : Nat} {cache : JwksCache Key}, (s.stamp f now).cache g = some cache →
      (f = g → cache.lastUnknownKidRefreshAt = now) ∧ ∃ last,
        s.cache g = some { cache with lastUnknownKidRefreshAt := last } ∧
          (f ≠ g → cache.lastUnknownKidRefreshAt = last) :=
    fun hCacheG => cache_stamp hCacheG
  constructor
  case creator =>
    intro g fetch hSlot hFetch
    obtain ⟨old, hOld, rfl⟩ := of_fetches_setFetch hFetch
    have hWaits := h.creator hSlot hOld
    exact hWaits
  case holds =>
    intro g fetch hFetch hWaits
    obtain ⟨old, hOld, rfl⟩ := of_fetches_setFetch hFetch
    have hSlot := h.holds hOld hWaits
    exact hSlot
  case creators =>
    intro g fetch hFetch
    obtain ⟨old, hOld, rfl⟩ := of_fetches_setFetch hFetch
    have hLt := h.creators hOld
    exact hLt
  case waiting => exact fun hWaits => (h.waiting hWaits).trans_eq (List.length_modify ..).symm
  case current =>
    intro j g cache hWaits hCacheG
    obtain ⟨-, last, hOld, -⟩ := hBefore hCacheG
    have hFresh := h.current hWaits hOld
    exact hFresh
  case loading =>
    intro j g call jwt fetch hCall hLoading hFetch hIsJ
    obtain ⟨old, hOld, rfl⟩ := of_fetches_setFetch hFetch
    have hOrdinary := h.loading hCall hLoading hOld hIsJ
    exact hOrdinary
  case refreshing =>
    intro j g call jwt now' hCall hRefreshing
    obtain ⟨fetch, hFetch, hRest⟩ := h.refreshing hCall hRefreshing
    exact ⟨_, fetches_setFetch f _ hFetch, hRest⟩
  case stamps =>
    intro g m cache fetch hCurrent hCacheG hFetch hIsForced hLe
    obtain ⟨old, hOld, rfl⟩ := of_fetches_setFetch hFetch
    obtain ⟨hSame, last, hCacheS, hNe⟩ := hBefore hCacheG
    by_cases hIsF : f = g
    · -- no fetch came after the one of this creator
      have hLt := (List.getElem?_eq_some_iff.mp hOld).1
      obtain rfl : m = f := by omega
      rw [hCreation] at hOld
      injection hOld with hOld
      subst hOld
      exact .inl (by rw [hSame hIsF, ← hStarted])
    · rw [hNe hIsF]
      have hStamps := h.stamps hCurrent hCacheS hOld hIsForced hLe
      exact hStamps

/-- An unknown kid comes up in the current cache, with the slot free once its creator has gone
on: the cache is stamped and a fetch starts. -/
theorem force (h : CallsCoherent s) (hCache : CacheCoherent runtime configuration s)
    (hAwaited : s.awaited i = some f) (hCurrent : s.jwksCache = some f)
    (hFree : (s.without f).jwksRefresh = none)
    (hNext : ∀ {fetch : JwksFetch Key}, s.fetches[f]? = some fetch →
      fetch.creator = i ∨ s.awaited fetch.creator ≠ some f) :
    CallsCoherent ((((s.without f).stamp f s.clock).startFetch i true).setCall i
      (.refreshing s.fetches.length jwt s.clock)) := by
  have hLt := lt_of_awaited hAwaited
  have hLength : ((s.without f).stamp f s.clock).fetches.length = s.fetches.length :=
    List.length_modify ..
  have hNewLength : (((s.without f).stamp f s.clock).startFetch i true).fetches.length =
      s.fetches.length + 1 :=
    (List.length_append ..).trans (by rw [hLength]; rfl)
  have hSelf : ((((s.without f).stamp f s.clock).startFetch i true).setCall i
      (.refreshing s.fetches.length jwt s.clock)).awaited i = some s.fetches.length :=
    awaited_setCall_self (s := ((s.without f).stamp f s.clock).startFetch i true) hLt
  have hOther : ∀ {j : Nat}, i ≠ j → ((((s.without f).stamp f s.clock).startFetch i true).setCall i
      (.refreshing s.fetches.length jwt s.clock)).awaited j = s.awaited j :=
    fun hNe => awaited_setCall_ne (s := ((s.without f).stamp f s.clock).startFetch i true) hNe
  -- a fetch is an earlier one or the one that starts
  have hFetches : ∀ {g : Nat} {fetch : JwksFetch Key},
      (((s.without f).stamp f s.clock).startFetch i true).fetches[g]? = some fetch →
      (∃ old, s.fetches[g]? = some old ∧ fetch.creator = old.creator ∧
        fetch.forceRefresh = old.forceRefresh ∧ fetch.startedAt = old.startedAt) ∨
      g = s.fetches.length ∧ fetch = ⟨s.clock, true, i, .inFlight⟩ := by
    intro g fetch hFetch
    rcases fetches_startFetch.mp hFetch with hStamped | ⟨hNew, hIs⟩
    · obtain ⟨old, hOld, rfl⟩ := of_fetches_setFetch hStamped
      exact .inl ⟨old, hOld, rfl, rfl, rfl⟩
    · exact .inr ⟨hNew.trans hLength, hIs⟩
  have hCacheOf : ∀ {g : Nat} {cache : JwksCache Key},
      (((s.without f).stamp f s.clock).startFetch i true).cache g = some cache →
      ((s.without f).stamp f s.clock).cache g = some cache := by
    intro g cache hCacheG
    obtain ⟨fetch, completedAt, document, hFetch, hState⟩ := cache_eq_some.mp hCacheG
    rcases fetches_startFetch.mp hFetch with hOld | ⟨-, rfl⟩
    · exact cache_eq_some.mpr ⟨fetch, completedAt, document, hOld, hState⟩
    · cases hState
  constructor
  case creator =>
    intro g fetch hSlot hFetch
    injection hSlot with hSlot
    rcases hFetches hFetch with ⟨old, hOld, -⟩ | ⟨rfl, rfl⟩
    · rw [← hSlot, hLength, List.getElem?_eq_none (Nat.le_refl _)] at hOld
      cases hOld
    · exact hSelf
  case holds =>
    intro g fetch hFetch hWaits
    rcases hFetches hFetch with ⟨old, hOld, hCreator, -⟩ | ⟨rfl, -⟩
    · exfalso
      by_cases hIsI : i = fetch.creator
      · rw [← hIsI, hSelf] at hWaits
        injection hWaits with hWaits
        have hBound := (List.getElem?_eq_some_iff.mp hOld).1
        omega
      · rw [hOther hIsI, hCreator] at hWaits
        have hSlot := h.holds hOld hWaits
        have hSame : g = f := by
          by_contra hNe
          have hKept : (s.without f).jwksRefresh = some g :=
            Option.filter_eq_some_iff.mpr ⟨hSlot, decide_eq_true hNe⟩
          rw [hFree] at hKept
          cases hKept
        subst hSame
        rcases hNext hOld with hOldIsI | hGone
        · exact hIsI (hCreator.trans hOldIsI).symm
        · exact hGone hWaits
    · exact congrArg some hLength
  case creators =>
    intro g fetch hFetch
    refine Nat.lt_of_lt_of_eq ?_ (List.length_modify ..).symm
    rcases hFetches hFetch with ⟨old, hOld, hCreator, -⟩ | ⟨-, rfl⟩
    · exact hCreator ▸ h.creators hOld
    · exact hLt
  case waiting =>
    intro j g hWaits
    refine Nat.lt_of_lt_of_eq ?_ hNewLength.symm
    by_cases hIsI : i = j
    · rw [← hIsI, hSelf] at hWaits
      injection hWaits with hWaits
      omega
    · rw [hOther hIsI] at hWaits
      exact Nat.lt_succ_of_lt (h.waiting hWaits)
  case current =>
    intro j g cache hWaits hCacheG
    obtain ⟨-, last, hOld, -⟩ := cache_stamp (s := s.without f) (hCacheOf hCacheG)
    by_cases hIsI : i = j
    · rw [← hIsI, hSelf] at hWaits
      injection hWaits with hWaits
      obtain ⟨fetch, _, _, hFetch, -⟩ := cache_eq_some.mp hOld
      have hBound := (List.getElem?_eq_some_iff.mp hFetch).1
      have hSameLength : (s.without f).fetches.length = s.fetches.length := rfl
      omega
    · rw [hOther hIsI] at hWaits
      have hFresh := h.current hWaits hOld
      exact hFresh
  case loading =>
    intro j g call jwt' fetch hCall hLoading hFetch hIsJ
    rcases calls_setCall hCall with ⟨hNe, hOldCall⟩ | ⟨-, old, -, rfl⟩
    · rcases hFetches hFetch with ⟨old, hOld, hCreator, hForced, -⟩ | ⟨rfl, rfl⟩
      · rw [hForced]
        exact h.loading hOldCall hLoading hOld (hCreator.symm.trans hIsJ)
      · exact absurd hIsJ hNe
    · cases hLoading
  case refreshing =>
    intro j g call jwt' now hCall hRefreshing
    rcases calls_setCall hCall with ⟨-, hOldCall⟩ | ⟨hIsI, old, -, rfl⟩
    · obtain ⟨fetch, hFetch, hRest⟩ := h.refreshing hOldCall hRefreshing
      have hStamped := fetches_setFetch f (FetchState.stamp s.clock)
        (show (s.without f).fetches[g]? = some fetch from hFetch)
      exact ⟨_, fetches_startFetch.mpr (.inl hStamped), hRest⟩
    · injection hRefreshing with hFetch _ hNow
      subst hFetch hNow
      exact ⟨_, fetches_startFetch.mpr (.inr ⟨hLength.symm, rfl⟩), rfl, hIsI, rfl⟩
  case stamps =>
    intro g m cache fetch hCurrentG hCacheG hFetch _ _
    have hSame : some f = some g := hCurrent.symm.trans hCurrentG
    injection hSame with hSame
    obtain ⟨hStamped, -⟩ := cache_stamp (s := s.without f) (hCacheOf hCacheG)
    rw [hStamped hSame]
    rcases hFetches hFetch with ⟨old, hOld, -, -, hStarted⟩ | ⟨-, rfl⟩
    · exact .inl (hStarted ▸ hCache.started hOld)
    · exact .inl (Nat.le_refl _)

/-- The fetch in the slot fails. -/
theorem fail (h : CallsCoherent s) : CallsCoherent (s.setFetch f fun _ => .failed) := by
  have hCacheOf : ∀ {g : Nat} {cache : JwksCache Key},
      (s.setFetch f fun _ => .failed).cache g = some cache → s.cache g = some cache := by
    intro g cache hCacheG
    obtain ⟨fetch, completedAt, document, hFetch, hSucceeded⟩ := cache_eq_some.mp hCacheG
    obtain ⟨old, hOld, rfl⟩ := of_fetches_setFetch hFetch
    by_cases hSame : f = g
    · exact absurd hSucceeded (by simp [hSame])
    · exact cache_eq_some.mpr ⟨old, completedAt, document, hOld, by simpa [hSame] using hSucceeded⟩
  constructor
  case creator =>
    intro g fetch hSlot hFetch
    obtain ⟨old, hOld, rfl⟩ := of_fetches_setFetch hFetch
    have hWaits := h.creator hSlot hOld
    exact hWaits
  case holds =>
    intro g fetch hFetch hWaits
    obtain ⟨old, hOld, rfl⟩ := of_fetches_setFetch hFetch
    have hSlot := h.holds hOld hWaits
    exact hSlot
  case creators =>
    intro g fetch hFetch
    obtain ⟨old, hOld, rfl⟩ := of_fetches_setFetch hFetch
    have hLt := h.creators hOld
    exact hLt
  case waiting => exact fun hWaits => (h.waiting hWaits).trans_eq (List.length_modify ..).symm
  case current => exact fun hWaits hCacheG => h.current hWaits (hCacheOf hCacheG)
  case loading =>
    intro j g call jwt fetch hCall hLoading hFetch hIsJ
    obtain ⟨old, hOld, rfl⟩ := of_fetches_setFetch hFetch
    have hOrdinary := h.loading hCall hLoading hOld hIsJ
    exact hOrdinary
  case refreshing =>
    intro j g call jwt now hCall hRefreshing
    obtain ⟨fetch, hFetch, hRest⟩ := h.refreshing hCall hRefreshing
    exact ⟨_, fetches_setFetch f _ hFetch, hRest⟩
  case stamps =>
    intro g m cache fetch hCurrent hCacheG hFetch hForced hLe
    obtain ⟨old, hOld, rfl⟩ := of_fetches_setFetch hFetch
    have hStamps := h.stamps hCurrent (hCacheOf hCacheG) hOld hForced hLe
    exact hStamps

/-- The fetch in the slot succeeds while no call is ready. -/
theorem succeed (h : CallsCoherent s) (hCache : CacheCoherent runtime configuration s)
    {document : JsonValue} {made : JwksCache Key} (hIdle : s.idle = true)
    (hSlot : s.jwksRefresh = some f)
    (hExpires : s.clock < made.expiresAt) :
    CallsCoherent
      { s.setFetch f (fun _ => .succeeded s.clock document made) with jwksCache := some f } := by
  have hLast := hCache.slot hSlot
  have hBefore : ∀ {g : Nat} {fetch : JwksFetch Key},
      (s.setFetch f fun _ => .succeeded s.clock document made).fetches[g]? = some fetch →
      ∃ old, s.fetches[g]? = some old ∧ fetch = { old with
        state := if f = g then .succeeded s.clock document made else old.state } :=
    of_fetches_setFetch
  constructor
  case creator =>
    intro g fetch hSlotG hFetch
    obtain ⟨old, hOld, rfl⟩ := hBefore hFetch
    have hWaits := h.creator hSlotG hOld
    exact hWaits
  case holds =>
    intro g fetch hFetch hWaits
    obtain ⟨old, hOld, rfl⟩ := hBefore hFetch
    have hHeld := h.holds hOld hWaits
    exact hHeld
  case creators =>
    intro g fetch hFetch
    obtain ⟨old, hOld, rfl⟩ := hBefore hFetch
    have hLt := h.creators hOld
    exact hLt
  case waiting => exact fun hWaits => (h.waiting hWaits).trans_eq (List.length_modify ..).symm
  case current =>
    intro j g cache hWaits hCacheG
    obtain ⟨fetch, completedAt, document', hFetch, hSucceeded⟩ := cache_eq_some.mp hCacheG
    obtain ⟨old, hOld, rfl⟩ := hBefore hFetch
    by_cases hSame : f = g
    · rw [show (if f = g then _ else old.state) = _ from if_pos hSame] at hSucceeded
      injection hSucceeded with _ _ hMade
      exact ⟨congrArg some hSame, hMade ▸ hExpires⟩
    · -- a call that waits for an older cache would be ready
      exfalso
      rw [show (if f = g then _ else old.state) = _ from if_neg hSame] at hSucceeded
      refine not_ready_of_idle hIdle j ?_
      rw [ready, show s.awaited j = some g from hWaits, Option.any_some, settled, fetchState, hOld,
        Option.map_some, Option.any_some, hSucceeded]
      rfl
  case loading =>
    intro j g call jwt fetch hCall hLoading hFetch hIsJ
    obtain ⟨old, hOld, rfl⟩ := hBefore hFetch
    have hOrdinary := h.loading hCall hLoading hOld hIsJ
    exact hOrdinary
  case refreshing =>
    intro j g call jwt now hCall hRefreshing
    obtain ⟨fetch, hFetch, hRest⟩ := h.refreshing hCall hRefreshing
    have hNow := fetches_setFetch f (fun _ => .succeeded s.clock document made) hFetch
    exact ⟨_, hNow, hRest⟩
  case stamps =>
    intro g m cache fetch hCurrent hCacheG hFetch hForced hLe
    injection hCurrent with hCurrent
    obtain ⟨old, hOld, rfl⟩ := hBefore hFetch
    have hLt := (List.getElem?_eq_some_iff.mp hOld).1
    obtain rfl : m = f := by omega
    have hWaits := h.creator hSlot hOld
    exact .inr ⟨hCurrent, hWaits⟩

end CallsCoherent

end Verifier

end ServiceJwtVerifier

end SocialPromotion
