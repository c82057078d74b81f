import SocialPromotion.Steps.Verifier

/-!
# How far apart unknown kids refresh the JWKS

`lastUnknownKidRefreshAt` is a field of the cache object, and an ordinary refresh puts a new object
in its place, with the field at 0. An unknown kid that comes up in that object starts a fetch at
once, however recent the last one is.

* `unknown_kid_refreshes_cooled`: the fetches that unknown kids start are a cooldown apart after
  exactly the runs in which no unknown kid comes up so soon in such an object;
* `unknown_kid_refreshes_together`: a run with two of them 10 s apart.
-/

namespace SocialPromotion

open LTS

namespace ServiceJwtVerifier

variable {Key : Type} {runtime : JwtRuntime Key} {configuration : JwtConfiguration}

/-- When the unknown-kid fetches among `fetches` started. -/
def unknownKidStarts (fetches : List (JwksFetch Key)) : List Time :=
  (fetches.filter JwksFetch.forceRefresh).map JwksFetch.startedAt

theorem unknownKidStarts_append (earlier later : List (JwksFetch Key)) :
    unknownKidStarts (earlier ++ later) = unknownKidStarts earlier ++ unknownKidStarts later := by
  unfold unknownKidStarts
  rw [List.filter_append, List.map_append]

/-- What a fetch came to does not matter. -/
theorem unknownKidStarts_modify (fetches : List (JwksFetch Key)) (f : Nat)
    (update : FetchState Key → FetchState Key) :
    unknownKidStarts (fetches.modify f fun fetch => { fetch with state := update fetch.state }) =
      unknownKidStarts fetches := by
  induction fetches generalizing f with
  | nil => rw [List.modify_nil]
  | cons fetch rest ih =>
    cases f with
    | zero =>
      cases hForced : fetch.forceRefresh <;> simp [unknownKidStarts, hForced]
    | succ f =>
      have hRest := ih f
      unfold unknownKidStarts at hRest ⊢
      cases hForced : fetch.forceRefresh <;> simp [hForced, hRest]

theorem mem_unknownKidStarts {fetches : List (JwksFetch Key)} {since : Time} :
    since ∈ unknownKidStarts fetches ↔
      ∃ fetch ∈ fetches, fetch.forceRefresh = true ∧ fetch.startedAt = since := by
  simp [unknownKidStarts, and_assoc]

namespace Verifier

/-- Any two unknown-kid fetches start at least the cooldown apart. -/
def Cooled (s : Verifier Key) : Prop :=
  (unknownKidStarts s.fetches).Pairwise fun earlier later =>
    earlier + UNKNOWN_KID_REFRESH_COOLDOWN_MS ≤ later

instance (s : Verifier Key) : Decidable s.Cooled := by
  unfold Cooled
  infer_instance

/-- The cache does not know the kid. -/
def unknownKid (s : Verifier Key) (jwt : Jwt) (f : Nat) : Bool :=
  (s.cache f).any fun cache => (cache.keys.lookup jwt.kid).isNone

/-- An ordinary refresh made the cache, and no unknown-kid fetch has started since. -/
def Replacement (s : Verifier Key) (f : Nat) : Prop :=
  unknownKidStarts (s.fetches.drop f) = []

/-- No unknown kid comes up in a replacement while the cooldown of an unknown-kid fetch lasts. -/
def CooldownOver (configuration : JwtConfiguration) (s : Verifier Key) (e : VerifierEvent) : Prop :=
  ∀ jwt f, s.keyLookup configuration e = some (jwt, f) → s.unknownKid jwt f = true →
    s.Replacement f → ∀ since ∈ unknownKidStarts s.fetches,
      since + UNKNOWN_KID_REFRESH_COOLDOWN_MS ≤ s.clock

section Step

variable {s s' t : Verifier Key} {e : VerifierEvent} {i f : Nat} {jwt : Jwt}

/-- The clock does not go back. -/
theorem clock_le_step (h : Coherent runtime configuration s)
    (hStep : VerifierStep runtime configuration s e t) : s.clock ≤ t.clock := by
  cases hStep with
  | tick => exact Nat.le_add_right ..
  | refused | joined | started | fetchFailed | fetched | failed | refreshed => exact Nat.le_refl _
  | found hLooks => exact (hLooks.looksIn h).clock.ge
  | cooling hLooks => exact (hLooks.looksIn h).clock.ge
  | forced hLooks => exact (hLooks.looksIn h).clock.ge

/-- The service starts some time after the epoch. -/
theorem cooldown_le_clock (h : Reachable (verifierSystem runtime configuration) anyStep s) :
    UNKNOWN_KID_REFRESH_COOLDOWN_MS ≤ s.clock := by
  refine Reachable.invariant_of (I := fun s => UNKNOWN_KID_REFRESH_COOLDOWN_MS ≤ s.clock)
    (fun _ (hInit : Verifier.Initial _) => hInit.1) (fun s e t hReach hLe _ hMove => ?_) h
  exact hLe.trans (clock_le_step (coherent_reachable hReach) (reachable_step hReach hMove))

/-- A replacement carries no stamp. -/
theorem unstamped_of_replacement (h : CacheCoherent runtime configuration s)
    {cache : JwksCache Key} (hCurrent : s.jwksCache = some f) (hCache : s.cache f = some cache)
    (hReplacement : s.Replacement f) : cache.lastUnknownKidRefreshAt = 0 := by
  refine h.unstamped hCurrent hCache fun {m fetch} hFetch hForced => ?_
  by_contra hNotBefore
  have hSince : fetch.startedAt ∈ unknownKidStarts (s.fetches.drop f) := by
    refine mem_unknownKidStarts.mpr ⟨fetch, ?_, hForced, rfl⟩
    refine List.mem_of_getElem? (i := m - f) ?_
    rw [List.getElem?_drop, Nat.add_sub_cancel' (Nat.le_of_not_lt hNotBefore)]
    exact hFetch
  rw [hReplacement] at hSince
  cases hSince

/-- A cache that is not a replacement carries the start of every unknown-kid fetch since its own
at least, where a call looks for its key in it. -/
theorem LooksIn.stamped (h : LooksIn runtime configuration s s' i jwt f) {cache : JwksCache Key}
    (hCache : s'.cache f = some cache) {since : Time}
    (hSince : since ∈ unknownKidStarts (s.fetches.drop f)) :
    since ≤ cache.lastUnknownKidRefreshAt := by
  obtain ⟨fetch, hMem, hForced, rfl⟩ := mem_unknownKidStarts.mp hSince
  obtain ⟨k, hFetch⟩ := List.mem_iff_getElem?.mp hMem
  rw [List.getElem?_drop, ← h.fetches] at hFetch
  rcases h.coherent.calls.stamps h.current hCache hFetch hForced (Nat.le_add_right f k) with
    hStamp | ⟨hSame, hWaits⟩
  · exact hStamp
  · -- its creator goes on first, and it does not look in the cache of an ordinary refresh
    exfalso
    rw [hSame] at hFetch hWaits
    rcases h.next hFetch with hIsI | hGone
    · obtain ⟨call, hCall, hLoading⟩ := h.loading
      have hOrdinary := h.coherent.calls.loading hCall hLoading hFetch hIsI
      rw [hForced] at hOrdinary
      cases hOrdinary
    · exact hGone hWaits

/-- Where the cooldown of the cache is over, so is that of every unknown-kid fetch, unless the
cache is a replacement. -/
theorem LooksIn.cooled (h : LooksIn runtime configuration s s' i jwt f) {cache : JwksCache Key}
    (hCache : s'.cache f = some cache) (hCooled : s.Cooled) (hNot : ¬ s.Replacement f)
    (hOver : cache.lastUnknownKidRefreshAt + UNKNOWN_KID_REFRESH_COOLDOWN_MS ≤ s.clock)
    {since : Time} (hSince : since ∈ unknownKidStarts s.fetches) :
    since + UNKNOWN_KID_REFRESH_COOLDOWN_MS ≤ s.clock := by
  have hSplit : unknownKidStarts s.fetches =
      unknownKidStarts (s.fetches.take f) ++ unknownKidStarts (s.fetches.drop f) := by
    rw [← unknownKidStarts_append, List.take_append_drop]
  unfold Cooled at hCooled
  rw [hSplit, List.pairwise_append] at hCooled
  rw [hSplit, List.mem_append] at hSince
  have hLater : ∀ {later : Time}, later ∈ unknownKidStarts (s.fetches.drop f) →
      later + UNKNOWN_KID_REFRESH_COOLDOWN_MS ≤ s.clock :=
    fun hMem => (Nat.add_le_add_right (h.stamped hCache hMem) _).trans hOver
  rcases hSince with hBefore | hSince
  · -- an unknown-kid fetch since that of the cache is later still
    obtain ⟨later, hMem⟩ := List.exists_mem_of_ne_nil _ hNot
    have hApart := hCooled.2.2 since hBefore later hMem
    exact hApart.trans ((Nat.le_add_right _ _).trans (hLater hMem))
  · exact hLater hSince

/-- **What a step keeps apart.** -/
theorem cooled_step (hReach : Reachable (verifierSystem runtime configuration) anyStep s)
    (hMove : (verifierSystem runtime configuration).step s e = some t) :
    t.Cooled ↔ s.Cooled ∧ s.CooldownOver configuration e := by
  have hCoherent := coherent_reachable hReach
  -- a step that starts no unknown-kid fetch, and in which the condition is met
  have hKeeps : unknownKidStarts t.fetches = unknownKidStarts s.fetches →
      s.CooldownOver configuration e → (t.Cooled ↔ s.Cooled ∧ s.CooldownOver configuration e) := by
    intro hSame hOver
    rw [Cooled, hSame]
    exact (and_iff_left hOver).symm
  have hNoLookup : s.keyLookup configuration e = none → s.CooldownOver configuration e := by
    intro hNone jwt f hLookup
    rw [hNone] at hLookup
    cases hLookup
  cases reachable_step hReach hMove with
  | tick hIdle hWait => exact hKeeps rfl (hNoLookup rfl)
  | refused hRead => exact hKeeps rfl (hNoLookup (keyLookup_of_refused hRead))
  | joined hIdle hRead hStale hSlot => exact hKeeps rfl (hNoLookup (keyLookup_of_stale hStale))
  | started hRead hStale hSlot =>
    refine hKeeps ?_ (hNoLookup (keyLookup_of_stale hStale))
    exact (unknownKidStarts_append _ _).trans (List.append_nil _)
  | fetchFailed hIdle hSlot hState =>
    exact hKeeps (unknownKidStarts_modify _ _ fun _ => .failed) (hNoLookup rfl)
  | fetched hIdle hSlot hState hKeys =>
    exact hKeeps (unknownKidStarts_modify _ _ fun _ => .succeeded _ _ _) (hNoLookup rfl)
  | @found _ s' i f jwt cache key hLooks hCache hKey =>
    refine hKeeps (congrArg _ (hLooks.looksIn hCoherent).fetches) ?_
    intro jwt' f' hLookup hUnknown
    rw [hLooks.keyLookup_eq] at hLookup
    cases hLookup
    rw [unknownKid, ← hLooks.cache_eq, hCache, Option.any_some, hKey] at hUnknown
    cases hUnknown
  | @cooling _ s' i f jwt cache hLooks hCache hUnknown hRecent =>
    have hLooksIn := hLooks.looksIn hCoherent
    refine hKeeps (congrArg _ hLooksIn.fetches) ?_
    intro jwt' f' hLookup _ hReplacement
    rw [hLooks.keyLookup_eq] at hLookup
    cases hLookup
    -- the cooldown of a replacement is over
    exfalso
    rw [Replacement, ← hLooksIn.fetches] at hReplacement
    have hZero := unstamped_of_replacement hLooksIn.coherent.cache hLooksIn.current hCache
      hReplacement
    rw [hZero, Nat.zero_add] at hRecent
    exact Nat.not_le_of_lt hRecent (cooldown_le_clock hReach)
  | @forced _ s' i f jwt cache hLooks hCache hUnknown hOver hFree =>
    have hLooksIn := hLooks.looksIn hCoherent
    have hStarts : unknownKidStarts ((((s'.without f).stamp f s.clock).startFetch i true).setCall i
        (.refreshing s.fetches.length jwt s.clock)).fetches =
          unknownKidStarts s.fetches ++ [s.clock] := by
      refine (unknownKidStarts_append _ _).trans (congrArg₂ _ ?_ (congrArg (fun c => [c]) ?_))
      · exact (unknownKidStarts_modify ..).trans (congrArg _ hLooksIn.fetches)
      · exact hLooksIn.clock
    rw [Cooled, hStarts, List.pairwise_append]
    constructor
    · rintro ⟨hBefore, -, hLast⟩
      refine ⟨hBefore, fun _ _ _ _ _ since hSince => ?_⟩
      exact hLast since hSince _ (List.mem_singleton_self _)
    · rintro ⟨hBefore, hCooldown⟩
      refine ⟨hBefore, List.pairwise_singleton _ _, fun since hSince later hLater => ?_⟩
      rw [List.mem_singleton] at hLater
      subst hLater
      by_cases hReplacement : s.Replacement f
      · refine hCooldown jwt f hLooks.keyLookup_eq ?_ hReplacement since hSince
        rw [unknownKid, ← hLooks.cache_eq, hCache, Option.any_some, hUnknown]
        rfl
      · exact hLooksIn.cooled hCache hBefore hReplacement hOver hSince
  | @failed i f hAwaited hNext hState =>
    refine hKeeps rfl fun jwt' f' hLookup hUnknown => ?_
    obtain ⟨call, hCall, hWaits⟩ := Option.bind_eq_some_iff.mp hAwaited
    rw [keyLookup, hCall, Option.map_some] at hLookup
    cases hCallState : call.state with
    | loading g jwt =>
      rw [hCallState] at hLookup hWaits
      cases hLookup
      cases hWaits
      rw [unknownKid, Verifier.cache, hState] at hUnknown
      cases hUnknown
    | refreshing => rw [hCallState] at hLookup; cases hLookup
    | done => rw [hCallState] at hLookup; cases hLookup
  | @refreshed i f call jwt now cache hCall hState hNext hCache =>
    refine hKeeps (unknownKidStarts_modify _ _ (FetchState.stamp now)) (hNoLookup ?_)
    rw [keyLookup, hCall, Option.map_some, hState]

end Step

end Verifier

end ServiceJwtVerifier

open ServiceJwtVerifier

/-- **When unknown-kid refreshes are a cooldown apart.** In the state a run ends in, any two fetches
that unknown kids started are at least `UNKNOWN_KID_REFRESH_COOLDOWN_MS` apart, if and only if it is
reached without an unknown kid that comes up, while that cooldown lasts, in a cache that an
ordinary refresh has put in place since. -/
theorem unknown_kid_refreshes_cooled {Key : Type} {runtime : JwtRuntime Key}
    {configuration : JwtConfiguration} {s : Verifier Key}
    (h : Reachable (verifierSystem runtime configuration) anyStep s) :
    s.Cooled ↔ Reachable (verifierSystem runtime configuration)
      (Verifier.CooldownOver configuration) s := by
  refine h.iff_guarded (fun s hInit => ?_) fun s e t => Verifier.cooled_step
  obtain ⟨-, hFetches, -⟩ := hInit
  rw [Verifier.Cooled, hFetches]
  exact List.Pairwise.nil

/-! ## Two refreshes within a cooldown -/

namespace Issuer

/-- The header is `{"alg":"RS256","kid":"b"}`. -/
def unknown : VerifierEvent :=
  .request (some "Bearer eyJhbGciOiJSUzI1NiIsImtpZCI6ImIifQ.e30.AA".toList)

/-- A request with an unknown kid waits for the ordinary refresh and for the one it starts. -/
def refreshedTwice (call : Nat) : List VerifierEvent :=
  [unknown, .settle (.document document), .resume call, .settle (.document document), .resume call]

end Issuer

/-- An unknown kid starts no fetch while the cooldown lasts, and the next one after it does. -/
theorem unknown_kid_refreshes_cooled_once :
    ∃ s, Reachable (verifierSystem Issuer.runtime Issuer.configuration)
      (Verifier.CooldownOver Issuer.configuration) s ∧
      unknownKidStarts s.fetches = [30000, 30000 + UNKNOWN_KID_REFRESH_COOLDOWN_MS] ∧
      s.calls.length = 3 ∧ s.Cooled := by
  obtain ⟨s, hReach, hShows⟩ := exists_reachable_of_run
    (verifierSystem Issuer.runtime Issuer.configuration) anyStep
    (fun s => unknownKidStarts s.fetches = [30000, 30000 + UNKNOWN_KID_REFRESH_COOLDOWN_MS] ∧
      s.calls.length = 3)
    (Issuer.refreshedTwice 0 ++ [.tick 5000, Issuer.unknown] ++
      .tick 25000 :: Issuer.refreshedTwice 2)
    Issuer.start_initial (by decide +kernel)
  obtain ⟨hStarts, hCalls⟩ := of_decide_eq_true hShows
  have hCooled : s.Cooled := by
    rw [Verifier.Cooled, hStarts]
    decide
  exact ⟨s, (unknown_kid_refreshes_cooled hReach).mp hCooled, hStarts, hCalls, hCooled⟩

/-- The cache of the first unknown-kid fetch has expired 10 s later, and the one that takes its
place carries no stamp. -/
theorem unknown_kid_refreshes_together :
    ∃ s, Reachable (verifierSystem Issuer.runtime Issuer.configuration) anyStep s ∧
      unknownKidStarts s.fetches = [30000, 40000] ∧ ¬ s.Cooled := by
  obtain ⟨s, hReach, hStarts⟩ := exists_reachable_of_run
    (verifierSystem Issuer.runtime Issuer.configuration) anyStep
    (fun s => unknownKidStarts s.fetches = [30000, 40000])
    (Issuer.refreshedTwice 0 ++ .tick 10000 :: Issuer.refreshedTwice 1)
    Issuer.start_initial (by decide +kernel)
  have hStarts := of_decide_eq_true hStarts
  refine ⟨s, hReach, hStarts, ?_⟩
  rw [Verifier.Cooled, hStarts]
  decide

end SocialPromotion
