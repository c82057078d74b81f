import SocialPromotion.Steps.GuardCalls

/-!
# Which signing keys are good, and for how long

* `parseJwks_lookup`: a key of `parseJwks` is listed in the document under its kid;
* `CacheCoherent.flights`, `CacheCoherent.latestSuccess`: the fetches run one at a time, and the
  cache is that of the last one that succeeded;
* `signing_keys_current`: so that a token is accepted only with a key that a fetch of the last TTL
  has listed under its kid.
-/

namespace SocialPromotion

open LTS

namespace ServiceJwtVerifier

variable {Key : Type} {runtime : JwtRuntime Key} {configuration : JwtConfiguration}

/-- Among the entries there is one with the kid and the key. -/
def ListedIn (runtime : JwtRuntime Key) (candidates : List JsonValue) (kid : Text) (key : Key) :
    Prop :=
  ∃ members, .object members ∈ candidates ∧
    stringValue (property (.object members) "kid".toList) = some kid ∧
    runtime.createPublicKey members = some key

/-- The document lists the key under the kid. -/
def Lists (runtime : JwtRuntime Key) (document : JsonValue) (kid : Text) (key : Key) : Prop :=
  ∃ candidates, property document "keys".toList = some (.array candidates) ∧
    ListedIn runtime candidates kid key

section Parse

variable {algorithm : ServiceJwtAlgorithm} {keys keys' : List (Text × Key)}
  {candidate : JsonValue} {candidates : List JsonValue} {kid : Text} {key : Key}

theorem candidateKid_eq_some (h : candidateKid algorithm candidate = some kid) :
    stringValue (property candidate "kid".toList) = some kid := by
  unfold candidateKid at h
  obtain ⟨_, -, h⟩ := Option.bind_eq_some_iff.mp h
  obtain ⟨kid', hKid, h⟩ := Option.bind_eq_some_iff.mp h
  -- the checks that follow leave the kid
  have hSame : kid' = kid := by
    simp only [Option.bind_eq_bind, Option.bind_eq_some_iff, Option.pure_def,
      Option.some.injEq] at h
    obtain ⟨_, -, _, -, _, -, _, -, _, -, hSame⟩ := h
    exact hSame
  exact hSame ▸ hKid

theorem record?_eq_some {members : List (Text × JsonValue)} (h : record? candidate = some members) :
    candidate = .object members := by
  cases candidate with
  | object members' =>
    injection h with h
    rw [h]
  | _ => cases h

/-- One round of the loop adds the key of its entry at most. -/
theorem lookup_addCandidate (h : addCandidate runtime algorithm keys candidate = some keys')
    (hKey : keys'.lookup kid = some key) :
    keys.lookup kid = some key ∨ ListedIn runtime [candidate] kid key := by
  unfold addCandidate at h
  split at h
  · rename_i kid' members hKid hRecord
    split at h
    · cases h
    · obtain ⟨made, hMade, rfl⟩ := Option.map_eq_some_iff.mp h
      rw [List.lookup_append, Option.or_eq_some_iff] at hKey
      rcases hKey with hOld | ⟨-, hNew⟩
      · exact .inl hOld
      · right
        rw [List.lookup_cons] at hNew
        split at hNew
        · rename_i hSame
          obtain rfl : kid = kid' := eq_of_beq hSame
          injection hNew with hNew
          subst hNew
          obtain rfl := record?_eq_some hRecord
          exact ⟨members, List.mem_singleton_self _, candidateKid_eq_some hKid, hMade⟩
        · cases hNew
  · injection h with h
    exact .inl (h ▸ hKey)

theorem lookup_foldlM (h : candidates.foldlM (addCandidate runtime algorithm) keys = some keys')
    (hKey : keys'.lookup kid = some key) :
    keys.lookup kid = some key ∨ ListedIn runtime candidates kid key := by
  induction candidates generalizing keys with
  | nil =>
    injection h with h
    exact .inl (h ▸ hKey)
  | cons candidate rest ih =>
    rw [List.foldlM_cons] at h
    obtain ⟨middle, hMiddle, hRest⟩ := Option.bind_eq_some_iff.mp h
    rcases ih hRest with hBefore | ⟨members, hMem, hListed⟩
    · rcases lookup_addCandidate hMiddle hBefore with hOld | ⟨members, hMem, hListed⟩
      · exact .inl hOld
      · rw [List.mem_singleton] at hMem
        exact .inr ⟨members, hMem ▸ List.mem_cons_self, hListed⟩
    · exact .inr ⟨members, List.mem_cons_of_mem _ hMem, hListed⟩

/-- **A key that `parseJwks` returns is listed in its document**, under the same kid. -/
theorem parseJwks_lookup {document : JsonValue}
    (h : parseJwks runtime algorithm document = some keys) (hKey : keys.lookup kid = some key) :
    Lists runtime document kid key := by
  unfold parseJwks at h
  obtain ⟨_, -, h⟩ := Option.bind_eq_some_iff.mp h
  split at h
  · rename_i candidates hCandidates
    obtain ⟨_, -, h⟩ := Option.bind_eq_some_iff.mp h
    obtain ⟨folded, hFold, h⟩ := Option.bind_eq_some_iff.mp h
    obtain ⟨_, -, h⟩ := Option.bind_eq_some_iff.mp h
    injection h with h
    subst h
    rcases lookup_foldlM hFold hKey with hOld | hListed
    · cases hOld
    · exact ⟨candidates, hCandidates, hListed⟩
  · cases h

end Parse

theorem signatureValid_of_verifyWith {key : Key} {jwt : Jwt} {date : Time}
    {user : AuthenticatedUser} (h : verifyWith runtime configuration key jwt date = .ok user) :
    signatureValid runtime configuration key jwt = true := by
  unfold verifyWith at h
  by_contra hInvalid
  rw [Bool.not_eq_true] at hInvalid
  rw [hInvalid] at h
  cases h

namespace Verifier

/-- A fetch that succeeded within the last TTL before `date` lists the key under the kid. -/
def ListedAt (runtime : JwtRuntime Key) (configuration : JwtConfiguration) (s : Verifier Key)
    (kid : Text) (key : Key) (date : Time) : Prop :=
  ∃ document completedAt, s.Served document completedAt ∧ Lists runtime document kid key ∧
    completedAt ≤ date ∧ date ≤ completedAt + configuration.jwksCacheTtlMs

/-- The cache is what the fetch that succeeded last made of its document. -/
def LatestSuccess (runtime : JwtRuntime Key) (configuration : JwtConfiguration)
    (s : Verifier Key) (f : Nat) : Prop :=
  ∃ completedAt document cache, s.fetchState f = some (.succeeded completedAt document cache) ∧
    parseJwks runtime configuration.algorithm document = some cache.keys ∧
    cache.expiresAt = completedAt + configuration.jwksCacheTtlMs ∧
    ∀ g completedAt' document' cache',
      s.fetchState g = some (.succeeded completedAt' document' cache') →
      g ≤ f ∧ completedAt' ≤ completedAt

section Cache

variable {s : Verifier Key} {f g : Nat}

/-- At most one fetch is in flight. -/
theorem CacheCoherent.flights (h : CacheCoherent runtime configuration s)
    (hF : s.fetchState f = some .inFlight) (hG : s.fetchState g = some .inFlight) : f = g := by
  obtain ⟨fetch, hFetch, hState⟩ := Option.map_eq_some_iff.mp hF
  obtain ⟨fetch', hFetch', hState'⟩ := Option.map_eq_some_iff.mp hG
  have hSlot := h.flight hFetch hState
  rw [h.flight hFetch' hState'] at hSlot
  injection hSlot with hSlot
  exact hSlot.symm

theorem CacheCoherent.latestSuccess (h : CacheCoherent runtime configuration s)
    (hCurrent : s.jwksCache = some f) : s.LatestSuccess runtime configuration f := by
  obtain ⟨cache, hCache⟩ := h.current hCurrent
  obtain ⟨fetch, completedAt, document, hFetch, hState⟩ := cache_eq_some.mp hCache
  obtain ⟨hKeys, hExpires, hAfter, -⟩ := h.origin hFetch hState
  have hStateF : s.fetchState f = some (.succeeded completedAt document cache) := by
    rw [fetchState, hFetch, Option.map_some, hState]
  refine ⟨completedAt, document, cache, hStateF, hKeys, hExpires, ?_⟩
  intro g completedAt' document' cache' hStateG
  have hCacheG : s.cache g = some cache' := by
    rw [Verifier.cache, hStateG]
    rfl
  obtain ⟨f', hCurrent', hLe⟩ := h.latest hCacheG
  obtain rfl : f = f' := Option.some.inj (hCurrent.symm.trans hCurrent')
  refine ⟨hLe, ?_⟩
  rcases Nat.eq_or_lt_of_le hLe with rfl | hLt
  · rw [hStateF] at hStateG
    injection hStateG with hStateG
    injection hStateG with hSame
    exact hSame.ge
  · -- the later fetch started once the earlier one was over
    obtain ⟨earlier, hEarlier, hSucceeded⟩ := Option.map_eq_some_iff.mp hStateG
    have hBefore := h.sequential hLt hEarlier hSucceeded hFetch
    exact hBefore.trans hAfter

theorem CacheCoherent.unserved (h : CacheCoherent runtime configuration s)
    (hEmpty : s.jwksCache = none) (document : JsonValue) (completedAt : Time) :
    ¬ s.Served document completedAt := by
  rintro ⟨g, cache, hStateG⟩
  have hCacheG : s.cache g = some cache := by
    rw [Verifier.cache, hStateG]
    rfl
  obtain ⟨f, hCurrent, -⟩ := h.latest hCacheG
  rw [hEmpty] at hCurrent
  cases hCurrent

theorem KeyServed.listedAt {kid : Text} {key : Key} {date : Time}
    (h : s.KeyServed runtime configuration kid key date) :
    s.ListedAt runtime configuration kid key date := by
  obtain ⟨document, completedAt, keys, hServed, hKeys, hKey, hAfter, hFresh⟩ := h
  exact ⟨document, completedAt, hServed, parseJwks_lookup hKeys hKey, hAfter, hFresh.le⟩

end Cache

end Verifier

end ServiceJwtVerifier

open ServiceJwtVerifier

/-- **A signing key is good for a TTL.** In every state of every run: a token that was accepted had
a valid signature under a key that a fetch which succeeded within the TTL before lists under the
token's kid; at most one fetch is in flight; and the cache is what the fetch that succeeded last made
of its document, or empty as long as none has. -/
theorem signing_keys_current {Key : Type} {runtime : JwtRuntime Key}
    {configuration : JwtConfiguration} {s : Verifier Key}
    (h : Reachable (verifierSystem runtime configuration) anyStep s) :
    (∀ (i : Nat) (call : GuardCall Key) (date : Time) (found : Option Key)
        (user : AuthenticatedUser),
      s.calls[i]? = some call → call.state = .done date found (.ok user) →
      ∃ jwt key, ServiceJwtAuthGuard.readRequest configuration call.authorization = .ok jwt ∧
        found = some key ∧ signatureValid runtime configuration key jwt = true ∧
        s.ListedAt runtime configuration jwt.kid key date) ∧
    (∀ f g, s.fetchState f = some .inFlight → s.fetchState g = some .inFlight → f = g) ∧
    (∀ f, s.jwksCache = some f → s.LatestSuccess runtime configuration f) ∧
    (s.jwksCache = none → ∀ document completedAt, ¬ s.Served document completedAt) := by
  have hCoherent := Verifier.coherent_reachable h
  refine ⟨?_, fun f g => hCoherent.cache.flights, fun f => hCoherent.cache.latestSuccess,
    hCoherent.cache.unserved⟩
  intro i call date found user hCall hDone
  have hHolds := Verifier.calls_hold h i call hCall
  rw [Verifier.CallHolds, hDone] at hHolds
  generalize hOutcome : (Except.ok user : Except ThrownError AuthenticatedUser) = outcome at hHolds
  cases hHolds with
  | refused hRead => cases hOutcome
  | keyless hRead => cases hOutcome
  | @keyed jwt key hRead hKey =>
    exact ⟨jwt, key, hRead, rfl, signatureValid_of_verifyWith hOutcome.symm, hKey.listedAt⟩

namespace Issuer

/-- A call that ended at 39000 with a user, for a token under `a`. -/
def acceptedLater (call : GuardCall (List (Text × JsonValue))) : Bool :=
  match call.state with
  | .done date (some _) (.ok _) =>
    date = 39000 ∧ (ServiceJwtAuthGuard.readRequest configuration
      call.authorization).toOption.map Jwt.kid = some "a".toList
  | _ => false

end Issuer

/-- A token is accepted 9 s after the fetch that brought its key. -/
theorem signing_key_of_document_current :
    ∃ s, Reachable (verifierSystem Issuer.runtime Issuer.configuration) anyStep s ∧
      ∃ call date key user, s.calls[1]? = some call ∧
        call.state = .done date (some key) (.ok user) ∧ date = 39000 ∧
        s.ListedAt Issuer.runtime Issuer.configuration "a".toList key date := by
  obtain ⟨s, hReach, hRun⟩ := exists_reachable_of_run
    (verifierSystem Issuer.runtime Issuer.configuration) anyStep
    (fun s => (s.calls[1]?).any Issuer.acceptedLater)
    [Issuer.known, .settle (.document Issuer.document), .resume 0, .tick 9000, Issuer.known]
    Issuer.start_initial (by decide +kernel)
  obtain ⟨call, hCall, hState⟩ := (Option.any_eq_true _ _).mp hRun
  unfold Issuer.acceptedLater at hState
  split at hState
  · rename_i date key user hDone
    obtain ⟨hDate, hKid⟩ := of_decide_eq_true hState
    obtain ⟨jwt, key', hRead, hFound, -, hListed⟩ :=
      (signing_keys_current hReach).1 1 call date (some key) user hCall hDone
    injection hFound with hFound
    subst hFound
    rw [hRead] at hKid
    injection hKid with hKid
    exact ⟨s, hReach, call, date, key, user, hCall, hDone, hDate, hKid ▸ hListed⟩
  · cases hState

end SocialPromotion
