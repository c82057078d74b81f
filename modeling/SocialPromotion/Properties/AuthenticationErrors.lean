import SocialPromotion.Lib.Keyed
import SocialPromotion.Steps.GuardCalls

/-!
# What the guard throws

`header.alg` and `payload.iss` are read from whatever JSON value the segment has, and the JSON value
`null` has no properties: reading them raises a `TypeError`, which is no 401.

* `readRequest_proper_iff`, `verifyWith_proper_iff`: one token, up to its key and from it on;
* `authentication_proper`: every call ends as it should after exactly the runs in which no header
  is `null` and no payload that comes with a valid signature;
* `null_header_throws`: a run with a header that is `null`.
-/

namespace SocialPromotion

open LTS

namespace ServiceJwtVerifier

variable {Key : Type} {runtime : JwtRuntime Key} {configuration : JwtConfiguration}

/-! ## One token -/

/-- The JSON value of the segment is `null`. -/
def nullSegment (encodedSegment : Text) : Bool :=
  match parseJson encodedSegment with
  | .ok .null => true
  | _ => false

/-- A well-formed bearer token whose header is `null`. -/
def nullHeader (authorization : Option Text) : Bool :=
  (authorization.bind ServiceJwtAuthGuard.bearerToken).any fun token =>
    match token.splitOn '.' with
    | [encodedHeader, encodedPayload, encodedSignature] =>
      isBase64UrlSegment encodedHeader && isBase64UrlSegment encodedPayload &&
        isBase64UrlSegment encodedSignature && nullSegment encodedHeader
    | _ => false

/-- A payload that is `null`, with a signature that is valid under the key. -/
def nullPayload (runtime : JwtRuntime Key) (configuration : JwtConfiguration) (key : Key)
    (jwt : Jwt) : Bool :=
  signatureValid runtime configuration key jwt && nullSegment jwt.encodedPayload

/-- What `request.user` is set from. -/
structure Verified (runtime : JwtRuntime Key) (configuration : JwtConfiguration) (key : Key)
    (jwt : Jwt) (date : Time) (payload : JsonValue) (user : AuthenticatedUser) : Prop where
  signature : signatureValid runtime configuration key jwt = true
  json : parseJson jwt.encodedPayload = .ok payload
  iss : stringValue (property payload "iss".toList) = some configuration.issuer
  aud : hasExpectedAudience configuration (property payload "aud".toList) = true
  exp : ∃ exp, finiteNumber (property payload "exp".toList) = some exp ∧
    ((date / 1000 : Nat) : ℚ) < exp
  nbf : property payload "nbf".toList = none ∨
    ∃ nbf, finiteNumber (property payload "nbf".toList) = some nbf ∧
      nbf ≤ ((date / 1000 : Nat) : ℚ)
  sub : stringValue (property payload "sub".toList) = some user.id ∧ trim user.id ≠ []
  roles : if runtime.env "SERVICE_RBAC_ENABLED" = some "true".toList then
      ∃ claimName listed, runtime.env "SERVICE_JWT_ROLES_CLAIM" = some claimName ∧
        user.roles = some listed ∧
        listedRoles (property payload claimName) = listed.map .string ∧
        listed ≠ [] ∧ listed.length ≤ 20 ∧ listed.all isRole = true
    else user.roles = none

/-- The call returns `true` with a user from a token that was verified, or throws an
`UnauthorizedException`. -/
def Proper (runtime : JwtRuntime Key) (configuration : JwtConfiguration)
    (authorization : Option Text) (date : Time) (found : Option Key) :
    Except ThrownError AuthenticatedUser → Prop
  | .ok user => ∃ jwt key payload,
    ServiceJwtAuthGuard.readRequest configuration authorization = .ok jwt ∧ found = some key ∧
      Verified runtime configuration key jwt date payload user
  | .error error => ∃ message, error = .httpException 401 message

section Token

variable {key : Key} {jwt : Jwt} {date : Time} {payload value : JsonValue}
  {user : AuthenticatedUser} {error : ThrownError} {authorization : Option Text} {segment : Text}

theorem bind_eq_error {α β : Type} {x : Except ThrownError α} {f : α → Except ThrownError β} :
    (x >>= f) = .error error ↔ x = .error error ∨ ∃ a, x = .ok a ∧ f a = .error error := by
  cases x with
  | error e => simp [Bind.bind, Except.bind]
  | ok a => simp [Bind.bind, Except.bind]

theorem require_eq_ok {c : Prop} [Decidable c] {u : Unit} : require c error = .ok u ↔ c := by
  unfold require
  split <;> simp_all

theorem require_eq_error {c : Prop} [Decidable c] {error' : ThrownError} :
    require c error = .error error' ↔ ¬ c ∧ error = error' := by
  unfold require
  split <;> simp_all

theorem parseJson_eq_error (h : parseJson segment = .error error) : error = invalidToken := by
  unfold parseJson at h
  split at h
  · cases h
  · injection h with h
    exact h.symm

/-- Any value but `null` can be read. -/
theorem readable_of_ne_null (h : value ≠ .null) : readable value = .ok value := by
  unfold readable
  split
  · exact absurd rfl h
  · rfl

theorem nullSegment_iff : nullSegment segment = true ↔ parseJson segment = .ok .null := by
  unfold nullSegment
  split
  · rename_i h
    simp [h]
  · rename_i h
    simpa using h

/-! ### Up to the key -/

/-- The header names the algorithm and a kid, or the token is refused. -/
theorem parseToken_eq_error {token : Text} (h : parseToken configuration token = .error error)
    (hNull : ∀ {encodedHeader encodedPayload encodedSignature},
      token.splitOn '.' = [encodedHeader, encodedPayload, encodedSignature] →
      (isBase64UrlSegment encodedHeader && isBase64UrlSegment encodedPayload &&
        isBase64UrlSegment encodedSignature && nullSegment encodedHeader) = false) :
    error = invalidToken := by
  unfold parseToken at h
  split at h
  · rename_i encodedHeader encodedPayload encodedSignature hSplit
    have hNull := hNull hSplit
    rcases bind_eq_error.mp h with h | ⟨u, hSegments, h⟩
    · exact (require_eq_error.mp h).2.symm
    have hSegments := require_eq_ok.mp hSegments
    rcases bind_eq_error.mp h with h | ⟨header, hHeader, h⟩
    · exact parseJson_eq_error h
    have hNotNull : header ≠ .null := by
      rintro rfl
      rw [nullSegment_iff.mpr hHeader] at hNull
      simp [hSegments] at hNull
    rw [readable_of_ne_null hNotNull] at h
    rcases bind_eq_error.mp h with h | ⟨header', hReadable, h⟩
    · cases h
    rcases bind_eq_error.mp h with h | ⟨u, -, h⟩
    · exact (require_eq_error.mp h).2.symm
    split at h
    · injection h with h
      exact h.symm
    rcases bind_eq_error.mp h with h | ⟨u, -, h⟩
    · exact (require_eq_error.mp h).2.symm
    rcases bind_eq_error.mp h with h | ⟨u, -, h⟩
    · exact (require_eq_error.mp h).2.symm
    cases h
  · injection h with h
    exact h.symm

theorem readRequest_of_nullHeader (h : nullHeader authorization = true) :
    ServiceJwtAuthGuard.readRequest configuration authorization =
      .error (.typeError "Cannot read properties of null") := by
  obtain ⟨token, hToken, h⟩ := (Option.any_eq_true _ _).mp h
  rw [ServiceJwtAuthGuard.readRequest, hToken]
  dsimp only
  split at h
  · rename_i encodedHeader encodedPayload encodedSignature hSplit
    simp only [Bool.and_eq_true] at h
    obtain ⟨⟨⟨hHeader, hPayload⟩, hSignature⟩, hNull⟩ := h
    rw [parseToken, hSplit]
    dsimp only
    rw [show require _ invalidToken = .ok () from
        require_eq_ok.mpr ⟨hHeader, hPayload, hSignature⟩, nullSegment_iff.mp hNull]
    rfl
  · cases h

/-- **Up to the key**, a call ends as it should unless its header is `null`. -/
theorem readRequest_proper_iff
    (h : ServiceJwtAuthGuard.readRequest configuration authorization = .error error) :
    Proper runtime configuration authorization date none (.error error) ↔
      nullHeader authorization = false := by
  constructor
  · rintro ⟨message, rfl⟩
    by_contra hNull
    rw [Bool.not_eq_false] at hNull
    rw [readRequest_of_nullHeader hNull] at h
    injection h with h
    cases congrArg ThrownError.status h
  · intro hNull
    unfold ServiceJwtAuthGuard.readRequest at h
    split at h
    · injection h with h
      exact ⟨_, h.symm⟩
    · rename_i token hToken
      rw [nullHeader, hToken, Option.any_some] at hNull
      refine ⟨_, parseToken_eq_error h fun {encodedHeader encodedPayload encodedSignature} hSplit => ?_⟩
      rw [hSplit] at hNull
      exact hNull

/-! ### From the key on -/

theorem validateRegisteredClaims_eq_error {now : Nat}
    (h : validateRegisteredClaims configuration payload now = .error error)
    (hNotNull : payload ≠ .null) : error = invalidToken := by
  unfold validateRegisteredClaims at h
  rw [readable_of_ne_null hNotNull] at h
  rcases bind_eq_error.mp h with h | ⟨payload', -, h⟩
  · cases h
  rcases bind_eq_error.mp h with h | ⟨u, -, h⟩
  · exact (require_eq_error.mp h).2.symm
  rcases bind_eq_error.mp h with h | ⟨u, -, h⟩
  · exact (require_eq_error.mp h).2.symm
  exact (require_eq_error.mp h).2.symm

theorem authenticatedUser_eq_error (h : authenticatedUser runtime payload = .error error) :
    error = invalidToken := by
  unfold authenticatedUser at h
  split at h
  · injection h with h
    exact h.symm
  split at h
  · cases h
  split at h
  · injection h with h
    exact h.symm
  split at h
  · injection h with h
    exact h.symm
  · cases h

theorem verifyWith_eq_error (h : verifyWith runtime configuration key jwt date = .error error)
    (hNull : nullPayload runtime configuration key jwt = false) : error = invalidToken := by
  unfold verifyWith at h
  rcases bind_eq_error.mp h with h | ⟨u, hValid, h⟩
  · exact (require_eq_error.mp h).2.symm
  rcases bind_eq_error.mp h with h | ⟨payload, hPayload, h⟩
  · exact parseJson_eq_error h
  have hNotNull : payload ≠ .null := by
    rintro rfl
    rw [nullPayload, require_eq_ok.mp hValid, nullSegment_iff.mpr hPayload] at hNull
    cases hNull
  rcases bind_eq_error.mp h with h | ⟨u, -, h⟩
  · exact validateRegisteredClaims_eq_error h hNotNull
  · exact authenticatedUser_eq_error h

theorem verifyWith_of_nullPayload (h : nullPayload runtime configuration key jwt = true) :
    verifyWith runtime configuration key jwt date =
      .error (.typeError "Cannot read properties of null") := by
  rw [nullPayload, Bool.and_eq_true] at h
  rw [verifyWith, show require _ invalidToken = .ok () from require_eq_ok.mpr h.1,
    nullSegment_iff.mp h.2]
  rfl

/-- The texts of a list of strings. -/
theorem eq_map_string {listed : List JsonValue} {roles : List Text}
    (h : listed.mapM (fun value => stringValue (some value)) = some roles) :
    listed = roles.map .string := by
  induction listed generalizing roles with
  | nil =>
    injection h with h
    rw [← h]
    rfl
  | cons value rest ih =>
    rw [List.mapM_cons] at h
    obtain ⟨role, hRole, h⟩ := Option.bind_eq_some_iff.mp h
    obtain ⟨others, hOthers, h⟩ := Option.bind_eq_some_iff.mp h
    injection h with h
    subst h
    cases value with
    | string text =>
      injection hRole with hRole
      rw [List.map_cons, ← ih hOthers, hRole]
    | _ => cases hRole

theorem roles_eq_some {claimName : Text} {listed : List Text}
    (h : roles payload claimName = some listed) :
    listedRoles (property payload claimName) = listed.map .string ∧ listed ≠ [] ∧
      listed.length ≤ 20 ∧ listed.all isRole = true := by
  unfold roles at h
  obtain ⟨_, hCount, h⟩ := Option.bind_eq_some_iff.mp h
  obtain ⟨texts, hTexts, h⟩ := Option.bind_eq_some_iff.mp h
  obtain ⟨_, hRoles, h⟩ := Option.bind_eq_some_iff.mp h
  injection h with h
  subst h
  have hSame := eq_map_string hTexts
  have hCount : listedRoles (property payload claimName) ≠ [] ∧
      (listedRoles (property payload claimName)).length ≤ 20 := by
    by_contra hNot
    rw [guard, if_neg hNot] at hCount
    cases hCount
  rw [hSame, List.length_map] at hCount
  refine ⟨hSame, fun hEmpty => hCount.1 (by rw [hEmpty]; rfl), hCount.2, ?_⟩
  by_contra hNot
  rw [guard, if_neg hNot] at hRoles
  cases hRoles

/-- The user of a payload has its `sub`, and the roles that it lists where roles are asked for. -/
theorem authenticatedUser_eq_ok (h : authenticatedUser runtime payload = .ok user) :
    (stringValue (property payload "sub".toList) = some user.id ∧ trim user.id ≠ []) ∧
      if runtime.env "SERVICE_RBAC_ENABLED" = some "true".toList then
        ∃ claimName listed, runtime.env "SERVICE_JWT_ROLES_CLAIM" = some claimName ∧
          user.roles = some listed ∧
          listedRoles (property payload claimName) = listed.map .string ∧
          listed ≠ [] ∧ listed.length ≤ 20 ∧ listed.all isRole = true
      else user.roles = none := by
  unfold authenticatedUser at h
  split at h
  · cases h
  rename_i sub hSub
  obtain ⟨hSub, hText⟩ := Option.filter_eq_some_iff.mp hSub
  have hText : trim sub ≠ [] := by
    intro hEmpty
    rw [hEmpty] at hText
    cases hText
  split at h
  · rename_i hOff
    injection h with h
    subst h
    exact ⟨⟨hSub, hText⟩, by rw [if_neg hOff]⟩
  · rename_i hOn
    split at h
    · cases h
    rename_i claimName hClaim
    split at h
    · cases h
    rename_i listed hListed
    injection h with h
    subst h
    refine ⟨⟨hSub, hText⟩, ?_⟩
    rw [if_pos (not_not.mp hOn)]
    exact ⟨claimName, listed, (Option.filter_eq_some_iff.mp hClaim).1, rfl, roles_eq_some hListed⟩

theorem verifyWith_eq_ok (h : verifyWith runtime configuration key jwt date = .ok user) :
    ∃ payload, Verified runtime configuration key jwt date payload user := by
  unfold verifyWith at h
  obtain ⟨_, hValid, h⟩ := Keyed.bind_eq_ok.mp h
  obtain ⟨payload, hPayload, h⟩ := Keyed.bind_eq_ok.mp h
  obtain ⟨_, hClaims, h⟩ := Keyed.bind_eq_ok.mp h
  obtain ⟨hSub, hRoles⟩ := authenticatedUser_eq_ok h
  unfold validateRegisteredClaims at hClaims
  obtain ⟨read, hRead, hClaims⟩ := Keyed.bind_eq_ok.mp hClaims
  obtain rfl : payload = read := by
    unfold readable at hRead
    split at hRead
    · cases hRead
    · injection hRead
  obtain ⟨_, hIssued, hClaims⟩ := Keyed.bind_eq_ok.mp hClaims
  obtain ⟨_, hExp, hNbf⟩ := Keyed.bind_eq_ok.mp hClaims
  obtain ⟨hIss, hAud⟩ := require_eq_ok.mp hIssued
  obtain ⟨exp, hExpIs, hLater⟩ := (Option.any_eq_true _ _).mp (require_eq_ok.mp hExp)
  refine ⟨payload, require_eq_ok.mp hValid, hPayload, hIss, hAud,
    ⟨exp, hExpIs, of_decide_eq_true hLater⟩, ?_, hSub, hRoles⟩
  rcases require_eq_ok.mp hNbf with hNone | hSome
  · exact .inl (Option.isNone_iff_eq_none.mp hNone)
  · obtain ⟨nbf, hNbfIs, hBefore⟩ := (Option.any_eq_true _ _).mp hSome
    exact .inr ⟨nbf, hNbfIs, of_decide_eq_true hBefore⟩

/-- **From the key on**, a call ends as it should unless its payload is `null` and its signature
valid. -/
theorem verifyWith_proper_iff
    (hRead : ServiceJwtAuthGuard.readRequest configuration authorization = .ok jwt) :
    Proper runtime configuration authorization date (some key)
      (verifyWith runtime configuration key jwt date) ↔
      nullPayload runtime configuration key jwt = false := by
  constructor
  · intro hProper
    by_contra hNull
    rw [Bool.not_eq_false] at hNull
    rw [verifyWith_of_nullPayload hNull] at hProper
    obtain ⟨message, hError⟩ := hProper
    cases congrArg ThrownError.status hError
  · intro hNull
    cases hEnd : verifyWith runtime configuration key jwt date with
    | ok user =>
      obtain ⟨payload, hVerified⟩ := verifyWith_eq_ok hEnd
      exact ⟨jwt, key, payload, hRead, rfl, hVerified⟩
    | error error => exact ⟨_, verifyWith_eq_error hEnd hNull⟩

end Token

/-! ## The run -/

/-- How a call ends, if it is over. -/
def EndsProperly (runtime : JwtRuntime Key) (configuration : JwtConfiguration)
    (call : GuardCall Key) : Prop :=
  ∀ date found outcome, call.state = .done date found outcome →
    Proper runtime configuration call.authorization date found outcome

namespace Verifier

/-- Every call that is over has ended as it should. -/
def AllProper (runtime : JwtRuntime Key) (configuration : JwtConfiguration) (s : Verifier Key) :
    Prop :=
  ∀ (i : Nat) (call : GuardCall Key), s.calls[i]? = some call →
    EndsProperly runtime configuration call

/-- The token whose key a step looks for in the cache of `loadJwks(true)`, and that cache. -/
def refreshedLookup (s : Verifier Key) : VerifierEvent → Option (Jwt × Nat)
  | .resume i =>
    match s.calls[i]?.map GuardCall.state with
    | some (.refreshing f jwt _) => some (jwt, f)
    | _ => none
  | _ => none

/-- The token whose key a step finds, and the key. -/
def keyFound (configuration : JwtConfiguration) (s : Verifier Key) (e : VerifierEvent) :
    Option (Jwt × Key) := do
  let (jwt, f) ← (s.keyLookup configuration e).or (s.refreshedLookup e)
  let cache ← s.cache f
  let key ← cache.keys.lookup jwt.kid
  return (jwt, key)

/-- No header that comes in is `null`, and no payload whose signature is checked and valid. -/
def NoNull (runtime : JwtRuntime Key) (configuration : JwtConfiguration) (s : Verifier Key)
    (e : VerifierEvent) : Prop :=
  (∀ authorization, e = .request authorization → nullHeader authorization = false) ∧
    ∀ jwt key, s.keyFound configuration e = some (jwt, key) →
      nullPayload runtime configuration key jwt = false

/-- Both parts are about the one header, and the one key, that a step has. -/
theorem noNull_iff_all {s : Verifier Key} {e : VerifierEvent} :
    NoNull runtime configuration s e ↔
      (match e with
        | .request authorization => nullHeader authorization = false
        | _ => True) ∧
      (s.keyFound configuration e).all (fun (jwt, key) =>
        !nullPayload runtime configuration key jwt) = true := by
  refine and_congr ?_ ?_
  · cases e with
    | request authorization =>
      exact ⟨fun h => h _ rfl, fun h _ hSame => VerifierEvent.request.inj hSame ▸ h⟩
    | tick | settle | resume => exact iff_of_true nofun trivial
  · cases s.keyFound configuration e with
    | none => exact iff_of_true nofun rfl
    | some found =>
      obtain ⟨jwt, key⟩ := found
      rw [Option.all_some, Bool.not_eq_true']
      exact ⟨fun h => h _ _ rfl, fun h _ _ hSame => by cases hSame; exact h⟩

instance (runtime : JwtRuntime Key) (configuration : JwtConfiguration) (s : Verifier Key)
    (e : VerifierEvent) : Decidable (NoNull runtime configuration s e) :=
  haveI : Decidable (match e with
      | .request authorization => nullHeader authorization = false
      | _ => True) :=
    match e with
    | .request authorization => inferInstanceAs (Decidable (nullHeader authorization = false))
    | .tick _ | .settle _ | .resume _ => .isTrue trivial
  decidable_of_iff _ noNull_iff_all.symm

section Step

variable {s s' t : Verifier Key} {e : VerifierEvent} {i f : Nat} {jwt : Jwt}
  {authorization : Option Text} {state : CallState Key} {call : GuardCall Key}

theorem allProper_addCall : AllProper runtime configuration (s.addCall authorization state) ↔
    AllProper runtime configuration s ∧
      EndsProperly runtime configuration ⟨authorization, state⟩ := by
  constructor
  · intro hAll
    refine ⟨fun i call hCall => ?_, hAll s.calls.length _ List.getElem?_concat_length⟩
    have hLt := (List.getElem?_eq_some_iff.mp hCall).1
    exact hAll i call ((List.getElem?_append_left hLt).trans hCall)
  · rintro ⟨hBefore, hNew⟩ i call hCall
    rcases calls_addCall hCall with hOld | ⟨-, rfl⟩
    · exact hBefore i call hOld
    · exact hNew

variable (state) in
/-- A call that waits has not ended, so that only its own end matters. -/
theorem allProper_setCall (hCall : s.calls[i]? = some call) (hAwaited : s.awaited i = some f) :
    AllProper runtime configuration (s.setCall i state) ↔
      AllProper runtime configuration s ∧
        EndsProperly runtime configuration { call with state := state } := by
  constructor
  · intro hAll
    refine ⟨fun j other hOther => ?_, hAll i _ ?_⟩
    · by_cases hSame : i = j
      · subst hSame
        rw [awaited, hOther, Option.bind_some] at hAwaited
        intro date found outcome hDone
        rw [hDone] at hAwaited
        cases hAwaited
      · refine hAll j other ?_
        show (s.calls.modify i _)[j]? = some other
        rw [List.getElem?_modify_ne _ _ hSame, hOther]
    · show (s.calls.modify i _)[i]? = _
      rw [List.getElem?_modify_eq, hCall]
      rfl
  · rintro ⟨hBefore, hNew⟩ j other hOther
    rcases calls_setCall hOther with ⟨-, hOld⟩ | ⟨rfl, old, hOld, rfl⟩
    · exact hBefore j other hOld
    · obtain rfl : call = old := Option.some.inj (hCall.symm.trans hOld)
      exact hNew

theorem endsProperly_of_awaited (h : call.state.awaited = some f) :
    EndsProperly runtime configuration call := by
  intro date found outcome hDone
  rw [hDone] at h
  cases h

theorem endsProperly_done {date : Time} {found : Option Key}
    {outcome : Except ThrownError AuthenticatedUser} :
    EndsProperly runtime configuration ⟨authorization, .done date found outcome⟩ ↔
      Proper runtime configuration authorization date found outcome := by
  constructor
  · exact fun h => h date found outcome rfl
  · intro h date' found' outcome' hDone
    injection hDone with hDate hFound hOutcome
    exact hDate ▸ hFound ▸ hOutcome ▸ h

theorem endsProperly_invalidToken {date : Time} {found : Option Key} :
    EndsProperly runtime configuration
      ⟨authorization, .done date found (.error invalidToken)⟩ :=
  endsProperly_done.mpr ⟨_, rfl⟩

/-- A header that was read is not `null`. -/
theorem nullHeader_of_read
    (hRead : ServiceJwtAuthGuard.readRequest configuration authorization = .ok jwt) :
    nullHeader authorization = false := by
  by_contra hNull
  rw [Bool.not_eq_false] at hNull
  rw [readRequest_of_nullHeader hNull] at hRead
  cases hRead

/-- The state with the call that looks for its key in it. -/
theorem Looks.allProper_iff (h : Looks configuration s e s' i jwt f) :
    AllProper runtime configuration s' ↔ AllProper runtime configuration s := by
  cases h with
  | hit hIdle hRead hFresh =>
    rw [allProper_addCall]
    exact and_iff_left (endsProperly_of_awaited (f := f) rfl)
  | resumed hCall hState hCache hNext => rfl

/-- What a step that looks for a key needs. -/
theorem Looks.noNull_iff (h : Looks configuration s e s' i jwt f) {cache : JwksCache Key}
    (hCache : s'.cache f = some cache) :
    NoNull runtime configuration s e ↔ ∀ key, cache.keys.lookup jwt.kid = some key →
      nullPayload runtime configuration key jwt = false := by
  have hFound : s.keyFound configuration e =
      (cache.keys.lookup jwt.kid).map fun key => (jwt, key) := by
    rw [keyFound, h.keyLookup_eq, Option.some_or]
    show ((s.cache f).bind fun cache => (cache.keys.lookup jwt.kid).bind fun key =>
      some (jwt, key)) = _
    rw [← h.cache_eq, hCache, Option.bind_some]
    cases cache.keys.lookup jwt.kid <;> rfl
  have hHeader : ∀ authorization, e = .request authorization →
      nullHeader authorization = false := by
    rintro authorization rfl
    cases h with
    | hit hIdle hRead hFresh => exact nullHeader_of_read hRead
  constructor
  · intro hNoNull key hKey
    exact hNoNull.2 jwt key (by rw [hFound, hKey]; rfl)
  · intro hPayload
    refine ⟨hHeader, fun jwt' key hBoth => ?_⟩
    rw [hFound] at hBoth
    obtain ⟨key', hKey, hSame⟩ := Option.map_eq_some_iff.mp hBoth
    injection hSame with hJwt hKeys
    exact hJwt ▸ hKeys ▸ hPayload key' hKey

/-- The clearing of the slot and the stamps do not touch the calls. -/
theorem allProper_congr (hCalls : t.calls = s.calls) :
    AllProper runtime configuration t ↔ AllProper runtime configuration s := by
  unfold AllProper
  rw [hCalls]

theorem noNull_of_stale
    (hRead : ServiceJwtAuthGuard.readRequest configuration authorization = .ok jwt)
    (hStale : s.freshCache = none) :
    NoNull runtime configuration s (.request authorization) := by
  refine ⟨fun authorization' hSame => ?_, fun jwt' key hFound => ?_⟩
  · injection hSame with hSame
    exact hSame ▸ nullHeader_of_read hRead
  · rw [keyFound, keyLookup_of_stale hStale] at hFound
    cases hFound

variable (state) in
/-- A call that looks for its key ends, or goes on. -/
theorem Looks.allProper_setCall (h : Looks configuration s e s' i jwt f)
    (hCoherent : Coherent runtime configuration s)
    (hCalls : CallsHold runtime configuration s) (hSame : t.calls = s'.calls) :
    ∃ call, s'.calls[i]? = some call ∧
      ServiceJwtAuthGuard.readRequest configuration call.authorization = .ok jwt ∧
      (AllProper runtime configuration (t.setCall i state) ↔ AllProper runtime configuration s ∧
        EndsProperly runtime configuration { call with state := state }) := by
  have hLooksIn := h.looksIn hCoherent
  obtain ⟨call, hCall, hLoading⟩ := hLooksIn.loading
  refine ⟨call, hCall, hLooksIn.read (h.callsHold hCalls) hCall, ?_⟩
  have hCallT : t.calls[i]? = some call := by
    rw [hSame]
    exact hCall
  have hAwaited : t.awaited i = some f := by
    rw [awaited, hSame]
    exact hLooksIn.awaited
  rw [Verifier.allProper_setCall state hCallT hAwaited, allProper_congr hSame, h.allProper_iff]

/-- **What a step keeps proper.** -/
theorem allProper_step (hReach : Reachable (verifierSystem runtime configuration) anyStep s)
    (hMove : (verifierSystem runtime configuration).step s e = some t) :
    AllProper runtime configuration t ↔
      AllProper runtime configuration s ∧ NoNull runtime configuration s e := by
  have hCoherent := coherent_reachable hReach
  have hCalls := calls_hold hReach
  have hNoKey : ∀ {e' : VerifierEvent}, (∀ authorization, e' ≠ .request authorization) →
      s.keyFound configuration e' = none → NoNull runtime configuration s e' := by
    intro e' hNoRequest hNone
    refine ⟨fun authorization hRequest => absurd hRequest (hNoRequest authorization), ?_⟩
    intro jwt key hFound
    rw [hNone] at hFound
    cases hFound
  cases reachable_step hReach hMove with
  | @tick ms hIdle hWait =>
    have hNoNull : NoNull runtime configuration s (.tick ms) := hNoKey nofun rfl
    exact (and_iff_left hNoNull).symm
  | @fetchFailed answer f hIdle hSlot hState =>
    have hNoNull : NoNull runtime configuration s (.settle answer) := hNoKey nofun rfl
    exact (and_iff_left hNoNull).symm
  | @fetched document keys f hIdle hSlot hState hKeys =>
    have hNoNull : NoNull runtime configuration s (.settle (.document document)) :=
      hNoKey nofun rfl
    exact (and_iff_left hNoNull).symm
  | @refused authorization error hRead =>
    rw [allProper_addCall, endsProperly_done, readRequest_proper_iff hRead]
    refine and_congr_right fun _ => ⟨fun hHeader => ⟨?_, fun jwt key hFound => ?_⟩, ?_⟩
    · rintro authorization' hSame
      injection hSame with hSame
      exact hSame ▸ hHeader
    · rw [keyFound, keyLookup_of_refused hRead] at hFound
      cases hFound
    · exact fun hNoNull => hNoNull.1 authorization rfl
  | @joined authorization jwt f hIdle hRead hStale hSlot =>
    rw [allProper_addCall, and_iff_left (endsProperly_of_awaited (f := f) rfl),
      and_iff_left (noNull_of_stale hRead hStale)]
  | @started authorization jwt hRead hStale hSlot =>
    rw [allProper_addCall, and_iff_left (endsProperly_of_awaited (f := s.fetches.length) rfl),
      and_iff_left (noNull_of_stale hRead hStale)]
    exact allProper_congr rfl
  | @found _ s' i f jwt cache key hLooks hCache hKey =>
    obtain ⟨call, hCall, hRead, hAll⟩ := hLooks.allProper_setCall (t := s'.without f)
      (.done (s'.without f).clock (some key)
        (verifyWith runtime configuration key jwt (s'.without f).clock)) hCoherent hCalls rfl
    refine hAll.trans (and_congr_right fun _ => ?_)
    rw [endsProperly_done, verifyWith_proper_iff hRead, hLooks.noNull_iff hCache]
    constructor
    · intro hPayload key' hKey'
      rw [hKey] at hKey'
      injection hKey' with hSame
      exact hSame ▸ hPayload
    · exact fun hPayload => hPayload key hKey
  | @cooling _ s' i f jwt cache hLooks hCache hUnknown hRecent =>
    obtain ⟨call, hCall, hRead, hAll⟩ := hLooks.allProper_setCall (t := s'.without f)
      (.done (s'.without f).clock none (.error invalidToken)) hCoherent hCalls rfl
    refine hAll.trans (and_congr_right fun _ => ?_)
    rw [hLooks.noNull_iff hCache, hUnknown]
    exact iff_of_true endsProperly_invalidToken nofun
  | @forced _ s' i f jwt cache hLooks hCache hUnknown hOver hFree =>
    obtain ⟨call, hCall, hRead, hAll⟩ := hLooks.allProper_setCall
      (t := ((s'.without f).stamp f s.clock).startFetch i true)
      (.refreshing s.fetches.length jwt s.clock) hCoherent hCalls rfl
    refine hAll.trans (and_congr_right fun _ => ?_)
    rw [hLooks.noNull_iff hCache, hUnknown]
    exact iff_of_true (endsProperly_of_awaited (f := s.fetches.length) rfl) nofun
  | @failed i f hAwaited hNext hState =>
    obtain ⟨call, hCall, hWaits⟩ := Option.bind_eq_some_iff.mp hAwaited
    have hAll : AllProper runtime configuration ((s.without f).setCall i _) ↔ _ :=
      Verifier.allProper_setCall (.done s.clock none (.error invalidToken)) hCall hAwaited
    refine hAll.trans (and_congr (allProper_congr rfl) ?_)
    refine iff_of_true endsProperly_invalidToken (hNoKey nofun ?_)
    -- the fetch has made no cache
    have hCache : s.cache f = none := by
      rw [Verifier.cache, hState]
      rfl
    cases hCallState : call.state with
    | loading g jwt =>
      rw [hCallState] at hWaits
      cases hWaits
      simp [keyFound, keyLookup, hCall, hCallState, hCache]
    | refreshing g jwt now =>
      rw [hCallState] at hWaits
      cases hWaits
      simp [keyFound, keyLookup, refreshedLookup, hCall, hCallState, hCache]
    | done date key outcome =>
      rw [hCallState] at hWaits
      cases hWaits
  | @refreshed i f call jwt now cache hCall hState hNext hCache =>
    have hRead := hCalls i call hCall
    rw [CallHolds, hState] at hRead
    have hAwaited : s.awaited i = some f :=
      Option.bind_eq_some_iff.mpr ⟨call, hCall, by rw [hState]; rfl⟩
    have hFound : s.keyFound configuration (.resume i) =
        (cache.keys.lookup jwt.kid).map fun key => (jwt, key) := by
      simp only [keyFound, keyLookup, refreshedLookup, hCall, Option.map_some, hState,
        Option.none_or, Option.bind_eq_bind, Option.bind_some, hCache]
      cases cache.keys.lookup jwt.kid <;> rfl
    cases hKey : cache.keys.lookup jwt.kid with
    | some key =>
      have hAll : AllProper runtime configuration (((s.stamp f now).without f).setCall i _) ↔ _ :=
        Verifier.allProper_setCall
          (.done s.clock (some key) (verifyWith runtime configuration key jwt s.clock))
          hCall hAwaited
      refine hAll.trans (and_congr (allProper_congr rfl) ?_)
      rw [endsProperly_done, verifyWith_proper_iff hRead]
      constructor
      · refine fun hPayload => ⟨nofun, fun jwt' key' hBoth => ?_⟩
        rw [hFound, hKey] at hBoth
        injection hBoth with hSame
        injection hSame with hJwt hKeys
        exact hJwt ▸ hKeys ▸ hPayload
      · exact fun hNoNull => hNoNull.2 jwt key (by rw [hFound, hKey]; rfl)
    | none =>
      have hAll : AllProper runtime configuration (((s.stamp f now).without f).setCall i _) ↔ _ :=
        Verifier.allProper_setCall (.done s.clock none (.error invalidToken)) hCall hAwaited
      refine hAll.trans (and_congr (allProper_congr rfl) ?_)
      exact iff_of_true endsProperly_invalidToken (hNoKey nofun (by rw [hFound, hKey]; rfl))

end Step

end Verifier

end ServiceJwtVerifier

open ServiceJwtVerifier

/-- **When authentication fails only with 401.** In the state a run ends in, every call of the guard
that is over returned `true` with a user from a token that was verified, or threw an
`UnauthorizedException`, if and only if it is reached without a header that is the JSON value `null`
and without such a payload whose signature is valid under the key that was found. -/
theorem authentication_proper {Key : Type} {runtime : JwtRuntime Key}
    {configuration : JwtConfiguration} {s : Verifier Key}
    (h : Reachable (verifierSystem runtime configuration) anyStep s) :
    s.AllProper runtime configuration ↔ Reachable (verifierSystem runtime configuration)
      (Verifier.NoNull runtime configuration) s := by
  refine h.iff_guarded (fun s hInit => ?_) fun s e t => Verifier.allProper_step
  obtain ⟨-, -, -, -, hCalls⟩ := hInit
  intro i call hCall
  rw [hCalls, List.getElem?_nil] at hCall
  cases hCall

namespace Issuer

/-- The header is `{"alg":"RS256","kid":"a"}`, and the payload `{}` has no `iss`. -/
def claimless : VerifierEvent :=
  .request (some "Bearer eyJhbGciOiJSUzI1NiIsImtpZCI6ImEifQ.e30.AA".toList)

/-- Whether a call found its key, and the user or the status it ended with. -/
def answered (call : GuardCall (List (Text × JsonValue))) : Option (Bool × Except ℤ Text) :=
  match call.state with
  | .done _ found (.ok user) => some (found.isSome, .ok user.id)
  | .done _ found (.error error) => error.status.map fun status => (found.isSome, .error status)
  | _ => none

end Issuer

/-- A request without an `authorization` header ends with 401, a token with a valid signature and
good claims with its user, and one with a valid signature and no claims with 401. -/
theorem authentication_proper_of_no_header :
    ∃ s, Reachable (verifierSystem Issuer.runtime Issuer.configuration) anyStep s ∧
      s.calls.map Issuer.answered =
        [some (false, .error 401), some (true, .ok "user".toList), some (true, .error 401)] ∧
      s.AllProper Issuer.runtime Issuer.configuration := by
  obtain ⟨s, hReach, hAnswered⟩ := exists_reachable_of_run
    (verifierSystem Issuer.runtime Issuer.configuration)
    (Verifier.NoNull Issuer.runtime Issuer.configuration)
    (fun s => s.calls.map Issuer.answered =
      [some (false, .error 401), some (true, .ok "user".toList), some (true, .error 401)])
    [.request none, Issuer.known, .settle (.document Issuer.document), .resume 1,
      Issuer.claimless]
    Issuer.start_initial (by decide +kernel)
  have hAny := hReach.mono fun _ _ _ => trivial
  exact ⟨s, hAny, of_decide_eq_true hAnswered, (authentication_proper hAny).mpr hReach⟩

/-- `bnVsbA` is `null`: the call throws a `TypeError`. -/
theorem null_header_throws :
    ∃ s, Reachable (verifierSystem Issuer.runtime Issuer.configuration) anyStep s ∧
      (s.calls.map fun call => call.authorization) = [some "Bearer bnVsbA.x.x".toList] ∧
      ¬ s.AllProper Issuer.runtime Issuer.configuration := by
  have hStep : (verifierSystem Issuer.runtime Issuer.configuration).step Issuer.start
      (.request (some "Bearer bnVsbA.x.x".toList)) =
        some (Issuer.start.addCall (some "Bearer bnVsbA.x.x".toList)
          (.done 30000 none (.error (.typeError "Cannot read properties of null")))) := by
    have hRead : ServiceJwtAuthGuard.readRequest Issuer.configuration
        (some "Bearer bnVsbA.x.x".toList) =
          .error (.typeError "Cannot read properties of null") :=
      readRequest_of_nullHeader (by decide +kernel)
    show some (Issuer.start.request _ _ _) = _
    rw [Verifier.request, hRead]
    rfl
  refine ⟨_, (Reachable.init Issuer.start_initial).tail trivial hStep, rfl, fun hAll => ?_⟩
  obtain ⟨message, hError⟩ := hAll 0 _ rfl _ _ _ rfl
  cases congrArg ThrownError.status hError

end SocialPromotion
