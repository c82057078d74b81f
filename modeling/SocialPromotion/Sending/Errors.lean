import SocialPromotion.Model.Adapters

/-!
# Ambiguous errors

A thrown error is ambiguous unless it carries a status from 400 to 499. Of the errors that the
code on the way to a publication throws, that leaves the refusals of a credential and the
provider's own 4xx answers.

Results:

* `Ambiguous` with `FailsAmbiguously` and its rules: every error of a computation is ambiguous;
* one lemma for each check of the adapters and their clients.
-/

namespace SocialPromotion

def Ambiguous (error : ThrownError) : Prop := (classifyPublishFailure error).ambiguous = true

theorem ambiguous_of_status {error : ThrownError}
    (h : ∀ status, error.status = some status → status < 400 ∨ 500 ≤ status) : Ambiguous error :=
  classifyPublishFailure_ambiguous_iff.mpr fun status hStatus => by
    have := h status hStatus
    omega

theorem ambiguous_typeError (message : String) : Ambiguous (.typeError message) :=
  ambiguous_of_status fun _ h => nomatch h

theorem ambiguous_plain (error : PlainError) : Ambiguous error.toThrown :=
  ambiguous_of_status fun _ h => nomatch h

theorem ambiguous_serviceUnavailable (message : String) :
    Ambiguous (.serviceUnavailable message) :=
  ambiguous_of_status fun _ h => Or.inr ((Option.some.inj h) ▸ by decide)

theorem ambiguous_notImplemented (message : String) : Ambiguous (.notImplemented message) :=
  ambiguous_of_status fun _ h => Or.inr ((Option.some.inj h) ▸ by decide)

theorem not_ambiguous_forbidden (message : String) : ¬ Ambiguous (.forbidden message) := fun h =>
  classifyPublishFailure_ambiguous_iff.mp h 403 rfl (by decide)

theorem not_ambiguous_notFound (message : String) : ¬ Ambiguous (.notFound message) := fun h =>
  classifyPublishFailure_ambiguous_iff.mp h 404 rfl (by decide)

theorem ambiguous_socialApiHttpError_iff {provider : String} {status : Nat} :
    Ambiguous (.socialApiHttpError provider status) ↔ ¬ (400 ≤ status ∧ status < 500) := by
  rw [Ambiguous, classifyPublishFailure_ambiguous_iff]
  simp only [ThrownError.socialApiHttpError, Option.some.injEq, forall_eq']
  omega

/-! ## Computations -/

/-- Every error of the computation is ambiguous. -/
def FailsAmbiguously {α : Type} (result : Except ThrownError α) : Prop :=
  ∀ e, result = .error e → Ambiguous e

namespace FailsAmbiguously

variable {α β : Type} {result : Except ThrownError α}

theorem ok (a : α) : FailsAmbiguously (.ok a) := nofun

theorem error {e : ThrownError} (h : Ambiguous e) :
    FailsAmbiguously (.error e : Except ThrownError α) := fun _ hError =>
  Except.error.inj hError ▸ h

theorem bind {f : α → Except ThrownError β} (h : FailsAmbiguously result)
    (hNext : ∀ a, FailsAmbiguously (f a)) : FailsAmbiguously (result >>= f) := by
  cases result with
  | ok a => exact hNext a
  | error e => exact error (h e rfl)

theorem check {c : Prop} [Decidable c] {e : ThrownError} (h : Ambiguous e) :
    FailsAmbiguously (require c e) := by
  unfold SocialPromotion.require
  split
  · exact ok ()
  · exact error h

theorem mapError {result : Except PlainError α} :
    FailsAmbiguously (result.mapError PlainError.toThrown) := by
  cases result with
  | ok a => exact ok a
  | error e => exact error (ambiguous_plain e)

theorem mapM {f : α → Except ThrownError β} (h : ∀ a, FailsAmbiguously (f a)) (l : List α) :
    FailsAmbiguously (l.mapM f) := by
  induction l with
  | nil => exact ok []
  | cons a rest ih =>
    rw [List.mapM_cons]
    exact (h a).bind fun _ => ih.bind fun _ => ok _

end FailsAmbiguously

/-! ## The checks on the way -/

section Checks

open FailsAmbiguously

variable {s : Surroundings}

theorem newUrl_fails (text : Text) : FailsAmbiguously (s.newUrl text) := by
  unfold Surroundings.newUrl
  split
  · exact ok _
  · exact error (ambiguous_typeError _)

theorem configuredUrl_fails (name : String) : FailsAmbiguously (configuredUrl s name) := by
  unfold configuredUrl
  split
  · exact error (ambiguous_serviceUnavailable _)
  · exact (newUrl_fails _).bind fun _ =>
      (check (ambiguous_serviceUnavailable _)).bind fun _ => ok _

theorem httpsUrl_fails (message : String) (value : Text) :
    FailsAmbiguously (httpsUrl s message value) :=
  (newUrl_fails _).bind fun _ => (check (ambiguous_typeError _)).bind fun _ => ok _

theorem readJson_fails (response : HttpResponse) : FailsAmbiguously (readJson response) := by
  unfold readJson
  split
  · exact ok _
  · exact error (ambiguous_plain _)

theorem linkedInBody_fails (response : HttpResponse) :
    FailsAmbiguously (FetchLinkedInHttpClient.body response) := by
  unfold FetchLinkedInHttpClient.body
  dsimp only
  split
  · exact readJson_fails response
  · exact ok _

theorem jsonBody_fails (emptyOn204 : Bool) (response : HttpResponse) :
    FailsAmbiguously (jsonBody emptyOn204 response) := by
  unfold jsonBody
  split
  · exact ok _
  · exact readJson_fails response

theorem objectMembers_fails (message : String) (json : Json) :
    FailsAmbiguously (objectMembers message json) := by
  unfold objectMembers
  split
  · exact ok _
  · exact error (ambiguous_serviceUnavailable message)

theorem idIn_fails (invalidJson missingId : String) (body : Json) :
    FailsAmbiguously (idIn invalidJson missingId body) := by
  refine (objectMembers_fails _ body).bind fun payload => ?_
  split
  · exact ok _
  · exact error (ambiguous_serviceUnavailable _)

theorem data_fails (json : Json) : FailsAmbiguously (XAdapter.data json) :=
  (objectMembers_fails _ json).bind fun _ => objectMembers_fails _ _

theorem mediaId_fails (body : Json) : FailsAmbiguously (XAdapter.mediaId body) := by
  refine (data_fails body).bind fun members => ?_
  split
  · exact ok _
  · exact error (ambiguous_serviceUnavailable _)

/-! ### Tokens -/

theorem decodeKey_fails (encodedKey : Text) :
    FailsAmbiguously (TokenService.decodeKey s encodedKey) := by
  unfold TokenService.decodeKey
  dsimp only
  split
  · exact error (ambiguous_serviceUnavailable _)
  · exact ok _

theorem keyVersion_fails : FailsAmbiguously (TokenService.keyVersion s) := by
  unfold TokenService.keyVersion
  dsimp only
  split
  · exact ok _
  · exact error (ambiguous_serviceUnavailable _)

theorem keyEntry_fails (entry : String × Json) :
    FailsAmbiguously (TokenService.keyEntry s entry) := by
  unfold TokenService.keyEntry
  split
  · split
    · exact (decodeKey_fails _).bind fun _ => ok _
    · exact error (ambiguous_serviceUnavailable _)
  · exact error (ambiguous_serviceUnavailable _)

theorem keyRing_fails : FailsAmbiguously (TokenService.keyRing s) := by
  unfold TokenService.keyRing
  split
  · unfold TokenService.legacyKeyRing
    split
    · exact error (ambiguous_serviceUnavailable _)
    · exact keyVersion_fails.bind fun _ => (decodeKey_fails _).bind fun _ => ok _
  · split
    · exact error (ambiguous_serviceUnavailable _)
    · exact mapM keyEntry_fails _
    · exact error (ambiguous_serviceUnavailable _)

theorem decrypt_fails (payload : Text) : FailsAmbiguously (TokenService.decrypt s payload) := by
  unfold TokenService.decrypt
  split
  · split
    · refine (keyRing_fails.bind fun keys => ?_).bind fun key => ?_
      · split
        · exact ok _
        · exact error (ambiguous_serviceUnavailable _)
      · split
        · exact ok _
        · exact error (ambiguous_typeError _)
    · exact error (ambiguous_typeError _)
  · exact error (ambiguous_typeError _)

/-! ### Media and costs -/

theorem allowedUrl_fails (value : Text) : FailsAmbiguously (FetchXMediaSource.allowedUrl s value) := by
  unfold FetchXMediaSource.allowedUrl
  split
  · exact error (ambiguous_serviceUnavailable _)
  · split
    · exact error (ambiguous_serviceUnavailable _)
    · split
      · exact error (ambiguous_serviceUnavailable _)
      · exact ok ()

theorem positiveInteger_fails (name : String) :
    FailsAmbiguously (FetchXMediaSource.positiveInteger s name) := by
  unfold FetchXMediaSource.positiveInteger
  split
  · split
    · exact error (ambiguous_serviceUnavailable _)
    · exact ok _
  · exact error (ambiguous_serviceUnavailable _)

theorem received_fails (type : MediaType) (maximumBytes : Int) (answer : MediaAnswer) :
    FailsAmbiguously (FetchXMediaSource.received s type maximumBytes answer) := by
  unfold FetchXMediaSource.received
  split
  · exact error (ambiguous_plain _)
  · refine (check (ambiguous_serviceUnavailable _)).bind fun _ =>
      (check (ambiguous_serviceUnavailable _)).bind fun _ =>
      (check (ambiguous_serviceUnavailable _)).bind fun _ => ?_
    split
    · exact error (ambiguous_plain _)
    · exact (check (ambiguous_serviceUnavailable _)).bind fun _ => ok _

theorem notNegative_fails (name : String) (value : JsNumber) :
    FailsAmbiguously (XApiCostService.notNegative name value) := by
  unfold XApiCostService.notNegative
  split
  · exact ok _
  · exact error (ambiguous_serviceUnavailable _)

theorem estimate_fails (operation : XUsageOperation) :
    FailsAmbiguously (XApiCostService.estimate s operation) := by
  refine (notNegative_fails _ _).bind fun amount => FailsAmbiguously.bind ?_ fun maximum =>
    (check (ambiguous_serviceUnavailable _)).bind fun _ =>
    (check (ambiguous_serviceUnavailable _)).bind fun _ => ok _
  unfold XApiCostService.optionalPositiveInteger
  split
  · exact ok _
  · exact (notNegative_fails _ _).bind fun _ => ok _

theorem reservationId_fails (result : Except PlainError (Option Text)) :
    FailsAmbiguously (PgXUsageLedger.reservationId result) := by
  unfold PgXUsageLedger.reservationId
  split
  · exact error (ambiguous_plain _)
  · exact ok _
  · exact error (ambiguous_serviceUnavailable _)

/-! ### Containers -/

theorem positiveIntegerEnv_fails (name : String) (fallback : Nat) :
    FailsAmbiguously (InstagramAdapter.positiveIntegerEnv s name fallback) := by
  unfold InstagramAdapter.positiveIntegerEnv
  split
  · exact ok _
  · dsimp only
    split
    · split
      · exact error (ambiguous_serviceUnavailable _)
      · exact ok _
    · exact error (ambiguous_serviceUnavailable _)

theorem containerReady_fails (body : Json) :
    FailsAmbiguously (InstagramAdapter.containerReady body) := by
  refine (objectMembers_fails _ body).bind fun payload => ?_
  dsimp only
  split
  · exact ok _
  · split
    · exact error (ambiguous_serviceUnavailable _)
    · split
      · exact error (ambiguous_serviceUnavailable _)
      · exact ok _

end Checks

end SocialPromotion
