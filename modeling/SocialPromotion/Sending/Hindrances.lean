import SocialPromotion.Sending.Errors
import SocialPromotion.Sending.Requests

/-!
# What stands between a post and its request

An adapter checks the post, reads its configuration, resolves a credential and makes its
preparatory requests before the one that counts. Each of these can hinder it. The functions
here read off the post, the surroundings and the replies what hinders it first, in the order
of the code, and a lemma for each says that the code throws accordingly.

Results:

* `Hindrance` and `Hindrance.Refusal`: what can hinder, and the four refusals of a credential
  and the provider's 4xx among it;
* one lemma for each part of an adapter, from `hindered_writeCredential` to `reaches_billed`.
-/

namespace SocialPromotion

open Program

inductive Hindrance
  /-- A check of the adapter on the post. -/
  | input
  /-- A missing or invalid variable. -/
  | configuration
  /-- The query for the account failed. -/
  | lookup
  | noAccount
  | expired
  | unverified
  /-- The token cannot be decrypted. -/
  | token
  | scope
  | mediaSource
  | ledger
  /-- An error status to a preparatory request. -/
  | answer (status : Nat)
  /-- No answer to a preparatory request, or none that is of use. -/
  | noAnswer
  /-- The container failed, or was not ready in time. -/
  | notReady
  /-- The publish request did not leave the process. -/
  | unsent
deriving DecidableEq, Repr

namespace Hindrance

/-- A refusal by the account's own state, or by the provider. -/
def Refusal : Hindrance → Prop
  | .noAccount | .expired | .unverified | .scope => True
  | .answer status => 400 ≤ status ∧ status < 500
  | _ => False

instance (hindrance : Hindrance) : Decidable hindrance.Refusal := by
  unfold Refusal
  split <;> infer_instance

/-- The error that a hindrance shows in. -/
def Shows (hindrance : Hindrance) (error : ThrownError) : Prop :=
  Ambiguous error ↔ ¬ hindrance.Refusal

end Hindrance

/-- A computation that hinders where it fails. -/
def failing {α : Type} (result : Except ThrownError α) (hindrance : Hindrance) :
    Option Hindrance :=
  match result with
  | .ok _ => none
  | .error _ => some hindrance

/-- A condition that hinders where it does not hold. -/
def unmet (c : Prop) [Decidable c] (hindrance : Hindrance) : Option Hindrance :=
  if c then none else some hindrance

theorem unmet_of {c : Prop} [Decidable c] (h : c) (hindrance : Hindrance) :
    unmet c hindrance = none := if_pos h

theorem unmet_of_not {c : Prop} [Decidable c] (h : ¬ c) (hindrance : Hindrance) :
    unmet c hindrance = some hindrance := if_neg h

@[simp] theorem unmet_eq_none {c : Prop} [Decidable c] {hindrance : Hindrance} :
    unmet c hindrance = none ↔ c := by
  unfold unmet
  split
  next hMet => exact iff_of_true rfl hMet
  next hUnmet => exact iff_of_false (Option.some_ne_none _) hUnmet

theorem failing_ok {α : Type} {result : Except ThrownError α} (hindrance : Hindrance)
    (h : ∃ a, result = .ok a) : failing result hindrance = none := by
  obtain ⟨a, rfl⟩ := h
  rfl

theorem hindrance_assoc (a b c : Option Hindrance) : ((a <|> b) <|> c) = (a <|> b <|> c) := by
  cases a <;> rfl

/-! ## Computations between the questions -/

section Computations

variable {quiet : Request × Reply → Prop} {replies : Nat → Reply} {n m : Nat} {α β : Type}
  {result : Except ThrownError α} {o : Option Hindrance}
  {f : α → Promise β}

theorem hindered_lift (hindrance : Hindrance) (h : FailsAmbiguously result)
    (hNot : ¬ hindrance.Refusal) :
    (liftM result : Promise α).Hindered quiet Hindrance.Shows replies n
      (failing result hindrance) n := by
  cases result with
  | ok a => exact Hindered.pure a
  | error e => exact Hindered.throw (iff_of_true (h e rfl) hNot)

theorem hindered_lift_ok {a : α} (hOk : result = .ok a)
    (h : (f a).Hindered quiet Hindrance.Shows replies n o m) :
    ((liftM result : Promise α) >>= f).Hindered quiet Hindrance.Shows replies n o m := by
  rw [hOk]
  exact h

theorem hindered_lift_error (hindrance : Hindrance) {e : ThrownError} (hError : result = .error e)
    (h : hindrance.Shows e) :
    ((liftM result : Promise α) >>= f).Hindered quiet Hindrance.Shows replies n
      (some hindrance) m := by
  rw [hError]
  exact ⟨e, Stops.throw quiet replies n e, h⟩

theorem hindered_require (hindrance : Hindrance) {c : Prop} [Decidable c] {e : ThrownError}
    (h : Ambiguous e) (hNot : ¬ hindrance.Refusal) :
    (liftM (require c e) : Promise Unit).Hindered quiet Hindrance.Shows replies n
      (unmet c hindrance) n := by
  unfold require unmet
  split
  · exact Hindered.pure ()
  · exact Hindered.throw (iff_of_true h hNot)

/-- What follows a computation may use its value. -/
theorem reaches_lift (hindrance : Hindrance) (h : FailsAmbiguously result)
    (hNot : ¬ hindrance.Refusal)
    (hNext : ∀ a, result = .ok a → (f a).Reaches quiet Hindrance.Shows replies n o) :
    ((liftM result : Promise α) >>= f).Reaches quiet Hindrance.Shows replies n
      (failing result hindrance <|> o) := by
  cases result with
  | ok a => exact hNext a rfl
  | error e => exact ⟨e, Stops.throw quiet replies n e, iff_of_true (h e rfl) hNot⟩

end Computations

/-! ## Credentials -/

/-- What hinders the use of an account that was found. -/
def accountHindrance (service : CredentialService) (s : Surroundings)
    (scopes : PublishingCredential → List String) (account : ActiveSocialAccountCredential)
    (date : Time) : Option Hindrance :=
  if account.expiresAt.any fun expiresAt => expiresAt ≤ date then some .expired
  else match service.providerId account.platformAccountId with
    | none => some .unverified
    | some providerId =>
      match TokenService.decrypt s account.accessTokenEncrypted with
      | .error _ => some .token
      | .ok accessToken =>
        match (scopes ⟨account.id, providerId, accessToken, account.scope⟩).find? fun scope =>
          scope ∉ account.scope with
        | some _ => some .scope
        | none => none

/-- What hinders the resolution of a credential, with the reply to the query and the one of
the clock. -/
def credentialHindrance (service : CredentialService) (s : Surroundings)
    (scopes : PublishingCredential → List String) (query clock : Reply) : Option Hindrance :=
  unmet (s.setting "DATABASE_URL").isSome .configuration <|>
    match query.account with
    | .error _ => some .lookup
    | .ok none => some .noAccount
    | .ok (some account) => accountHindrance service s scopes account clock.date

section Credentials

variable {quiet : Request × Reply → Prop} {replies : Nat → Reply} {n : Nat} {s : Surroundings}
  {service : CredentialService} {scopes : PublishingCredential → List String}
  {missing : String → String} {id : AccountId}

theorem shows_refusal {hindrance : Hindrance} {e : ThrownError} (h : ¬ Ambiguous e)
    (hRefusal : hindrance.Refusal) : hindrance.Shows e :=
  iff_of_false h (not_not.mpr hRefusal)

/-- The checks on the account row, and on the scopes of the credential made of it. -/
theorem hindered_credential {account : ActiveSocialAccountCredential} {date : Time} :
    (do
      let credential ← (liftM (service.credential s account date) : Promise _)
      requireScopes (scopes credential) missing credential
      return credential : Promise PublishingCredential).Hindered quiet Hindrance.Shows replies n
      (accountHindrance service s scopes account date) n := by
  unfold accountHindrance
  split
  case isTrue hExpired =>
    refine hindered_lift_error .expired (e := .forbidden service.expiredMessage) ?_
      (shows_refusal (not_ambiguous_forbidden _) trivial)
    simp only [CredentialService.credential, require, hExpired]
    rfl
  case isFalse hActive =>
    split
    case h_1 hUnverified =>
      refine hindered_lift_error .unverified (e := .forbidden service.unverifiedMessage) ?_
        (shows_refusal (not_ambiguous_forbidden _) trivial)
      simp only [CredentialService.credential, require, hActive, hUnverified]
      rfl
    case h_2 providerId hVerified =>
      split
      case h_1 e hToken =>
        refine hindered_lift_error .token (e := e) ?_
          (iff_of_true (decrypt_fails _ e hToken) not_false)
        simp only [CredentialService.credential, require, hActive, hVerified, hToken]
        rfl
      case h_2 accessToken hToken =>
        refine hindered_lift_ok (a := ⟨account.id, providerId, accessToken, account.scope⟩) ?_ ?_
        · simp only [CredentialService.credential, require, hActive, hVerified, hToken]
          rfl
        · split
          case h_1 scope hMissing =>
            refine hindered_lift_error .scope (e := .forbidden (missing scope)) ?_
              (shows_refusal (not_ambiguous_forbidden _) trivial)
            simp only [requireScopes, hMissing]
          case h_2 hScopes =>
            refine hindered_lift_ok (a := ()) ?_ (Hindered.pure _)
            simp only [requireScopes, hScopes]

theorem hindered_writeCredential (hQuiet : ∀ x : Request × Reply, x.1.isFetch = false → quiet x) :
    (writeCredential service s scopes missing id).Hindered quiet Hindrance.Shows replies n
      (credentialHindrance service s scopes (replies n) (replies (n + 1))) (n + 2) := by
  unfold writeCredential CredentialService.resolve findActiveSocialAccount
  simp only [bind_assoc]
  refine (hindered_require .configuration (ambiguous_serviceUnavailable _) not_false).bind fun _ =>
    Hindered.ask_bind (hQuiet _ rfl) ?_
  cases hAccount : (replies n).account with
  | error e =>
    exact hindered_lift_error .lookup rfl (iff_of_true (ambiguous_plain e) not_false)
  | ok account =>
    refine hindered_lift_ok rfl ?_
    cases account with
    | none => exact Hindered.throw (shows_refusal (not_ambiguous_notFound _) trivial)
    | some account =>
      unfold newDate
      simp only [bind_assoc]
      exact Hindered.ask_bind (hQuiet _ rfl) hindered_credential

end Credentials

/-! ## Requests -/

theorem withQuery_post {s : Surroundings} {message : String} {input : HttpRequest}
    (h : input.method = .post) : withQuery s message input = .ok () := by
  unfold withQuery
  rw [if_neg (by simp [h])]

/-- A client reads the body, and its caller reads on. -/
theorem requestJson_lift {α : Type} {s : Surroundings} {message : String} {input : HttpRequest}
    (provider : String) (emptyOn204 : Bool) (h : withQuery s message input = .ok ())
    (read : Json → Except ThrownError α) :
    (requestJson s provider message emptyOn204 input >>= fun response =>
      (liftM (read response.body) : Promise α)) =
    fetchOk provider input >>= fun response =>
      (liftM (jsonBody emptyOn204 response >>= read) : Promise α) := by
  unfold requestJson
  rw [h]
  simp only [bind_assoc]
  refine congrArg (fetchOk provider input >>= ·) (funext fun response => ?_)
  cases jsonBody emptyOn204 response <;> rfl

/-- What hinders in the answer to a preparatory request, of which `rest` makes use. -/
def answerHindrance {α : Type} (rest : HttpResponse → Except ThrownError α) (reply : Reply) :
    Option Hindrance :=
  match reply.http with
  | .failed _ _ => some .noAnswer
  | .response response =>
    if responseOk response.status then failing (rest response) .noAnswer
    else some (.answer response.status)

/-- The value that `rest` makes of the answer. -/
def answerValue {α : Type} (rest : HttpResponse → Except ThrownError α) (reply : Reply) :
    Option α :=
  match reply.http with
  | .failed _ _ => none
  | .response response => (rest response).toOption

section Fetching

variable {quiet : Request × Reply → Prop} {replies : Nat → Reply} {n m : Nat} {s : Surroundings}
  {α β : Type} {provider : String} {input : HttpRequest}
  {rest : HttpResponse → Except ThrownError α} {o : Option Hindrance}

/-- A request that fails, or whose answer has an error status. -/
theorem fetchOk_stops (provider : String) (hQuiet : quiet (.fetch input, replies n))
    (hFails : ∀ response, FailsAmbiguously (rest response)) {hindrance : Hindrance}
    (h : answerHindrance rest (replies n) = some hindrance) :
    ∃ e, (fetchOk provider input >>= fun response => (liftM (rest response) : Promise α)).Stops
      quiet replies n e ∧ hindrance.Shows e := by
  have hRun : (fetchOk provider input).run replies n =
      ⟨[(.fetch input, replies n)], okResponse provider (replies n).http⟩ := run_ask_lift _ _
  have hExchange (x : Request × Reply) (hMem : x ∈ [(Request.fetch input, replies n)]) :
      quiet x := by
    obtain rfl := List.mem_singleton.mp hMem
    exact hQuiet
  unfold answerHindrance at h
  split at h
  case h_1 error departed hHttp =>
    obtain rfl := Option.some.inj h
    rw [hHttp] at hRun
    have hStops : (fetchOk provider input).Stops quiet replies n error.toThrown :=
      ⟨by rw [hRun]; rfl, by rw [hRun]; exact hExchange⟩
    exact ⟨_, hStops.bind, iff_of_true (ambiguous_plain error) not_false⟩
  case h_2 response hHttp =>
    rw [hHttp] at hRun
    split at h
    case isTrue hOk =>
      have hPasses : (fetchOk provider input).Passes quiet replies n (n + 1) response :=
        ⟨by rw [hRun]; simp only [okResponse, hOk, if_true], by rw [hRun]; exact hExchange,
          by rw [hRun]; rfl⟩
      cases hRest : rest response with
      | ok a => simp only [hRest, failing, reduceCtorEq] at h
      | error e =>
        simp only [hRest, failing, Option.some.injEq] at h
        subst h
        refine ⟨e, hPasses.bind_stops ?_, iff_of_true (hFails response e hRest) not_false⟩
        rw [hRest]
        exact Stops.throw quiet replies (n + 1) e
    case isFalse hStatus =>
      obtain rfl := Option.some.inj h
      have hStops : (fetchOk provider input).Stops quiet replies n
          (.socialApiHttpError provider response.status) :=
        ⟨by rw [hRun]; simp only [okResponse, hStatus, if_false, Bool.false_eq_true],
          by rw [hRun]; exact hExchange⟩
      exact ⟨_, hStops.bind, ambiguous_socialApiHttpError_iff⟩

theorem fetchOk_passes (provider : String) (hQuiet : quiet (.fetch input, replies n))
    (h : answerHindrance rest (replies n) = none) :
    ∃ response a, (replies n).http = .response response ∧ rest response = .ok a ∧
      (fetchOk provider input).Passes quiet replies n (n + 1) response := by
  have hRun : (fetchOk provider input).run replies n =
      ⟨[(.fetch input, replies n)], okResponse provider (replies n).http⟩ := run_ask_lift _ _
  unfold answerHindrance at h
  split at h
  case h_1 => cases h
  case h_2 response hHttp =>
    rw [hHttp] at hRun
    split at h
    case isFalse => cases h
    case isTrue hOk =>
      cases hRest : rest response with
      | error e => simp only [hRest, failing, reduceCtorEq] at h
      | ok a =>
        refine ⟨response, a, hHttp, hRest, by rw [hRun]; simp only [okResponse, hOk, if_true],
          fun x hMem => ?_, by rw [hRun]; rfl⟩
        rw [hRun] at hMem
        obtain rfl := List.mem_singleton.mp hMem
        exact hQuiet

theorem hindered_fetchOk (hQuiet : quiet (.fetch input, replies n))
    (hFails : ∀ response, FailsAmbiguously (rest response)) :
    (fetchOk provider input >>= fun response => (liftM (rest response) : Promise α)).Hindered
      quiet Hindrance.Shows replies n (answerHindrance rest (replies n)) (n + 1) := by
  cases h : answerHindrance rest (replies n) with
  | some hindrance => exact fetchOk_stops provider hQuiet hFails h
  | none =>
    obtain ⟨response, a, -, hRest, hPasses⟩ := fetchOk_passes provider hQuiet h
    refine ⟨a, hPasses.bind ?_⟩
    rw [hRest]
    exact Passes.pure quiet replies (n + 1) a

/-- What follows a preparatory request may use the value of its answer. -/
theorem reaches_after_fetchOk (hQuiet : quiet (.fetch input, replies n))
    (hFails : ∀ response, FailsAmbiguously (rest response)) {f : α → Promise β}
    (hNext : ∀ a, answerValue rest (replies n) = some a →
      (f a).Reaches quiet Hindrance.Shows replies (n + 1) o) :
    (fetchOk provider input >>= fun response => (liftM (rest response) : Promise α) >>= f).Reaches
      quiet Hindrance.Shows replies n (answerHindrance rest (replies n) <|> o) := by
  cases h : answerHindrance rest (replies n) with
  | some hindrance =>
    obtain ⟨e, hStops, hShows⟩ := fetchOk_stops provider hQuiet hFails h
    rw [← bind_assoc]
    exact ⟨e, hStops.bind, hShows⟩
  | none =>
    obtain ⟨response, a, hHttp, hRest, hPasses⟩ := fetchOk_passes provider hQuiet h
    have hValue : answerValue rest (replies n) = some a := by
      simp only [answerValue, hHttp, hRest, Except.toOption]
    refine hPasses.bind_reaches ?_
    rw [hRest]
    exact hNext a hValue

end Fetching

/-- A request that is not quiet counts as soon as it is made. -/
theorem fetchOk_reaches {quiet : Request × Reply → Prop} {replies : Nat → Reply} {n : Nat}
    {provider : String} {input : HttpRequest} (h : ¬ quiet (.fetch input, replies n)) :
    (fetchOk provider input).Reaches quiet Hindrance.Shows replies n none := by
  have hRun : (fetchOk provider input).run replies n =
      ⟨[(.fetch input, replies n)], okResponse provider (replies n).http⟩ := run_ask_lift _ _
  exact ⟨(.fetch input, replies n), by rw [hRun]; exact List.mem_singleton_self _, h⟩

/-! ## The request that counts

`o` is what hinders that request itself. -/

section Reaching

variable {quiet : Request × Reply → Prop} {replies : Nat → Reply} {n m : Nat} {s : Surroundings}
  {provider invalidUrl : String} {emptyOn204 : Bool} {input : HttpRequest} {o : Option Hindrance}

theorem reaches_requestJson (hPost : input.method = .post)
    (h : (fetchOk provider input).Reaches quiet Hindrance.Shows replies n o) :
    (requestJson s provider invalidUrl emptyOn204 input).Reaches quiet Hindrance.Shows replies n
      o := by
  unfold requestJson withQuery
  rw [if_neg (by simp [hPost])]
  exact h.bind

theorem reaches_requestLinkedIn
    (h : (fetchOk "LinkedIn" input).Reaches quiet Hindrance.Shows replies n o) :
    (FetchLinkedInHttpClient.request s input).Reaches quiet Hindrance.Shows replies n
      (unmet ((s.setting "LINKEDIN_API_VERSION").any fun version => isDigits version 6)
        .configuration <|> o) :=
  (hindered_require .configuration (ambiguous_serviceUnavailable _) not_false).bind_reaches
    fun _ => h.bind

/-- What hinders a reservation in the ledger, with the reply to the INSERT. -/
def reservationHindrance (s : Surroundings) (operation : XUsageOperation) (insert : Reply) :
    Option Hindrance :=
  failing (XApiCostService.estimate s operation) .configuration <|>
    unmet (s.setting "DATABASE_URL").isSome .configuration <|>
    failing (PgXUsageLedger.reservationId insert.reserve) .ledger

theorem hindered_reserve (hQuiet : ∀ x : Request × Reply, x.1.isFetch = false → quiet x)
    (reservation : XUsageReservation) :
    (PgXUsageLedger.reserve s reservation).Hindered quiet Hindrance.Shows replies n
      (unmet (s.setting "DATABASE_URL").isSome .configuration <|>
        failing (PgXUsageLedger.reservationId (replies n).reserve) .ledger) (n + 1) :=
  (hindered_require .configuration (ambiguous_serviceUnavailable _) not_false).bind fun _ =>
    Hindered.ask_bind (hQuiet _ rfl) (hindered_lift .ledger (reservationId_fails _) not_false)

/-- The settlement never fails, and is no provider request. -/
theorem settle_passes (hQuiet : ∀ x : Request × Reply, x.1.isFetch = false → quiet x)
    (id : Text) (outcome : XUsageOutcome) (reference : Option Text) (n : Nat) :
    (XAdapter.settleWithoutBreakingPublication s id outcome reference).Passes quiet replies
      n (if (s.setting "DATABASE_URL").isSome then n + 1 else n) () := by
  unfold XAdapter.settleWithoutBreakingPublication
  by_cases hDatabase : (s.setting "DATABASE_URL").isSome = true
  · rw [if_pos hDatabase]
    have hRun : (PgXUsageLedger.settle s id outcome reference).run replies n =
        ⟨[(.settle id outcome reference, replies n)],
          (replies n).settle.mapError PlainError.toThrown⟩ := by
      unfold PgXUsageLedger.settle PgXUsageLedger.requireDatabase require
      rw [if_pos hDatabase]
      exact run_ask_lift _ _
    have hAsked (x : Request × Reply)
        (hMem : x ∈ [(Request.settle id outcome reference, replies n)]) : quiet x := by
      obtain rfl := List.mem_singleton.mp hMem
      exact hQuiet _ rfl
    cases hSettle : (replies n).settle.mapError PlainError.toThrown with
    | ok =>
      rw [hSettle] at hRun
      exact Passes.catching ⟨by rw [hRun], by rw [hRun]; exact hAsked, by rw [hRun]; rfl⟩
    | error e =>
      rw [hSettle] at hRun
      refine Stops.caught (e := e) ⟨by rw [hRun], by rw [hRun]; exact hAsked⟩ ?_
      rw [hRun]
      exact Passes.pure quiet replies (n + 1) ()
  · rw [if_neg hDatabase]
    unfold PgXUsageLedger.settle PgXUsageLedger.requireDatabase require
    rw [if_neg hDatabase]
    exact Passes.pure quiet replies n ()

/-- The handler of `billed` throws again what the request threw. -/
theorem rethrown (hQuiet : ∀ x : Request × Reply, x.1.isFetch = false → quiet x) (id : Text)
    (e : ThrownError) (n : Nat) :
    (do
      XAdapter.settleWithoutBreakingPublication s id .failed none
      Program.throw e : Promise ClientResponse).Stops quiet replies n e := by
  exact (settle_passes hQuiet id .failed none n).bind_stops (Stops.throw quiet replies _ e)

theorem reaches_billed (hQuiet : ∀ x : Request × Reply, x.1.isFetch = false → quiet x)
    {credential : PublishingCredential} {operation : XUsageOperation}
    {request : Promise ClientResponse}
    (h : request.Reaches quiet Hindrance.Shows replies (n + 1) o) :
    (XAdapter.billed s credential operation request).Reaches quiet Hindrance.Shows replies n
      (reservationHindrance s operation (replies n) <|> o) := by
  unfold reservationHindrance
  rw [hindrance_assoc]
  refine (hindered_lift .configuration (estimate_fails _) not_false).bind_reaches fun quote =>
    (hindered_reserve hQuiet _).bind_reaches fun id => Reaches.catching h.bind ?_
  exact fun e m => rethrown hQuiet id e m

end Reaching

end SocialPromotion
