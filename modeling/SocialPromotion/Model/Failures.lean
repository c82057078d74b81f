import SocialPromotion.Lib.Utf16
import SocialPromotion.Model.Entities

/-!
# Publish failures and the retry policy

`publish-failure.ts` and `publish-retry.policy.ts`: how a thrown value is classified, and
how long a failed job waits before its next attempt.
-/

namespace SocialPromotion

/-- What the classification can observe of a thrown value: an HTTP status (of a
`SocialApiHttpError`, an `HttpException` or any object with a numeric `status`), whether it
is a `TypeError`, its string `code`, and the message if it is an `Error` at all. -/
structure ThrownError where
  status : Option Int
  isTypeError : Bool
  code : Option String
  message : Option String
deriving DecidableEq, Repr

namespace ThrownError

def error (message : String) : ThrownError := ⟨none, false, none, some message⟩
def typeError (message : String) : ThrownError := ⟨none, true, none, some message⟩
def rangeError (message : String) : ThrownError := ⟨none, false, none, some message⟩
def httpException (status : Int) (message : String) : ThrownError :=
  ⟨some status, false, none, some message⟩
def socialApiHttpError (platform : String) (status : Int) : ThrownError :=
  ⟨some status, false, none,
    some (platform ++ " API request failed (" ++ toString status ++ ").")⟩

end ThrownError

structure PublishFailure where
  code : PublishFailureCode
  retryable : Bool
  /-- The remote provider may have accepted the write even though this process lacks its
  result. -/
  ambiguous : Bool
  message : String
deriving DecidableEq, Repr

def isNetworkCode (error : ThrownError) : Bool :=
  match error.code with
  | some code => ["ECONNRESET", "ECONNREFUSED", "ETIMEDOUT", "ENOTFOUND", "EAI_AGAIN"].contains code
  | none => false

/-- `message.slice(0, n)`. -/
def sliceMessage (message : String) (n : Nat) : String :=
  String.ofList (Utf16.slice message.toList n)

def safeMessage (error : ThrownError) : String :=
  match error.message with
  | some message => sliceMessage message 500
  | none => "Unknown publishing error."

theorem length_safeMessage_le (error : ThrownError) :
    Utf16.length (safeMessage error).toList ≤ 500 := by
  unfold safeMessage
  split
  · rw [sliceMessage, String.toList_ofList]
    exact Utf16.length_slice_le _ 500
  · decide

def classifyPublishFailure (error : ThrownError) : PublishFailure :=
  let message := safeMessage error
  let networkOrUnknown : PublishFailure :=
    if error.isTypeError || isNetworkCode error then ⟨.networkError, true, true, message⟩
    else ⟨.unknownError, true, true, message⟩
  match error.status with
  | some status =>
    if status = 401 then ⟨.tokenExpired, false, false, message⟩
    else if status = 403 then ⟨.permissionDenied, false, false, message⟩
    else if status = 429 then ⟨.rateLimited, true, false, message⟩
    else if status ≥ 500 then ⟨.upstreamServerError, true, true, message⟩
    else if status ≥ 400 then ⟨.invalidRequest, false, false, message⟩
    else networkOrUnknown
  | none => networkOrUnknown

/-- Only a status from 400 to 499 says that the provider did not take the write. -/
theorem classifyPublishFailure_ambiguous_iff {error : ThrownError} :
    (classifyPublishFailure error).ambiguous = true ↔
      ∀ status, error.status = some status → ¬ (400 ≤ status ∧ status < 500) := by
  unfold classifyPublishFailure
  cases hStatus : error.status with
  | none => simp only [reduceCtorEq, false_implies, implies_true, iff_true]; split <;> rfl
  | some status =>
    simp only [Option.some.injEq, forall_eq', apply_ite PublishFailure.ambiguous, ite_self]
    grind

/-! ## Retry policy -/

/-- Delay after failure #1, #2, and #3. Failure #4 is terminal. -/
def PUBLISH_RETRY_DELAYS_MS : List Nat := [30000, 120000, 600000]

def PUBLISH_MAX_ATTEMPTS : Nat := PUBLISH_RETRY_DELAYS_MS.length + 1

/-- The array read `[failureCount - 1]` is `undefined` for a count of 0 as well as past
the last delay. -/
def retryDelayForFailure (failureCount : Nat) : Except ThrownError Nat :=
  match failureCount with
  | 0 => .error (.rangeError "No retry delay exists for a terminal publish failure.")
  | n + 1 =>
    match PUBLISH_RETRY_DELAYS_MS[n]? with
    | some delay => .ok delay
    | none => .error (.rangeError "No retry delay exists for a terminal publish failure.")

def retryDelayForBullMq (attemptsMade : Nat) : Except ThrownError Nat :=
  retryDelayForFailure (min (max attemptsMade 1) PUBLISH_RETRY_DELAYS_MS.length)

def shouldRetryPublish (failure : PublishFailure) (failureCount : Nat) : Bool :=
  failure.retryable && failureCount ≤ PUBLISH_RETRY_DELAYS_MS.length

/-- A delay exists exactly for the failures that are not terminal. -/
theorem retryDelayForFailure_isOk_iff {n : Nat} :
    (∃ delay, retryDelayForFailure n = .ok delay) ↔ 1 ≤ n ∧ n ≤ 3 := by
  match n with
  | 0 => simp [retryDelayForFailure]
  | 1 => simp [retryDelayForFailure, PUBLISH_RETRY_DELAYS_MS]
  | 2 => simp [retryDelayForFailure, PUBLISH_RETRY_DELAYS_MS]
  | 3 => simp [retryDelayForFailure, PUBLISH_RETRY_DELAYS_MS]
  | n + 4 => simp [retryDelayForFailure, PUBLISH_RETRY_DELAYS_MS]

/-- BullMQ's own backoff never asks for a delay that does not exist. -/
theorem retryDelayForBullMq_isOk (attemptsMade : Nat) :
    ∃ delay, retryDelayForBullMq attemptsMade = .ok delay := by
  refine retryDelayForFailure_isOk_iff.mpr ⟨?_, ?_⟩
  · simp only [PUBLISH_RETRY_DELAYS_MS, List.length_cons, List.length_nil]
    omega
  · exact Nat.min_le_right ..

theorem shouldRetryPublish_iff {failure : PublishFailure} {n : Nat} :
    shouldRetryPublish failure n = true ↔ failure.retryable = true ∧ n ≤ 3 := by
  simp [shouldRetryPublish, PUBLISH_RETRY_DELAYS_MS]

end SocialPromotion
