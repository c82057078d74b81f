import SocialPromotion.Model.Worker
import SocialPromotion.Properties.CertainFailure
import SocialPromotion.Sending.Publication

/-!
# An ambiguous failure may have published

An ambiguous failure keeps the key of the job, and with it the job from every retry. That is
meant for requests whose outcome is unknown, but the classifier reads the status of the error
alone, and most of what goes wrong before the request throws an error without a status or with
one of the framework's own 5xx.

Results:

* `ambiguous_sent_iff`: an ambiguous failure means a publish request that left the process,
  exactly where what hinders the run before it, if anything does, is a refusal;
* `blank_commentary_ambiguous`: a blank override makes the LinkedIn adapter fail at once, and
  ambiguously;
* `unsent_failure_eligible`: where the failure is certain, the row it leaves can be retried and
  cancelled.
-/

namespace SocialPromotion

open Program

/-- Whether the request had left this process when its reply was in. -/
def FetchAnswer.departed : FetchAnswer → Bool
  | .response _ => true
  | .failed _ departed => departed

/-- A publish request that was sent to the provider. -/
def Sent (x : Request × Reply) : Prop := x.1.publishes = true ∧ x.2.http.departed = true

/-- A publish request is hindered where it does not leave. -/
def departureHindrance (reply : Reply) : Option Hindrance :=
  if reply.http.departed then none else some .unsent

theorem countsPublishing_sent (replies : Nat → Reply) :
    CountsOnlyPublishing (fun x => ¬ Sent x) replies departureHindrance where
  others x hOther hSent := by
    obtain ⟨request, reply⟩ := x
    cases request with
    | fetch => cases hOther
    | _ => exact absurd hSent.1 Bool.false_ne_true
  prepares x hPrepares hSent := by
    rw [hSent.1] at hPrepares
    cases hPrepares
  fetch provider input n hPublishes := by
    unfold departureHindrance
    by_cases hDeparted : (replies n).http.departed = true
    · rw [if_pos hDeparted]
      exact fetchOk_reaches (not_not.mpr ⟨hPublishes, hDeparted⟩)
    · rw [if_neg hDeparted]
      have hRun : (fetchOk provider input).run replies n =
          ⟨[(.fetch input, replies n)], okResponse provider (replies n).http⟩ := run_ask_lift _ _
      cases hHttp : (replies n).http with
      | response response => exact absurd (by rw [hHttp]; rfl) hDeparted
      | failed error departed =>
        refine ⟨error.toThrown, ⟨by rw [hRun, hHttp]; rfl, fun x hMem => ?_⟩,
          iff_of_true (ambiguous_plain error) not_false⟩
        rw [hRun] at hMem
        obtain rfl := List.mem_singleton.mp hMem
        exact fun hSent => hDeparted hSent.2

/-- An ambiguous failure only after a publish request was sent. -/
def PossiblyPublished (publication : PublishingService.Publication) : Prop :=
  ∀ failed error failure, publication.execution = .failed failed error failure →
    failure.ambiguous = true → ∃ x ∈ publication.exchanges, Sent x

section Publication

variable {s : Surroundings} {replies : Replies Reply} {post : Post} {job : SocialPublishJob}
  {formatted : SocialPost} {request : PublishRequest}

theorem publish_eq (hStart : PublishingService.publishStart s.cfg post job =
    .call formatted request) : PublishingService.publish s replies post job =
      ⟨((adapterPublish s job.platform formatted).run replies).exchanges,
        PublishingService.publishFinish job
          ((adapterPublish s job.platform formatted).run replies).result⟩ := by
  simp only [PublishingService.publish, hStart]

/-- **An ambiguous failure means that the publish request was sent, exactly where what hinders
the run before that, if anything does, is a refusal of the account or of the provider.** -/
theorem ambiguous_sent_iff (hStart : PublishingService.publishStart s.cfg post job =
    .call formatted request) :
    PossiblyPublished (PublishingService.publish s replies post job) ↔
      ∀ h ∈ PublishingService.hindrance s job.platform formatted replies departureHindrance,
        h.Refusal := by
  have hReaches := @reaches_adapterPublish _ _ s formatted _
    (countsPublishing_sent replies.main) (fun i => countsPublishing_sent (replies.task i))
    job.platform
  unfold PossiblyPublished
  rw [publish_eq hStart]
  cases hHindrance :
    PublishingService.hindrance s job.platform formatted replies departureHindrance with
  | none =>
    rw [hHindrance] at hReaches
    obtain ⟨x, hMem, hSent⟩ := hReaches
    exact iff_of_true (fun _ _ _ _ _ => ⟨x, hMem, not_not.mp hSent⟩) nofun
  | some hindrance =>
    rw [hHindrance] at hReaches
    obtain ⟨e, hError, hQuiet, hShows⟩ := hReaches
    have hFailed : PublishingService.publishFinish job
        ((adapterPublish s job.platform formatted).run replies).result =
          PublishingService.failedWith job e := by
      rw [hError]
      rfl
    have hNothing : ¬ ∃ x ∈ ((adapterPublish s job.platform formatted).run replies).exchanges,
        Sent x := fun ⟨x, hMem, hSent⟩ => hQuiet x hMem hSent
    constructor
    · intro hPossibly h hMem
      obtain rfl := Option.some.inj hMem
      refine not_not.mp fun hOther => hNothing ?_
      exact hPossibly _ _ _ hFailed (hShows.mpr hOther)
    · intro hRefusal failed error failure hExecution hAmbiguous
      rw [hFailed] at hExecution
      have hCertain := hShows.not.mpr (not_not.mpr (hRefusal hindrance rfl))
      rw [failure_of_failedWith hExecution] at hAmbiguous
      exact absurd hAmbiguous hCertain

/-- The job of a publication that failed unsent, where the failure is certain as it should be:
its row has no key, so nothing but its status decides about a retry or a cancellation. -/
theorem unsent_failure_eligible {publication : PublishingService.Publication}
    (h : PossiblyPublished publication) (hUnsent : ∀ x ∈ publication.exchanges, ¬ Sent x)
    {failed : SocialPublishJob} {error : ThrownError} {failure : PublishFailure}
    (hFailed : publication.execution = .failed failed error failure) (retryPending : Bool)
    (nextRetryAt : Option Time) (row : SocialPublishJob) :
    failure.ambiguous = false ∧
      (PgPublishOutboxRepository.failedRow failed retryPending nextRetryAt row).remoteRequestKey =
        none ∧
      PostService.blocksCancel (PgPublishOutboxRepository.failedRow failed retryPending nextRetryAt
        row) = false := by
  refine ⟨?_, rfl, ?_⟩
  · rw [← Bool.not_eq_true]
    exact fun hAmbiguous =>
      let ⟨x, hMem, hSent⟩ := h failed error failure hFailed hAmbiguous
      hUnsent x hMem hSent
  · cases retryPending <;> rfl

end Publication

/-- Everything is configured and LinkedIn is ready to answer, but the adapter asks for a
commentary before it sends anything. -/
theorem blank_commentary_ambiguous :
    ¬ PossiblyPublished (PublishingService.publish Deployment.surroundings
      (Deployment.replies .linkedin (.response ⟨201, fun _ => some ['u'], .ok .null⟩))
      Deployment.blankCommentary (Deployment.job .linkedin)) := by
  intro h
  let error := ThrownError.typeError "LinkedIn commentary is required."
  have hFailed : (PublishingService.publish Deployment.surroundings
      (Deployment.replies .linkedin (.response ⟨201, fun _ => some ['u'], .ok .null⟩))
      Deployment.blankCommentary (Deployment.job .linkedin)).execution =
      .failed (PublishingService.fail (Deployment.job .linkedin) .networkError (safeMessage error))
        error (classifyPublishFailure error) := by decide +kernel
  obtain ⟨x, hMem, -⟩ := h _ _ _ hFailed (by decide +kernel)
  exact absurd hMem List.not_mem_nil

/-- The connection is lost once the post is on its way to LinkedIn. -/
def Deployment.hungUp : Replies Reply :=
  Deployment.replies .linkedin (.failed ⟨true, none, none⟩ true)

theorem ambiguous_sent_iff_lost :
    PossiblyPublished (PublishingService.publish Deployment.surroundings Deployment.hungUp
      Deployment.post (Deployment.job .linkedin)) :=
  have hStart : PublishingService.publishStart Deployment.surroundings.cfg Deployment.post
      (Deployment.job .linkedin) =
        .call (Deployment.formatted .linkedin (.linkedin "T\n\nHi".toList)) ⟨.socialPublish 1⟩ := rfl
  (ambiguous_sent_iff hStart).mpr (by decide +kernel)

end SocialPromotion
