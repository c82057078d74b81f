import SocialPromotion.Properties.DrivenJobs

/-!
# Redelivery

Only a delivery of BullMQ moves a job on, and `process` acknowledges every delivery whose claim
matches no row. A delivery that BullMQ takes back from a process that died can come before the lease
of that process is over, and then it is the last one.

* `live_job_delivered`: where every claim comes in time, and an execution that threw something else
  leaves its delivery an attempt, the delivery of a live job is unfinished in every state;
* `stranded_by_early_redelivery`: a redelivery during the lease of the dead process finishes it.
-/

namespace SocialPromotion

open LTS Database PublishWorkerProcessor PublishingService PgPublishOutboxRepository

-- ---------------------------------------------------------------------------
-- What BullMQ promises
-- ---------------------------------------------------------------------------

/-- BullMQ gives up a job that it takes back. -/
def Event.givesUp : Event → Bool
  | .stalled _ again => !again
  | _ => false

/-- The execution of the job of place `q` has died or ended. -/
def PublishingState.processorStopped (s : PublishingState) (q : Nat) : Bool :=
  (s.queue[q]?.bind s.processorOf).all fun state => !state.isRunning

/-- BullMQ starts every execution, takes a job back only from one that has died or ended, and then
delivers it again. -/
def Redelivers (s : PublishingState) (e : Event) : Prop :=
  e.isByHand = false ∧ e.givesUp = false ∧ e.takenBack?.all s.processorStopped = true

instance (s : PublishingState) (e : Event) : Decidable (Redelivers s e) :=
  inferInstanceAs (Decidable (_ = _ ∧ _ = _ ∧ _ = _))

/-- The hand-off of an outbox row is still to come, or BullMQ has not finished with it. -/
def StillDelivered (s : PublishingState) (row : OutboxRow) : Prop :=
  row.enqueuedAt = none ∨ ∃ delivery ∈ s.queue, delivery.jobId = row.queueJobId ∧
    delivery.state ≠ .finished ∧ delivery.state ≠ .removed

instance (s : PublishingState) (row : OutboxRow) : Decidable (StillDelivered s row) :=
  inferInstanceAs (Decidable (_ ∨ ∃ delivery ∈ s.queue, _))

-- ---------------------------------------------------------------------------
-- What it takes
-- ---------------------------------------------------------------------------

instance (db : Database) (job : SocialPublishJob) : Decidable (Live db job) := by
  unfold Live
  exact match job.status with
    | .waiting => inferInstanceAs (Decidable (_ ≠ _))
    | .retrying | .claimed | .remoteRequesting | .remoteConfirmed => isTrue trivial
    | .published | .failed | .cancelled => isFalse id

/-- The job is live, and a delivery under the id is that of its outbox row. -/
def Awaits (s : PublishingState) (job : SocialPublishJob) (queueJobId : Option QueueJobId) : Prop :=
  Live s.db job ∧ deliveryIsCurrent s.db job.id queueJobId = true

instance (s : PublishingState) (job : SocialPublishJob) (queueJobId : Option QueueJobId) :
    Decidable (Awaits s job queueJobId) :=
  inferInstanceAs (Decidable (_ ∧ _))

/-- The time of the job, the retry that it waits for and the lease of an earlier execution are over,
and a confirmed row says which remote post it is. -/
def ClaimDue (clock : Time) (job : SocialPublishJob) : Prop :=
  job.scheduledAt ≤ clock ∧ claimableStatus clock job = true ∧ Named job

instance (clock : Time) (job : SocialPublishJob) : Decidable (ClaimDue clock job) :=
  inferInstanceAs (Decidable (_ ∧ _ ∧ _))

/-- The execution whose call to the repository returns. -/
def Event.answered? : Event → Option Nat
  | .repository i .returned => some i
  | _ => none

/-- A claim of a job by its own delivery comes when the job is due. -/
def ClaimsInTime (s : PublishingState) (e : Event) : Prop :=
  ∀ i ∈ e.answered?, ∀ w ∈ s.workers[i]?, w.state = .running .claimPublishJob →
    ∀ job ∈ s.db.job? w.publishJobId, Awaits s job w.queueJobId → ClaimDue s.clock job

instance (s : PublishingState) (e : Event) : Decidable (ClaimsInTime s e) := by
  unfold ClaimsInTime
  infer_instance

/-- An execution of the job threw something else than a failure that it had recorded. -/
def Raised (s : PublishingState) (j : JobId) : Prop :=
  ∃ w ∈ s.workers, w.publishJobId = j ∧ w.state = .ended .raised

instance (s : PublishingState) (j : JobId) : Decidable (Raised s j) :=
  inferInstanceAs (Decidable (∃ w ∈ s.workers, w.publishJobId = j ∧ w.state = .ended .raised))

/-- The job of place `q`, whose execution has ended. -/
def Event.settled? : Event → Option Nat
  | .settle q _ => some q
  | _ => none

/-- The execution has ended by throwing, and not for good. -/
def PublishWorkerProcessor.State.hasThrown : State → Bool
  | .ended (.jobFailed ..) | .ended .raised => true
  | _ => false

/-- Once an execution of a job has raised, its delivery has an attempt left when one throws. -/
def LeavesAttempt (s : PublishingState) (e : Event) : Prop :=
  ∀ q ∈ e.settled?, ∀ delivery ∈ s.queue[q]?, ∀ state ∈ s.processorOf delivery,
    state.hasThrown = true → ∀ job ∈ s.db.job? delivery.data.publishJobId,
      Awaits s job (some delivery.jobId) → Raised s job.id →
        delivery.attemptsMade + 1 < delivery.attempts

instance (s : PublishingState) (e : Event) : Decidable (LeavesAttempt s e) := by
  unfold LeavesAttempt
  infer_instance

/-- BullMQ redelivers, and no delivery of a live job comes too early or is used up. -/
def RedeliversInTime (s : PublishingState) (e : Event) : Prop :=
  Redelivers s e ∧ ClaimsInTime s e ∧ LeavesAttempt s e

instance (s : PublishingState) (e : Event) : Decidable (RedeliversInTime s e) :=
  inferInstanceAs (Decidable (_ ∧ _ ∧ _))

-- ---------------------------------------------------------------------------
-- Attempts
-- ---------------------------------------------------------------------------

/-- The row has counted a failure for each attempt that BullMQ has counted, unless an execution
raised. -/
def Counts (s : PublishingState) (n : Nat) (job : SocialPublishJob) : State → Prop
  | .ended (.jobFailed ..) => Raised s job.id ∨ n + 1 ≤ job.retryCount
  | .ended .raised => Raised s job.id
  | _ => Raised s job.id ∨ n ≤ job.retryCount

section Counts

variable {cfg : Config} {s t : PublishingState} {e : Event} {n q i : Nat} {j : JobId}
  {job : SocialPublishJob} {row : OutboxRow} {delivery : QueuedJob} {w : Worker} {state : State}

theorem Raised.of_step (hMove : (publishingSystem cfg).step s e = some t) (h : Raised s j) :
    Raised t j := by
  obtain ⟨w, hMem, hJob, hState⟩ := h
  obtain ⟨i, hWorker⟩ := List.getElem?_of_mem hMem
  refine ⟨w, List.mem_of_getElem? (worker_stays (step_kind hMove) hWorker fun call hRuns => ?_),
    hJob, hState⟩
  rw [hState] at hRuns
  cases hRuns

theorem Counts.of_step (hMove : (publishingSystem cfg).step s e = some t)
    (h : Counts s n job state) : Counts t n job state := by
  cases state with
  | running | crashed => exact h.imp_left (Raised.of_step hMove)
  | ended outcome =>
    cases outcome with
    | raised => exact Raised.of_step hMove h
    | _ => exact h.imp_left (Raised.of_step hMove)

/-- No attempt is lost when a delivery is taken back. -/
theorem Counts.le (h : Counts s n job state) : Raised s job.id ∨ n ≤ job.retryCount := by
  cases state with
  | running | crashed => exact h
  | ended outcome =>
    cases outcome with
    | raised => exact Or.inl h
    | jobFailed => exact h.imp_right Nat.le_of_succ_le
    | _ => exact h

/-- **A write** counts the failure that it records. -/
theorem counts_matched {call : Call} {db : Database} {now : Time} (hAt : AtCall job call)
    (hCond : call.condition w now db job = true)
    (hProgress : Progress (call.set w now job) (call.matched w db (call.set w now job)))
    (h : Counts s n job (.running call)) :
    Counts s n (call.set w now job) (call.matched w db (call.set w now job)) := by
  have hCounts : Raised s job.id ∨ n ≤ job.retryCount := h
  cases call with
  | claimPublishJob =>
    simp only [Call.matched] at hProgress ⊢
    cases hPost : db.posts.lookup (Call.claimPublishJob.set w now job).postId with
    | none =>
      rw [hPost] at hProgress
      exact hProgress.elim
    | some post =>
      rw [Option.map_some]
      unfold afterClaim
      dsimp only
      split
      · exact hCounts
      · split
        · exact hCounts
        · exact hCounts
  | saveRecovered | savePublished => exact hProgress.elim
  | reconcileFirst | publish | adapterPublish | reconcileAfter => simp [Call.condition] at hCond
  | markReconciled | markRequest | confirm => exact hCounts
  | saveFailed claimed failed error failure retryPending nextRetryAt =>
    cases retryPending with
    | false => exact hProgress.elim
    | true => exact hCounts.imp_right fun hLe => (Nat.succ_le_succ hLe).trans hAt.2.ge
  | recordAmbiguous claimed deferred retryPending nextRetryAt =>
    cases retryPending with
    | false => exact hProgress.elim
    | true => exact hCounts.imp_right fun hLe => (Nat.succ_le_succ hLe).trans hAt.2.ge

/-- **A throw** leaves the delivery an attempt. -/
theorem counts_settled {date : Time} (hOk : LeavesAttempt s (.settle q date))
    (hCarries : CarriesHandOff s job row q delivery) (hBound : job.retryCount ≤ 3)
    (hActive : delivery.state = .active i) (hWorker : s.workers[i]? = some w)
    (hThrown : w.state.hasThrown = true)
    (hCounts : Raised s job.id ∨ delivery.attemptsMade + 1 ≤ job.retryCount) :
    delivery.attemptsMade + 1 < delivery.attempts := by
  rcases hCounts with hRaised | hCounted
  · have hCurrent : deliveryIsCurrent s.db job.id (some delivery.jobId) = true := by
      unfold deliveryIsCurrent
      rw [hCarries.outbox]
      exact decide_eq_true hCarries.sole.jobId.symm
    exact hOk q rfl delivery hCarries.sole.queued w.state (processorOf_active hActive hWorker)
      hThrown job (hCarries.ofJob ▸ hCarries.stored) ⟨hCarries.live, hCurrent⟩ hRaised
  · rw [hCarries.attempts]
    simp only [PUBLISH_MAX_ATTEMPTS, PUBLISH_RETRY_DELAYS_MS, List.length_cons, List.length_nil]
    omega

end Counts

-- ---------------------------------------------------------------------------
-- The delivery of a live job
-- ---------------------------------------------------------------------------

section Redelivered

variable {cfg : Config} {s : PublishingState} {e : Event}

/-- All jobs, whatever has become of their executions. -/
def untilDone : Watch where
  watched := fun _ _ => True
  waits := fun s _ n job => Raised s job.id ∨ n ≤ job.retryCount
  runs := Counts

theorem Redelivers.starts (h : Redelivers s e) : StartedByQueue s e where
  started := h.1
  stopped := by
    rintro q i again delivery w rfl hQueued hActive hWorker
    have hStopped : s.processorStopped q = true := h.2.2
    unfold PublishingState.processorStopped at hStopped
    rw [hQueued, Option.bind_some, processorOf_active hActive hWorker] at hStopped
    exact Bool.not_eq_true' _ |>.mp hStopped

theorem kept_untilDone : untilDone.Kept cfg RedeliversInTime where
  starts hOk := hOk.1.starts
  watched _ := id
  waits hMove := Or.imp_left (Raised.of_step hMove)
  runs hMove := Counts.of_step hMove
  added _ _ _ := Or.inr (Nat.zero_le _)
  taken _ _ hWaits := hWaits
  claims hOk hWorker hState hJob hLive hCurrent _ :=
    hOk.2.1 _ rfl _ hWorker hState _ hJob ⟨hLive, hCurrent⟩
  heard _ _ hRuns := hRuns
  wrote hAt hCond hProgress hRuns := counts_matched hAt hCond hProgress hRuns
  raised _ hWorker hOwn hState := by
    rw [hState]
    exact ⟨_, List.mem_of_getElem? hWorker, hOwn, hState⟩
  crashed _ _ _ hState hRuns := by
    rw [hState]
    exact hRuns
  settled hOk hCarries hBound hActive hWorker _ hEnded hProgress hRuns := by
    rw [hEnded] at hProgress hRuns
    have hMore := fun hThrown hCounts =>
      counts_settled hOk.2.2 hCarries hBound hActive hWorker (hEnded ▸ hThrown) hCounts
    cases ‹Outcome› with
    | jobFailed context message =>
      rw [QueuedJob.settled, if_pos (hMore rfl hRuns)]
      exact ⟨rfl, hRuns⟩
    | raised =>
      rw [QueuedJob.settled, if_pos (hMore rfl (Or.inl hRuns))]
      exact ⟨rfl, Or.inl hRuns⟩
    | resolved | jobTerminal => exact hProgress.elim
  stalled hOk _ _ _ _ _ hRuns := ⟨by simpa [Event.givesUp] using hOk.1.2.1, hRuns.le⟩

/-- **The delivery of a live job is unfinished** in every run in which BullMQ delivers again what a
dead process had, no claim comes too early, and an execution that raises does not use up the last
attempt. -/
theorem live_job_delivered (hReach : Reachable (publishingSystem cfg) RedeliversInTime s) :
    ∀ j job, s.db.job? j = some job → Live s.db job →
      ∃ row, s.db.outbox.lookup j = some row ∧ StillDelivered s row := by
  intro j job hJob hLive
  obtain ⟨row, hRow, hHandled⟩ :=
    (driving_reachable kept_untilDone hReach).handled j job hJob hLive trivial
  refine ⟨row, hRow, ?_⟩
  cases hHandled with
  | undelivered hNone => exact Or.inl (unmarked_of_undelivered hReach hRow hNone)
  | delivered hSole _ _ hStage =>
    exact Or.inr ⟨_, List.mem_of_getElem? hSole.queued, hSole.jobId, hStage.not_finished⟩

end Redelivered

/-- Job 1 is approved and handed over. -/
def handedOver : List Event :=
  Installation.approved ++ [.dispatch 10 30000, .dispatcher 0 .returned 1000 [],
    .dispatcher 0 .returned 1000 [], .dispatcher 0 .returned 1000 []]

/-- The claim of the first execution fails, the second dies after its claim, and the third claims
the job after the lease of the second. -/
def redelivered : List Event :=
  handedOver ++ [.take 0 30000 1000, .repository 0 (.threw Installation.connectionLost false),
    .settle 0 1000, .tick 30000, .take 0 30000 31000, Installation.call 1, .crash 1, .tick 60000,
    .stalled 0 true, .take 0 30000 91000, Installation.call 2]

theorem live_job_delivered_again : ∃ s job row, s.db.job? 1 = some job ∧ job.status = .claimed ∧
    Raised s 1 ∧ s.db.outbox.lookup 1 = some row ∧ row.enqueuedAt.isSome ∧
    StillDelivered s row := by
  obtain ⟨s, hReach, hEnd⟩ := exists_reachable_of_run
    (publishingSystem (Installation.config false false)) RedeliversInTime
    (fun s => ((s.db.job? 1).any fun job => job.status = .claimed) && decide (Raised s 1) &&
      (s.db.outbox.lookup 1).any fun row => row.enqueuedAt.isSome) redelivered
    (Installation.start_initial _) (by decide +kernel)
  rw [Bool.and_eq_true, Bool.and_eq_true] at hEnd
  obtain ⟨⟨hJob, hRaised⟩, hMarked⟩ := hEnd
  obtain ⟨job, hJob, hStatus⟩ := (Option.any_eq_true _ _).mp hJob
  obtain ⟨row, hRow, hMarked⟩ := (Option.any_eq_true _ _).mp hMarked
  have hClaimed : job.status = .claimed := of_decide_eq_true hStatus
  have hLive : Live s.db job := by
    unfold Live
    rw [hClaimed]
    trivial
  obtain ⟨row', hRow', hDelivered⟩ := live_job_delivered hReach 1 job hJob hLive
  rw [hRow, Option.some.injEq] at hRow'
  exact ⟨s, job, row, hJob, hClaimed, of_decide_eq_true hRaised, hRow, hMarked, hRow' ▸ hDelivered⟩

/-- Under a lease of an hour the first execution dies after its claim, and BullMQ delivers the job
again a minute later. -/
def redeliveredEarly : List Event :=
  handedOver ++ [.take 0 3600000 1000, Installation.call 0, .crash 0, .tick 60000, .stalled 0 true,
    .take 0 3600000 61000, Installation.call 1, .settle 0 61000]

theorem stranded_by_early_redelivery : ∃ s job,
    Reachable (publishingSystem (Installation.config false false)) Redelivers s ∧
    s.db.job? 1 = some job ∧ job.status = .claimed ∧
    ¬ ∃ row, s.db.outbox.lookup 1 = some row ∧ StillDelivered s row := by
  obtain ⟨s, hReach, hEnd⟩ := exists_reachable_of_run
    (publishingSystem (Installation.config false false)) Redelivers
    (fun s => ((s.db.job? 1).any fun job => job.status = .claimed) &&
      (s.db.outbox.lookup 1).all fun row => !decide (StillDelivered s row)) redeliveredEarly
    (Installation.start_initial _) (by decide +kernel)
  rw [Bool.and_eq_true] at hEnd
  obtain ⟨job, hJob, hStatus⟩ := (Option.any_eq_true _ _).mp hEnd.1
  refine ⟨s, job, hReach, hJob, of_decide_eq_true hStatus, fun ⟨row, hRow, hDelivered⟩ => ?_⟩
  have hNot := hEnd.2
  rw [hRow, Option.all_some, decide_eq_true hDelivered] at hNot
  cases hNot

end SocialPromotion
