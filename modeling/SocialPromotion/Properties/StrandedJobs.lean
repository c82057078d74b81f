import SocialPromotion.Properties.DrivenJobs

/-!
# No stranded job

The database counts the failures of a job and sets `next_retry_at`; BullMQ counts the attempts of a
delivery and sets its backoff. Where all parties read one clock,

* `kept_byClock`: BullMQ makes the retry that the row waits for when the row can be claimed again;
* `no_stranded_job`: in every run in which BullMQ delivers, a job is waiting for a dispatcher, or
  its delivery is unfinished, or one of its own executions broke off.
-/

namespace SocialPromotion

open LTS Database PublishWorkerProcessor PublishingService PgPublishOutboxRepository

-- ---------------------------------------------------------------------------
-- One clock
-- ---------------------------------------------------------------------------

/-- What a party reads off its clock in the step. -/
def Event.date? : Event → Option Time
  | .reconcile _ _ date | .publish _ date | .adapterReturns _ _ date | .dispatcher _ _ date _
  | .take _ _ date | .settle _ date => some date
  | _ => none

/-- BullMQ alone starts executions, and all parties read one clock. -/
def OneClock (s : PublishingState) (e : Event) : Prop :=
  e.isByHand = false ∧ e.date?.all (fun date => date = s.clock) = true

instance (s : PublishingState) (e : Event) : Decidable (OneClock s e) :=
  inferInstanceAs (Decidable (_ = _ ∧ _ = _))

/-- The processor of the job has died. -/
def PublishingState.processorDied (s : PublishingState) (q : Nat) : Bool :=
  match s.queue[q]?.bind s.processorOf with
  | some (.crashed _) => true
  | _ => false

/-- BullMQ takes a job back only from a processor that died: the others renew their locks. -/
def LocksRenewed (s : PublishingState) (e : Event) : Prop :=
  e.takenBack?.all s.processorDied = true

instance (s : PublishingState) (e : Event) : Decidable (LocksRenewed s e) :=
  inferInstanceAs (Decidable (_ = _))

/-- BullMQ does as the executions are promised: it starts each, by the one clock, and leaves its
job to it for as long as its process lives. -/
def Delivers (s : PublishingState) (e : Event) : Prop :=
  OneClock s e ∧ LocksRenewed s e

instance (s : PublishingState) (e : Event) : Decidable (Delivers s e) :=
  inferInstanceAs (Decidable (_ ∧ _))

theorem OneClock.date {s : PublishingState} {e : Event} {date : Time} (h : OneClock s e)
    (hDate : e.date? = some date) : date = s.clock := by
  have hAll := h.2
  rw [hDate] at hAll
  exact of_decide_eq_true hAll

theorem LocksRenewed.died {s : PublishingState} {q i : Nat} {again : Bool} {job : QueuedJob}
    {w : Worker} (h : LocksRenewed s (.stalled q again)) (hJob : s.queue[q]? = some job)
    (hActive : job.state = .active i) (hWorker : s.workers[i]? = some w) :
    ∃ call, w.state = .crashed call := by
  have hProcessor : s.queue[q]?.bind s.processorOf = some w.state := by
    rw [hJob, Option.bind_some, processorOf_active hActive hWorker]
  have hDied : s.processorDied q = true := h
  unfold PublishingState.processorDied at hDied
  rw [hProcessor] at hDied
  split at hDied
  · rename_i call hState
    exact ⟨call, Option.some.inj hState⟩
  · cases hDied

/-- Every execution of the job so far has ended by what it recorded, or runs. -/
def Unbroken (s : PublishingState) (j : JobId) : Prop :=
  ∀ (i : Nat) (w : Worker), s.workers[i]? = some w → w.publishJobId = j → w.state.isBroken = false

-- ---------------------------------------------------------------------------
-- Retries by the clock
-- ---------------------------------------------------------------------------

/-- After `count` failures, a retry is due a backoff after `clock` at the latest. -/
def RetriesBy (clock : Time) (count : Nat) (nextRetryAt : Option Time) : Prop :=
  ∃ delay time, retryDelayForFailure count = .ok delay ∧ nextRetryAt = some time ∧
    time ≤ clock + delay

/-- After `n` failures, the row can be claimed from `clock` on. -/
structure DueRow (clock : Time) (n : Nat) (row : SocialPublishJob) : Prop where
  count : row.retryCount = n
  scheduled : row.scheduledAt ≤ clock
  status : row.status = .waiting ∨ (row.status = .retrying ∨ row.status = .remoteRequesting) ∧
    ∃ time, row.nextRetryAt = some time ∧ time ≤ clock

/-- A failure that the call will record has its retry by then. -/
def Timed (clock : Time) : Call → Prop
  | .saveFailed _ job _ _ retryPending nextRetryAt
  | .recordAmbiguous _ job retryPending nextRetryAt =>
    retryPending = true → RetriesBy clock job.retryCount nextRetryAt
  | _ => True

/-- The execution has begun when the row was due, after `n` failures, and what it has left of a job
that is not done is a retry in time. -/
def OnTime (clock : Time) (n : Nat) (row : SocialPublishJob) : State → Prop
  | .running call => row.retryCount = n ∧ row.scheduledAt ≤ clock ∧
      (call = .claimPublishJob → DueRow clock n row) ∧ Timed clock call
  | .ended (.jobFailed _ _) => row.retryCount = n + 1 ∧ row.scheduledAt ≤ clock ∧
      RetriesBy clock (n + 1) row.nextRetryAt
  | _ => False

section OnTime

variable {cfg : Config} {s t : PublishingState} {e : Event} {clock clock' : Time} {n : Nat}
  {row job failed : SocialPublishJob} {claimed : ClaimedPublishJob} {j : JobId}
  {delivery : QueuedJob}

theorem RetriesBy.mono {count : Nat} {nextRetryAt : Option Time} (hLe : clock ≤ clock')
    (h : RetriesBy clock count nextRetryAt) : RetriesBy clock' count nextRetryAt := by
  obtain ⟨delay, time, hDelay, hTime, hBound⟩ := h
  exact ⟨delay, time, hDelay, hTime, hBound.trans (Nat.add_le_add_right hLe delay)⟩

theorem DueRow.mono (hLe : clock ≤ clock') (h : DueRow clock n row) : DueRow clock' n row := by
  refine ⟨h.count, h.scheduled.trans hLe, ?_⟩
  rcases h.status with hWaiting | ⟨hStatus, time, hTime, hDue⟩
  · exact Or.inl hWaiting
  · exact Or.inr ⟨hStatus, time, hTime, hDue.trans hLe⟩

/-- The time of a pending retry is read off the clock. -/
theorem retriesBy_of_nextRetry {retryPending : Bool} {count : Nat} {nextRetryAt : Option Time}
    (h : nextRetry retryPending clock count = .ok nextRetryAt) (hRetry : retryPending = true) :
    RetriesBy clock count nextRetryAt := by
  unfold nextRetry at h
  rw [if_pos hRetry] at h
  cases hDelay : retryDelayForFailure count with
  | error e =>
    rw [hDelay] at h
    cases h
  | ok delay =>
    rw [hDelay] at h
    injection h with h
    exact ⟨delay, clock + delay, hDelay, h.symm, le_rfl⟩

theorem Timed.mono {call : Call} (hLe : clock ≤ clock') (h : Timed clock call) :
    Timed clock' call := by
  cases call with
  | saveFailed | recordAmbiguous => exact fun hRetry => (h hRetry).mono hLe
  | _ => trivial

theorem OnTime.mono {state : State} (hLe : clock ≤ clock') (h : OnTime clock n row state) :
    OnTime clock' n row state := by
  cases state with
  | running call =>
    obtain ⟨hCount, hTime, hDue, hTimed⟩ := h
    exact ⟨hCount, hTime.trans hLe, fun hClaim => (hDue hClaim).mono hLe, hTimed.mono hLe⟩
  | ended outcome =>
    cases outcome with
    | jobFailed => exact ⟨h.1, h.2.1.trans hLe, h.2.2.mono hLe⟩
    | _ => exact h
  | crashed => exact h

/-- A call that is about to record a failure is timed by the clock. -/
def TimedNext (clock : Time) (state : State) : Prop :=
  ∀ call, state = .running call → call ≠ .claimPublishJob ∧ Timed clock call

theorem TimedNext.of_call {call : Call} (hNotClaim : call ≠ .claimPublishJob)
    (h : Timed clock call) : TimedNext clock (.running call) := by
  intro call' hSame
  injection hSame with hSame
  exact hSame ▸ ⟨hNotClaim, h⟩

theorem TimedNext.of_ended {outcome : Outcome} : TimedNext clock (.ended outcome) :=
  fun _ h => by cases h

theorem timedNext_defer : TimedNext clock (deferAmbiguousRemoteOutcome claimed job clock) := by
  unfold deferAmbiguousRemoteOutcome
  dsimp only
  cases hNext : nextRetry (decide ((deferredJob job).retryCount ≤ 3)) clock
      (deferredJob job).retryCount with
  | ok nextRetryAt => exact .of_call (fun h => by cases h) (retriesBy_of_nextRetry hNext)
  | error e => exact .of_ended

theorem timedNext_afterPublish {execution : PublishExecution} :
    TimedNext clock (afterPublish claimed job clock execution) := by
  cases execution with
  | ok confirmed result => exact .of_call (fun h => by cases h) trivial
  | failed failed error failure =>
    simp only [afterPublish]
    split
    · exact .of_call (fun h => by cases h) trivial
    · cases hNext : nextRetry (shouldRetryPublish failure failed.retryCount) clock
          failed.retryCount with
      | ok nextRetryAt => exact .of_call (fun h => by cases h) (retriesBy_of_nextRetry hNext)
      | error e => exact .of_ended

theorem timedNext_heard {call : Call} {state : State} (hOk : OneClock s e)
    (h : Hears cfg e call state) : TimedNext s.clock state := by
  cases h with
  | reconciledFirst =>
    obtain rfl := hOk.date rfl
    unfold afterReconcileFirst
    split
    · exact .of_ended
    · exact .of_call (fun h => by cases h) trivial
    · split
      · exact .of_call (fun h => by cases h) trivial
      · exact timedNext_defer
  | reconciledAfter =>
    obtain rfl := hOk.date rfl
    unfold afterReconcileAfter
    split
    · exact .of_ended
    · exact .of_call (fun h => by cases h) trivial
    · exact timedNext_defer
  | called => exact .of_call (fun h => by cases h) trivial
  | settled | answered =>
    obtain rfl := hOk.date rfl
    exact timedNext_afterPublish

/-- A row that is due can be claimed. -/
theorem DueRow.claimable (h : DueRow clock n row) :
    claimableStatus clock row = true ∧ Named row := by
  constructor
  · unfold claimableStatus
    rcases h.status with hWaiting | ⟨hRetrying | hRequesting, time, hTime, hDue⟩
    · rw [hWaiting]
    · simp [hRetrying, due, hTime, hDue]
    · simp [hRequesting, due, hTime, hDue]
  · intro hConfirmed
    rcases h.status with hStatus | ⟨hStatus | hStatus, -⟩
    all_goals
      rw [hConfirmed] at hStatus
      cases hStatus

/-- **A write** leaves the retry that its failure has. -/
theorem onTime_matched {w : Worker} {db : Database} {call : Call} (hAt : AtCall row call)
    (hCond : call.condition w clock db row = true)
    (hProgress : Progress (call.set w clock row) (call.matched w db (call.set w clock row)))
    (h : OnTime clock n row (.running call)) :
    OnTime clock n (call.set w clock row) (call.matched w db (call.set w clock row)) := by
  obtain ⟨hCount, hTime, -, hTimed⟩ := h
  cases call with
  | claimPublishJob =>
    simp only [Call.matched] at hProgress ⊢
    cases hPost : db.posts.lookup (Call.claimPublishJob.set w clock row).postId with
    | none =>
      rw [hPost] at hProgress
      exact hProgress.elim
    | some post =>
      rw [Option.map_some]
      unfold afterClaim
      dsimp only
      split
      · exact ⟨hCount, hTime, fun h => by (cases h), trivial⟩
      · split
        · exact ⟨hCount, hTime, fun h => by (cases h), trivial⟩
        · exact ⟨hCount, hTime, fun h => by (cases h), trivial⟩
  | saveRecovered | savePublished => exact hProgress.elim
  | reconcileFirst | publish | adapterPublish | reconcileAfter => simp [Call.condition] at hCond
  | markReconciled | markRequest | confirm => exact ⟨hCount, hTime, fun h => by (cases h), trivial⟩
  | saveFailed claimed job error failure retryPending nextRetryAt =>
    cases retryPending with
    | false => exact hProgress.elim
    | true =>
      have hNew : job.retryCount = n + 1 := by rw [hAt.2, hCount]
      exact ⟨hNew, hTime, hNew ▸ hTimed rfl⟩
  | recordAmbiguous claimed deferred retryPending nextRetryAt =>
    cases retryPending with
    | false => exact hProgress.elim
    | true =>
      have hNew : deferred.retryCount = n + 1 := by rw [hAt.2, hCount]
      exact ⟨hNew, hTime, hNew ▸ hTimed rfl⟩

/-- The backoff of BullMQ is over when the retry that the row waits for is due. -/
theorem due_of_settled {context : PublishWorkerLogContext} {message : String}
    (hAttempts : delivery.attempts = PUBLISH_MAX_ATTEMPTS)
    (hProgress : Progress job (.ended (.jobFailed context message)))
    (h : OnTime s.clock delivery.attemptsMade job (.ended (.jobFailed context message))) :
    (delivery.settled s.clock (.jobFailed context message)).state = .waiting ∧
      DueRow (delivery.settled s.clock (.jobFailed context message)).availableAt
        (delivery.settled s.clock (.jobFailed context message)).attemptsMade job := by
  obtain ⟨hCount, hTime, delay, time, hDelay, hNext, hBound⟩ := h
  have hWithin := retryDelayForFailure_isOk_iff.mp ⟨delay, hDelay⟩
  have hMore : delivery.attemptsMade + 1 < delivery.attempts := by
    rw [hAttempts]
    simp only [PUBLISH_MAX_ATTEMPTS, PUBLISH_RETRY_DELAYS_MS, List.length_cons, List.length_nil]
    omega
  have hBackoff : retryDelayForBullMq (delivery.attemptsMade + 1) = .ok delay := by
    have hSame : min (max (delivery.attemptsMade + 1) 1) PUBLISH_RETRY_DELAYS_MS.length =
        delivery.attemptsMade + 1 := by
      simp only [PUBLISH_RETRY_DELAYS_MS, List.length_cons, List.length_nil]
      omega
    rw [retryDelayForBullMq, hSame, hDelay]
  have hSettled : delivery.settled s.clock (.jobFailed context message) = { delivery with
      attemptsMade := delivery.attemptsMade + 1
      availableAt := s.clock + delay
      state := .waiting } := by
    simp only [QueuedJob.settled, if_pos hMore, hBackoff]
    rfl
  rw [hSettled]
  exact ⟨rfl, hCount, hTime.trans (Nat.le_add_right _ _),
    Or.inr ⟨hProgress, time, hNext, hBound⟩⟩

/-- A broken execution stays broken. -/
theorem Unbroken.of_step (hKind : StepKind cfg s e t) (h : Unbroken t j) : Unbroken s j := by
  intro i w hWorker hJob
  by_contra hBroken
  have hStopped : ∀ call, w.state ≠ .running call := by
    intro call hState
    rw [hState] at hBroken
    exact hBroken rfl
  exact hBroken (h i w (worker_stays hKind hWorker hStopped) hJob)

/-- The jobs whose executions have all recorded how they ended, by one clock. -/
def byClock : Watch where
  watched := Unbroken
  waits := fun _ available n job => DueRow available n job
  runs := fun s n job state => OnTime s.clock n job state

theorem Delivers.starts (h : Delivers s e) : StartedByQueue s e where
  started := h.1.1
  stopped := by
    rintro q i again delivery w rfl hQueued hActive hWorker
    obtain ⟨call, hCrashed⟩ := h.2.died hQueued hActive hWorker
    rw [hCrashed]
    rfl

/-- **By one clock** the retries of BullMQ and those of the database agree. -/
theorem kept_byClock : byClock.Kept cfg Delivers where
  starts := Delivers.starts
  watched hMove := fun h => h.of_step (step_kind hMove)
  waits _ := id
  runs hMove := fun h => h.mono (clock_le_of_step hMove)
  added hWaiting hCount hTime := ⟨hCount, hTime, Or.inl hWaiting⟩
  taken hOk hAvailable hWaits := by
    have hDue := hWaits.mono (hAvailable.trans (hOk.1.date rfl).le)
    exact ⟨hDue.count, hDue.scheduled, fun _ => hDue, trivial⟩
  claims _ _ _ _ _ _ hRuns := by
    have hDue := hRuns.2.2.1 rfl
    exact ⟨hDue.scheduled, hDue.claimable⟩
  heard hOk hHeard hRuns := by
    obtain ⟨hNotClaim, hTimed⟩ := timedNext_heard hOk.1 hHeard _ rfl
    exact ⟨hRuns.1, hRuns.2.1, fun h => absurd h hNotClaim, hTimed⟩
  wrote hAt hCond hProgress hRuns := onTime_matched hAt hCond hProgress hRuns
  raised hWatched hWorker hOwn hState := by
    have hBroken := hWatched _ _ hWorker hOwn
    rw [hState] at hBroken
    cases hBroken
  crashed hWatched hWorker hOwn hState _ := by
    have hBroken := hWatched _ _ hWorker hOwn
    rw [hState] at hBroken
    cases hBroken
  settled hOk hCarries _ _ _ _ hEnded hProgress hRuns := by
    obtain rfl := hOk.1.date rfl
    rw [hEnded] at hProgress hRuns
    cases ‹Outcome› with
    | jobFailed context message => exact due_of_settled hCarries.attempts hProgress hRuns
    | _ => exact hRuns.elim
  stalled hOk hCarries hActive hWorker _ _ hRuns := by
    obtain ⟨call, hCrashed⟩ := hOk.2.died hCarries.sole.queued hActive hWorker
    rw [hCrashed] at hRuns
    exact hRuns.elim

end OnTime

-- ---------------------------------------------------------------------------
-- What drives a job on
-- ---------------------------------------------------------------------------

/-- Something drives the job on by the hand-off of its outbox row. -/
inductive Driven (s : PublishingState) (job : SocialPublishJob) (row : OutboxRow) : Prop
  /-- A run of `dispatchPending` will hand it over. -/
  | pending (hMarked : row.enqueuedAt = none) : Driven s job row
  /-- BullMQ will deliver it, and from then on the claim matches. -/
  | delayed {delivery : QueuedJob} (hMem : delivery ∈ s.queue)
      (hId : delivery.jobId = row.queueJobId) (hWaiting : delivery.state = .waiting)
      (hClaims : ∀ now, delivery.availableAt ≤ now →
        claimable s.db now (some delivery.jobId) job = true) : Driven s job row
  /-- Its execution runs, or has ended by asking BullMQ for a retry. -/
  | running {delivery : QueuedJob} {i : Nat} {w : Worker} (hMem : delivery ∈ s.queue)
      (hId : delivery.jobId = row.queueJobId) (hActive : delivery.state = .active i)
      (hWorker : s.workers[i]? = some w) (hJob : w.publishJobId = job.id)
      (hRuns : (∃ call, w.state = .running call) ∨
        ∃ context message, w.state = .ended (.jobFailed context message)) : Driven s job row

section Driven

variable {cfg : Config} {s : PublishingState} {j : JobId} {job : SocialPublishJob}
  {row : OutboxRow}

/-- At each stage of its delivery a live job is driven on. -/
theorem driven_of_stage (hConsistent : OutboxConsistent s.db) (hJob : s.db.job? j = some job)
    (hLive : Live s.db job) (hRow : s.db.outbox.lookup j = some row) {q : Nat}
    {delivery : QueuedJob} (hSole : Sole s.queue row.queueJobId q delivery)
    (h : Stage byClock s job delivery) : Driven s job row := by
  have hMem := List.mem_of_getElem? hSole.queued
  cases h with
  | waiting hWaiting hWaits =>
    refine .delayed hMem hSole.jobId hWaiting fun now hNow => ?_
    obtain ⟨status, hStatus, hDraft, -⟩ := hLive.post hConsistent hJob
    have hDue : DueRow now delivery.attemptsMade job := DueRow.mono hNow hWaits
    have hCurrent : deliveryIsCurrent s.db job.id (some delivery.jobId) = true := by
      unfold deliveryIsCurrent
      rw [job?_id hJob, hRow]
      exact decide_eq_true hSole.jobId.symm
    simp [claimable, hDue.scheduled, hStatus, hDraft, hCurrent, hDue.claimable.1]
  | @active i w hActive hWorker hOwn _ _ hRuns =>
    refine .running hMem hSole.jobId hActive hWorker hOwn ?_
    have hOnTime : OnTime s.clock delivery.attemptsMade job w.state := hRuns
    cases hState : w.state with
    | running call => exact Or.inl ⟨call, rfl⟩
    | ended outcome =>
      rw [hState] at hOnTime
      cases outcome with
      | jobFailed context message => exact Or.inr ⟨context, message, rfl⟩
      | _ => exact hOnTime.elim
    | crashed call =>
      rw [hState] at hOnTime
      exact hOnTime.elim

/-- **No job is stranded** in runs in which BullMQ delivers, by one clock and under locks that
last: it is waiting for a dispatcher, or for a delivery that comes when its claim matches, or its
execution runs; unless one of its own executions died or threw something else than a failure of the
publication. -/
theorem no_stranded_job (hReach : Reachable (publishingSystem cfg) Delivers s) :
    ∀ j job, s.db.job? j = some job → Live s.db job →
      (∃ row, s.db.outbox.lookup j = some row ∧ Driven s job row) ∨
        ∃ w ∈ s.workers, w.publishJobId = j ∧ w.state.isBroken = true := by
  intro j job hJob hLive
  by_cases hBroken : ∃ w ∈ s.workers, w.publishJobId = j ∧ w.state.isBroken = true
  · exact Or.inr hBroken
  · have hUnbroken : Unbroken s j := by
      intro i w hWorker hOwn
      by_contra hNot
      exact hBroken ⟨w, List.mem_of_getElem? hWorker, hOwn, Bool.eq_true_of_not_eq_false hNot⟩
    obtain ⟨row, hRow, hHandled⟩ :=
      (driving_reachable kept_byClock hReach).handled j job hJob hLive hUnbroken
    refine Or.inl ⟨row, hRow, ?_⟩
    cases hHandled with
    | undelivered hNone => exact .pending (unmarked_of_undelivered hReach hRow hNone)
    | delivered hSole _ _ hStage =>
      exact driven_of_stage (consistent_reachable hReach) hJob hLive hRow hSole hStage

end Driven

/-- Job 1 is approved, handed over and taken; the provider is busy, and BullMQ hears of it. -/
def retriedLater : List Event :=
  Installation.approved ++ [.dispatch 10 30000, .dispatcher 0 .returned 1000 [],
    .dispatcher 0 .returned 1000 [], .dispatcher 0 .returned 1000 [], .take 0 30000 1000,
    Installation.call 0, Installation.call 0, .publish 0 1000,
    .adapterReturns 0 (.error Installation.rateLimited) 1000, Installation.call 0, .settle 0 1000]

theorem no_stranded_job_retried : ∃ s job, s.db.job? 1 = some job ∧ job.status = .retrying ∧
    ∃ row, s.db.outbox.lookup 1 = some row ∧ Driven s job row := by
  obtain ⟨s, hReach, hEnd⟩ := exists_reachable_of_run
    (publishingSystem (Installation.config false false)) Delivers
    (fun s => ((s.db.job? 1).any fun job => job.status = .retrying) &&
      s.workers.all fun w => !w.state.isBroken) retriedLater (Installation.start_initial _)
    (by decide +kernel)
  rw [Bool.and_eq_true] at hEnd
  obtain ⟨job, hJob, hStatus⟩ := (Option.any_eq_true _ _).mp hEnd.1
  have hRetrying : job.status = .retrying := of_decide_eq_true hStatus
  have hLive : Live s.db job := by
    unfold Live
    rw [hRetrying]
    trivial
  refine ⟨s, job, hJob, hRetrying, ?_⟩
  rcases no_stranded_job hReach 1 job hJob hLive with hDriven | ⟨w, hMem, -, hBroken⟩
  · exact hDriven
  · have hNot := List.all_eq_true.mp hEnd.2 w hMem
    rw [hBroken] at hNot
    cases hNot

end SocialPromotion
