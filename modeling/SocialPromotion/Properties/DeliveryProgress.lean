import SocialPromotion.Properties.HandOff
import SocialPromotion.Properties.RowLifecycle
import SocialPromotion.Steps.Deliveries

/-!
# How far a delivery has got

A job that is neither done nor given up moves only when BullMQ delivers the hand-off of its outbox
row, and BullMQ delivers it again only after the execution threw or its process died.

* `attached_reachable`: an execution that runs is that of an active job of the queue;
* `progress_heard`, `progress_matched`: an execution goes on with the row where it expects it, until
  it ends by asking for a retry, or the job is done;
* `handled_queue`: BullMQ keeps the delivery of a live job unfinished, where the runs keep what a
  `Watch` says of it.
-/

namespace SocialPromotion

open LTS Database PublishWorkerProcessor PublishingService PgPublishOutboxRepository

-- ---------------------------------------------------------------------------
-- Executions and deliveries
-- ---------------------------------------------------------------------------

/-- `process` is called by something else than BullMQ. -/
def Event.isByHand : Event → Bool
  | .process .. => true
  | _ => false

/-- The job that BullMQ takes back from its processor. -/
def Event.takenBack? : Event → Option Nat
  | .stalled q _ => some q
  | _ => none

/-- BullMQ alone starts executions, and it takes a job back only from one that no longer runs. -/
structure StartedByQueue (s : PublishingState) (e : Event) : Prop where
  started : e.isByHand = false
  stopped : ∀ {q i : Nat} {again : Bool} {delivery : QueuedJob} {w : Worker},
    e = .stalled q again → s.queue[q]? = some delivery → delivery.state = .active i →
    s.workers[i]? = some w → w.state.isRunning = false

/-- An execution that runs is that of an active job of the queue, whose ids it was given. -/
def Attached (s : PublishingState) : Prop :=
  ∀ (i : Nat) (w : Worker), s.workers[i]? = some w → w.state.isRunning = true →
    ∃ (q : Nat) (job : QueuedJob), s.queue[q]? = some job ∧ job.state = .active i ∧
      w.queueJobId = some job.jobId ∧ w.publishJobId = job.data.publishJobId

section Attached

variable {cfg : Config} {s t : PublishingState} {e : Event} {j : JobId}

/-- An active job whose execution has not ended stays as it is. -/
theorem active_kept (hOk : StartedByQueue s e)
    (hMove : (publishingSystem cfg).step s e = some t) {q i : Nat}
    {job : QueuedJob} {w : Worker} (hJob : s.queue[q]? = some job) (hActive : job.state = .active i)
    (hWorker : s.workers[i]? = some w) (hRunning : w.state.isRunning = true) :
    t.queue[q]? = some job := by
  obtain ⟨job', hJob', -⟩ := delivery_kept hMove hJob
  have hSame : ∀ old, s.queue[q]? = some old → old = job := by
    intro old hOld
    rw [hJob, Option.some.injEq] at hOld
    exact hOld.symm
  have hExecution : ∀ {i' : Nat} {w' : Worker}, job.state = .active i' → s.workers[i']? = some w' →
      w' = w := by
    intro i' w' hActive' hWorker'
    rw [hActive, DeliveryState.active.injEq] at hActive'
    rw [← hActive', hWorker, Option.some.injEq] at hWorker'
    exact hWorker'.symm
  cases delivery_change hMove hJob' with
  | kept hOld => exact hSame _ hOld ▸ hJob'
  | added hIndex =>
    have hLt := (List.getElem?_eq_some_iff.mp hJob).1
    omega
  | taken _ hOld hWaiting =>
    rw [hSame _ hOld, hActive] at hWaiting
    cases hWaiting
  | settled _ hOld hActive' hWorker' hEnded =>
    rw [hExecution (hSame _ hOld ▸ hActive') hWorker'] at hEnded
    rw [hEnded] at hRunning
    cases hRunning
  | stalled hEvent hOld hActive' hWorker' =>
    have hStopped := hOk.stopped hEvent hOld hActive' hWorker'
    rw [hExecution (hSame _ hOld ▸ hActive') hWorker', hRunning] at hStopped
    cases hStopped
  | removed hOld hFinished =>
    rw [hSame _ hOld, hActive] at hFinished
    cases hFinished

/-- What `take` does. -/
theorem take_step {q leaseMs : Nat} {date : Time}
    (h : (publishingSystem cfg).step s (.take q leaseMs date) = some t) :
    ∃ job, s.queue[q]? = some job ∧ job.state = .waiting ∧ job.availableAt ≤ date ∧
      t.queue = s.queue.set q { job with state := .active s.workers.length } ∧
      t.workers = s.workers ++ [⟨job.data.publishJobId, leaseMs, job.attemptsMade + 1,
        some job.jobId, .running .claimPublishJob⟩] ∧ t.db = s.db := by
  simp only [publishingSystem, PublishingState.step, PublishingState.takeStep] at h
  split at h
  · rename_i job hJob
    split at h
    · rename_i hReady
      injection h with h
      subst h
      exact ⟨job, hJob, hReady.1, hReady.2, rfl, rfl, rfl⟩
    · cases h
  · cases h

/-- An execution after a step was there before, under the same ids, and ran if it runs now; or
BullMQ has started it. -/
theorem worker_origin (hOk : StartedByQueue s e) (hMove : (publishingSystem cfg).step s e = some t)
    {i : Nat} {w : Worker} (hGet : t.workers[i]? = some w) :
    (∃ old, s.workers[i]? = some old ∧ w.publishJobId = old.publishJobId ∧
        w.queueJobId = old.queueJobId ∧ (w.state.isRunning = true → old.state.isRunning = true)) ∨
      ∃ q leaseMs date job, e = .take q leaseMs date ∧ s.queue[q]? = some job ∧
        job.state = .waiting ∧ job.availableAt ≤ date ∧ i = s.workers.length ∧
        t.queue = s.queue.set q { job with state := .active s.workers.length } ∧
        w = ⟨job.data.publishJobId, leaseMs, job.attemptsMade + 1, some job.jobId,
          .running .claimPublishJob⟩ := by
  cases worker_change (step_kind hMove) hGet with
  | kept hWorker => exact Or.inl ⟨w, hWorker, rfl, rfl, id⟩
  | flowed hWorker hState | wrote hWorker hState =>
    exact Or.inl ⟨_, hWorker, rfl, rfl, fun _ => by rw [hState]; rfl⟩
  | started hIndex hState hJob =>
    cases e with
    | process => cases hOk.started
    | take q leaseMs date =>
      obtain ⟨job, hQueued, hWaiting, hDue, hQueue, hWorkers, -⟩ := take_step hMove
      refine Or.inr ⟨q, leaseMs, date, job, rfl, hQueued, hWaiting, hDue, hIndex, hQueue, ?_⟩
      rcases started_cases hWorkers hGet with ⟨-, hSame⟩ | hOld
      · exact hSame
      · have hLt := (List.getElem?_eq_some_iff.mp hOld).1
        omega
    | _ => cases hJob

theorem attached_step (hOk : StartedByQueue s e) (hMove : (publishingSystem cfg).step s e = some t)
    (h : Attached s) : Attached t := by
  intro i w hGet hRunning
  rcases worker_origin hOk hMove hGet with
    ⟨old, hWorker, hJob, hId, hRan⟩ | ⟨q, leaseMs, date, job, -, hQueued, -, -, rfl, hQueue, rfl⟩
  · obtain ⟨q, job, hQueued, hActive, hOldId, hOldJob⟩ := h i old hWorker (hRan hRunning)
    exact ⟨q, job, active_kept hOk hMove hQueued hActive hWorker (hRan hRunning), hActive,
      hId.trans hOldId, hJob.trans hOldJob⟩
  · refine ⟨q, { job with state := .active s.workers.length }, ?_, rfl, rfl, rfl⟩
    rw [hQueue, List.getElem?_set_self (List.getElem?_eq_some_iff.mp hQueued).1]

theorem attached_reachable {ok : PublishingState → Event → Prop}
    (hStarts : ∀ s e, ok s e → StartedByQueue s e) (h : Reachable (publishingSystem cfg) ok s) :
    Attached s := by
  refine h.invariant (I := Attached) (fun s hInit i w hGet => ?_)
    fun s e t hBefore hOk hMove => attached_step (hStarts s e hOk) hMove hBefore
  rw [hInit.2.2.1] at hGet
  cases hGet

end Attached

-- ---------------------------------------------------------------------------
-- How far an execution has got
-- ---------------------------------------------------------------------------

/-- Where the row stands when an execution is at a call, and how often the jobs that the execution
carries have failed. -/
def AtCall (row : SocialPublishJob) : Call → Prop
  | .claimPublishJob => True
  | .saveRecovered _ | .savePublished .. => row.status = .remoteConfirmed
  | .reconcileFirst claimed key => row.status = .claimed ∧ row.remoteRequestKey = some key ∧
      claimed.job.retryCount = row.retryCount
  | .markReconciled _ key _ | .markRequest _ key => row.status = .claimed ∧
      (row.remoteRequestKey = none ∨ row.remoteRequestKey = some key)
  | .publish _ job | .adapterPublish _ job _ => row.status = .remoteRequesting ∧
      job.retryCount = row.retryCount
  | .reconcileAfter _ _ failed => row.status = .remoteRequesting ∧
      failed.retryCount = row.retryCount + 1
  | .confirm .. => row.status = .remoteRequesting
  | .saveFailed _ job _ _ _ _ => row.status = .remoteRequesting ∧
      job.retryCount = row.retryCount + 1
  | .recordAmbiguous _ deferred _ _ => inFlight row = true ∧
      deferred.retryCount = row.retryCount + 1

/-- The same for an execution that may have stopped: of a job that is not done it has left a retry,
unless it broke off. -/
def Progress (row : SocialPublishJob) : State → Prop
  | .running call => AtCall row call
  | .ended (.jobFailed _ _) => row.status = .retrying ∨ row.status = .remoteRequesting
  | .ended .raised | .crashed _ => True
  | .ended (.resolved _) | .ended (.jobTerminal _ _) => False

/-- An execution that ends without having recorded how: its process died, or something else than
the publication threw. -/
def PublishWorkerProcessor.State.isBroken : State → Bool
  | .crashed _ | .ended .raised => true
  | _ => false

/-- What an execution goes on to when it hears from a provider. -/
inductive Hears (cfg : Config) : Event → Call → State → Prop
  | reconciledFirst {i : Nat} {answer : LookupAnswer} {date : Time} {claimed : ClaimedPublishJob}
      {key : RequestKey} : Hears cfg (.reconcile i answer date) (.reconcileFirst claimed key)
        (afterReconcileFirst cfg claimed key date
          (reconcile cfg claimed.post claimed.job answer date))
  | reconciledAfter {i : Nat} {answer : LookupAnswer} {date : Time} {claimed : ClaimedPublishJob}
      {job failed : SocialPublishJob} :
      Hears cfg (.reconcile i answer date) (.reconcileAfter claimed job failed)
        (afterReconcileAfter claimed job failed date (reconcile cfg claimed.post job answer date))
  | settled {i : Nat} {date : Time} {claimed : ClaimedPublishJob} {job : SocialPublishJob}
      {execution : PublishExecution}
      (hStart : publishStart cfg claimed.post job = .settled execution) :
      Hears cfg (.publish i date) (.publish claimed job) (afterPublish claimed job date execution)
  | called {i : Nat} {date : Time} {claimed : ClaimedPublishJob} {job : SocialPublishJob}
      (n : Nat) :
      Hears cfg (.publish i date) (.publish claimed job) (.running (.adapterPublish claimed job n))
  | answered {i n : Nat} {date : Time} {claimed : ClaimedPublishJob} {job : SocialPublishJob}
      {answer : Except ThrownError PublishResult} :
      Hears cfg (.adapterReturns i answer date) (.adapterPublish claimed job n)
        (afterPublish claimed job date (publishFinish job answer))

/-- The job is neither a draft's, nor done, nor given up. -/
def Live (db : Database) (job : SocialPublishJob) : Prop :=
  match job.status with
  | .waiting => db.postStatus? job.postId ≠ some .draft
  | .retrying | .claimed | .remoteRequesting | .remoteConfirmed => True
  | .published | .failed | .cancelled => False

/-- A confirmed row says which remote post it is. -/
def Named (row : SocialPublishJob) : Prop :=
  row.status = .remoteConfirmed → (nonEmpty row.remotePostId).isSome

instance (row : SocialPublishJob) : Decidable (Named row) :=
  inferInstanceAs (Decidable (_ → _))

section Progress

variable {cfg : Config} {clock : Time} {row job failed : SocialPublishJob}
  {claimed : ClaimedPublishJob} {j : JobId}

theorem progress_defer {date : Time} (hFlight : inFlight row = true)
    (hCount : (deferredJob job).retryCount = row.retryCount + 1) :
    Progress row (deferAmbiguousRemoteOutcome claimed job date) := by
  unfold deferAmbiguousRemoteOutcome
  dsimp only
  cases nextRetry (decide ((deferredJob job).retryCount ≤ 3)) date
      (deferredJob job).retryCount with
  | ok nextRetryAt => exact ⟨hFlight, hCount⟩
  | error e => trivial

/-- From the first `reconcile` on. -/
theorem progress_reconcileFirst {key : RequestKey} {date : Time}
    {answer : Except ThrownError PublishReconciliation}
    (h : AtCall row (.reconcileFirst claimed key))
    (hSound : Sound cfg j (.reconcileFirst claimed key)) :
    Progress row (afterReconcileFirst cfg claimed key date answer) := by
  obtain ⟨hStatus, hKey, hCount⟩ := h
  have hElse : Progress row (if canSafelyRepeatRemoteRequest cfg claimed.job.platform then
      State.running (.markRequest claimed key)
      else deferAmbiguousRemoteOutcome claimed claimed.job date) := by
    split
    · exact ⟨hStatus, Or.inr hKey⟩
    · refine progress_defer (by simp [inFlight, hStatus]) ?_
      show claimed.job.retryCount + (if claimed.job.status = .failed then 0 else 1) =
        row.retryCount + 1
      rw [if_neg hSound.2.2.2, hCount]
  cases answer with
  | error e => trivial
  | ok reconciliation =>
    cases reconciliation with
    | confirmed result => exact ⟨hStatus, Or.inr hKey⟩
    | _ => exact hElse

/-- From the second `reconcile` on. -/
theorem progress_reconcileAfter {date : Time} {answer : Except ThrownError PublishReconciliation}
    (h : AtCall row (.reconcileAfter claimed job failed))
    (hSound : Sound cfg j (.reconcileAfter claimed job failed)) :
    Progress row (afterReconcileAfter claimed job failed date answer) := by
  obtain ⟨hStatus, hCount⟩ := h
  have hDefer : Progress row (deferAmbiguousRemoteOutcome claimed failed date) := by
    refine progress_defer (by simp [inFlight, hStatus]) ?_
    show failed.retryCount + (if failed.status = .failed then 0 else 1) = row.retryCount + 1
    rw [if_pos hSound.2.2.1, hCount]
  cases answer with
  | error e => trivial
  | ok reconciliation =>
    cases reconciliation with
    | confirmed result => exact hStatus
    | _ => exact hDefer

/-- From `publish` on: a failure is counted once. -/
theorem progress_afterPublish {date : Time} {execution : PublishExecution}
    (hStatus : row.status = .remoteRequesting)
    (hFailed : ∀ failed error failure, execution = .failed failed error failure →
      failed.retryCount = row.retryCount + 1) :
    Progress row (afterPublish claimed job date execution) := by
  cases execution with
  | ok confirmed result => exact hStatus
  | failed failed error failure =>
    have hCount := hFailed _ _ _ rfl
    simp only [afterPublish]
    split
    · exact ⟨hStatus, hCount⟩
    · cases nextRetry (shouldRetryPublish failure failed.retryCount) date failed.retryCount with
      | ok nextRetryAt => exact ⟨hStatus, hCount⟩
      | error e => trivial

theorem failed_of_publishFinish {answer : Except ThrownError PublishResult} {error : ThrownError}
    {failure : PublishFailure} (h : publishFinish job answer = .failed failed error failure) :
    failed.retryCount = job.retryCount + 1 := by
  unfold publishFinish at h
  split at h
  · injection h with h
    exact h ▸ rfl
  · split at h
    · injection h with h
      exact h ▸ rfl
    · cases h

theorem failed_of_publishStart {post : Post} {error : ThrownError} {failure : PublishFailure}
    (hStatus : job.status = .remoteRequesting) (hKey : job.remoteRequestKey.isSome)
    (h : publishStart cfg post job = .settled (.failed failed error failure)) :
    failed.retryCount = job.retryCount + 1 := by
  unfold publishStart at h
  dsimp only at h
  split at h
  · rename_i hNot
    exact absurd hStatus hNot
  · split at h
    · rename_i hNone
      rw [hNone] at hKey
      cases hKey
    · split at h
      · injection h with h
        injection h with h
        exact h ▸ rfl
      · split at h
        · injection h with h
          injection h with h
          exact h ▸ rfl
        · cases h

/-- **What an execution hears** leads it to a call that the row is ready for. -/
theorem progress_heard {e : Event} {call : Call} {state : State} (h : AtCall row call)
    (hSound : Sound cfg j call) (hHeard : Hears cfg e call state) : Progress row state := by
  cases hHeard with
  | reconciledFirst => exact progress_reconcileFirst h hSound
  | reconciledAfter => exact progress_reconcileAfter h hSound
  | settled hStart =>
    refine progress_afterPublish h.1 fun failed error failure hFailed => ?_
    subst hFailed
    rw [failed_of_publishStart hSound.2.1 hSound.2.2.1 hStart, h.2]
  | called => exact h
  | answered =>
    refine progress_afterPublish h.1 fun failed error failure hFailed => ?_
    rw [failed_of_publishFinish hFailed, h.2]

/-- An execution goes on, or throws. -/
def GoesOn (state : State) : Prop :=
  (∃ call, state = .running call) ∨ state = .ended .raised

theorem goesOn_defer {date : Time} :
    GoesOn (deferAmbiguousRemoteOutcome claimed job date) := by
  unfold deferAmbiguousRemoteOutcome
  dsimp only
  split
  · exact Or.inl ⟨_, rfl⟩
  · exact Or.inr rfl

theorem goesOn_afterPublish {date : Time} {execution : PublishExecution} :
    GoesOn (afterPublish claimed job date execution) := by
  cases execution with
  | ok confirmed result => exact Or.inl ⟨_, rfl⟩
  | failed failed error failure =>
    simp only [afterPublish]
    split
    · exact Or.inl ⟨_, rfl⟩
    · split
      · exact Or.inl ⟨_, rfl⟩
      · exact Or.inr rfl

/-- Nothing that an execution hears from a provider is its end, but an error that `process` does
not catch. -/
theorem Hears.goesOn {e : Event} {call : Call} {state : State} (h : Hears cfg e call state) :
    GoesOn state := by
  cases h with
  | reconciledFirst =>
    unfold afterReconcileFirst
    split
    · exact Or.inr rfl
    · exact Or.inl ⟨_, rfl⟩
    · split
      · exact Or.inl ⟨_, rfl⟩
      · exact goesOn_defer
  | reconciledAfter =>
    unfold afterReconcileAfter
    split
    · exact Or.inr rfl
    · exact Or.inl ⟨_, rfl⟩
    · exact goesOn_defer
  | called => exact Or.inl ⟨_, rfl⟩
  | settled | answered => exact goesOn_afterPublish

/-- A claimed row goes on by its request key, a confirmed one to be saved. -/
theorem progress_afterClaim {post : Post} {leaseMs : Nat} (hNamed : Named row)
    (hChecks : row.Checks) :
    Progress (claimRow leaseMs clock row)
      (afterClaim (some ⟨post, claimRow leaseMs clock row⟩)) := by
  unfold afterClaim
  dsimp only
  rcases claimRow_status leaseMs clock row with ⟨hStatus, -⟩ | ⟨hStatus, hConfirmed⟩
  · rw [if_neg (by rw [hStatus]; exact fun h => by cases h.1)]
    split
    · rename_i key hKey
      exact ⟨hStatus, hKey, rfl⟩
    · rename_i hKey
      exact ⟨hStatus, Or.inl hKey⟩
  · have hAt := (hChecks.remoteReference (Or.inl hConfirmed)).1
    rw [if_pos ⟨hStatus, hNamed hConfirmed, hAt⟩]
    exact hStatus

/-- **A write** leaves the execution where the row says, or ends the job. -/
theorem progress_matched {w : Worker} {db : Database} {call : Call}
    (hCond : call.condition w clock db row = true) (h : AtCall row call) (hChecks : row.Checks)
    (hNamed : call = .claimPublishJob → Named row) :
    Progress (call.set w clock row) (call.matched w db (call.set w clock row)) ∨
      (call.set w clock row).status = .published ∨ (call.set w clock row).status = .failed := by
  cases call with
  | claimPublishJob =>
    obtain ⟨post, hPost, -⟩ := exists_post_of_claimable hCond
    have hPost' : db.posts.lookup (Call.claimPublishJob.set w clock row).postId = some post := hPost
    refine Or.inl ?_
    simp only [Call.matched, hPost', Option.map_some]
    exact progress_afterClaim (hNamed rfl) hChecks
  | saveRecovered | savePublished => exact Or.inr (Or.inl rfl)
  | reconcileFirst | publish | adapterPublish | reconcileAfter => simp [Call.condition] at hCond
  | markReconciled => exact Or.inl rfl
  | markRequest => exact Or.inl ⟨rfl, rfl⟩
  | confirm => exact Or.inl rfl
  | saveFailed claimed job error failure retryPending nextRetryAt =>
    cases retryPending with
    | false => exact Or.inr (Or.inr rfl)
    | true => exact Or.inl (Or.inl rfl)
  | recordAmbiguous claimed deferred retryPending nextRetryAt =>
    cases retryPending with
    | false => exact Or.inr (Or.inr rfl)
    | true => exact Or.inl (Or.inr rfl)

/-- A repository call after the claim finds the row as it expects it. -/
theorem condition_of_atCall {w : Worker} {db : Database} {call : Call}
    {after : State × Database} (h : AtCall row call) (hNotClaim : call ≠ .claimPublishJob)
    (hCall : repositoryCall w clock db call = some after) :
    call.condition w clock db row = true := by
  cases call with
  | claimPublishJob => exact absurd rfl hNotClaim
  | reconcileFirst | publish | adapterPublish | reconcileAfter => cases hCall
  | markReconciled | markRequest => exact decide_eq_true ⟨h.1, h.2⟩
  | confirm | saveRecovered | savePublished => exact decide_eq_true h
  | saveFailed => simp [Call.condition, inFlight, h.1]
  | recordAmbiguous => exact h.1

end Progress

-- ---------------------------------------------------------------------------
-- What a run keeps of its deliveries
-- ---------------------------------------------------------------------------

/-- The delivery is the only one under its id. -/
structure Sole (queue : List QueuedJob) (id : QueueJobId) (q : Nat) (delivery : QueuedJob) :
    Prop where
  queued : queue[q]? = some delivery
  jobId : delivery.jobId = id
  unique : ∀ (q' : Nat) (delivery' : QueuedJob), queue[q']? = some delivery' →
    delivery'.jobId = id → q' = q

/-- The delivery carries the hand-off of a live job. -/
structure CarriesHandOff (s : PublishingState) (job : SocialPublishJob) (row : OutboxRow) (q : Nat)
    (delivery : QueuedJob) : Prop where
  stored : s.db.job? job.id = some job
  live : Live s.db job
  outbox : s.db.outbox.lookup job.id = some row
  sole : Sole s.queue row.queueJobId q delivery
  ofJob : delivery.data.publishJobId = job.id
  attempts : delivery.attempts = PUBLISH_MAX_ATTEMPTS

/-- What the runs of a kind keep of the jobs they watch, beside where the rows stand: of a delivery
that is `available` from some time on, and of a job whose execution is in some state, when BullMQ
has counted `n` attempts before. -/
structure Watch where
  watched : PublishingState → JobId → Prop
  waits : PublishingState → Time → Nat → SocialPublishJob → Prop
  runs : PublishingState → Nat → SocialPublishJob → State → Prop

/-- The watch is kept, step by step, in the runs of `ok`. -/
structure Watch.Kept (cfg : Config) (ok : PublishingState → Event → Prop) (W : Watch) : Prop where
  starts : ∀ {s : PublishingState} {e : Event}, ok s e → StartedByQueue s e
  watched : ∀ {s t : PublishingState} {e : Event} {j : JobId},
    (publishingSystem cfg).step s e = some t → W.watched t j → W.watched s j
  waits : ∀ {s t : PublishingState} {e : Event} {available : Time} {n : Nat}
    {job : SocialPublishJob}, (publishingSystem cfg).step s e = some t →
    W.waits s available n job → W.waits t available n job
  runs : ∀ {s t : PublishingState} {e : Event} {n : Nat} {job : SocialPublishJob} {state : State},
    (publishingSystem cfg).step s e = some t → W.runs s n job state → W.runs t n job state
  added : ∀ {s : PublishingState} {available : Time} {job : SocialPublishJob},
    job.status = .waiting → job.retryCount = 0 → job.scheduledAt ≤ available →
    W.waits s available 0 job
  taken : ∀ {s : PublishingState} {q leaseMs n : Nat} {date available : Time}
    {job : SocialPublishJob}, ok s (.take q leaseMs date) → available ≤ date →
    W.waits s available n job → W.runs s n job (.running .claimPublishJob)
  /-- A claim finds its row. -/
  claims : ∀ {s : PublishingState} {i n : Nat} {w : Worker} {job : SocialPublishJob},
    ok s (.repository i .returned) → s.workers[i]? = some w →
    w.state = .running .claimPublishJob → s.db.job? w.publishJobId = some job → Live s.db job →
    deliveryIsCurrent s.db job.id w.queueJobId = true →
    W.runs s n job (.running .claimPublishJob) →
    job.scheduledAt ≤ s.clock ∧ claimableStatus s.clock job = true ∧ Named job
  heard : ∀ {s : PublishingState} {e : Event} {n : Nat} {job : SocialPublishJob}
    {call call' : Call}, ok s e → Hears cfg e call (.running call') →
    W.runs s n job (.running call) → W.runs s n job (.running call')
  wrote : ∀ {s : PublishingState} {n : Nat} {job : SocialPublishJob} {w : Worker} {call : Call},
    AtCall job call → call.condition w s.clock s.db job = true →
    Progress (call.set w s.clock job) (call.matched w s.db (call.set w s.clock job)) →
    W.runs s n job (.running call) →
    W.runs s n (call.set w s.clock job) (call.matched w s.db (call.set w s.clock job))
  raised : ∀ {s : PublishingState} {i n : Nat} {job : SocialPublishJob} {w : Worker},
    W.watched s job.id → s.workers[i]? = some w → w.publishJobId = job.id →
    w.state = .ended .raised → W.runs s n job w.state
  crashed : ∀ {s : PublishingState} {i n : Nat} {job : SocialPublishJob} {call : Call} {w : Worker},
    W.watched s job.id → s.workers[i]? = some w → w.publishJobId = job.id →
    w.state = .crashed call → W.runs s n job (.running call) → W.runs s n job w.state
  /-- BullMQ makes the retry that an execution asks for. -/
  settled : ∀ {s : PublishingState} {q i : Nat} {date : Time} {job : SocialPublishJob}
    {row : OutboxRow} {delivery : QueuedJob} {w : Worker} {outcome : Outcome},
    ok s (.settle q date) → CarriesHandOff s job row q delivery → job.retryCount ≤ 3 →
    delivery.state = .active i → s.workers[i]? = some w → w.publishJobId = job.id →
    w.state = .ended outcome → Progress job w.state →
    W.runs s delivery.attemptsMade job w.state →
    (delivery.settled date outcome).state = .waiting ∧
      W.waits s (delivery.settled date outcome).availableAt
        (delivery.settled date outcome).attemptsMade job
  /-- It delivers again what it has taken back. -/
  stalled : ∀ {s : PublishingState} {q i : Nat} {again : Bool} {job : SocialPublishJob}
    {row : OutboxRow} {delivery : QueuedJob} {w : Worker},
    ok s (.stalled q again) → CarriesHandOff s job row q delivery →
    delivery.state = .active i → s.workers[i]? = some w → w.publishJobId = job.id →
    Progress job w.state → W.runs s delivery.attemptsMade job w.state →
    again = true ∧ W.waits s delivery.availableAt delivery.attemptsMade job

/-- How far the delivery has got with the job. -/
inductive Stage (W : Watch) (s : PublishingState) (job : SocialPublishJob)
    (delivery : QueuedJob) : Prop
  | waiting (hState : delivery.state = .waiting)
      (hWaits : W.waits s delivery.availableAt delivery.attemptsMade job) : Stage W s job delivery
  | active {i : Nat} {w : Worker} (hState : delivery.state = .active i)
      (hWorker : s.workers[i]? = some w) (hJob : w.publishJobId = job.id)
      (hId : w.queueJobId = some delivery.jobId) (hProgress : Progress job w.state)
      (hRuns : W.runs s delivery.attemptsMade job w.state) : Stage W s job delivery

/-- What has become of the hand-off of the outbox row of a live job. -/
inductive Handled (W : Watch) (s : PublishingState) (job : SocialPublishJob)
    (row : OutboxRow) : Prop
  | undelivered (hNone : ∀ delivery ∈ s.queue, delivery.jobId ≠ row.queueJobId)
      (hWaiting : job.status = .waiting) (hCount : job.retryCount = 0) : Handled W s job row
  | delivered {q : Nat} {delivery : QueuedJob} (hSole : Sole s.queue row.queueJobId q delivery)
      (hJob : delivery.data.publishJobId = job.id)
      (hAttempts : delivery.attempts = PUBLISH_MAX_ATTEMPTS) (hStage : Stage W s job delivery) :
      Handled W s job row

section Handled

variable {cfg : Config} {ok : PublishingState → Event → Prop} {W : Watch}
  {s t : PublishingState} {e : Event} {job : SocialPublishJob} {row row' : OutboxRow}
  {delivery : QueuedJob}

theorem Stage.of_kept (hKept : W.Kept cfg ok) (hMove : (publishingSystem cfg).step s e = some t)
    (hWorkers : ∀ (i : Nat) (w : Worker), s.workers[i]? = some w → t.workers[i]? = some w)
    (h : Stage W s job delivery) : Stage W t job delivery := by
  cases h with
  | waiting hState hWaits => exact .waiting hState (hKept.waits hMove hWaits)
  | active hState hWorker hJob hId hProgress hRuns =>
    exact .active hState (hWorkers _ _ hWorker) hJob hId hProgress (hKept.runs hMove hRuns)

/-- Nobody touches the queue. -/
theorem Handled.of_kept (hKept : W.Kept cfg ok) (hMove : (publishingSystem cfg).step s e = some t)
    (hQueue : t.queue = s.queue) (hWorkers : ∀ (i : Nat) (w : Worker),
      s.workers[i]? = some w → t.workers[i]? = some w)
    (hId : row'.queueJobId = row.queueJobId) (h : Handled W s job row) : Handled W t job row' := by
  cases h with
  | undelivered hNone hWaiting hCount =>
    refine .undelivered (fun delivery hMem => ?_) hWaiting hCount
    rw [hId]
    exact hNone delivery (hQueue ▸ hMem)
  | delivered hSole hJob hAttempts hStage =>
    rw [← hQueue, ← hId] at hSole
    exact .delivered hSole hJob hAttempts (hStage.of_kept hKept hMove hWorkers)

theorem Stage.not_finished (h : Stage W s job delivery) :
    delivery.state ≠ .finished ∧ delivery.state ≠ .removed := by
  cases h with
  | waiting hState | active hState =>
    rw [hState]
    constructor
    · intro h
      cases h
    · intro h
      cases h

theorem settled_jobId (delivery : QueuedJob) (date : Time) (outcome : Outcome) :
    (delivery.settled date outcome).jobId = delivery.jobId :=
  congrArg Prod.fst (delivery.added_settled date outcome)

theorem settled_attempts (delivery : QueuedJob) (date : Time) (outcome : Outcome) :
    (delivery.settled date outcome).attempts = delivery.attempts := by
  cases outcome with
  | resolved | jobTerminal => rfl
  | jobFailed | raised =>
    unfold QueuedJob.settled
    dsimp only
    split
    · rfl
    · rfl

/-- The id of the row is added for its own hand-off. -/
theorem ticket_of_added {log : List Addition} (hTickets : Tickets (s, log)) {j : JobId}
    (hRow : s.db.outbox.lookup j = some row) {i : Nat} {state : PublishingQueue.State}
    {record : PublishQueueRecord} (hState : s.dispatchers[i]? = some state)
    (hHeld : record ∈ state.held) (hId : record.queueJobId = row.queueJobId) :
    record.publishJobId = j ∧ record.scheduledAt = row.scheduledAt := by
  have hTicket : record.ticket = row.ticket j :=
    hTickets.unique _ _ (.held hState hHeld rfl) (.row hRow rfl) hId
  exact ⟨congrArg Ticket.publishJobId hTicket, congrArg Ticket.scheduledAt hTicket⟩

/-- A hand-off that BullMQ is given. -/
theorem handled_added {log : List Addition} (hKept : W.Kept cfg ok)
    (hMove : (publishingSystem cfg).step s e = some t)
    (hTickets : Tickets (s, log)) {j : JobId} (hId : job.id = j)
    (hRow : s.db.outbox.lookup j = some row) (hTime : row.scheduledAt = job.scheduledAt)
    (hNone : ∀ delivery ∈ s.queue, delivery.jobId ≠ row.queueJobId)
    (hWaiting : job.status = .waiting) (hCount : job.retryCount = 0)
    (hRow' : row'.queueJobId = row.queueJobId) : Handled W t job row' := by
  -- whatever now stands under the id was just added
  have hAdded : ∀ (q : Nat) (delivery : QueuedJob), t.queue[q]? = some delivery →
      delivery.jobId = row.queueJobId → q = s.queue.length ∧
        ∃ record date, record.publishJobId = j ∧ record.scheduledAt = row.scheduledAt ∧
          delivery = BullMqPublishQueue.queuedJob record date := by
    intro q delivery hGet hSame
    cases delivery_change hMove hGet with
    | @added i state record date hIndex hState hHeld =>
      obtain ⟨hJob, hAt⟩ := ticket_of_added hTickets hRow hState hHeld hSame
      exact ⟨hIndex, record, date, hJob, hAt, rfl⟩
    | settled _ hOld =>
      rw [settled_jobId] at hSame
      exact absurd hSame (hNone _ (List.mem_of_getElem? hOld))
    | kept hOld | taken _ hOld | stalled _ hOld | removed hOld =>
      exact (hNone _ (List.mem_of_getElem? hOld) hSame).elim
  by_cases hSome : ∃ (q : Nat) (delivery : QueuedJob), t.queue[q]? = some delivery ∧
      delivery.jobId = row.queueJobId
  · obtain ⟨q, delivery, hGet, hSame⟩ := hSome
    obtain ⟨hIndex, record, date, hJob, hAt, rfl⟩ := hAdded q delivery hGet hSame
    refine .delivered ⟨hGet, hSame.trans hRow'.symm, fun q' delivery' hGet' hSame' => ?_⟩
      (hJob.trans hId.symm) rfl (.waiting rfl (hKept.added hWaiting hCount ?_))
    · exact (hAdded q' delivery' hGet' (hSame'.trans hRow')).1.trans hIndex.symm
    · -- BullMQ waits until the time of the row
      show job.scheduledAt ≤ date + (record.scheduledAt - date)
      rw [← hTime, ← hAt]
      exact Nat.sub_le_iff_le_add'.mp le_rfl
  · refine .undelivered (fun delivery hMem hSame => hSome ?_) hWaiting hCount
    obtain ⟨q, hGet⟩ := List.getElem?_of_mem hMem
    exact ⟨q, delivery, hGet, hSame.trans hRow'⟩

/-- **BullMQ** keeps to what the job waits for. -/
theorem handled_queue {log : List Addition} (hKept : W.Kept cfg ok) (hOk : ok s e)
    (hMove : (publishingSystem cfg).step s e = some t) (hTickets : Tickets (s, log))
    (hStored : s.db.job? job.id = some job) (hLive : Live s.db job) (hBound : job.retryCount ≤ 3)
    (hRow : s.db.outbox.lookup job.id = some row)
    (hTime : job.status = .waiting → row.scheduledAt = job.scheduledAt)
    (hWorkers : ∀ (i : Nat) (w : Worker), s.workers[i]? = some w → t.workers[i]? = some w)
    (hRow' : row'.queueJobId = row.queueJobId) (h : Handled W s job row) :
    Handled W t job row' := by
  cases h with
  | undelivered hNone hWaiting hCount =>
    exact handled_added hKept hMove hTickets rfl hRow (hTime hWaiting) hNone hWaiting hCount hRow'
  | @delivered q delivery hSole hJob hAttempts hStage =>
    obtain ⟨delivery', hGet, hSameAdded⟩ := delivery_kept hMove hSole.queued
    have hCarries : CarriesHandOff s job row q delivery :=
      ⟨hStored, hLive, hRow, hSole, hJob, hAttempts⟩
    have hOld : ∀ old, s.queue[q]? = some old → old = delivery := by
      intro old hOld
      rw [hSole.queued, Option.some.injEq] at hOld
      exact hOld.symm
    have hSole' : Sole t.queue row'.queueJobId q delivery' := by
      refine ⟨hGet, (congrArg Prod.fst hSameAdded).trans (hSole.jobId.trans hRow'.symm),
        fun q' other hGet' hSame => ?_⟩
      rw [hRow'] at hSame
      cases delivery_change hMove hGet' with
      | @added i state record date hIndex hState hHeld hNew =>
        -- BullMQ keeps the delivery, and ignores the id
        have hKeeps : BullMqPublishQueue.keeps record s.queue = true :=
          List.any_eq_true.mpr ⟨delivery, List.mem_of_getElem? hSole.queued,
            decide_eq_true ⟨hSole.jobId.trans hSame.symm, hStage.not_finished.2⟩⟩
        rw [hNew] at hKeeps
        cases hKeeps
      | settled _ hBefore =>
        rw [settled_jobId] at hSame
        exact hSole.unique _ _ hBefore hSame
      | kept hBefore | taken _ hBefore | stalled _ hBefore | removed hBefore =>
        exact hSole.unique _ _ hBefore hSame
    have hJob' : delivery'.data.publishJobId = job.id :=
      (congrArg (fun a => a.2.1.publishJobId) hSameAdded).trans hJob
    -- the stages, as BullMQ moves the delivery on
    cases delivery_change hMove hGet with
    | kept hBefore =>
      obtain rfl := hOld _ hBefore
      exact .delivered hSole' hJob hAttempts (hStage.of_kept hKept hMove hWorkers)
    | added hIndex =>
      have hLt := (List.getElem?_eq_some_iff.mp hSole.queued).1
      omega
    | @taken old leaseMs date hEvent hBefore hWaiting hDue hStarted =>
      obtain rfl := hOld _ hBefore
      subst hEvent
      cases hStage with
      | waiting _ hWaits =>
        have hRuns := hKept.runs hMove (hKept.taken hOk hDue hWaits)
        have hStarted' : t.workers[s.workers.length]? = some ⟨old.data.publishJobId, leaseMs,
            old.attemptsMade + 1, some old.jobId, .running .claimPublishJob⟩ := by
          rw [hStarted]
          exact List.getElem?_concat_length
        exact .delivered hSole' hJob hAttempts (.active rfl hStarted' hJob rfl trivial hRuns)
      | active hActive =>
        rw [hActive] at hWaiting
        cases hWaiting
    | @settled old date i w outcome hEvent hBefore hActive hWorker hEnded =>
      obtain rfl := hOld _ hBefore
      subst hEvent
      cases hStage with
      | waiting hWaiting =>
        rw [hActive] at hWaiting
        cases hWaiting
      | active hActive' hWorker' hOwn _ hProgress hRuns =>
        rw [hActive, DeliveryState.active.injEq] at hActive'
        subst hActive'
        rw [hWorker, Option.some.injEq] at hWorker'
        subst hWorker'
        obtain ⟨hState, hWaits⟩ := hKept.settled hOk hCarries hBound hActive hWorker hOwn hEnded
          hProgress hRuns
        exact .delivered hSole' hJob' ((settled_attempts _ _ _).trans hAttempts)
          (.waiting hState (hKept.waits hMove hWaits))
    | @stalled old again i w hEvent hBefore hActive hWorker =>
      obtain rfl := hOld _ hBefore
      subst hEvent
      cases hStage with
      | waiting hWaiting =>
        rw [hActive] at hWaiting
        cases hWaiting
      | active hActive' hWorker' hOwn _ hProgress hRuns =>
        rw [hActive, DeliveryState.active.injEq] at hActive'
        subst hActive'
        rw [hWorker, Option.some.injEq] at hWorker'
        subst hWorker'
        obtain ⟨rfl, hWaits⟩ := hKept.stalled hOk hCarries hActive hWorker hOwn hProgress hRuns
        exact .delivered hSole' hJob' hAttempts (.waiting rfl (hKept.waits hMove hWaits))
    | removed hBefore hFinished =>
      obtain rfl := hOld _ hBefore
      exact absurd hFinished hStage.not_finished.1

end Handled

end SocialPromotion
