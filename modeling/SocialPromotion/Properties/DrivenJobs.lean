import SocialPromotion.Properties.DeliveryProgress

/-!
# Driven jobs

What the runs keep of the deliveries of live jobs, where they keep what a `Watch` says. It depends
on who has moved last:

* `driving_flowed`, `driving_written`: an execution;
* `driving_kept`: BullMQ, a run of `dispatchPending`, or time;
* `driving_created`, `driving_edited`: an operation;
* `driving_reachable`: in every run, a live job that is watched waits for a dispatcher, or its
  delivery is unfinished.
-/

namespace SocialPromotion

open LTS Database PublishWorkerProcessor PublishingService PgPublishOutboxRepository
open PgPostRepository PostService

-- ---------------------------------------------------------------------------
-- Waiting jobs
-- ---------------------------------------------------------------------------

section Waiting

variable {cfg : Config} {s : PublishingState}

/-- An edit leaves a job as it is, queues it anew or cancels it, and the jobs in progress as they
are. -/
theorem edited_cases {db : Database} {id : PostId} {row : PostRow} {operation : UserOperation}
    {next : Post} {f : SocialPublishJob → SocialPublishJob} {old : SocialPublishJob}
    (hEdit : Edit cfg db id row operation next f) (hOld : old ∈ jobsOf db id) :
    f old = old ∨ inProgress old.status = false ∧
      (Requeued old (f old) ∧ (f old).retryCount = (if old.status = .waiting then old.retryCount
        else 0) ∨ (f old).status = .cancelled) := by
  cases hEdit with
  | update => exact Or.inl rfl
  | schedule scheduledAt hApproval hOpen =>
    by_cases hCancelled : old.status = .cancelled
    · exact Or.inl (if_pos hCancelled)
    · have hWaiting := waiting_of_open (hOpen old hOld) hCancelled
      have hNew : scheduleJob scheduledAt old =
          { old with scheduledAt := scheduledAt, status := .waiting } := if_neg hCancelled
      by_cases hSame : old.scheduledAt = scheduledAt
      · refine Or.inl ?_
        rw [hNew, ← hSame, ← hWaiting]
      · refine Or.inr ⟨by rw [hWaiting]; rfl, Or.inl ⟨?_, ?_⟩⟩
        · rw [hNew]
          exact ⟨rfl, fun h => hSame h.2⟩
        · rw [hNew, if_pos hWaiting]
  | cancel hOpen =>
    by_cases hCancels : old.status = .waiting ∨ old.status = .retrying ∨ old.status = .failed
    · have hNew : (cancelJob old).status = .cancelled := by
        rw [cancelJob, if_pos hCancels]
      refine Or.inr ⟨?_, Or.inr hNew⟩
      rcases hCancels with hStatus | hStatus | hStatus
      all_goals
        rw [hStatus]
        rfl
    · exact Or.inl (if_neg hCancels)
  | @retry _ date job hJob hOpen =>
    by_cases hId : old.id = job.id
    · have hFailed := failed_of_retried hOld hJob hId hOpen
      have hNotWaiting : old.status ≠ .waiting := by
        rw [hFailed]
        exact fun h => by cases h
      have hNew : (retryJob job.id date old).status = .waiting ∧
          (retryJob job.id date old).retryCount = 0 := by
        rw [retryJob, if_pos hId]
        exact ⟨rfl, rfl⟩
      refine Or.inr ⟨by rw [hFailed]; rfl, Or.inl ⟨⟨hNew.1, fun h => hNotWaiting h.1⟩, ?_⟩⟩
      rw [if_neg hNotWaiting]
      exact hNew.2
    · exact Or.inl (if_neg hId)

/-- A waiting job has not failed. -/
theorem retryCount_of_waiting {ok : PublishingState → Event → Prop}
    (h : Reachable (publishingSystem cfg) ok s) {j : JobId} {job : SocialPublishJob}
    (hJob : s.db.job? j = some job) (hWaiting : job.status = .waiting) : job.retryCount = 0 := by
  refine h.invariant (I := fun s => ∀ j job, s.db.job? j = some job → job.status = .waiting →
    job.retryCount = 0) (fun s hInit j job hJob => ?_)
    (fun s e t hBefore _ hMove j job hJob hWaiting => ?_) j job hJob hWaiting
  · obtain ⟨⟨campaigns, accounts, hDb⟩, -⟩ := hInit
    rw [hDb] at hJob
    cases hJob
  · rcases row_origin (step_kind hMove) hJob with ⟨old, hOld, hChange⟩ | ⟨-, post, target, -, rfl⟩
    · cases hChange with
      | same hSame =>
        subst hSame
        exact hBefore j _ hOld hWaiting
      | @called i result w call _ _ _ _ hCond hNew =>
        subst hNew
        exact absurd hWaiting (call.set_status w s.clock s.db old hCond).1
      | edited _ hEdit hMem hNew =>
        subst hNew
        rcases edited_cases hEdit hMem with hSame | ⟨-, ⟨-, hCount⟩ | hCancelled⟩
        · rw [hSame] at hWaiting ⊢
          exact hBefore j old hOld hWaiting
        · rw [hCount]
          split
          · rename_i hOldWaiting
            exact hBefore j old hOld hOldWaiting
          · rfl
        · rw [hWaiting] at hCancelled
          cases hCancelled
    · rfl

end Waiting

-- ---------------------------------------------------------------------------
-- The invariant
-- ---------------------------------------------------------------------------

/-- The hand-off of every live job that is watched is taken care of, and an execution past its claim
holds the hand-off of its job, which is in progress. -/
structure Driving (W : Watch) (s : PublishingState) : Prop where
  handled : ∀ (j : JobId) (job : SocialPublishJob), s.db.job? j = some job → Live s.db job →
    W.watched s j → ∃ row, s.db.outbox.lookup j = some row ∧ Handled W s job row
  owned : ∀ (i : Nat) (w : Worker) (call : Call), s.workers[i]? = some w →
    w.state = .running call → call ≠ .claimPublishJob → W.watched s w.publishJobId →
    ∃ job row, s.db.job? w.publishJobId = some job ∧ inProgress job.status = true ∧
      s.db.outbox.lookup w.publishJobId = some row ∧ w.queueJobId = some row.queueJobId

/-- The execution runs the active delivery of the hand-off. -/
structure HoldsDelivery (W : Watch) (s : PublishingState) (job : SocialPublishJob)
    (row : OutboxRow) (i : Nat) (w : Worker) (q : Nat) (delivery : QueuedJob) : Prop where
  sole : Sole s.queue row.queueJobId q delivery
  active : delivery.state = .active i
  ofJob : delivery.data.publishJobId = job.id
  attempts : delivery.attempts = PUBLISH_MAX_ATTEMPTS
  progress : Progress job w.state
  runs : W.runs s delivery.attemptsMade job w.state

section Driving

variable {cfg : Config} {ok : PublishingState → Event → Prop} {W : Watch}
  {s t : PublishingState} {e : Event} {j : JobId} {job : SocialPublishJob} {row : OutboxRow}
  {i : Nat} {w : Worker} {call : Call}

theorem live_of_inProgress {db : Database} (h : inProgress job.status = true) : Live db job := by
  unfold Live
  rcases of_decide_eq_true h with hStatus | hStatus | hStatus
  all_goals
    rw [hStatus]
    trivial

/-- Only a waiting job asks for its post. -/
theorem Live.of_post {db db' : Database} (h : Live db job)
    (hPost : job.status = .waiting → db'.postStatus? job.postId ≠ some .draft) : Live db' job := by
  cases hStatus : job.status with
  | waiting =>
    unfold Live
    rw [hStatus]
    exact hPost hStatus
  | retrying | claimed | remoteRequesting | remoteConfirmed =>
    unfold Live
    rw [hStatus]
    trivial
  | published | failed | cancelled =>
    unfold Live at h
    rw [hStatus] at h
    exact h.elim

theorem Live.of_posts {db db' : Database} (h : Live db job) (hPosts : db'.posts = db.posts) :
    Live db' job := by
  refine h.of_post fun hWaiting => ?_
  unfold Live at h
  rw [hWaiting] at h
  rw [postStatus?, hPosts]
  exact h

/-- The post of a live job is no draft. -/
theorem Live.post (hConsistent : OutboxConsistent s.db) (hJob : s.db.job? j = some job)
    (hLive : Live s.db job) : ∃ status, s.db.postStatus? job.postId = some status ∧
      status ≠ .draft ∧ JobConsistent status job (s.db.outbox.lookup j) := by
  obtain ⟨status, hStatus, hRow⟩ := hConsistent.job j job hJob
  refine ⟨status, hStatus, fun hDraft => ?_, hRow⟩
  have hWaiting := (hRow.draft hDraft).1
  unfold Live at hLive
  rw [hWaiting] at hLive
  exact hLive (hDraft ▸ hStatus)

/-- **An execution under the id of the hand-off** is the one that holds it. -/
theorem holds_of_id (h : Driving W s) (hAttached : Attached s) (hJob : s.db.job? j = some job)
    (hLive : Live s.db job) (hWatched : W.watched s j) (hRow : s.db.outbox.lookup j = some row)
    (hWorker : s.workers[i]? = some w) (hRunning : w.state.isRunning = true)
    (hId : w.queueJobId = some row.queueJobId) :
    ∃ q delivery, HoldsDelivery W s job row i w q delivery := by
  obtain ⟨row', hRow', hHandled⟩ := h.handled j job hJob hLive hWatched
  rw [hRow, Option.some.injEq] at hRow'
  subst hRow'
  obtain ⟨q, delivery, hQueued, hActive, hWorkerId, -⟩ := hAttached i w hWorker hRunning
  rw [hId, Option.some.injEq] at hWorkerId
  cases hHandled with
  | undelivered hNone => exact absurd hWorkerId.symm (hNone _ (List.mem_of_getElem? hQueued))
  | @delivered q' delivery' hSole hDeliveryJob hAttempts hStage =>
    obtain rfl := hSole.unique q delivery hQueued hWorkerId.symm
    have hSame := hSole.queued
    rw [hQueued, Option.some.injEq] at hSame
    subst hSame
    cases hStage with
    | waiting hWaiting =>
      rw [hActive] at hWaiting
      cases hWaiting
    | active hActive' hWorker' _ _ hProgress hRuns =>
      rw [hActive, DeliveryState.active.injEq] at hActive'
      subst hActive'
      rw [hWorker, Option.some.injEq] at hWorker'
      subst hWorker'
      exact ⟨q, delivery, hSole, hActive, hDeliveryJob, hAttempts, hProgress, hRuns⟩

/-- Only one execution holds a hand-off. -/
theorem HoldsDelivery.unique {i' : Nat} {w' : Worker} {q q' : Nat} {delivery delivery' : QueuedJob}
    (h : HoldsDelivery W s job row i w q delivery)
    (h' : HoldsDelivery W s job row i' w' q' delivery') : i = i' := by
  have hPlace := h.sole.unique q' delivery' h'.sole.queued h'.sole.jobId
  subst hPlace
  have hSame := h.sole.queued
  rw [h'.sole.queued, Option.some.injEq] at hSame
  have hActive := h.active
  rw [← hSame, h'.active, DeliveryState.active.injEq] at hActive
  exact hActive.symm

theorem live_of_claimable {db : Database} {now : Time} {queueJobId : Option QueueJobId}
    (h : claimable db now queueJobId job = true) : Live db job := by
  have hStatus := claimableStatus_cases (claimableStatus_of_claimable h)
  unfold claimable at h
  simp only [Bool.and_eq_true] at h
  obtain ⟨status, hPost, hDraft⟩ := (Option.any_eq_true _ _).mp h.1.1.2
  unfold Live
  rcases hStatus with hStatus | hStatus | hStatus | hStatus | hStatus
  · rw [hStatus]
    intro hSame
    rw [hPost, Option.some.injEq] at hSame
    exact of_decide_eq_true hDraft hSame
  all_goals
    rw [hStatus]
    trivial

/-- **An execution that writes** holds the hand-off of its job. -/
theorem holds_of_write (h : Driving W s) (hAttached : Attached s)
    (hWorker : s.workers[i]? = some w) (hState : w.state = .running call)
    (hWatched : W.watched s w.publishJobId) (hJob : s.db.job? w.publishJobId = some job)
    (hCond : call.condition w s.clock s.db job = true) : Live s.db job ∧
      ∃ row q delivery, s.db.outbox.lookup w.publishJobId = some row ∧
        w.queueJobId = some row.queueJobId ∧ HoldsDelivery W s job row i w q delivery := by
  have hRunning : w.state.isRunning = true := by rw [hState]; rfl
  have hIds : Live s.db job ∧ ∃ row, s.db.outbox.lookup w.publishJobId = some row ∧
      w.queueJobId = some row.queueJobId := by
    by_cases hClaim : call = .claimPublishJob
    · subst hClaim
      obtain ⟨-, delivery, -, -, hId, -⟩ := hAttached i w hWorker hRunning
      have hCurrent : deliveryIsCurrent s.db job.id w.queueJobId = true := by
        have hClaimable : claimable s.db s.clock w.queueJobId job = true := hCond
        unfold claimable at hClaimable
        simp only [Bool.and_eq_true] at hClaimable
        exact hClaimable.1.2
      unfold deliveryIsCurrent at hCurrent
      rw [hId] at hCurrent
      obtain ⟨row, hRow, hSame⟩ := (Option.any_eq_true _ _).mp hCurrent
      rw [job?_id hJob] at hRow
      exact ⟨live_of_claimable hCond, row, hRow, by rw [hId, of_decide_eq_true hSame]⟩
    · obtain ⟨job', row, hJob', hProgress, hRow, hId⟩ :=
        h.owned i w call hWorker hState hClaim hWatched
      rw [hJob, Option.some.injEq] at hJob'
      exact ⟨live_of_inProgress (hJob' ▸ hProgress), row, hRow, hId⟩
  obtain ⟨hLive, row, hRow, hId⟩ := hIds
  obtain ⟨q, delivery, hHolds⟩ :=
    holds_of_id h hAttached hJob hLive hWatched hRow hWorker hRunning hId
  exact ⟨hLive, row, q, delivery, hRow, hId, hHolds⟩

-- ---------------------------------------------------------------------------
-- Executions
-- ---------------------------------------------------------------------------

/-- An execution that goes on after a write has left its job in progress. -/
theorem inProgress_of_matched {db : Database} {now : Time} {call' : Call}
    (hNext : call.matched w db (call.set w now job) = .running call') :
    inProgress (call.set w now job).status = true := by
  cases call with
  | claimPublishJob =>
    rcases claimRow_status w.leaseMs now job with ⟨hStatus, -⟩ | ⟨hStatus, -⟩
    all_goals
      show inProgress (claimRow w.leaseMs now job).status = true
      rw [hStatus]
      rfl
  | markReconciled | markRequest | confirm => rfl
  | saveRecovered | savePublished | saveFailed | recordAmbiguous | reconcileFirst | publish
  | adapterPublish | reconcileAfter => cases hNext

/-- The delivery of another execution is where it was. -/
theorem Stage.of_moved {state : State} {delivery : QueuedJob} (hKept : W.Kept cfg ok)
    (hMove : (publishingSystem cfg).step s e = some t) (hMoved : WorkerMoved s i w state t)
    (hOther : delivery.state ≠ .active i) (h : Stage W s job delivery) :
    Stage W t job delivery := by
  cases h with
  | waiting hState hWaits => exact .waiting hState (hKept.waits hMove hWaits)
  | @active i' w' hState hWorker hJob hId hProgress hRuns =>
    have hNe : i' ≠ i := by
      rintro rfl
      exact hOther hState
    exact .active hState ((hMoved.other hNe).trans hWorker) hJob hId hProgress
      (hKept.runs hMove hRuns)

/-- **An execution that writes nothing** goes on along its progress. -/
theorem driving_flowed (hKept : W.Kept cfg ok) (h : Driving W s)
    (hMove : (publishingSystem cfg).step s e = some t) {state : State}
    (hState : w.state = .running call) (hMoved : WorkerMoved s i w state t) (hDb : t.db = s.db)
    (hQueue : t.queue = s.queue)
    (hClaim : call = .claimPublishJob → ∀ call', state ≠ .running call')
    (hNext : ∀ n job, s.db.job? w.publishJobId = some job → Live s.db job →
      deliveryIsCurrent s.db job.id w.queueJobId = true → W.watched t job.id →
      w.publishJobId = job.id → AtCall job call → W.runs s n job (.running call) →
      Progress job state ∧ W.runs t n job state) : Driving W t := by
  constructor
  · intro j job hJob hLive hWatched
    rw [hDb] at hJob hLive
    obtain ⟨row, hRow, hHandled⟩ := h.handled j job hJob hLive (hKept.watched hMove hWatched)
    refine ⟨row, by rw [hDb, hRow], ?_⟩
    cases hHandled with
    | undelivered hNone hWaiting hCount =>
      exact .undelivered (fun delivery hMem => hNone delivery (hQueue ▸ hMem)) hWaiting hCount
    | @delivered q delivery hSole hOfJob hAttempts hStage =>
      have hSole' : Sole t.queue row.queueJobId q delivery := hQueue ▸ hSole
      by_cases hActive : delivery.state = .active i
      · cases hStage with
        | waiting hWaiting =>
          rw [hActive] at hWaiting
          cases hWaiting
        | active hActive' hWorker' hWorkerJob hWorkerId hProgress hRuns =>
          rw [hActive, DeliveryState.active.injEq] at hActive'
          subst hActive'
          rw [hMoved.1, Option.some.injEq] at hWorker'
          subst hWorker'
          have hId : job.id = j := job?_id hJob
          -- the delivery is current, so the next claim or write finds its row
          have hCurrent : deliveryIsCurrent s.db job.id w.queueJobId = true := by
            unfold deliveryIsCurrent
            rw [hWorkerId, hId, hRow]
            exact decide_eq_true hSole.jobId.symm
          rw [hState] at hProgress hRuns
          obtain ⟨hProgress', hRuns'⟩ := hNext _ job (by rw [hWorkerJob, hId, hJob]) hLive hCurrent
            (hId ▸ hWatched) hWorkerJob hProgress hRuns
          exact .delivered hSole' hOfJob hAttempts
            (.active hActive hMoved.self hWorkerJob hWorkerId hProgress' hRuns')
      · exact .delivered hSole' hOfJob hAttempts (hStage.of_moved hKept hMove hMoved hActive)
  · intro k w' call' hGet hState' hNotClaim hWatched
    have hBefore := hKept.watched hMove hWatched
    rw [hDb]
    rcases hMoved.cases hGet with ⟨rfl, rfl⟩ | ⟨-, hWorker⟩
    · exact h.owned k w call hMoved.1 hState (fun hIsClaim => hClaim hIsClaim call' hState') hBefore
    · exact h.owned k w' call' hWorker hState' hNotClaim hBefore

/-- **An execution that writes** leaves its job in progress, done, given up, or to the retry that
BullMQ will make. -/
theorem driving_written (hKept : W.Kept cfg ok) (h : Driving W s) (hAttached : Attached s)
    (hMove : (publishingSystem cfg).step s e = some t) {state : State} {old : SocialPublishJob}
    (hState : w.state = .running call) (hMoved : WorkerMoved s i w state t)
    (hTarget : call.target w = w.publishJobId)
    (hCond : call.condition w s.clock s.db old = true)
    (hWritten : RowWritten s.db (call.target w) old (call.set w s.clock old) t.db)
    (hQueue : t.queue = s.queue)
    (hMatched : ∀ call', state = .running call' →
      state = call.matched w s.db (call.set w s.clock old))
    (hNext : ∀ n, Live s.db old → deliveryIsCurrent s.db old.id w.queueJobId = true →
      W.watched t w.publishJobId → AtCall old call → W.runs s n old (.running call) →
      Progress (call.set w s.clock old) state ∧ W.runs t n (call.set w s.clock old) state ∨
        (call.set w s.clock old).status = .published ∨
        (call.set w s.clock old).status = .failed) : Driving W t := by
  rw [hTarget] at hWritten
  have hRunning : w.state.isRunning = true := by rw [hState]; rfl
  have hSelf : t.db.job? w.publishJobId = some (call.set w s.clock old) :=
    (hWritten.rows _).trans (if_pos rfl)
  have hOther : ∀ k, k ≠ w.publishJobId → t.db.job? k = s.db.job? k :=
    fun k hk => (hWritten.rows k).trans (if_neg hk)
  constructor
  · intro j job hJob hLive hWatched
    have hBefore := hKept.watched hMove hWatched
    rw [hWritten.outbox]
    by_cases hOwn : j = w.publishJobId
    · subst hOwn
      rw [hSelf, Option.some.injEq] at hJob
      subst hJob
      obtain ⟨hLiveOld, row, q, delivery, hRow, hId, hHolds⟩ := holds_of_write h hAttached hMoved.1
        hState hBefore hWritten.found hCond
      have hProgress := hHolds.progress
      have hRuns := hHolds.runs
      rw [hState] at hProgress hRuns
      have hSetId : (call.set w s.clock old).id = old.id := call.set_id w s.clock old
      have hCurrent : deliveryIsCurrent s.db old.id w.queueJobId = true := by
        unfold deliveryIsCurrent
        rw [hId, job?_id hWritten.found, hRow]
        exact decide_eq_true rfl
      rcases hNext _ hLiveOld hCurrent hWatched hProgress hRuns with ⟨hProgress', hRuns'⟩ | hDone
      · refine ⟨row, hRow, .delivered (hQueue ▸ hHolds.sole) (hHolds.ofJob.trans hSetId.symm)
          hHolds.attempts (.active hHolds.active hMoved.self ?_ ?_ hProgress' hRuns')⟩
        · exact (job?_id hWritten.found).symm.trans hSetId.symm
        · rw [hHolds.sole.jobId]
          exact hId
      · unfold Live at hLive
        rcases hDone with hStatus | hStatus
        all_goals
          rw [hStatus] at hLive
          exact hLive.elim
    · rw [hOther j hOwn] at hJob
      have hLive' : Live s.db job := hLive.of_posts hWritten.posts.symm
      obtain ⟨row, hRow, hHandled⟩ := h.handled j job hJob hLive' hBefore
      refine ⟨row, hRow, ?_⟩
      cases hHandled with
      | undelivered hNone hWaiting hCount =>
        exact .undelivered (fun delivery hMem => hNone delivery (hQueue ▸ hMem)) hWaiting hCount
      | @delivered q delivery hSole hOfJob hAttempts hStage =>
        refine .delivered (hQueue ▸ hSole) hOfJob hAttempts
          (hStage.of_moved hKept hMove hMoved fun hActive => ?_)
        -- the execution is another job's
        cases hStage with
        | waiting hWaiting =>
          rw [hActive] at hWaiting
          cases hWaiting
        | active hActive' hWorker' hWorkerJob =>
          rw [hActive, DeliveryState.active.injEq] at hActive'
          subst hActive'
          rw [hMoved.1, Option.some.injEq] at hWorker'
          subst hWorker'
          exact hOwn ((job?_id hJob).symm.trans hWorkerJob.symm)
  · intro k w' call' hGet hState' hNotClaim hWatched
    have hBefore := hKept.watched hMove hWatched
    rw [hWritten.outbox]
    rcases hMoved.cases hGet with ⟨rfl, rfl⟩ | ⟨hk, hWorker⟩
    · obtain ⟨-, row, q, delivery, hRow, hId, hHolds⟩ := holds_of_write h hAttached hMoved.1 hState
        hBefore hWritten.found hCond
      have hGoesOn := hMatched call' hState'
      exact ⟨_, row, hSelf, inProgress_of_matched (hGoesOn.symm.trans hState'), hRow, hId⟩
    · obtain ⟨job, row, hJob, hProgress, hRow, hId⟩ :=
        h.owned k w' call' hWorker hState' hNotClaim hBefore
      refine ⟨job, row, ?_, hProgress, hRow, hId⟩
      rw [hOther _ fun hSame => ?_, hJob]
      -- both would hold the delivery of the job
      rw [hSame] at hJob hRow hBefore
      obtain ⟨-, row', q, delivery, hRow', -, hHolds⟩ := holds_of_write h hAttached hMoved.1 hState
        hBefore hWritten.found hCond
      have hFound := hWritten.found
      rw [hJob, Option.some.injEq] at hFound
      subst hFound
      rw [hRow, Option.some.injEq] at hRow'
      subst hRow'
      obtain ⟨q', delivery', hHolds'⟩ := holds_of_id h hAttached hJob (live_of_inProgress hProgress)
        hBefore hRow hWorker (by rw [hState']; rfl) hId
      exact hk (hHolds'.unique hHolds)

/-- A live job can still be tried. -/
theorem count_of_live (hReach : Reachable (publishingSystem cfg) ok s)
    (hJob : s.db.job? j = some job) (hLive : Live s.db job) : job.retryCount ≤ 3 := by
  unfold Live at hLive
  refine ((lifecycle_reachable hReach).rows j job hJob).2 (fun hStatus => ?_) fun hStatus => ?_
  · rw [hStatus] at hLive
    exact hLive
  · rw [hStatus] at hLive
    exact hLive

-- ---------------------------------------------------------------------------
-- BullMQ and the operations
-- ---------------------------------------------------------------------------

/-- The time of the hand-off of a waiting job. -/
theorem time_of_waiting (hConsistent : OutboxConsistent s.db) (hJob : s.db.job? j = some job)
    (hLive : Live s.db job) (hRow : s.db.outbox.lookup j = some row)
    (hWaiting : job.status = .waiting) : row.scheduledAt = job.scheduledAt := by
  obtain ⟨status, -, hDraft, hRows⟩ := hLive.post hConsistent hJob
  obtain ⟨-, row', hRow', hTime⟩ := hRows.waiting hWaiting hDraft
  rw [hRow, Option.some.injEq] at hRow'
  rw [hRow', hTime]

/-- **BullMQ, a run of `dispatchPending`, or time** leaves the tables alone. -/
theorem driving_kept {log : List Addition} (hKept : W.Kept cfg ok)
    (hReach : Reachable (publishingSystem cfg) ok s) (h : Driving W s) (hOk : ok s e)
    (hMove : (publishingSystem cfg).step s e = some t)
    (hTickets : Tickets (s, log)) (hRows : ∀ k, t.db.job? k = s.db.job? k)
    (hPosts : t.db.posts = s.db.posts)
    (hDeliveries : ∀ k, (t.db.outbox.lookup k).map OutboxRow.delivery =
      (s.db.outbox.lookup k).map OutboxRow.delivery)
    (hWorkers : ∀ (i : Nat) (w : Worker), s.workers[i]? = some w → t.workers[i]? = some w)
    (hNew : ∀ (i : Nat) (w : Worker), t.workers[i]? = some w → s.workers[i]? = some w ∨
      w.state = .running .claimPublishJob) : Driving W t := by
  have hConsistent := consistent_reachable hReach
  have hLookup : ∀ k row, s.db.outbox.lookup k = some row →
      ∃ row', t.db.outbox.lookup k = some row' ∧ row'.queueJobId = row.queueJobId := by
    intro k row hRow
    have hDelivery := hDeliveries k
    rw [hRow, Option.map_some] at hDelivery
    obtain ⟨row', hRow', hSame⟩ := Option.map_eq_some_iff.mp hDelivery
    exact ⟨row', hRow', congrArg Prod.fst hSame⟩
  constructor
  · intro j job hJob hLive hWatched
    rw [hRows] at hJob
    have hLive' : Live s.db job := hLive.of_posts hPosts.symm
    obtain ⟨row, hRow, hHandled⟩ := h.handled j job hJob hLive' (hKept.watched hMove hWatched)
    obtain ⟨row', hRow', hSame⟩ := hLookup j row hRow
    have hId := job?_id hJob
    subst hId
    exact ⟨row', hRow', handled_queue hKept hOk hMove hTickets hJob hLive'
      (count_of_live hReach hJob hLive') hRow (time_of_waiting hConsistent hJob hLive' hRow)
      hWorkers hSame hHandled⟩
  · intro k w call hGet hState hNotClaim hWatched
    rcases hNew k w hGet with hWorker | hClaim
    · obtain ⟨job, row, hJob, hProgress, hRow, hId⟩ :=
        h.owned k w call hWorker hState hNotClaim (hKept.watched hMove hWatched)
      obtain ⟨row', hRow', hSame⟩ := hLookup _ row hRow
      exact ⟨job, row', (hRows _).trans hJob, hProgress, hRow', by rw [hSame]; exact hId⟩
    · rw [hState] at hClaim
      injection hClaim with hClaim
      exact absurd hClaim hNotClaim

/-- **A new draft** is not live yet. -/
theorem driving_created {post : Post} (hKept : W.Kept cfg ok) (h : Driving W s)
    (hMove : (publishingSystem cfg).step s e = some t) (hConsistent : OutboxConsistent s.db)
    (hCreated : Created s.db post t.db) (hWorkers : t.workers = s.workers)
    (hQueue : t.queue = s.queue) : Driving W t := by
  have hOld : ∀ k old, s.db.job? k = some old → t.db.job? k = some old := by
    intro k old hOld
    rcases hCreated.rows k with hSame | ⟨hNone, -⟩
    · exact hSame.trans hOld
    · rw [hOld] at hNone
      cases hNone
  constructor
  · intro j job hJob hLive hWatched
    rcases hCreated.rows j with hSame | ⟨-, target, hNew⟩
    · have hJob' := hSame.symm.trans hJob
      have hLive' : Live s.db job := by
        obtain ⟨status, hStatus, -⟩ := hConsistent.job j job hJob'
        have hNe : job.postId ≠ post.id := by
          intro hSamePost
          rw [postStatus?, hSamePost, hCreated.unused] at hStatus
          cases hStatus
        refine hLive.of_post fun hWaiting hDraft => ?_
        unfold Live at hLive
        rw [hWaiting, postStatus?, hCreated.posts, AList.lookup_insert_ne hNe] at hLive
        exact hLive hDraft
      obtain ⟨row, hRow, hHandled⟩ := h.handled j job hJob' hLive' (hKept.watched hMove hWatched)
      refine ⟨row, by rw [hCreated.outbox, hRow],
        hHandled.of_kept hKept hMove hQueue (fun i w hWorker => ?_) rfl⟩
      rw [hWorkers, hWorker]
    · rw [hNew, Option.some.injEq] at hJob
      subst hJob
      have hDraft : t.db.postStatus? post.id = some .draft := by
        rw [postStatus?, hCreated.posts, AList.lookup_insert, ← hCreated.draft]
        rfl
      exact absurd hDraft hLive
  · intro k w call hGet hState hNotClaim hWatched
    rw [hWorkers] at hGet
    obtain ⟨job, row, hJob, hProgress, hRow, hId⟩ :=
      h.owned k w call hGet hState hNotClaim (hKept.watched hMove hWatched)
    exact ⟨job, row, hOld _ job hJob, hProgress, by rw [hCreated.outbox, hRow], hId⟩

/-- A row that an operation has made stands for a hand-off that BullMQ was not given. -/
theorem undelivered_of_fresh (hReach : Reachable (publishingSystem cfg) ok s)
    (hQueue : t.queue = s.queue) (hFresh : s.db.nextUuid ≤ row.queueJobId.uuid)
    (hWaiting : job.status = .waiting) (hCount : job.retryCount = 0) : Handled W t job row := by
  refine .undelivered (fun delivery hMem hId => ?_) hWaiting hCount
  rw [hQueue] at hMem
  have hDrawn := usesQueueId_lt hReach (.queued hMem hId)
  exact Nat.lt_irrefl _ (hDrawn.trans_le hFresh)

/-- **An edit** queues a live job anew, or leaves it and its hand-off as they are. -/
theorem driving_edited {operation : UserOperation} {id : PostId} {post : PostRow} {next : Post}
    {f : SocialPublishJob → SocialPublishJob}
    (hKept : W.Kept cfg ok) (hReach : Reachable (publishingSystem cfg) ok s) (h : Driving W s)
    (hMove : (publishingSystem cfg).step s (.user operation) = some t)
    (hReachT : Reachable (publishingSystem cfg) anyStep t)
    (hEdit : Edit cfg s.db id post operation next f) (hMutated : Mutated s.db id post next f t.db)
    (hWorkers : t.workers = s.workers) (hQueue : t.queue = s.queue) : Driving W t := by
  have hConsistent := consistent_reachable hReach
  -- an old job and what the edit makes of it
  have hRow : ∀ {j new}, t.db.job? j = some new → ∃ old, s.db.job? j = some old ∧
      (new = old ∨ inProgress old.status = false ∧
        (Requeued old new ∨ new.status = .cancelled)) := by
    intro j new hNew
    rw [hMutated.rows] at hNew
    obtain ⟨old, hOld, hEq⟩ := Option.map_eq_some_iff.mp hNew
    refine ⟨old, hOld, ?_⟩
    split at hEq
    · rename_i hPost
      have hMem : old ∈ jobsOf s.db id := mem_jobsOf.mpr ⟨(job?_id hOld).symm ▸ hOld, hPost⟩
      subst hEq
      rcases edited_cases hEdit hMem with hSame | ⟨hFree, ⟨hRequeued, -⟩ | hCancelled⟩
      · exact Or.inl hSame
      · exact Or.inr ⟨hFree, Or.inl hRequeued⟩
      · exact Or.inr ⟨hFree, Or.inr hCancelled⟩
    · exact Or.inl hEq.symm
  constructor
  · intro j job hJob hLive hWatched
    obtain ⟨old, hOld, hChange⟩ := hRow hJob
    obtain ⟨uuid, hLower, hMoved⟩ := outbox_moves hConsistent (table_step hMove) hOld hJob
    by_cases hRequeued : Requeued old job
    · refine ⟨_, hMoved.renewed hRequeued, ?_⟩
      exact undelivered_of_fresh hReach hQueue hLower hRequeued.1
        (retryCount_of_waiting hReachT hJob hRequeued.1)
    · have hNotCancelled : job.status ≠ .cancelled := by
        intro hCancelled
        unfold Live at hLive
        rw [hCancelled] at hLive
        exact hLive.elim
      have hSame : job = old := by
        rcases hChange with hSame | ⟨-, hAgain | hCancelled⟩
        · exact hSame
        · exact absurd hAgain hRequeued
        · exact absurd hCancelled hNotCancelled
      subst hSame
      cases hBefore : s.db.outbox.lookup j with
      | some row =>
        rcases hMoved.kept hRequeued row hBefore with ⟨-, hCancelled⟩ | hDelivery
        · exact absurd hCancelled hNotCancelled
        · obtain ⟨row', hRow', hSameDelivery⟩ := Option.map_eq_some_iff.mp hDelivery
          -- a draft's job has no row
          have hLive' : Live s.db job := by
            obtain ⟨status, hStatus, hJobRow⟩ := hConsistent.job j job hOld
            refine hLive.of_post fun _ hDraft => ?_
            rw [hStatus, Option.some.injEq] at hDraft
            have hNone := (hJobRow.draft hDraft).2
            rw [hBefore] at hNone
            cases hNone
          obtain ⟨row₀, hRow₀, hHandled⟩ :=
            h.handled j job hOld hLive' (hKept.watched hMove hWatched)
          rw [hBefore, Option.some.injEq] at hRow₀
          subst hRow₀
          refine ⟨row', hRow', hHandled.of_kept hKept hMove hQueue (fun i w hWorker => ?_)
            (congrArg Prod.fst hSameDelivery)⟩
          rw [hWorkers, hWorker]
      | none =>
        -- the job was a draft's, and the approval has made its row
        have hWaiting : job.status = .waiting := by
          by_contra hNot
          have hLive' : Live s.db job := hLive.of_post fun hStatus => absurd hStatus hNot
          obtain ⟨row, hSome, -⟩ := h.handled j job hOld hLive' (hKept.watched hMove hWatched)
          rw [hBefore] at hSome
          cases hSome
        obtain ⟨status, -, hDraft, hJobRow⟩ := hLive.post (consistent_reachable hReachT) hJob
        obtain ⟨-, row, hNew, -⟩ := hJobRow.waiting hWaiting hDraft
        refine ⟨row, hNew, ?_⟩
        cases outbox_origin (dispatch_step hMove) hNew with
        | kept hSome | marked hSome =>
          rw [hBefore] at hSome
          cases hSome
        | fresh hFresh =>
          exact undelivered_of_fresh hReach hQueue hFresh hWaiting
            (retryCount_of_waiting hReachT hJob hWaiting)
  · intro k w call hGet hState hNotClaim hWatched
    rw [hWorkers] at hGet
    obtain ⟨job, row, hJob, hProgress, hBefore, hId⟩ :=
      h.owned k w call hGet hState hNotClaim (hKept.watched hMove hWatched)
    have hNew : ∃ new, t.db.job? w.publishJobId = some new := by
      rw [hMutated.rows, hJob]
      exact ⟨_, rfl⟩
    obtain ⟨new, hNew⟩ := hNew
    obtain ⟨old, hOld, hChange⟩ := hRow hNew
    rw [hJob, Option.some.injEq] at hOld
    subst hOld
    have hSame : new = job := by
      rcases hChange with hSame | ⟨hFree, -⟩
      · exact hSame
      · rw [hProgress] at hFree
        cases hFree
    subst hSame
    obtain ⟨uuid, -, hMoved⟩ := outbox_moves hConsistent (table_step hMove) hJob hNew
    rcases hMoved.kept (not_requeued_same new) row hBefore with ⟨-, hCancelled⟩ | hDelivery
    · rw [hCancelled] at hProgress
      cases hProgress
    · obtain ⟨row', hRow', hSameDelivery⟩ := Option.map_eq_some_iff.mp hDelivery
      refine ⟨new, row', hNew, hProgress, hRow', ?_⟩
      rw [show row'.queueJobId = row.queueJobId from congrArg Prod.fst hSameDelivery]
      exact hId

-- ---------------------------------------------------------------------------
-- Every step
-- ---------------------------------------------------------------------------

theorem user_frame {operation : UserOperation}
    (h : (publishingSystem cfg).step s (.user operation) = some t) :
    t.workers = s.workers ∧ t.queue = s.queue := by
  injection h with h
  subst h
  unfold PublishingState.userStep
  split
  · exact ⟨rfl, rfl⟩
  · exact ⟨rfl, rfl⟩

/-- A step of the repository answers a call to it. -/
theorem repositoryCall_of_step {result : CallResult}
    (h : (publishingSystem cfg).step s (.repository i result) = some t)
    (hWorker : s.workers[i]? = some w) (hState : w.state = .running call) :
    ∃ after, repositoryCall w s.clock s.db call = some after := by
  simp only [publishingSystem, PublishingState.step, PublishingState.repositoryStep, hWorker,
    hState] at h
  obtain ⟨after, hCall, -⟩ := Option.map_eq_some_iff.mp h
  exact ⟨after, hCall⟩

/-- A claim that returns finds the row of its delivery. -/
theorem claims_match (hKept : W.Kept cfg ok) (hConsistent : OutboxConsistent s.db)
    (hOk : ok s (.repository i .returned)) (hWorker : s.workers[i]? = some w)
    (hState : w.state = .running .claimPublishJob) (hJob : s.db.job? w.publishJobId = some job)
    (hLive : Live s.db job) (hCurrent : deliveryIsCurrent s.db job.id w.queueJobId = true) {n : Nat}
    (hRuns : W.runs s n job (.running .claimPublishJob)) :
    claimable s.db s.clock w.queueJobId job = true ∧ Named job := by
  obtain ⟨hTime, hClaimable, hNamed⟩ :=
    hKept.claims hOk hWorker hState hJob hLive hCurrent hRuns
  obtain ⟨status, hStatus, hDraft, -⟩ := hLive.post hConsistent hJob
  exact ⟨by simp [claimable, hTime, hStatus, hDraft, hCurrent, hClaimable], hNamed⟩

/-- **A call that writes nothing** threw: where it returns, it finds its row. -/
theorem driving_unwritten (hKept : W.Kept cfg ok) (hReach : Reachable (publishingSystem cfg) ok s)
    (h : Driving W s) {result : CallResult} (hOk : ok s (.repository i result))
    (hMove : (publishingSystem cfg).step s (.repository i result) = some t) {state : State}
    (hState : w.state = .running call) (hMoved : WorkerMoved s i w state t)
    (hNext : state = .ended .raised ∧ (result ≠ .returned ∨ call.Fails w s.clock s.db) ∨
      result = .returned ∧ state = call.unmatched w ∧ ∀ row,
        s.db.job? (call.target w) = some row → call.condition w s.clock s.db row = false)
    (hDb : t.db = s.db) : Driving W t := by
  have hConsistent := consistent_reachable hReach
  have hTarget := ((lifecycle_reachable hReach).calls.running hMoved.1 hState).target rfl
  refine driving_flowed hKept h hMove hState hMoved hDb (queue_kept rfl hMove) ?_ ?_
  · rintro rfl call' hRuns
    rcases hNext with ⟨hRaised, -⟩ | ⟨-, hUnmatched, -⟩
    · rw [hRaised] at hRuns
      cases hRuns
    · rw [hUnmatched] at hRuns
      cases hRuns
  · intro n job hJob hLive hCurrent hWatched hOwn hAt hRuns
    rcases hNext with ⟨rfl, -⟩ | ⟨rfl, -, hNone⟩
    · exact ⟨trivial, hKept.raised hWatched hMoved.self hOwn rfl⟩
    · -- the call would have matched
      have hCond : call.condition w s.clock s.db job = true := by
        by_cases hClaim : call = .claimPublishJob
        · subst hClaim
          exact (claims_match hKept hConsistent hOk hMoved.1 hState hJob hLive hCurrent hRuns).1
        · obtain ⟨after, hCall⟩ := repositoryCall_of_step hMove hMoved.1 hState
          exact condition_of_atCall hAt hClaim hCall
      rw [hNone job (by rw [hTarget, hJob])] at hCond
      cases hCond

/-- **An execution that hears from a provider** goes on, or throws. -/
theorem driving_heard (hKept : W.Kept cfg ok) (hReach : Reachable (publishingSystem cfg) ok s)
    (h : Driving W s) (hOk : ok s e) (hMove : (publishingSystem cfg).step s e = some t)
    {state : State} (hState : w.state = .running call) (hMoved : WorkerMoved s i w state t)
    (hHeard : Hears cfg e call state) (hDelivery : e.isDelivery = false) (hDb : t.db = s.db) :
    Driving W t := by
  have hSound := (lifecycle_reachable hReach).calls.running hMoved.1 hState
  refine driving_flowed hKept h hMove hState hMoved hDb (queue_kept hDelivery hMove)
    (fun hClaim => ?_) fun n job _ _ _ hWatched hOwn hAt hRuns => ?_
  · subst hClaim
    cases hHeard
  · refine ⟨progress_heard hAt hSound hHeard, ?_⟩
    rcases hHeard.goesOn with ⟨call', rfl⟩ | rfl
    · exact hKept.runs hMove (hKept.heard hOk hHeard hRuns)
    · exact hKept.raised hWatched hMoved.self hOwn rfl

/-- **One step**. -/
theorem driving_step (hKept : W.Kept cfg ok) (hReach : Reachable (publishingSystem cfg) ok s)
    (h : Driving W s) (hOk : ok s e) (hMove : (publishingSystem cfg).step s e = some t) :
    Driving W t := by
  have hKind := step_kind hMove
  have hAny : Reachable (publishingSystem cfg) anyStep s := hReach.any
  have hConsistent := consistent_reachable hReach
  have hAttached := attached_reachable (fun _ _ => hKept.starts) hReach
  have hLife := lifecycle_reachable hReach
  obtain ⟨log, hLogged⟩ := hAny.logged additions
  have hTickets := tickets_reachable hLogged
  by_cases hUser : ∃ operation, e = .user operation
  · obtain ⟨operation, rfl⟩ := hUser
    obtain ⟨hWorkers, hQueue⟩ := user_frame hMove
    cases table_step hMove with
    | kept hRows hPosts _ hDeliveries =>
      refine driving_kept hKept hReach h hOk hMove hTickets hRows hPosts hDeliveries
        (fun i w hWorker => ?_) (fun i w hWorker => Or.inl ?_)
      · rw [hWorkers, hWorker]
      · rw [← hWorkers, hWorker]
    | created hCreated =>
      exact driving_created hKept h hMove hConsistent hCreated hWorkers hQueue
    | edited hEdit hMutated =>
      exact driving_edited hKept hReach h hMove (hAny.tail trivial hMove) hEdit hMutated hWorkers
        hQueue
  · have hOther : ∀ operation, e ≠ .user operation := fun operation he => hUser ⟨operation, he⟩
    have hDeliveries := deliveries_kept (dispatch_step hMove) hOther
    cases hKind with
    | created | edited => exact absurd rfl (hOther _)
    | quiet hWorkers hTables =>
      refine driving_kept hKept hReach h hOk hMove hTickets hTables.rows hTables.posts hDeliveries
        (fun i w hWorker => ?_) (fun i w hWorker => Or.inl ?_)
      · rw [hWorkers.workers, hWorker]
      · rw [← hWorkers.workers, hWorker]
    | started hCall hWorkers _ _ hTables =>
      refine driving_kept hKept hReach h hOk hMove hTickets hTables.rows hTables.posts hDeliveries
        (fun i w hWorker => ?_) (fun i w hGet => ?_)
      · rw [hWorkers, List.getElem?_append_left (List.getElem?_eq_some_iff.mp hWorker).1, hWorker]
      · rcases started_cases hWorkers hGet with ⟨-, rfl⟩ | hWorker
        · exact Or.inr hCall
        · exact Or.inl hWorker
    | @wrote i result w call old state _ hState hMoved hNext hCond _ hWritten =>
      have hTarget := (hLife.calls.running hMoved.1 hState).target rfl
      refine driving_written hKept h hAttached hMove hState hMoved hTarget hCond hWritten
        (queue_kept rfl hMove) (fun call' hRuns => ?_) fun n hLive hCurrent hWatched hAt hRuns => ?_
      · rcases hNext with ⟨rfl, -⟩ | ⟨-, hMatched⟩
        · cases hRuns
        · exact hMatched
      · rw [hTarget] at hWritten
        have hOwn : w.publishJobId = (call.set w s.clock old).id := by
          rw [call.set_id, job?_id hWritten.found]
        rcases hNext with ⟨rfl, -⟩ | ⟨rfl, rfl⟩
        · exact Or.inl ⟨trivial, hKept.raised (hOwn ▸ hWatched) hMoved.self hOwn rfl⟩
        · have hNamed : call = .claimPublishJob → Named old := by
            rintro rfl
            exact (claims_match hKept hConsistent hOk hMoved.1 hState hWritten.found hLive hCurrent
              hRuns).2
          rcases progress_matched hCond hAt (job?_checks hWritten.found) hNamed with hGoesOn | hDone
          · exact Or.inl ⟨hGoesOn, hKept.runs hMove (hKept.wrote hAt hCond hGoesOn hRuns)⟩
          · exact Or.inr hDone
    | unwritten hState hMoved hNext hDb =>
      exact driving_unwritten hKept hReach h hOk hMove hState hMoved hNext hDb
    | reconcileFirst hState hMoved hDb =>
      exact driving_heard hKept hReach h hOk hMove hState hMoved .reconciledFirst rfl hDb
    | reconcileAfter hState hMoved hDb =>
      exact driving_heard hKept hReach h hOk hMove hState hMoved .reconciledAfter rfl hDb
    | publishSettled hState hStart hMoved hDb =>
      exact driving_heard hKept hReach h hOk hMove hState hMoved (.settled hStart) rfl hDb
    | publishCalled hState _ hMoved hDb =>
      exact driving_heard hKept hReach h hOk hMove hState hMoved (.called _) rfl hDb
    | adapterReturned hState hMoved hDb =>
      exact driving_heard hKept hReach h hOk hMove hState hMoved .answered rfl hDb
    | crashed hState hMoved hDb =>
      refine driving_flowed hKept h hMove hState hMoved hDb (queue_kept rfl hMove)
        (fun _ _ hRuns => by cases hRuns) fun n job _ _ _ hWatched hOwn hAt hRuns => ?_
      exact ⟨trivial, hKept.crashed hWatched hMoved.self hOwn rfl (hKept.runs hMove hRuns)⟩

theorem driving_reachable (hKept : W.Kept cfg ok) (h : Reachable (publishingSystem cfg) ok s) :
    Driving W s := by
  refine h.invariant_of (I := Driving W) (fun s hInit => ?_)
    fun s e t hReach hBefore hOk hMove => driving_step hKept hReach hBefore hOk hMove
  obtain ⟨⟨campaigns, accounts, hDb⟩, -, hWorkers, -⟩ := hInit
  constructor
  · intro j job hJob
    rw [hDb] at hJob
    cases hJob
  · intro i w call hGet
    rw [hWorkers] at hGet
    cases hGet

/-- What is marked was added. -/
theorem unmarked_of_undelivered (hReach : Reachable (publishingSystem cfg) ok s)
    (hRow : s.db.outbox.lookup j = some row)
    (hNone : ∀ delivery ∈ s.queue, delivery.jobId ≠ row.queueJobId) : row.enqueuedAt = none := by
  by_contra hMarked
  obtain ⟨log, hLogged⟩ := hReach.any.logged additions
  obtain ⟨delivery, hMem, hId, -⟩ := job_of_handedOver (queueRecorded_reachable hLogged)
    ((handed_over hLogged).marked j row hRow (Option.isSome_iff_ne_none.mpr hMarked))
  exact hNone delivery hMem hId

end Driving

end SocialPromotion
