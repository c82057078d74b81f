import SocialPromotion.Steps.Dispatch

/-!
# What one step does to a job of the queue

* `delivery_change`: a job of the queue was there before, as it is or as BullMQ moved it, or was
  added by the step;
* `delivery_kept`: no place of the queue is given up.
-/

namespace SocialPromotion

open LTS PublishWorkerProcessor

-- ---------------------------------------------------------------------------
-- One step
-- ---------------------------------------------------------------------------

/-- What a step makes of place `q` of the queue. -/
inductive DeliveryChange (s : PublishingState) (e : Event) (s' : PublishingState) (q : Nat) :
    QueuedJob → Prop
  | kept {job : QueuedJob} (hOld : s.queue[q]? = some job) : DeliveryChange s e s' q job
  /-- A run adds a record that it holds, under an id that BullMQ does not keep. -/
  | added {i : Nat} {state : PublishingQueue.State} {record : PublishQueueRecord} {date : Time}
      (hIndex : q = s.queue.length) (hState : s.dispatchers[i]? = some state)
      (hHeld : record ∈ state.held) (hNew : BullMqPublishQueue.keeps record s.queue = false) :
      DeliveryChange s e s' q (BullMqPublishQueue.queuedJob record date)
  | taken {old : QueuedJob} {leaseMs : Nat} {date : Time} (hEvent : e = .take q leaseMs date)
      (hOld : s.queue[q]? = some old) (hWaiting : old.state = .waiting)
      (hDue : old.availableAt ≤ date)
      (hWorkers : s'.workers = s.workers ++ [⟨old.data.publishJobId, leaseMs,
        old.attemptsMade + 1, some old.jobId, .running .claimPublishJob⟩]) :
      DeliveryChange s e s' q { old with state := .active s.workers.length }
  | settled {old : QueuedJob} {date : Time} {i : Nat} {w : Worker} {outcome : Outcome}
      (hEvent : e = .settle q date) (hOld : s.queue[q]? = some old)
      (hActive : old.state = .active i) (hWorker : s.workers[i]? = some w)
      (hEnded : w.state = .ended outcome) : DeliveryChange s e s' q (old.settled date outcome)
  | stalled {old : QueuedJob} {again : Bool} {i : Nat} {w : Worker}
      (hEvent : e = .stalled q again) (hOld : s.queue[q]? = some old)
      (hActive : old.state = .active i) (hWorker : s.workers[i]? = some w) :
      DeliveryChange s e s' q { old with state := if again then .waiting else .finished }
  | removed {old : QueuedJob} (hOld : s.queue[q]? = some old) (hFinished : old.state = .finished) :
      DeliveryChange s e s' q { old with state := .removed }

section Steps

variable {cfg : Config} {s s' : PublishingState} {e : Event} {q : Nat} {job : QueuedJob}

theorem DeliveryChange.of_queue (hQueue : s'.queue = s.queue) (hGet : s'.queue[q]? = some job) :
    DeliveryChange s e s' q job :=
  .kept (hQueue ▸ hGet)

/-- One place is rewritten. -/
theorem deliveryChange_set {q' : Nat} {new : QueuedJob}
    (hQueue : s'.queue = s.queue.set q' new) (hGet : s'.queue[q]? = some job)
    (hNew : q' < s.queue.length → DeliveryChange s e s' q' new) : DeliveryChange s e s' q job := by
  rw [hQueue, List.getElem?_set] at hGet
  by_cases hq : q' = q
  · subst hq
    rw [if_pos rfl] at hGet
    split at hGet
    · rename_i hLt
      exact Option.some.inj hGet ▸ hNew hLt
    · cases hGet
  · rw [if_neg hq] at hGet
    exact .kept hGet

theorem takeStep_delivery {q' leaseMs : Nat} {date : Time}
    (h : s.takeStep q' leaseMs date = some s') (hGet : s'.queue[q]? = some job) :
    DeliveryChange s (.take q' leaseMs date) s' q job := by
  unfold PublishingState.takeStep at h
  split at h
  · rename_i old hOld
    split at h
    · rename_i hReady
      injection h with h
      subst h
      exact deliveryChange_set rfl hGet fun _ => .taken rfl hOld hReady.1 hReady.2 rfl
    · cases h
  · cases h

/-- The execution of an active job. -/
theorem processorOf_eq {state : State} (h : s.processorOf job = some state) :
    ∃ i w, job.state = .active i ∧ s.workers[i]? = some w ∧ w.state = state := by
  unfold PublishingState.processorOf at h
  split at h
  · rename_i i hActive
    obtain ⟨w, hWorker, hState⟩ := Option.map_eq_some_iff.mp h
    exact ⟨i, w, hActive, hWorker, hState⟩
  · cases h

theorem processorOf_active {i : Nat} {w : Worker} (hActive : job.state = .active i)
    (hWorker : s.workers[i]? = some w) : s.processorOf job = some w.state := by
  rw [PublishingState.processorOf, hActive]
  show s.workers[i]?.map Worker.state = some w.state
  rw [hWorker, Option.map_some]

theorem settleStep_delivery {q' : Nat} {date : Time} (h : s.settleStep q' date = some s')
    (hGet : s'.queue[q]? = some job) : DeliveryChange s (.settle q' date) s' q job := by
  unfold PublishingState.settleStep at h
  split at h
  · rename_i old hOld
    split at h
    · rename_i outcome hEnded
      injection h with h
      subst h
      obtain ⟨i, w, hActive, hWorker, hState⟩ := processorOf_eq hEnded
      exact deliveryChange_set rfl hGet fun _ => .settled rfl hOld hActive hWorker hState
    · cases h
  · cases h

theorem stalledStep_delivery {q' : Nat} {again : Bool} (h : s.stalledStep q' again = some s')
    (hGet : s'.queue[q]? = some job) : DeliveryChange s (.stalled q' again) s' q job := by
  unfold PublishingState.stalledStep at h
  split at h
  · rename_i old hOld
    split at h
    · rename_i state hState
      injection h with h
      subst h
      obtain ⟨i, w, hActive, hWorker, -⟩ := processorOf_eq hState
      exact deliveryChange_set rfl hGet fun _ => .stalled rfl hOld hActive hWorker
    · cases h
  · cases h

theorem removeStep_delivery {q' : Nat} (h : s.removeStep q' = some s')
    (hGet : s'.queue[q]? = some job) : DeliveryChange s (.remove q') s' q job := by
  unfold PublishingState.removeStep at h
  split at h
  · rename_i old hOld
    split at h
    · rename_i hFinished
      injection h with h
      subst h
      exact deliveryChange_set rfl hGet fun _ => .removed hOld hFinished
    · cases h
  · cases h

/-- The runs of `dispatchPending` add to the queue at most. -/
theorem dispatcher_queue {i : Nat} {result : CallResult} {date : Time} {locked : List JobId}
    (h : DispatchStep cfg s (.dispatcher i result date locked) s') : s'.queue = s.queue ∨
      ∃ (state : PublishingQueue.State) (record : PublishQueueRecord),
        s.dispatchers[i]? = some state ∧ record ∈ state.held ∧
        BullMqPublishQueue.keeps record s.queue = false ∧
        s'.queue = s.queue ++ [BullMqPublishQueue.queuedJob record date] := by
  cases h with
  | elsewhere hEvent => exact absurd rfl (hEvent i result date locked)
  | claimed _ _ _ hQueue | marked _ _ _ hQueue | released _ _ _ hQueue => exact Or.inl hQueue
  | @enqueued _ _ _ _ record _ _ _ _ _ hMoved _ _ hQueue =>
    rw [BullMqPublishQueue.enqueue_eq] at hQueue
    unfold CallResult.leaves at hQueue
    by_cases hPerformed : result.performed = true
    · rw [if_pos hPerformed] at hQueue
      by_cases hKeeps : BullMqPublishQueue.keeps record s.queue = true
      · rw [if_pos hKeeps] at hQueue
        exact Or.inl hQueue
      · rw [if_neg hKeeps] at hQueue
        exact Or.inr ⟨_, record, hMoved.1, List.mem_cons_self ..,
          Bool.eq_false_of_not_eq_true hKeeps, hQueue⟩
    · rw [if_neg hPerformed] at hQueue
      exact Or.inl hQueue

/-- The events that move jobs of the queue. -/
def Event.isDelivery : Event → Bool
  | .dispatcher .. | .take .. | .settle .. | .stalled .. | .remove _ => true
  | _ => false

/-- Everyone else leaves the queue alone. -/
theorem queue_kept (hOther : e.isDelivery = false)
    (h : (publishingSystem cfg).step s e = some s') : s'.queue = s.queue := by
  cases e with
  | dispatcher | take | settle | stalled | remove => cases hOther
  | tick | connect | preview | process | dispatch | dispatchAlerts =>
    injection h with h
    exact h ▸ rfl
  | user operation =>
    injection h with h
    subst h
    unfold PublishingState.userStep
    split
    · rfl
    · rfl
  | previewRead i =>
    simp only [publishingSystem, PublishingState.step, PublishingState.previewReadStep] at h
    split at h
    · obtain ⟨reading, -, rfl⟩ := Option.map_eq_some_iff.mp h
      rfl
    · cases h
  | repository i result =>
    simp only [publishingSystem, PublishingState.step, PublishingState.repositoryStep] at h
    split at h
    · split at h
      · obtain ⟨after, -, rfl⟩ := Option.map_eq_some_iff.mp h
        rfl
      · cases h
    · cases h
  | reconcile i answer date =>
    simp only [publishingSystem, PublishingState.step, PublishingState.reconcileStep] at h
    split at h
    · split at h
      · injection h with h
        exact h ▸ rfl
      · injection h with h
        exact h ▸ rfl
      · cases h
    · cases h
  | publish i date =>
    simp only [publishingSystem, PublishingState.step, PublishingState.publishStep] at h
    split at h
    · split at h
      · split at h
        · injection h with h
          exact h ▸ rfl
        · injection h with h
          exact h ▸ rfl
      · cases h
    · cases h
  | adapterReturns i answer date =>
    simp only [publishingSystem, PublishingState.step, PublishingState.adapterReturnsStep] at h
    split at h
    · split at h
      · injection h with h
        exact h ▸ rfl
      · cases h
    · cases h
  | crash i =>
    simp only [publishingSystem, PublishingState.step, PublishingState.crashStep] at h
    split at h
    · split at h
      · injection h with h
        exact h ▸ rfl
      · cases h
    · cases h
  | alertDispatcher i result locked =>
    simp only [publishingSystem, PublishingState.step, PublishingState.alertStep] at h
    split at h
    · obtain ⟨after, -, rfl⟩ := Option.map_eq_some_iff.mp h
      rfl
    · cases h

/-- **One step** brings each job of the queue where it is in one of these ways. -/
theorem delivery_change (h : (publishingSystem cfg).step s e = some s')
    (hGet : s'.queue[q]? = some job) : DeliveryChange s e s' q job := by
  by_cases hDelivery : e.isDelivery = true
  · cases e with
    | dispatcher i result date locked =>
      rcases dispatcher_queue (dispatch_step h) with hKept | ⟨state, record, hState, hHeld, hNew, hQueue⟩
      · exact .kept (hKept ▸ hGet)
      · rw [hQueue, List.getElem?_append] at hGet
        split at hGet
        · exact .kept hGet
        · have hLt := (List.getElem?_eq_some_iff.mp hGet).1
          have hMem := List.mem_singleton.mp (List.mem_of_getElem? hGet)
          rw [List.length_singleton] at hLt
          exact hMem ▸ .added (by omega) hState hHeld hNew
    | take q' leaseMs date => exact takeStep_delivery h hGet
    | settle q' date => exact settleStep_delivery h hGet
    | stalled q' again => exact stalledStep_delivery h hGet
    | remove q' => exact removeStep_delivery h hGet
    | _ => cases hDelivery
  · have hOther := Bool.eq_false_of_not_eq_true hDelivery
    exact .kept (queue_kept hOther h ▸ hGet)

/-- A place of the queue is never given up. -/
theorem delivery_kept (h : (publishingSystem cfg).step s e = some s')
    (hGet : s.queue[q]? = some job) :
    ∃ job', s'.queue[q]? = some job' ∧ job'.added = job.added := by
  have hAdded := queue_added (dispatch_step h)
  have hPlace : (s.queue.map QueuedJob.added)[q]? = some job.added := by
    rw [List.getElem?_map, hGet, Option.map_some]
  have hPlace' : (s'.queue.map QueuedJob.added)[q]? = some job.added := by
    rw [hAdded, List.getElem?_append_left (List.getElem?_eq_some_iff.mp hPlace).1, hPlace]
  rw [List.getElem?_map] at hPlace'
  exact Option.map_eq_some_iff.mp hPlace'

end Steps

end SocialPromotion
