import SocialPromotion.Properties.OutboxConsistency

/-!
# The hand-off to BullMQ

Claim, `add`, mark and release are four steps in two stores. Two runs of `dispatchPending` can
hold the same record once its dispatch lease is over, and an operation can renew the outbox row
between any two of the steps. What keeps this together is that an id stands for one hand-off:

* `ticket_unique`: rows, records and additions with the same id are for the same job and time;
* `handed_over`: a row is marked only where BullMQ was given its hand-off;
* `hand_off_kept`: what is marked was handed over, what is not marked will be claimed, and a run
  writes only the rows whose own hand-off it holds;
* `hand_off_of_row`: the same of each row, whatever becomes of the other hand-offs.
-/

namespace SocialPromotion

open LTS PublishingQueue PgPublishOutboxRepository

-- ---------------------------------------------------------------------------
-- Tickets
-- ---------------------------------------------------------------------------

/-- What is handed over: a job for a time, under an id. -/
structure Ticket where
  queueJobId : QueueJobId
  publishJobId : JobId
  scheduledAt : Time
deriving DecidableEq

def OutboxRow.ticket (j : JobId) (row : OutboxRow) : Ticket := ⟨row.queueJobId, j, row.scheduledAt⟩

def PublishQueueRecord.ticket (record : PublishQueueRecord) : Ticket :=
  ⟨record.queueJobId, record.publishJobId, record.scheduledAt⟩

/-- A row stands for the ticket, a run holds it, or it was handed over. -/
inductive Issued (s : PublishingState × List Addition) (ticket : Ticket) : Prop
  | row {j : JobId} {row : OutboxRow} (hRow : s.1.db.outbox.lookup j = some row)
      (hTicket : row.ticket j = ticket) : Issued s ticket
  | held {i : Nat} {state : PublishingQueue.State} {record : PublishQueueRecord}
      (hState : s.1.dispatchers[i]? = some state) (hHeld : record ∈ state.held)
      (hTicket : record.ticket = ticket) : Issued s ticket
  | added {addition : Addition} (hAdded : addition ∈ s.2)
      (hTicket : addition.record.ticket = ticket) : Issued s ticket

section Tickets

variable {cfg : Config} {s t : PublishingState} {log : List Addition} {e : Event}
  {ticket ticket' : Ticket}

theorem ticket_of_same {j : JobId} {old new : OutboxRow} (h : SameDelivery old new) :
    old.ticket j = new.ticket j := by
  unfold OutboxRow.ticket
  rw [h.1, h.2]

/-- A ticket was issued before a step, or the step has put it into the outbox. -/
theorem issued_origin (hStep : DispatchStep cfg s e t)
    (h : Issued (t, log ++ additions s e t) ticket) :
    Issued (s, log) ticket ∨
      s.db.nextUuid ≤ ticket.queueJobId.uuid ∧ ticket.queueJobId.uuid < t.db.nextUuid ∧
        ticket.queueJobId.job = ticket.publishJobId ∧
        ∃ row, t.db.outbox.lookup ticket.publishJobId = some row ∧
          row.ticket ticket.publishJobId = ticket := by
  cases h with
  | @row j new hRow hTicket =>
    subst hTicket
    cases outbox_origin hStep hRow with
    | kept hOld hSame => exact Or.inl (.row hOld (ticket_of_same hSame))
    | marked hOld hSame => exact Or.inl (.row hOld (ticket_of_same hSame))
    | fresh hLower hUpper => exact Or.inr ⟨hLower, hUpper, rfl, _, hRow, rfl⟩
  | held hState hHeld hTicket =>
    subst hTicket
    rcases heldRecord_origin hStep hState hHeld with ⟨state, hBefore, hHeld⟩ | ⟨j, hTaken⟩
    · exact Or.inl (.held hBefore hHeld rfl)
    · -- a record is read off its row
      obtain ⟨row, job, post, hRow, -, -, rfl⟩ := hTaken
      exact Or.inl (.row hRow rfl)
  | added hAdded hTicket =>
    subst hTicket
    rcases List.mem_append.mp hAdded with hOld | hNew
    · exact Or.inl (.added hOld rfl)
    · obtain ⟨i, state, hState, hHeld⟩ := of_mem_additions hNew
      exact Or.inl (.held hState hHeld rfl)

/-- What the issued tickets have in common. -/
structure Tickets (s : PublishingState × List Addition) : Prop where
  drawn : ∀ ticket, Issued s ticket → ticket.queueJobId.uuid < s.1.db.nextUuid
  unique : ∀ ticket ticket', Issued s ticket → Issued s ticket' →
    ticket.queueJobId = ticket'.queueJobId → ticket = ticket'

theorem tickets_initial {s : PublishingState × List Addition}
    (hInit : (additionSystem cfg).Initial s) : Tickets s := by
  have hNone : ∀ ticket, ¬ Issued s ticket := by
    intro ticket h
    obtain ⟨⟨⟨campaigns, accounts, hDb⟩, -, -, hRuns, -⟩, hLog⟩ := hInit
    cases h with
    | row hRow =>
      rw [hDb] at hRow
      cases hRow
    | held hState =>
      rw [hRuns] at hState
      cases hState
    | added hAdded =>
      rw [hLog] at hAdded
      cases hAdded
  exact ⟨fun ticket h => absurd h (hNone ticket), fun ticket _ h => absurd h (hNone ticket)⟩

/-- **One step** issues tickets under ids of its own. -/
theorem tickets_step (h : Tickets (s, log)) (hStep : DispatchStep cfg s e t)
    (hUuid : s.db.nextUuid ≤ t.db.nextUuid) : Tickets (t, log ++ additions s e t) := by
  constructor
  · intro ticket hIssued
    rcases issued_origin hStep hIssued with hOld | ⟨-, hUpper, -⟩
    · exact (h.drawn ticket hOld).trans_le hUuid
    · exact hUpper
  · intro ticket ticket' hIssued hIssued' hId
    -- an id that was issued before is not drawn again
    have hApart : ∀ {a b : Ticket}, Issued (s, log) a → s.db.nextUuid ≤ b.queueJobId.uuid →
        a.queueJobId ≠ b.queueJobId := by
      intro a b hOld hLower hSame
      have hLt := h.drawn a hOld
      rw [hSame] at hLt
      exact Nat.lt_irrefl _ (hLt.trans_le hLower)
    rcases issued_origin hStep hIssued with hOld | ⟨hLower, -, hJob, row, hRow, hTicket⟩
    · rcases issued_origin hStep hIssued' with hOld' | ⟨hLower', -⟩
      · exact h.unique _ _ hOld hOld' hId
      · exact absurd hId (hApart hOld hLower')
    · rcases issued_origin hStep hIssued' with hOld' | ⟨-, -, hJob', row', hRow', hTicket'⟩
      · exact absurd hId.symm (hApart hOld' hLower)
      · -- two new tickets with one id are those of one row
        have hSameJob : ticket.publishJobId = ticket'.publishJobId := by
          rw [← hJob, ← hJob', hId]
        rw [← hSameJob] at hRow' hTicket'
        rw [hRow, Option.some.injEq] at hRow'
        rw [← hTicket, ← hTicket', hRow']

theorem tickets_reachable {ok : PublishingState × List Addition → Event → Prop}
    {s : PublishingState × List Addition} (h : Reachable (additionSystem cfg) ok s) :
    Tickets s := by
  refine h.invariant (fun _ => tickets_initial) fun s e t hBefore _ hMove => ?_
  obtain ⟨hMove, hLog⟩ := logged_step.mp hMove
  have hTickets : Tickets (s.1, s.2) := hBefore
  have hNext := tickets_step hTickets (dispatch_step hMove)
    (nextUuid_le_of_step (table_step hMove))
  rw [← hLog] at hNext
  exact hNext

/-- **An id stands for one hand-off**, wherever it occurs. -/
theorem ticket_unique {ok : PublishingState × List Addition → Event → Prop}
    {s : PublishingState × List Addition} (h : Reachable (additionSystem cfg) ok s)
    (hIssued : Issued s ticket) (hIssued' : Issued s ticket')
    (hId : ticket.queueJobId = ticket'.queueJobId) : ticket = ticket' :=
  (tickets_reachable h).unique _ _ hIssued hIssued' hId

end Tickets

-- ---------------------------------------------------------------------------
-- What was handed over
-- ---------------------------------------------------------------------------

/-- BullMQ was given the hand-off that the ticket stands for. -/
def HandedOver (log : List Addition) (ticket : Ticket) : Prop :=
  ∃ addition ∈ log, addition.record.ticket = ticket

/-- The queue holds what was added to it, in that order. -/
def QueueRecorded (s : PublishingState × List Addition) : Prop :=
  s.1.queue.map QueuedJob.added = s.2.map fun addition => addition.job.added

/-- What is marked, or about to be, was handed over. -/
structure HandOffs (s : PublishingState × List Addition) : Prop where
  handed : ∀ (i : Nat) (state : PublishingQueue.State) (record : PublishQueueRecord),
    s.1.dispatchers[i]? = some state → state.handed = some record → HandedOver s.2 record.ticket
  marked : ∀ j row, s.1.db.outbox.lookup j = some row → row.enqueuedAt.isSome →
    HandedOver s.2 (row.ticket j)

section HandOffs

variable {cfg : Config} {s t : PublishingState} {log : List Addition} {e : Event}

theorem HandedOver.mono {ticket : Ticket} (h : HandedOver log ticket) (more : List Addition) :
    HandedOver (log ++ more) ticket := by
  obtain ⟨addition, hMem, hTicket⟩ := h
  exact ⟨addition, List.mem_append_left _ hMem, hTicket⟩

theorem queueRecorded_reachable {ok : PublishingState × List Addition → Event → Prop}
    {s : PublishingState × List Addition} (h : Reachable (additionSystem cfg) ok s) :
    QueueRecorded s := by
  refine h.invariant (fun s hInit => ?_) fun s e t hBefore _ hMove => ?_
  · obtain ⟨⟨-, hQueue, -⟩, hLog⟩ := hInit
    unfold QueueRecorded
    rw [hQueue, hLog, List.map_nil, List.map_nil]
  · obtain ⟨hMove, hLog⟩ := logged_step.mp hMove
    unfold QueueRecorded
    rw [queue_added (dispatch_step hMove), hLog, List.map_append, hBefore]

/-- A record that a run holds is issued, and so is the one it is about to mark. -/
theorem held_of_handed {state : PublishingQueue.State} {record : PublishQueueRecord}
    (h : state.handed = some record) : record ∈ state.held := by
  unfold PublishingQueue.State.handed at h
  split at h
  · obtain rfl := Option.some.inj h
    exact List.mem_cons_self ..
  · cases h

/-- The `add` of a record leaves its hand-off with BullMQ, also where a job is kept under its
id already. -/
theorem handedOver_of_add (hTickets : Tickets (s, log)) (hQueue : QueueRecorded (s, log))
    {i : Nat} {date : Time} {locked : List JobId} {record : PublishQueueRecord}
    {rest : List PublishQueueRecord} {enqueued failed : Nat}
    (hState : s.dispatchers[i]? = some (.running (.enqueue record) rest enqueued failed)) :
    HandedOver (log ++ additions s (.dispatcher i .returned date locked) t) record.ticket := by
  by_cases hKeeps : BullMqPublishQueue.keeps record s.queue = true
  · obtain ⟨job, hJob, hSame⟩ := List.any_eq_true.mp hKeeps
    have hId : job.jobId = record.queueJobId := (of_decide_eq_true hSame).1
    -- the job that is kept was added for a record with this id
    have hAdded : job.added ∈ log.map fun addition => addition.job.added := by
      rw [← show s.queue.map QueuedJob.added = _ from hQueue]
      exact List.mem_map_of_mem hJob
    obtain ⟨addition, hMem, hAddition⟩ := List.mem_map.mp hAdded
    have hIds : addition.record.queueJobId = record.queueJobId :=
      (congrArg Prod.fst hAddition).trans hId
    have hTicket := hTickets.unique _ _ (.added hMem rfl)
      (.held hState (List.mem_cons_self ..) rfl) hIds
    exact ⟨addition, List.mem_append_left _ hMem, hTicket⟩
  · have hNew : (⟨record, date⟩ : Addition) ∈
        additions s (.dispatcher i .returned date locked) t := by
      simp [additions, hState, CallResult.performed, hKeeps]
    exact ⟨_, List.mem_append_right _ hNew, rfl⟩

/-- **One step** marks what was handed over. -/
theorem handOffs_step (h : HandOffs (s, log)) (hTickets : Tickets (s, log))
    (hQueue : QueueRecorded (s, log)) (hStep : DispatchStep cfg s e t) :
    HandOffs (t, log ++ additions s e t) := by
  constructor
  · intro i state record hState hHanded
    rcases handed_origin hStep hState hHanded with
      ⟨before, hBefore, hHanded⟩ | ⟨date, locked, rest, enqueued, failed, rfl, hBefore⟩
    · exact (h.handed i before record hBefore hHanded).mono _
    · exact handedOver_of_add hTickets hQueue hBefore
  · intro j row hRow hMarked
    cases outbox_origin hStep hRow with
    | kept hOld hSame hEnqueued =>
      rw [hEnqueued] at hMarked
      rw [← ticket_of_same hSame]
      exact (h.marked j _ hOld hMarked).mono _
    | @marked old new i state record hOld hSame hState hHanded hJob hQueueJob =>
      -- the run marks by the id, which stands for one hand-off
      have hTicket : record.ticket = old.ticket j := hTickets.unique _ _
        (.held hState (held_of_handed hHanded) rfl) (.row hOld rfl) hQueueJob
      rw [← ticket_of_same hSame, ← hTicket]
      exact (h.handed i state record hState hHanded).mono _
    | fresh => cases hMarked

theorem handed_over {ok : PublishingState × List Addition → Event → Prop}
    {s : PublishingState × List Addition} (h : Reachable (additionSystem cfg) ok s) :
    HandOffs s := by
  refine h.invariant_of (fun s hInit => ?_) fun s e t hReach hBefore _ hMove => ?_
  · obtain ⟨⟨⟨campaigns, accounts, hDb⟩, -, -, hRuns, -⟩, -⟩ := hInit
    constructor
    · intro i state record hState
      rw [hRuns] at hState
      cases hState
    · intro j row hRow
      rw [hDb] at hRow
      cases hRow
  · obtain ⟨hMove, hLog⟩ := logged_step.mp hMove
    have hHandOffs : HandOffs (s.1, s.2) := hBefore
    have hNext := handOffs_step hHandOffs (tickets_reachable hReach)
      (queueRecorded_reachable hReach) (dispatch_step hMove)
    rw [← hLog] at hNext
    exact hNext

end HandOffs

-- ---------------------------------------------------------------------------
-- No hand-off is lost
-- ---------------------------------------------------------------------------

/-- What has become of the hand-off of an outbox row, or will become of it. -/
structure RowHandOff (s : PublishingState) (j : JobId) (row : OutboxRow) : Prop where
  /-- BullMQ was given a job under the id of the row that waits until the time of the row. -/
  marked : row.enqueuedAt.isSome → ∃ job ∈ s.queue, job.jobId = row.queueJobId ∧
    job.data.publishJobId = j ∧ job.delay = row.scheduledAt - job.timestamp
  /-- Every later claim returns its record, once its lease is over, if fewer rows than its limit are
  to be taken before it. -/
  unmarked : row.enqueuedAt = none → ∀ limit leaseMs now locked,
    row.dispatchLeaseExpiresAt.getD 0 ≤ now → j ∉ locked →
    s.db.outbox.entries.countP (takenBefore now locked j row) < limit →
    ∃ record ∈ (claimOutbox limit leaseMs now locked s.db).1, record.ticket = row.ticket j

/-- What a run can do to an outbox row: lease it by its claim, or write it where it holds the hand-off
that the row stands for. -/
def WritesOwn (s t : PublishingState) (i : Nat) (j : JobId) (row : OutboxRow) : Prop :=
  t.db.outbox.lookup j = some row ∨
    (∃ state leaseMs, s.dispatchers[i]? = some state ∧ state.current = none ∧
      claimableOutbox s.clock row = true ∧
      t.db.outbox.lookup j = some (leaseRow leaseMs s.clock row)) ∨
    ∃ state record row', s.dispatchers[i]? = some state ∧ state.current = some record ∧
      record.ticket = row.ticket j ∧ t.db.outbox.lookup j = some row' ∧ row'.ticket j = row.ticket j

section Kept

variable {cfg : Config} {s t : PublishingState} {log : List Addition} {e : Event} {j : JobId}
  {row : OutboxRow}

theorem job_of_handedOver (hQueue : QueueRecorded (s, log)) (h : HandedOver log (row.ticket j)) :
    ∃ job ∈ s.queue, job.jobId = row.queueJobId ∧ job.data.publishJobId = j ∧
      job.delay = row.scheduledAt - job.timestamp := by
  obtain ⟨addition, hMem, hTicket⟩ := h
  have hAdded : addition.job.added ∈ s.queue.map QueuedJob.added := by
    rw [show s.queue.map QueuedJob.added = _ from hQueue]
    exact List.mem_map_of_mem hMem
  obtain ⟨job, hJob, hSame⟩ := List.mem_map.mp hAdded
  have hId : job.jobId = addition.record.queueJobId := congrArg Prod.fst hSame
  have hData : job.data.publishJobId = addition.record.publishJobId :=
    congrArg (fun a => a.2.1.publishJobId) hSame
  have hDate : job.timestamp = addition.date := congrArg (fun a => a.2.2.1) hSame
  have hDelay : job.delay = addition.record.scheduledAt - addition.date :=
    congrArg (fun a => a.2.2.2) hSame
  have hRecord : addition.record.queueJobId = row.queueJobId :=
    congrArg Ticket.queueJobId hTicket
  have hJobId : addition.record.publishJobId = j := congrArg Ticket.publishJobId hTicket
  have hTime : addition.record.scheduledAt = row.scheduledAt :=
    congrArg Ticket.scheduledAt hTicket
  exact ⟨job, hJob, hId.trans hRecord, hData.trans hJobId, by rw [hDelay, hTime, hDate]⟩

/-- A row that is not marked can be claimed once its lease is over. -/
theorem open_of_unmarked (hMarked : row.enqueuedAt = none) {now : Time}
    (hLease : row.dispatchLeaseExpiresAt.getD 0 ≤ now) : claimableOutbox now row = true := by
  unfold claimableOutbox due
  cases hExpires : row.dispatchLeaseExpiresAt with
  | none => simp [hMarked]
  | some time =>
    rw [hExpires] at hLease
    simpa [hMarked] using hLease

/-- A row is joined with its job and its post. -/
theorem joined_of_row (hConsistent : OutboxConsistent s.db)
    (hRow : s.db.outbox.lookup j = some row) : ∃ job post, s.db.job? j = some job ∧
      s.db.posts.lookup job.postId = some post := by
  obtain ⟨job, hJob⟩ := hConsistent.known j row hRow
  obtain ⟨status, hStatus, -⟩ := hConsistent.job j job hJob
  obtain ⟨post, hPost, -⟩ := Option.map_eq_some_iff.mp hStatus
  exact ⟨job, post, hJob, hPost⟩

/-- A row that is not marked is taken by a claim with room for it after those before it. -/
theorem claimed_of_unmarked (hConsistent : OutboxConsistent s.db)
    (hRow : s.db.outbox.lookup j = some row) (hMarked : row.enqueuedAt = none)
    {limit leaseMs : Nat} {now : Time} {locked : List JobId}
    (hLease : row.dispatchLeaseExpiresAt.getD 0 ≤ now) (hLocked : j ∉ locked)
    (hRoom : s.db.outbox.entries.countP (takenBefore now locked j row) < limit) :
    ∃ record ∈ (claimOutbox limit leaseMs now locked s.db).1, record.ticket = row.ticket j := by
  obtain ⟨job, post, hJob, hPost⟩ := joined_of_row hConsistent hRow
  have hCandidate := mem_outboxCandidates hRow (open_of_unmarked hMarked hLease) hLocked hRoom
  exact ⟨recordOf j row job post,
    mem_claimOutbox.mpr ⟨j, hCandidate, row, job, post, hRow, hJob, hPost, rfl⟩, rfl⟩

/-- The calls of a run with one record do not touch the rows of other hand-offs. -/
theorem writesOwn_of_step (hTickets : Tickets (s, log)) (hStep : DispatchStep cfg s e t) {i : Nat}
    {result : CallResult} {date : Time} {locked : List JobId}
    (hEvent : e = .dispatcher i result date locked) (hRow : s.db.outbox.lookup j = some row) :
    WritesOwn s t i j row := by
  -- marking and releasing address a row by the id of the record
  have hWrites : ∀ {state : PublishingQueue.State} {record : PublishQueueRecord}
      {set : OutboxRow → OutboxRow}, s.dispatchers[i]? = some state →
      state.current = some record → record ∈ state.held → (∀ r, SameDelivery r (set r)) →
      OutboxMapped (fun k r => if result.performed = true ∧ k = record.publishJobId ∧
        r.queueJobId = record.queueJobId then set r else r) s.db t.db → WritesOwn s t i j row := by
    intro state record set hState hCurrent hHeld hSet hRows
    have hNew := hRows j
    rw [hRow, Option.map_some] at hNew
    dsimp only at hNew
    split at hNew
    · rename_i hOwn
      have hTicket : record.ticket = row.ticket j := hTickets.unique _ _
        (.held hState hHeld rfl) (.row hRow rfl) hOwn.2.2.symm
      exact Or.inr (Or.inr ⟨state, record, _, hState, hCurrent, hTicket, hNew,
        (ticket_of_same (hSet row)).symm⟩)
    · exact Or.inl hNew
  cases hStep with
  | elsewhere hOther => exact absurd hEvent (hOther _ _ _ _)
  | begun | edited => cases hEvent
  | claimed hMoved _ hRows =>
    cases hEvent
    have hNew := hRows j
    rw [hRow, Option.map_some] at hNew
    dsimp only at hNew
    split at hNew
    · rename_i hTaken
      obtain ⟨row', hRow', hOpen⟩ := of_mem_outboxCandidates hTaken.2.1
      rw [hRow, Option.some.injEq] at hRow'
      exact Or.inr (Or.inl ⟨_, _, hMoved.1, rfl, hRow' ▸ hOpen, hNew⟩)
    · exact Or.inl hNew
  | enqueued _ _ hDb => exact Or.inl (by rw [hDb, hRow])
  | marked hMoved _ hRows =>
    cases hEvent
    exact @hWrites _ _ (enqueuedRow s.clock) hMoved.1 rfl (List.mem_cons_self ..)
      (fun _ => ⟨rfl, rfl⟩) hRows
  | @released _ _ _ _ _ errorMessage _ _ _ _ _ hMoved _ hRows =>
    cases hEvent
    exact @hWrites _ _ (releasedRow errorMessage) hMoved.1 rfl (List.mem_cons_self ..)
      (fun _ => ⟨rfl, rfl⟩) hRows

/-- **No hand-off is lost**, however many runs dispatch the outbox, wherever they crash, stall or
fail, and whatever is rescheduled, retried or cancelled meanwhile. -/
theorem hand_off_kept (h : Reachable (publishingSystem cfg) anyStep s) :
    (∀ j row, s.db.outbox.lookup j = some row → RowHandOff s j row) ∧
      ∀ i result date locked t,
        (publishingSystem cfg).step s (.dispatcher i result date locked) = some t →
        ∀ j row, s.db.outbox.lookup j = some row → WritesOwn s t i j row := by
  obtain ⟨log, hLogged⟩ := h.logged additions
  have hTickets := tickets_reachable hLogged
  refine ⟨fun j row hRow => ⟨fun hMarked => ?_, fun hMarked limit leaseMs now locked => ?_⟩,
    fun i result date locked t hMove j row hRow => ?_⟩
  · exact job_of_handedOver (queueRecorded_reachable hLogged)
      ((handed_over hLogged).marked j row hRow hMarked)
  · exact claimed_of_unmarked (consistent_reachable h) hRow hMarked
  · exact writesOwn_of_step hTickets (dispatch_step hMove) rfl hRow

end Kept

/-- Job 1 is approved; run 0 claims its record and hands it over; job 1 is rescheduled, and the
renewed row is claimed and handed over by run 1 before run 0 marks what it holds. -/
def rescheduledBehind : List Event :=
  Installation.approved ++ [.dispatch 10 30000, .dispatcher 0 .returned 1000 [],
    .dispatcher 0 .returned 1000 [], .user (.schedule 100 0 (some 5000) 2 0),
    .dispatch 10 30000, .dispatcher 1 .returned 1000 [], .dispatcher 1 .returned 1000 [],
    .dispatcher 0 .returned 1000 [], .dispatcher 1 .returned 1000 []]

theorem hand_off_kept_rescheduled : ∃ s row, s.db.outbox.lookup 1 = some row ∧
    row.enqueuedAt.isSome ∧ s.queue.length = 2 ∧ RowHandOff s 1 row := by
  obtain ⟨s, hReach, hEnd⟩ := exists_reachable_of_run
    (publishingSystem (Installation.config false false)) anyStep
    (fun s => ((s.db.outbox.lookup 1).any fun row => row.enqueuedAt.isSome) &&
      s.queue.length = 2) rescheduledBehind (Installation.start_initial _) (by decide +kernel)
  rw [Bool.and_eq_true] at hEnd
  obtain ⟨row, hRow, hMarked⟩ := (Option.any_eq_true _ _).mp hEnd.1
  exact ⟨s, row, hRow, hMarked, of_decide_eq_true hEnd.2, (hand_off_kept hReach).1 1 row hRow⟩

end SocialPromotion
