import SocialPromotion.Lib.History
import SocialPromotion.Lib.Query
import SocialPromotion.Steps.Runs

/-!
# What one step does to the outbox and the queue

* `dispatch_step`: what each step of `publishingSystem` does to the outbox rows, to the runs of
  `PublishingQueue.dispatchPending` and to the jobs that BullMQ was given;
* `outbox_change`: what that is for one outbox row;
* `additionSystem`: the publishing system with a record of the jobs added to the queue.
-/

namespace SocialPromotion

open LTS

namespace PgPublishOutboxRepository

/-! ## The statements of a run -/

theorem lookup_updateOutboxRecord (record : PublishQueueRecord) (set : OutboxRow → OutboxRow)
    (db : Database) (k : JobId) : (updateOutboxRecord record set db).outbox.lookup k =
      (db.outbox.lookup k).map fun row =>
        if k = record.publishJobId ∧ row.queueJobId = record.queueJobId then set row else row := by
  unfold updateOutboxRecord
  split
  · rename_i row hRow
    split
    · rename_i hSame
      rcases eq_or_ne k record.publishJobId with rfl | hk
      · rw [AList.lookup_insert, hRow, Option.map_some, if_pos ⟨rfl, hSame⟩]
      · rw [AList.lookup_insert_ne hk]
        simp [hk]
    · rename_i hOther
      rcases eq_or_ne k record.publishJobId with rfl | hk
      · simp [hRow, hOther]
      · simp [hk]
  · rename_i hNone
    rcases eq_or_ne k record.publishJobId with rfl | hk
    · simp [hNone]
    · simp [hk]

/-- What `claimOutbox` writes. -/
def leaseRow (leaseMs : Nat) (now : Time) (row : OutboxRow) : OutboxRow :=
  { row with
    dispatchLeaseExpiresAt := some (now + leaseMs)
    dispatchAttemptCount := row.dispatchAttemptCount + 1 }

/-- What `markOutboxEnqueued` writes. -/
def enqueuedRow (now : Time) (row : OutboxRow) : OutboxRow :=
  { row with enqueuedAt := some now, dispatchLeaseExpiresAt := none, lastDispatchError := none }

/-- What `releaseOutbox` writes. -/
def releasedRow (errorMessage : String) (row : OutboxRow) : OutboxRow :=
  { row with
    dispatchLeaseExpiresAt := none
    lastDispatchError := some (sliceMessage errorMessage 500) }

/-- The joins of `claimOutbox` find the job and its post. -/
def joined (db : Database) (id : JobId) : Bool :=
  (db.job? id).any fun job => (db.posts.lookup job.postId).isSome

/-- The record that `claimOutbox` returns of an outbox row. -/
def recordOf (id : JobId) (row : OutboxRow) (job : SocialPublishJob) (post : PostRow) :
    PublishQueueRecord where
  publishJobId := id
  campaignId := post.campaignId
  postId := job.postId
  platform := job.platform
  socialAccountId := job.accountId
  remotePostId := job.remotePostId
  queueJobId := row.queueJobId
  scheduledAt := row.scheduledAt

/-- `record` is what `claimOutbox` returns of the outbox row of job `id`. -/
def Taken (db : Database) (id : JobId) (record : PublishQueueRecord) : Prop :=
  ∃ row job post, db.outbox.lookup id = some row ∧ db.job? id = some job ∧
    db.posts.lookup job.postId = some post ∧ record = recordOf id row job post

theorem nodup_outboxCandidates (db : Database) (limit : Nat) (now : Time) (locked : List JobId) :
    (outboxCandidates db limit now locked).Nodup := by
  unfold outboxCandidates
  dsimp only
  refine List.Nodup.sublist (List.take_sublist _ _) ?_
  have hPerm := (List.perm_insertionSort
    (fun a b : Sigma fun _ : JobId => OutboxRow => a.2.scheduledAt < b.2.scheduledAt ∨
      (a.2.scheduledAt = b.2.scheduledAt ∧ a.1 ≤ b.1))
    (db.outbox.entries.filter fun e =>
      claimableOutbox now e.2 && !locked.contains e.1)).map Sigma.fst
  refine hPerm.nodup_iff.mpr ?_
  exact db.outbox.keys_nodup.sublist (List.filter_sublist.map Sigma.fst)

/-- Only what the WHERE clause of `claimOutbox` selects is taken. -/
theorem of_mem_outboxCandidates {limit : Nat} {now : Time} {locked : List JobId} {db : Database}
    {id : JobId} (h : id ∈ outboxCandidates db limit now locked) :
    ∃ row, db.outbox.lookup id = some row ∧ claimableOutbox now row = true := by
  unfold outboxCandidates at h
  obtain ⟨⟨k, row⟩, hMem, rfl⟩ := List.mem_map.mp (List.mem_of_mem_take h)
  obtain ⟨hMem, hOpen⟩ := List.mem_filter.mp ((List.mem_insertionSort _).mp hMem)
  rw [Bool.and_eq_true] at hOpen
  exact ⟨row, AList.mem_lookup_iff.mpr hMem, hOpen.1⟩

/-- `ORDER BY scheduled_at, publish_job_id`. -/
def dispatchOrder (a b : Sigma fun _ : JobId => OutboxRow) : Prop :=
  a.2.scheduledAt < b.2.scheduledAt ∨ (a.2.scheduledAt = b.2.scheduledAt ∧ a.1 ≤ b.1)

instance : DecidableRel dispatchOrder := fun _ _ => inferInstanceAs (Decidable (_ ∨ _ ∧ _))

instance : Std.Total dispatchOrder where
  total a b := by
    unfold dispatchOrder
    rcases Nat.lt_trichotomy a.2.scheduledAt b.2.scheduledAt with hTime | hTime | hTime
    · exact Or.inl (Or.inl hTime)
    · rcases Nat.le_total a.1 b.1 with hId | hId
      · exact Or.inl (Or.inr ⟨hTime, hId⟩)
      · exact Or.inr (Or.inr ⟨hTime.symm, hId⟩)
    · exact Or.inr (Or.inl hTime)

instance : IsTrans _ dispatchOrder where
  trans a b c := by
    rintro (hTime | ⟨hTime, hId⟩) (hTime' | ⟨hTime', hId'⟩)
    · exact Or.inl (Nat.lt_trans hTime hTime')
    · exact Or.inl (hTime' ▸ hTime)
    · exact Or.inl (hTime ▸ hTime')
    · exact Or.inr ⟨hTime.trans hTime', Nat.le_trans hId hId'⟩

/-- The rows that a claim takes before that of a job: those that it may take and that come first in
the order of dispatch. -/
def takenBefore (now : Time) (locked : List JobId) (id : JobId) (row : OutboxRow)
    (e : Sigma fun _ : JobId => OutboxRow) : Bool :=
  claimableOutbox now e.2 && !locked.contains e.1 &&
    decide (e.2.scheduledAt < row.scheduledAt ∨ e.2.scheduledAt = row.scheduledAt ∧ e.1 < id)

/-- What it selects is taken, where the rows before it leave room. -/
theorem mem_outboxCandidates {limit : Nat} {now : Time} {locked : List JobId} {db : Database}
    {id : JobId} {row : OutboxRow} (hRow : db.outbox.lookup id = some row)
    (hOpen : claimableOutbox now row = true) (hLocked : id ∉ locked)
    (hRoom : db.outbox.entries.countP (takenBefore now locked id row) < limit) :
    id ∈ outboxCandidates db limit now locked := by
  have hMem := AList.mem_lookup_iff.mp hRow
  have hTaken : ⟨id, row⟩ ∈ ((db.outbox.entries.filter fun e =>
      claimableOutbox now e.2 && !locked.contains e.1).insertionSort dispatchOrder).take limit := by
    refine Query.mem_take_insertionSort (List.mem_filter.mpr ⟨hMem, by simp [hOpen, hLocked]⟩)
      (fun other hOther hNe hOrder => ?_)
      (lt_of_le_of_lt (List.Sublist.countP_le List.filter_sublist) hRoom)
    obtain ⟨hStored, hCandidate⟩ := List.mem_filter.mp hOther
    -- another row of the same time has another id
    have hKey : other.1 ≠ id := by
      intro hSame
      subst hSame
      have hRow' := AList.mem_lookup_iff.mpr hStored
      rw [hRow] at hRow'
      exact hNe (Sigma.ext rfl (heq_of_eq (Option.some.inj hRow').symm))
    rw [takenBefore, hCandidate, Bool.true_and]
    refine decide_eq_true ?_
    rcases hOrder with hTime | ⟨hTime, hId⟩
    · exact Or.inl hTime
    · exact Or.inr ⟨hTime, Nat.lt_of_le_of_ne hId hKey⟩
  unfold outboxCandidates
  dsimp only
  rw [← List.map_take]
  exact List.mem_map.mpr ⟨⟨id, row⟩, hTaken, rfl⟩

section Claim

variable {leaseMs : Nat} {now : Time} {acc : List PublishQueueRecord × Database} {id : JobId}

/-- One candidate: its row is leased and its record returned, where the joins find it. -/
theorem claimOutboxRow_row (k : JobId) :
    (claimOutboxRow leaseMs now acc id).2.outbox.lookup k =
      (acc.2.outbox.lookup k).map fun row =>
        if k = id ∧ joined acc.2 id = true then leaseRow leaseMs now row else row := by
  unfold claimOutboxRow joined
  dsimp only
  split
  · rename_i row job hRow hJob
    split
    · rename_i post hPost
      rcases eq_or_ne k id with rfl | hk
      · simp [AList.lookup_insert, hRow, hJob, hPost, leaseRow]
      · simp [AList.lookup_insert_ne hk, hk]
    · rename_i hPost
      simp [hJob, hPost]
  · rename_i hNot
    cases hRow : acc.2.outbox.lookup id with
    | none =>
      rcases eq_or_ne k id with rfl | hk
      · simp [hRow]
      · simp [hk]
    | some row =>
      cases hJob : acc.2.job? id with
      | none => simp
      | some job => exact absurd hJob (hNot row job hRow)

theorem claimOutboxRow_tables : (claimOutboxRow leaseMs now acc id).2.posts = acc.2.posts ∧
    ∀ k, (claimOutboxRow leaseMs now acc id).2.job? k = acc.2.job? k := by
  unfold claimOutboxRow
  dsimp only
  split
  · split
    · exact ⟨rfl, fun _ => rfl⟩
    · exact ⟨rfl, fun _ => rfl⟩
  · exact ⟨rfl, fun _ => rfl⟩

theorem mem_claimOutboxRow {record : PublishQueueRecord} :
    record ∈ (claimOutboxRow leaseMs now acc id).1 ↔ record ∈ acc.1 ∨ Taken acc.2 id record := by
  unfold claimOutboxRow Taken
  dsimp only
  split
  · rename_i row job hRow hJob
    split
    · rename_i post hPost
      rw [List.mem_append, List.mem_singleton]
      refine or_congr_right ⟨fun h => ⟨row, job, post, hRow, hJob, hPost, h⟩, ?_⟩
      rintro ⟨row', job', post', hRow', hJob', hPost', rfl⟩
      rw [hRow, Option.some.injEq] at hRow'
      rw [hJob, Option.some.injEq] at hJob'
      subst hRow' hJob'
      rw [hPost, Option.some.injEq] at hPost'
      subst hPost'
      rfl
    · rename_i hPost
      refine (or_iff_left ?_).symm
      rintro ⟨row', job', post', -, hJob', hPost', -⟩
      rw [hJob, Option.some.injEq] at hJob'
      subst hJob'
      rw [hPost] at hPost'
      injection hPost'
  · rename_i hNot
    refine (or_iff_left ?_).symm
    rintro ⟨row', job', post', hRow', hJob', -, -⟩
    exact hNot row' job' hRow' hJob'

/-- The loop of `claimOutbox` over distinct rows. -/
theorem claimOutbox_loop {ids : List JobId} (hNodup : ids.Nodup) :
    (∀ k, (ids.foldl (claimOutboxRow leaseMs now) acc).2.outbox.lookup k =
      (acc.2.outbox.lookup k).map fun row =>
        if k ∈ ids ∧ joined acc.2 k = true then leaseRow leaseMs now row else row) ∧
    ∀ record, record ∈ (ids.foldl (claimOutboxRow leaseMs now) acc).1 ↔
      record ∈ acc.1 ∨ ∃ id ∈ ids, Taken acc.2 id record := by
  induction ids generalizing acc with
  | nil => simp
  | cons id rest ih =>
    obtain ⟨hNotMem, hNodup⟩ := List.nodup_cons.mp hNodup
    obtain ⟨hRows, hRecords⟩ := @ih (claimOutboxRow leaseMs now acc id) hNodup
    obtain ⟨hPosts, hJobs⟩ := @claimOutboxRow_tables leaseMs now acc id
    rw [List.foldl_cons]
    constructor
    · intro k
      have hJoined : joined (claimOutboxRow leaseMs now acc id).2 k = joined acc.2 k := by
        simp only [joined, hJobs, hPosts]
      rw [hRows, claimOutboxRow_row, Option.map_map, hJoined]
      refine congrArg (Option.map · _) (funext fun row => ?_)
      rcases eq_or_ne k id with rfl | hk
      · simp [hNotMem]
      · simp [hk]
    · intro record
      rw [hRecords, mem_claimOutboxRow, or_assoc]
      refine or_congr_right ?_
      -- the rows of the other candidates are as they were
      have hTaken : ∀ k ∈ rest,
          Taken (claimOutboxRow leaseMs now acc id).2 k record ↔ Taken acc.2 k record := by
        intro k hk
        have hNe : k ≠ id := fun he => hNotMem (he ▸ hk)
        have hRow : (claimOutboxRow leaseMs now acc id).2.outbox.lookup k =
            acc.2.outbox.lookup k := by
          rw [claimOutboxRow_row]
          simp [hNe]
        simp only [Taken, hRow, hJobs, hPosts]
      constructor
      · rintro (hHead | ⟨k, hk, hTail⟩)
        · exact ⟨id, List.mem_cons_self .., hHead⟩
        · exact ⟨k, List.mem_cons_of_mem _ hk, (hTaken k hk).mp hTail⟩
      · rintro ⟨k, hk, hTake⟩
        rcases List.mem_cons.mp hk with rfl | hRest
        · exact Or.inl hTake
        · exact Or.inr ⟨k, hRest, (hTaken k hRest).mpr hTake⟩

theorem claimOutbox_row (limit leaseMs : Nat) (now : Time) (locked : List JobId) (db : Database)
    (k : JobId) : (claimOutbox limit leaseMs now locked db).2.outbox.lookup k =
      (db.outbox.lookup k).map fun row =>
        if k ∈ outboxCandidates db limit now locked ∧ joined db k = true then
          leaseRow leaseMs now row
        else row :=
  (claimOutbox_loop (nodup_outboxCandidates db limit now locked)).1 k

theorem mem_claimOutbox {limit leaseMs : Nat} {now : Time} {locked : List JobId} {db : Database}
    {record : PublishQueueRecord} : record ∈ (claimOutbox limit leaseMs now locked db).1 ↔
      ∃ id ∈ outboxCandidates db limit now locked, Taken db id record := by
  have hLoop := (@claimOutbox_loop leaseMs now ([], db) _
    (nodup_outboxCandidates db limit now locked)).2 record
  exact hLoop.trans (or_iff_right List.not_mem_nil)

end Claim

end PgPublishOutboxRepository

/-! ## Where a run stands -/

namespace PublishingQueue.State

/-- The record that the next call is about. -/
def current : State → Option PublishQueueRecord
  | .running (.enqueue record) _ _ _ => some record
  | .running (.markOutboxEnqueued record) _ _ _ => some record
  | .running (.releaseOutbox record _) _ _ _ => some record
  | .running (.claimOutbox _ _) _ _ _ | .resolved _ _ | .raised => none

/-- The records that a run has claimed and is not done with. -/
def held : State → List PublishQueueRecord
  | .running (.claimOutbox _ _) _ _ _ => []
  | .running (.enqueue record) rest _ _ => record :: rest
  | .running (.markOutboxEnqueued record) rest _ _ => record :: rest
  | .running (.releaseOutbox record _) rest _ _ => record :: rest
  | .resolved _ _ | .raised => []

/-- The record that was handed to BullMQ and is not yet marked. -/
def handed : State → Option PublishQueueRecord
  | .running (.markOutboxEnqueued record) _ _ _ => some record
  | _ => none

end PublishingQueue.State

section Runs

open PublishingQueue

variable {enqueued failed limit leaseMs : Nat} {records rest : List PublishQueueRecord}
  {record : PublishQueueRecord} {error : ThrownError}

@[simp] theorem held_nextRecord : (nextRecord enqueued failed records).held = records := by
  cases records <;> rfl

@[simp] theorem handed_nextRecord : (nextRecord enqueued failed records).handed = none := by
  cases records <;> rfl

@[simp] theorem held_caught : (caught record rest enqueued failed error).held = record :: rest := rfl

@[simp] theorem handed_caught : (caught record rest enqueued failed error).handed = none := rfl

@[simp] theorem held_begun : (PublishingQueue.dispatchPending limit leaseMs).held = [] := rfl

@[simp] theorem handed_begun : (PublishingQueue.dispatchPending limit leaseMs).handed = none := rfl

end Runs

/-! ## What BullMQ was given -/

namespace QueuedJob

/-- What an `add` fixes of a job for good. -/
def added (job : QueuedJob) : QueueJobId × PublishQueueMessage × Time × Nat :=
  (job.jobId, job.data, job.timestamp, job.delay)

theorem added_settled (job : QueuedJob) (date : Time) (outcome : PublishWorkerProcessor.Outcome) :
    (job.settled date outcome).added = job.added := by
  unfold QueuedJob.settled
  split
  · rfl
  · rfl
  · dsimp only
    split <;> rfl
  · dsimp only
    split <;> rfl

/-- A job of the queue moves on. -/
theorem map_added_set {queue : List QueuedJob} {q : Nat} {job job' : QueuedJob}
    (hJob : queue[q]? = some job) (hAdded : job'.added = job.added) :
    (queue.set q job').map added = queue.map added := by
  rw [List.map_set, hAdded]
  refine List.ext_getElem? fun k => ?_
  rw [List.getElem?_set]
  by_cases hk : q = k
  · subst hk
    obtain ⟨hLt, hGet⟩ := List.getElem?_eq_some_iff.mp hJob
    simp [hLt, hGet]
  · simp [hk]

end QueuedJob

/-- BullMQ still keeps a job under the id of the record. -/
def BullMqPublishQueue.keeps (record : PublishQueueRecord) (queue : List QueuedJob) : Bool :=
  queue.any fun q => q.jobId = record.queueJobId ∧ q.state ≠ .removed

theorem BullMqPublishQueue.enqueue_eq (record : PublishQueueRecord) (date : Time)
    (queue : List QueuedJob) : enqueue record date queue =
      if keeps record queue = true then queue else queue ++ [queuedJob record date] := rfl

/-! ## All steps -/

open PgPublishOutboxRepository PublishingQueue

/-- Every outbox row is rewritten by `f`. -/
def OutboxMapped (f : JobId → OutboxRow → OutboxRow) (db db' : Database) : Prop :=
  ∀ k, db'.outbox.lookup k = (db.outbox.lookup k).map (f k)

/-- Run `i` of `dispatchPending` moved from `state` to `state'`. -/
def DispatchMoved (s : PublishingState) (i : Nat) (state state' : PublishingQueue.State)
    (s' : PublishingState) : Prop :=
  s.dispatchers[i]? = some state ∧ s'.dispatchers = s.dispatchers.set i state'

/-- The outbox, the runs that dispatch it, and what BullMQ was given are as before. -/
structure DispatchKept (s s' : PublishingState) : Prop where
  outbox : s'.db.outbox = s.db.outbox
  dispatchers : s'.dispatchers = s.dispatchers
  queue : s'.queue.map QueuedJob.added = s.queue.map QueuedJob.added

inductive DispatchStep (cfg : Config) (s : PublishingState) : Event → PublishingState → Prop
  | elsewhere {e : Event} {s' : PublishingState}
      (hEvent : ∀ i result date locked, e ≠ .dispatcher i result date locked)
      (hKept : DispatchKept s s') : DispatchStep cfg s e s'
  | begun {limit leaseMs : Nat} {s' : PublishingState} (hDb : s'.db = s.db)
      (hQueue : s'.queue = s.queue)
      (hRuns : s'.dispatchers = s.dispatchers ++ [dispatchPending limit leaseMs]) :
      DispatchStep cfg s (.dispatch limit leaseMs) s'
  | edited {operation : UserOperation} {s' : PublishingState} {id : PostId} {row : PostRow}
      {next : Post} {f : SocialPublishJob → SocialPublishJob}
      (hEdit : Edit cfg s.db id row operation next f) (hMutated : Mutated s.db id row next f s'.db)
      (hQueue : s'.queue = s.queue) (hRuns : s'.dispatchers = s.dispatchers) :
      DispatchStep cfg s (.user operation) s'
  | claimed {i : Nat} {result : CallResult} {date : Time} {locked : List JobId}
      {limit leaseMs : Nat} {rest : List PublishQueueRecord} {enqueued failed : Nat}
      {state' : PublishingQueue.State} {s' : PublishingState}
      (hMoved : DispatchMoved s i (.running (.claimOutbox limit leaseMs) rest enqueued failed)
        state' s')
      (hNext : state' = .raised ∨ result = .returned ∧
        state' = nextRecord enqueued failed (claimOutbox limit leaseMs s.clock locked s.db).1)
      (hRows : OutboxMapped (fun k row =>
        if result.performed = true ∧ k ∈ outboxCandidates s.db limit s.clock locked ∧
          joined s.db k = true then leaseRow leaseMs s.clock row
        else row) s.db s'.db)
      (hQueue : s'.queue = s.queue) : DispatchStep cfg s (.dispatcher i result date locked) s'
  | enqueued {i : Nat} {result : CallResult} {date : Time} {locked : List JobId}
      {record : PublishQueueRecord} {rest : List PublishQueueRecord} {enqueued failed : Nat}
      {state' : PublishingQueue.State} {s' : PublishingState}
      (hMoved : DispatchMoved s i (.running (.enqueue record) rest enqueued failed) state' s')
      (hNext : result = .returned ∧
          state' = .running (.markOutboxEnqueued record) rest enqueued failed ∨
        ∃ error, state' = caught record rest enqueued failed error)
      (hDb : s'.db = s.db)
      (hQueue : s'.queue = result.leaves s.queue (BullMqPublishQueue.enqueue record date s.queue)) :
      DispatchStep cfg s (.dispatcher i result date locked) s'
  | marked {i : Nat} {result : CallResult} {date : Time} {locked : List JobId}
      {record : PublishQueueRecord} {rest : List PublishQueueRecord} {enqueued failed : Nat}
      {state' : PublishingQueue.State} {s' : PublishingState}
      (hMoved : DispatchMoved s i (.running (.markOutboxEnqueued record) rest enqueued failed)
        state' s')
      (hNext : state' = nextRecord (enqueued + 1) failed rest ∨
        ∃ error, state' = caught record rest enqueued failed error)
      (hRows : OutboxMapped (fun k row =>
        if result.performed = true ∧ k = record.publishJobId ∧
          row.queueJobId = record.queueJobId then enqueuedRow s.clock row
        else row) s.db s'.db)
      (hQueue : s'.queue = s.queue) : DispatchStep cfg s (.dispatcher i result date locked) s'
  | released {i : Nat} {result : CallResult} {date : Time} {locked : List JobId}
      {record : PublishQueueRecord} {errorMessage : String} {rest : List PublishQueueRecord}
      {enqueued failed : Nat} {state' : PublishingQueue.State} {s' : PublishingState}
      (hMoved : DispatchMoved s i (.running (.releaseOutbox record errorMessage) rest enqueued
        failed) state' s')
      (hNext : state' = nextRecord enqueued failed rest ∨ state' = .raised)
      (hRows : OutboxMapped (fun k row =>
        if result.performed = true ∧ k = record.publishJobId ∧
          row.queueJobId = record.queueJobId then releasedRow errorMessage row
        else row) s.db s'.db)
      (hQueue : s'.queue = s.queue) : DispatchStep cfg s (.dispatcher i result date locked) s'

section Steps

variable {cfg : Config} {s s' : PublishingState}

/-- A call whose effect rewrites the outbox rewrites it where it is performed. -/
theorem OutboxMapped.leaves {result : CallResult} {db db' : Database}
    {condition : JobId → OutboxRow → Prop} [∀ k row, Decidable (condition k row)]
    {set : OutboxRow → OutboxRow}
    (h : OutboxMapped (fun k row => if condition k row then set row else row) db db') :
    OutboxMapped (fun k row => if result.performed = true ∧ condition k row then set row else row)
      db (result.leaves db db') := by
  intro k
  unfold CallResult.leaves
  by_cases hPerformed : result.performed = true
  · rw [if_pos hPerformed, h k]
    simp [hPerformed]
  · rw [if_neg hPerformed]
    simp [hPerformed]

/-- A step of a dispatcher is one of those that the outbox and the queue see. -/
theorem dispatcherStep_step {i : Nat} {result : CallResult} {date : Time} {locked : List JobId}
    (h : s.dispatcherStep i result date locked = some s') :
    DispatchStep cfg s (.dispatcher i result date locked) s' := by
  unfold PublishingState.dispatcherStep at h
  split at h
  · rename_i state hState
    obtain ⟨⟨state', db', queue'⟩, hStep, rfl⟩ := Option.map_eq_some_iff.mp h
    unfold PublishingQueue.step at hStep
    split at hStep
    · rename_i limit leaseMs rest enqueued failed
      simp only [Option.some.injEq, Prod.mk.injEq] at hStep
      obtain ⟨hNext, rfl, rfl⟩ := hStep
      refine .claimed ⟨hState, rfl⟩ ?_ (OutboxMapped.leaves fun _ => claimOutbox_row ..) rfl
      cases result with
      | returned => exact Or.inr ⟨rfl, hNext.symm⟩
      | threw error performed => exact Or.inl hNext.symm
    · rename_i record rest enqueued failed
      simp only [Option.some.injEq, Prod.mk.injEq] at hStep
      obtain ⟨hNext, rfl, rfl⟩ := hStep
      refine .enqueued ⟨hState, rfl⟩ ?_ rfl rfl
      cases result with
      | returned => exact Or.inl ⟨rfl, hNext.symm⟩
      | threw error performed => exact Or.inr ⟨error, hNext.symm⟩
    · rename_i record rest enqueued failed
      simp only [Option.some.injEq, Prod.mk.injEq] at hStep
      obtain ⟨hNext, rfl, rfl⟩ := hStep
      refine .marked ⟨hState, rfl⟩ ?_ (OutboxMapped.leaves fun _ => lookup_updateOutboxRecord ..) rfl
      cases result with
      | returned => exact Or.inl hNext.symm
      | threw error performed => exact Or.inr ⟨error, hNext.symm⟩
    · rename_i record errorMessage rest enqueued failed
      simp only [Option.some.injEq, Prod.mk.injEq] at hStep
      obtain ⟨hNext, rfl, rfl⟩ := hStep
      refine .released ⟨hState, rfl⟩ ?_ (OutboxMapped.leaves fun _ => lookup_updateOutboxRecord ..) rfl
      cases result with
      | returned => exact Or.inl hNext.symm
      | threw error performed => exact Or.inr hNext.symm
    · injection hStep
    · injection hStep
  · injection h

theorem repositoryStep_dispatch {i : Nat} {result : CallResult}
    (h : s.repositoryStep i result = some s') : DispatchKept s s' := by
  unfold PublishingState.repositoryStep at h
  split at h
  · split at h
    · obtain ⟨after, hCall, rfl⟩ := Option.map_eq_some_iff.mp h
      refine ⟨?_, rfl, rfl⟩
      show (result.leaves s.db after.2).outbox = s.db.outbox
      unfold CallResult.leaves
      split
      · cases repositoryCall_cases hCall with
        | wrote _ _ hWritten => exact hWritten.outbox
        | none => rfl
        | failed => rfl
      · rfl
    · injection h
  · injection h

theorem userStep_dispatch (operation : UserOperation) :
    DispatchStep cfg s (.user operation) (PublishingState.userStep cfg s operation) := by
  unfold PublishingState.userStep
  split
  · rename_i record db hPerform
    rcases perform_cases hPerform with ⟨post, hCreated⟩ | ⟨id, row, next, f, hEdit, hMutated⟩
    · exact .elsewhere nofun ⟨hCreated.outbox, rfl, rfl⟩
    · exact .edited hEdit hMutated rfl rfl
  · exact .elsewhere nofun ⟨rfl, rfl, rfl⟩

theorem reconcileStep_dispatch {i : Nat} {answer : LookupAnswer} {date : Time}
    (h : PublishingState.reconcileStep cfg s i answer date = some s') : DispatchKept s s' := by
  unfold PublishingState.reconcileStep at h
  split at h
  · split at h
    · injection h with h
      exact h ▸ ⟨rfl, rfl, rfl⟩
    · injection h with h
      exact h ▸ ⟨rfl, rfl, rfl⟩
    · injection h
  · injection h

theorem publishStep_dispatch {i : Nat} {date : Time}
    (h : PublishingState.publishStep cfg s i date = some s') : DispatchKept s s' := by
  unfold PublishingState.publishStep at h
  split at h
  · split at h
    · split at h
      · injection h with h
        exact h ▸ ⟨rfl, rfl, rfl⟩
      · injection h with h
        exact h ▸ ⟨rfl, rfl, rfl⟩
    · injection h
  · injection h

theorem adapterReturnsStep_dispatch {i : Nat} {answer : Except ThrownError PublishResult}
    {date : Time} (h : s.adapterReturnsStep i answer date = some s') : DispatchKept s s' := by
  unfold PublishingState.adapterReturnsStep at h
  split at h
  · split at h
    · injection h with h
      exact h ▸ ⟨rfl, rfl, rfl⟩
    · injection h
  · injection h

theorem crashStep_dispatch {i : Nat} (h : s.crashStep i = some s') : DispatchKept s s' := by
  unfold PublishingState.crashStep at h
  split at h
  · split at h
    · injection h with h
      exact h ▸ ⟨rfl, rfl, rfl⟩
    · injection h
  · injection h

theorem alertStep_dispatch {i : Nat} {result : CallResult} {locked : List JobId}
    (h : s.alertStep i result locked = some s') : DispatchKept s s' := by
  unfold PublishingState.alertStep at h
  split at h
  · obtain ⟨⟨state', db'⟩, hStep, rfl⟩ := Option.map_eq_some_iff.mp h
    obtain ⟨alerts, rfl⟩ := alertDispatcher_db hStep
    exact ⟨rfl, rfl, rfl⟩
  · injection h

theorem previewReadStep_dispatch {i : Nat} (h : s.previewReadStep i = some s') :
    DispatchKept s s' := by
  unfold PublishingState.previewReadStep at h
  split at h
  · obtain ⟨reading, -, rfl⟩ := Option.map_eq_some_iff.mp h
    exact ⟨rfl, rfl, rfl⟩
  · injection h

/-- BullMQ moves one of its jobs on. -/
theorem DispatchKept.of_queue {q : Nat} {job job' : QueuedJob} (hJob : s.queue[q]? = some job)
    (hQueue : s'.queue = s.queue.set q job') (hAdded : job'.added = job.added)
    (hDb : s'.db = s.db) (hRuns : s'.dispatchers = s.dispatchers) : DispatchKept s s' where
  outbox := congrArg Database.outbox hDb
  dispatchers := hRuns
  queue := by rw [hQueue, QueuedJob.map_added_set hJob hAdded]

theorem takeStep_dispatch {q leaseMs : Nat} {date : Time}
    (h : s.takeStep q leaseMs date = some s') : DispatchKept s s' := by
  unfold PublishingState.takeStep at h
  split at h
  · rename_i job hJob
    split at h
    · injection h with h
      subst h
      exact .of_queue hJob rfl rfl rfl rfl
    · injection h
  · injection h

theorem settleStep_dispatch {q : Nat} {date : Time} (h : s.settleStep q date = some s') :
    DispatchKept s s' := by
  unfold PublishingState.settleStep at h
  split at h
  · rename_i job hJob
    split at h
    · injection h with h
      subst h
      exact .of_queue hJob rfl (job.added_settled date _) rfl rfl
    · injection h
  · injection h

theorem stalledStep_dispatch {q : Nat} {again : Bool} (h : s.stalledStep q again = some s') :
    DispatchKept s s' := by
  unfold PublishingState.stalledStep at h
  split at h
  · rename_i job hJob
    split at h
    · injection h with h
      subst h
      exact .of_queue hJob rfl rfl rfl rfl
    · injection h
  · injection h

theorem removeStep_dispatch {q : Nat} (h : s.removeStep q = some s') : DispatchKept s s' := by
  unfold PublishingState.removeStep at h
  split at h
  · rename_i job hJob
    split at h
    · injection h with h
      subst h
      exact .of_queue hJob rfl rfl rfl rfl
    · injection h
  · injection h

/-- **One step** of the system is of one of these kinds for the outbox and the queue. -/
theorem dispatch_step {e : Event} (h : (publishingSystem cfg).step s e = some s') :
    DispatchStep cfg s e s' := by
  cases e with
  | tick | connect | preview | process | dispatchAlerts =>
    injection h with h
    subst h
    exact .elsewhere nofun ⟨rfl, rfl, rfl⟩
  | user operation =>
    injection h with h
    subst h
    exact userStep_dispatch operation
  | dispatch limit leaseMs =>
    injection h with h
    subst h
    exact .begun rfl rfl rfl
  | dispatcher i result date locked => exact dispatcherStep_step h
  | previewRead i => exact .elsewhere nofun (previewReadStep_dispatch h)
  | repository i result => exact .elsewhere nofun (repositoryStep_dispatch h)
  | reconcile i answer date => exact .elsewhere nofun (reconcileStep_dispatch h)
  | publish i date => exact .elsewhere nofun (publishStep_dispatch h)
  | adapterReturns i answer date => exact .elsewhere nofun (adapterReturnsStep_dispatch h)
  | crash i => exact .elsewhere nofun (crashStep_dispatch h)
  | alertDispatcher i result locked => exact .elsewhere nofun (alertStep_dispatch h)
  | take q leaseMs date => exact .elsewhere nofun (takeStep_dispatch h)
  | settle q date => exact .elsewhere nofun (settleStep_dispatch h)
  | stalled q again => exact .elsewhere nofun (stalledStep_dispatch h)
  | remove q => exact .elsewhere nofun (removeStep_dispatch h)

end Steps

/-! ## What a step does to one outbox row -/

section Rows

variable {cfg : Config} {s s' : PublishingState} {e : Event} {j : JobId}

/-- The runs after one of them moved. -/
theorem DispatchMoved.cases {i k : Nat} {state state' state'' : PublishingQueue.State}
    (h : DispatchMoved s i state state' s') (hGet : s'.dispatchers[k]? = some state'') :
    k = i ∧ state'' = state' ∨ k ≠ i ∧ s.dispatchers[k]? = some state'' := by
  rw [h.2, List.getElem?_set] at hGet
  by_cases hk : i = k
  · subst hk
    rw [if_pos rfl, if_pos (List.getElem?_eq_some_iff.mp h.1).1, Option.some.injEq] at hGet
    exact Or.inl ⟨rfl, hGet.symm⟩
  · rw [if_neg hk] at hGet
    exact Or.inr ⟨fun he => hk he.symm, hGet⟩

/-- The row still stands for the same hand-off. -/
def SameDelivery (old new : OutboxRow) : Prop :=
  new.queueJobId = old.queueJobId ∧ new.scheduledAt = old.scheduledAt

theorem SameDelivery.refl (row : OutboxRow) : SameDelivery row row := ⟨rfl, rfl⟩

/-- Where the outbox row `new` of job `j` comes from. -/
inductive OutboxOrigin (s : PublishingState) (s' : PublishingState) (j : JobId) :
    OutboxRow → Prop
  | kept {old new : OutboxRow} (hOld : s.db.outbox.lookup j = some old)
      (hSame : SameDelivery old new) (hEnqueued : new.enqueuedAt = old.enqueuedAt) :
      OutboxOrigin s s' j new
  /-- A run has marked it. -/
  | marked {old new : OutboxRow} {i : Nat} {state : PublishingQueue.State}
      {record : PublishQueueRecord} (hOld : s.db.outbox.lookup j = some old)
      (hSame : SameDelivery old new) (hState : s.dispatchers[i]? = some state)
      (hHanded : state.handed = some record) (hJob : record.publishJobId = j)
      (hQueueJob : record.queueJobId = old.queueJobId) : OutboxOrigin s s' j new
  /-- An operation has queued the job. -/
  | fresh {scheduledAt : Time} {uuid : Uuid} (hLower : s.db.nextUuid ≤ uuid)
      (hUpper : uuid < s'.db.nextUuid) :
      OutboxOrigin s s' j (Database.freshOutboxRow j scheduledAt uuid)

theorem outboxAfter_cases {approved : Prop} [Decidable approved] {status : PostStatus}
    {old new : SocialPublishJob} {uuid : Uuid} {before : Option OutboxRow} {row : OutboxRow}
    (h : outboxAfter approved status old new uuid before = some row) :
    before = some row ∨ row = Database.freshOutboxRow new.id new.scheduledAt uuid := by
  have hTriggered : ∀ row, triggered status old new uuid before = some row →
      before = some row ∨ row = Database.freshOutboxRow new.id new.scheduledAt uuid := by
    intro row hRow
    unfold triggered at hRow
    split at hRow
    · exact Or.inr (Option.some.inj hRow).symm
    · split at hRow
      · injection hRow
      · exact Or.inl hRow
  unfold outboxAfter at h
  split at h
  · cases hRow : triggered status old new uuid before with
    | none =>
      rw [hRow] at h
      exact Or.inr (Option.some.inj h).symm
    | some row' =>
      rw [hRow] at h
      exact Option.some.inj h ▸ hTriggered row' hRow
  · exact hTriggered row h

/-- The outbox rows after a mutation: those before it, and fresh ones. -/
theorem mutated_outbox_origin {db db' : Database} {id : PostId} {row : PostRow} {next : Post}
    {f : SocialPublishJob → SocialPublishJob} (hId : ∀ old, (f old).id = old.id)
    (h : Mutated db id row next f db') {new : OutboxRow} (hNew : db'.outbox.lookup j = some new) :
    db.outbox.lookup j = some new ∨ ∃ scheduledAt uuid, db.nextUuid ≤ uuid ∧
      uuid < db'.nextUuid ∧ new = Database.freshOutboxRow j scheduledAt uuid := by
  by_cases hJob : ∃ old ∈ PgPostRepository.jobsOf db id, old.id = j
  · obtain ⟨old, hOld, rfl⟩ := hJob
    obtain ⟨uuid, hLower, hAfter, hUpper⟩ := h.outbox old hOld
    rw [hNew] at hAfter hUpper
    rcases outboxAfter_cases hAfter.symm with hBefore | hFresh
    · exact Or.inl hBefore
    · rcases hUpper with hUpper | hNone | hSame
      · rw [hId] at hFresh
        exact Or.inr ⟨_, uuid, hLower, hUpper, hFresh⟩
      · injection hNone
      · exact Or.inl hSame.symm
  · refine Or.inl ((h.otherOutbox j fun old hOld hPost => hJob ⟨old, ?_, ?_⟩) ▸ hNew)
    · exact mem_jobsOf.mpr ⟨(Database.job?_id hOld).symm ▸ hOld, hPost⟩
    · exact Database.job?_id hOld

/-- A row that a call of a run rewrites where `condition` holds. -/
theorem OutboxMapped.cases {db db' : Database} {condition : JobId → OutboxRow → Prop}
    [∀ k row, Decidable (condition k row)] {set : OutboxRow → OutboxRow}
    (h : OutboxMapped (fun k row => if condition k row then set row else row) db db')
    {new : OutboxRow} (hNew : db'.outbox.lookup j = some new) :
    ∃ old, db.outbox.lookup j = some old ∧
      (condition j old ∧ new = set old ∨ ¬ condition j old ∧ new = old) := by
  rw [h j] at hNew
  obtain ⟨old, hOld, rfl⟩ := Option.map_eq_some_iff.mp hNew
  refine ⟨old, hOld, ?_⟩
  dsimp only
  split
  · rename_i hCond
    exact Or.inl ⟨hCond, rfl⟩
  · rename_i hCond
    exact Or.inr ⟨hCond, rfl⟩

theorem outbox_origin (h : DispatchStep cfg s e s') {new : OutboxRow}
    (hNew : s'.db.outbox.lookup j = some new) : OutboxOrigin s s' j new := by
  cases h with
  | elsewhere _ hKept => exact .kept (hKept.outbox ▸ hNew) (.refl new) rfl
  | begun hDb => exact .kept (hDb ▸ hNew) (.refl new) rfl
  | edited hEdit hMutated =>
    have hId : ∀ old, _ := fun old => id_of_writeBack (edited_writeBack hEdit old)
    rcases mutated_outbox_origin hId hMutated hNew with
      hSame | ⟨scheduledAt, uuid, hLower, hUpper, rfl⟩
    · exact .kept hSame (.refl new) rfl
    · exact .fresh hLower hUpper
  | claimed _ _ hRows =>
    obtain ⟨old, hOld, ⟨-, rfl⟩ | ⟨-, rfl⟩⟩ := hRows.cases hNew
    · exact .kept hOld ⟨rfl, rfl⟩ rfl
    · exact .kept hOld (.refl new) rfl
  | enqueued _ _ hDb => exact .kept (hDb ▸ hNew) (.refl new) rfl
  | marked hMoved _ hRows =>
    obtain ⟨old, hOld, ⟨⟨-, hJob, hQueueJob⟩, rfl⟩ | ⟨-, rfl⟩⟩ := hRows.cases hNew
    · exact .marked hOld ⟨rfl, rfl⟩ hMoved.1 rfl hJob.symm hQueueJob.symm
    · exact .kept hOld (.refl new) rfl
  | released _ _ hRows =>
    obtain ⟨old, hOld, ⟨-, rfl⟩ | ⟨-, rfl⟩⟩ := hRows.cases hNew
    · exact .kept hOld ⟨rfl, rfl⟩ rfl
    · exact .kept hOld (.refl new) rfl

end Rows

/-! ## What the runs hold -/

section Held

variable {cfg : Config} {s s' : PublishingState} {e : Event} {k : Nat}
  {state' : PublishingQueue.State} {record : PublishQueueRecord}

/-- A record held by a run was held before, or the step read it off its outbox row. -/
theorem heldRecord_origin (h : DispatchStep cfg s e s') (hGet : s'.dispatchers[k]? = some state')
    (hHeld : record ∈ state'.held) :
    (∃ state, s.dispatchers[k]? = some state ∧ record ∈ state.held) ∨
      ∃ id, Taken s.db id record := by
  -- a run that moves on holds what it held
  have hRest : ∀ {i : Nat} {state state'' : PublishingQueue.State},
      DispatchMoved s i state state'' s' → (∀ r ∈ state''.held, r ∈ state.held) →
      ∃ state, s.dispatchers[k]? = some state ∧ record ∈ state.held := by
    intro i state state'' hMoved hSub
    rcases hMoved.cases hGet with ⟨rfl, rfl⟩ | ⟨-, hGet⟩
    · exact ⟨state, hMoved.1, hSub record hHeld⟩
    · exact ⟨state', hGet, hHeld⟩
  cases h with
  | elsewhere _ hKept => exact Or.inl ⟨state', hKept.dispatchers ▸ hGet, hHeld⟩
  | edited _ _ _ hRuns => exact Or.inl ⟨state', hRuns ▸ hGet, hHeld⟩
  | begun _ _ hRuns =>
    rw [hRuns, List.getElem?_append] at hGet
    split at hGet
    · exact Or.inl ⟨state', hGet, hHeld⟩
    · rw [List.mem_singleton.mp (List.mem_of_getElem? hGet)] at hHeld
      exact absurd hHeld List.not_mem_nil
  | claimed hMoved hNext =>
    rcases hMoved.cases hGet with ⟨rfl, rfl⟩ | ⟨-, hGet⟩
    · rcases hNext with rfl | ⟨-, rfl⟩
      · exact absurd hHeld List.not_mem_nil
      · rw [held_nextRecord] at hHeld
        obtain ⟨id, -, hTaken⟩ := mem_claimOutbox.mp hHeld
        exact Or.inr ⟨id, hTaken⟩
    · exact Or.inl ⟨state', hGet, hHeld⟩
  | enqueued hMoved hNext =>
    refine Or.inl (hRest hMoved fun r hr => ?_)
    rcases hNext with ⟨-, rfl⟩ | ⟨error, rfl⟩
    · exact hr
    · exact hr
  | marked hMoved hNext =>
    refine Or.inl (hRest hMoved fun r hr => ?_)
    rcases hNext with rfl | ⟨error, rfl⟩
    · rw [held_nextRecord] at hr
      exact List.mem_cons_of_mem _ hr
    · exact hr
  | released hMoved hNext =>
    refine Or.inl (hRest hMoved fun r hr => ?_)
    rcases hNext with rfl | rfl
    · rw [held_nextRecord] at hr
      exact List.mem_cons_of_mem _ hr
    · exact absurd hr List.not_mem_nil

/-- A record about to be marked was so before, or the step handed it to BullMQ. -/
theorem handed_origin (h : DispatchStep cfg s e s') (hGet : s'.dispatchers[k]? = some state')
    (hHanded : state'.handed = some record) :
    (∃ state, s.dispatchers[k]? = some state ∧ state.handed = some record) ∨
      ∃ date locked rest enqueued failed, e = .dispatcher k .returned date locked ∧
        s.dispatchers[k]? = some (.running (.enqueue record) rest enqueued failed) := by
  have hElse : ∀ {i : Nat} {state state'' : PublishingQueue.State},
      DispatchMoved s i state state'' s' → state''.handed = none →
      ∃ state, s.dispatchers[k]? = some state ∧ state.handed = some record := by
    intro i state state'' hMoved hNone
    rcases hMoved.cases hGet with ⟨rfl, rfl⟩ | ⟨-, hGet⟩
    · rw [hNone] at hHanded
      injection hHanded
    · exact ⟨state', hGet, hHanded⟩
  cases h with
  | elsewhere _ hKept => exact Or.inl ⟨state', hKept.dispatchers ▸ hGet, hHanded⟩
  | edited _ _ _ hRuns => exact Or.inl ⟨state', hRuns ▸ hGet, hHanded⟩
  | begun _ _ hRuns =>
    rw [hRuns, List.getElem?_append] at hGet
    split at hGet
    · exact Or.inl ⟨state', hGet, hHanded⟩
    · rw [List.mem_singleton.mp (List.mem_of_getElem? hGet)] at hHanded
      injection hHanded
  | claimed hMoved hNext =>
    refine Or.inl (hElse hMoved ?_)
    rcases hNext with rfl | ⟨-, rfl⟩
    · rfl
    · exact handed_nextRecord
  | @enqueued i result date locked current rest enqueued failed _ _ hMoved hNext =>
    rcases hMoved.cases hGet with ⟨rfl, rfl⟩ | ⟨-, hGet⟩
    · rcases hNext with ⟨rfl, rfl⟩ | ⟨error, rfl⟩
      · obtain rfl := Option.some.inj hHanded
        exact Or.inr ⟨date, locked, rest, enqueued, failed, rfl, hMoved.1⟩
      · injection hHanded
    · exact Or.inl ⟨state', hGet, hHanded⟩
  | marked hMoved hNext =>
    refine Or.inl (hElse hMoved ?_)
    rcases hNext with rfl | ⟨error, rfl⟩
    · exact handed_nextRecord
    · rfl
  | released hMoved hNext =>
    refine Or.inl (hElse hMoved ?_)
    rcases hNext with rfl | rfl
    · exact handed_nextRecord
    · rfl

end Held

/-! ## The record of the additions -/

/-- A record that BullMQ made a job of, and when. -/
structure Addition where
  record : PublishQueueRecord
  date : Time

def Addition.job (addition : Addition) : QueuedJob :=
  BullMqPublishQueue.queuedJob addition.record addition.date

/-- What a step adds to the queue. -/
def additions (s : PublishingState) (e : Event) (_ : PublishingState) : List Addition :=
  match e with
  | .dispatcher i result date _ =>
    match s.dispatchers[i]? with
    | some (.running (.enqueue record) _ _ _) =>
      if result.performed = true ∧ BullMqPublishQueue.keeps record s.queue = false then
        [⟨record, date⟩]
      else []
    | _ => []
  | _ => []

/-- The publishing system with the record of the jobs that were added to its queue. -/
def additionSystem (cfg : Config) : System (PublishingState × List Addition) Event :=
  (publishingSystem cfg).logged additions

section Additions

variable {cfg : Config} {s s' : PublishingState} {e : Event}

/-- The queue grows by the additions, and nothing else changes what it was given. -/
theorem queue_added (h : DispatchStep cfg s e s') : s'.queue.map QueuedJob.added =
    s.queue.map QueuedJob.added ++ (additions s e s').map fun a => a.job.added := by
  cases h with
  | elsewhere hEvent hKept =>
    have hNone : additions s e s' = [] := by
      unfold additions
      split
      · exact absurd rfl (hEvent _ _ _ _)
      · rfl
    rw [hNone, hKept.queue, List.map_nil, List.append_nil]
  | begun _ hQueue | edited _ _ hQueue =>
    rw [hQueue]
    exact (List.append_nil _).symm
  | claimed hMoved _ _ hQueue | marked hMoved _ _ hQueue | released hMoved _ _ hQueue =>
    rw [hQueue]
    simp [additions, hMoved.1]
  | @enqueued i result date _ record _ _ _ _ _ hMoved _ _ hQueue =>
    rw [hQueue]
    simp only [additions, hMoved.1, CallResult.leaves, BullMqPublishQueue.enqueue_eq]
    by_cases hPerformed : result.performed = true
    · by_cases hKeeps : BullMqPublishQueue.keeps record s.queue = true
      · simp [hPerformed, hKeeps]
      · simp [hPerformed, hKeeps, Addition.job]
    · simp [hPerformed]

/-- An addition is of a record that a run holds. -/
theorem of_mem_additions {addition : Addition} (h : addition ∈ additions s e s') :
    ∃ (i : Nat) (state : PublishingQueue.State), s.dispatchers[i]? = some state ∧
      addition.record ∈ state.held := by
  unfold additions at h
  split at h
  · split at h
    · rename_i hState
      split at h
      · obtain rfl := List.mem_singleton.mp h
        exact ⟨_, _, hState, List.mem_cons_self ..⟩
      · exact absurd h List.not_mem_nil
    · exact absurd h List.not_mem_nil
  · exact absurd h List.not_mem_nil

end Additions

end SocialPromotion
