import SocialPromotion.Steps.Dispatch

/-!
# What one step does to posts, jobs and outbox rows together

* `table_step`: a step keeps all three, or it is a worker's write of one job row, or an
  operation that creates a draft or edits a post;
* `nextUuid_le_of_step`: uuids that were drawn stay drawn.
-/

namespace SocialPromotion

/-- The hand-off that an outbox row stands for. -/
def OutboxRow.delivery (row : OutboxRow) : QueueJobId × Time := (row.queueJobId, row.scheduledAt)

inductive TableStep (cfg : Config) (s : PublishingState) : Event → PublishingState → Prop
  | kept {e : Event} {s' : PublishingState} (hRows : ∀ k, s'.db.job? k = s.db.job? k)
      (hPosts : s'.db.posts = s.db.posts) (hMedia : s'.db.postMedia = s.db.postMedia)
      (hDeliveries : ∀ k, (s'.db.outbox.lookup k).map OutboxRow.delivery =
        (s.db.outbox.lookup k).map OutboxRow.delivery)
      (hUuid : s'.db.nextUuid = s.db.nextUuid) : TableStep cfg s e s'
  | wrote {i : Nat} {result : CallResult} {w : PublishWorkerProcessor.Worker}
      {call : PublishWorkerProcessor.Call} {old : SocialPublishJob} {s' : PublishingState}
      (hWorker : s.workers[i]? = some w) (hState : w.state = .running call)
      (hCond : call.condition w s.clock s.db old = true)
      (hWritten : RowWritten s.db (call.target w) old (call.set w s.clock old) s'.db) :
      TableStep cfg s (.repository i result) s'
  | created {operation : UserOperation} {s' : PublishingState} {post : Post}
      (hCreated : Created s.db post s'.db) : TableStep cfg s (.user operation) s'
  | edited {operation : UserOperation} {s' : PublishingState} {id : PostId} {row : PostRow}
      {next : Post} {f : SocialPublishJob → SocialPublishJob}
      (hEdit : Edit cfg s.db id row operation next f)
      (hMutated : Mutated s.db id row next f s'.db) : TableStep cfg s (.user operation) s'

section Steps

variable {cfg : Config} {s s' : PublishingState} {e : Event}

theorem TableStep.of_db_eq (h : s'.db = s.db) : TableStep cfg s e s' :=
  .kept (fun _ => by rw [h]) (by rw [h]) (by rw [h]) (fun _ => by rw [h]) (by rw [h])

/-- The dispatchers rewrite other columns. -/
theorem OutboxMapped.deliveries {db db' : Database} {f : JobId → OutboxRow → OutboxRow}
    (h : OutboxMapped f db db') (hf : ∀ k row, (f k row).delivery = row.delivery) (k : JobId) :
    (db'.outbox.lookup k).map OutboxRow.delivery = (db.outbox.lookup k).map OutboxRow.delivery := by
  rw [h k, Option.map_map]
  exact congrArg (Option.map · _) (funext fun row => hf k row)

/-- Only operations renew outbox rows. -/
theorem deliveries_kept (h : DispatchStep cfg s e s') (hUser : ∀ operation, e ≠ .user operation)
    (k : JobId) : (s'.db.outbox.lookup k).map OutboxRow.delivery =
      (s.db.outbox.lookup k).map OutboxRow.delivery := by
  cases h with
  | elsewhere _ hKept => rw [hKept.outbox]
  | begun hDb => rw [hDb]
  | edited => exact absurd rfl (hUser _)
  | enqueued _ _ hDb => rw [hDb]
  | claimed _ _ hRows | marked _ _ hRows | released _ _ hRows =>
    refine hRows.deliveries (fun k row => ?_) k
    split
    · rfl
    · rfl

theorem userStep_tables (operation : UserOperation) :
    TableStep cfg s (.user operation) (PublishingState.userStep cfg s operation) := by
  unfold PublishingState.userStep
  split
  · rename_i record db hPerform
    rcases perform_cases hPerform with ⟨post, hCreated⟩ | ⟨id, row, next, f, hEdit, hMutated⟩
    · exact .created hCreated
    · exact .edited hEdit hMutated
  · exact .of_db_eq rfl

/-- **One step** of the system is of one of these kinds for the three tables. -/
theorem table_step (h : (publishingSystem cfg).step s e = some s') : TableStep cfg s e s' := by
  by_cases hUser : ∃ operation, e = .user operation
  · obtain ⟨operation, rfl⟩ := hUser
    injection h with h
    subst h
    exact userStep_tables operation
  · have hOther : ∀ operation, e ≠ .user operation := fun operation he => hUser ⟨operation, he⟩
    have hDeliveries := deliveries_kept (dispatch_step h) hOther
    cases step_kind h with
    | quiet _ hTables | started _ _ _ _ hTables =>
      exact .kept hTables.rows hTables.posts hTables.postMedia hDeliveries hTables.nextUuid
    | created | edited => exact absurd rfl (hOther _)
    | wrote hState hMoved _ hCond _ hWritten => exact .wrote hMoved.1 hState hCond hWritten
    | unwritten _ _ _ hDb | reconcileFirst _ _ hDb | reconcileAfter _ _ hDb
    | publishSettled _ _ _ hDb | publishCalled _ _ _ hDb | adapterReturned _ _ hDb
    | crashed _ _ hDb => exact .of_db_eq hDb

/-- The counter of uuids never goes back. -/
theorem nextUuid_le_of_step (h : TableStep cfg s e s') : s.db.nextUuid ≤ s'.db.nextUuid := by
  cases h with
  | kept _ _ _ _ hUuid => exact hUuid.ge
  | wrote _ _ _ hWritten => exact hWritten.nextUuid.ge
  | created hCreated => exact hCreated.nextUuid
  | edited _ hMutated => exact hMutated.nextUuid

theorem nextUuid_le_of_steps (h : LTS.Steps (publishingSystem cfg) LTS.anyStep s s') :
    s.db.nextUuid ≤ s'.db.nextUuid :=
  h.relation (R := fun s t => s.db.nextUuid ≤ t.db.nextUuid) le_rfl
    fun _ _ _ hBefore _ hMove => hBefore.trans (nextUuid_le_of_step (table_step hMove))

end Steps

end SocialPromotion
