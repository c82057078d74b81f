import SocialPromotion.Model.Transactions
import SocialPromotion.Steps.Runs

/-!
# Racing edits of one post

`update`, `schedule`, `publishNow`, `cancel` and `retry` carry the revision of the post that
their caller has seen, and are transactions that lock the post.

* `revision_kept`: no step lowers the revision of a post;
* `edits_serialised`: of the calls with one revision at most one commits, a commit leaves the
  next revision and one audit entry, and a call that throws leaves nothing.
-/

namespace SocialPromotion

open LTS Transaction

/-- The post that an operation changes, and the revision it carries. -/
def UserOperation.carried : UserOperation → Option (PostId × Nat)
  | .create _ _ => none
  | .update _ id dto => some (id, dto.revision)
  | .schedule _ id _ approvedRevision _ => some (id, approvedRevision)
  | .publishNow _ id revision _ _ => some (id, revision)
  | .cancel _ id revision => some (id, revision)
  | .retry _ id _ revision _ => some (id, revision)

/-- The transaction of an operation commits. -/
def Commits (cfg : Config) (s : PublishingState) (operation : UserOperation)
    (t : PublishingState) : Prop :=
  ∃ record db, transaction (operation.statements cfg s.clock) s.db = (.ok record, db) ∧
    t = { s with db := db }

section Commits

variable {cfg : Config} {s t : PublishingState} {operation : UserOperation} {id : PostId}
  {revision : Nat}

theorem Commits.performs (h : Commits cfg s operation t) :
    ∃ record db, operation.perform cfg s.clock s.db = .ok (record, db) ∧ t = { s with db := db } := by
  obtain ⟨record, db, hTransaction, rfl⟩ := h
  rw [UserOperation.transaction_statements] at hTransaction
  cases hPerform : operation.perform cfg s.clock s.db with
  | error e =>
    rw [hPerform] at hTransaction
    injection hTransaction with hAnswer
    injection hAnswer
  | ok result =>
    rw [hPerform] at hTransaction
    injection hTransaction with hAnswer hDb
    exact ⟨result.1, db, congrArg Except.ok (Prod.ext rfl hDb), rfl⟩

theorem Commits.step (h : Commits cfg s operation t) :
    (publishingSystem cfg).step s (.user operation) = some t := by
  obtain ⟨record, db, hPerform, rfl⟩ := h.performs
  show some (PublishingState.userStep cfg s operation) = _
  rw [PublishingState.userStep, hPerform]

/-- An edit is of the post that the operation names, in the revision that it carries. -/
theorem edit_carried {db : Database} {row : PostRow} {next : Post}
    {f : SocialPublishJob → SocialPublishJob} (hEdit : Edit cfg db id row operation next f) :
    operation.carried = some (id, row.revision) := by
  cases hEdit with
  | update content hRevision => rw [UserOperation.carried, hRevision]
  | schedule scheduledAt hApproval =>
    cases operation with
    | schedule => exact hApproval
    | publishNow => exact hApproval
    | _ => injection hApproval
  | cancel => rfl
  | retry => rfl

/-- What an edit leaves of the revision. -/
theorem edit_revision {db : Database} {row : PostRow} {next : Post}
    {f : SocialPublishJob → SocialPublishJob} (hEdit : Edit cfg db id row operation next f) :
    next.revision = row.revision := by
  cases hEdit <;> rfl

/-- An operation that carries a revision and commits is an edit. -/
theorem Commits.edited (h : Commits cfg s operation t)
    (hCarried : operation.carried = some (id, revision)) :
    ∃ row next f, Edit cfg s.db id row operation next f ∧ Mutated s.db id row next f t.db ∧
      row.revision = revision := by
  obtain ⟨record, db, hPerform, rfl⟩ := h.performs
  have hEdited : ∃ row next f, Edit cfg s.db id row operation next f ∧
      Mutated s.db id row next f db := by
    cases operation with
    | create => injection hCarried
    | update =>
      injection hCarried with hCarried
      injection hCarried with hId
      exact hId ▸ update_cases hPerform
    | schedule =>
      injection hCarried with hCarried
      injection hCarried with hId
      exact hId ▸ schedule_cases rfl rfl hPerform
    | publishNow =>
      injection hCarried with hCarried
      injection hCarried with hId
      unfold UserOperation.perform PostService.publishNow at hPerform
      exact hId ▸ schedule_cases rfl rfl hPerform
    | cancel =>
      injection hCarried with hCarried
      injection hCarried with hId
      exact hId ▸ cancel_cases hPerform
    | retry =>
      injection hCarried with hCarried
      injection hCarried with hId
      exact hId ▸ retry_cases hPerform
  obtain ⟨row, next, f, hEdit, hMutated⟩ := hEdited
  refine ⟨row, next, f, hEdit, hMutated, ?_⟩
  have hSame := (edit_carried hEdit).symm.trans hCarried
  injection hSame with hSame
  injection hSame

end Commits

/-! ## Revisions over a run -/

/-- The revision of a post, zero before it is stored. -/
def Database.revision (db : Database) (id : PostId) : Nat :=
  ((db.posts.lookup id).map PostRow.revision).getD 0

section Runs

variable {cfg : Config} {s t : PublishingState} {e : Event} {id : PostId}

theorem revision_of_posts_eq (h : t.db.posts = s.db.posts) :
    t.db.revision id = s.db.revision id := by
  rw [Database.revision, h, Database.revision]

/-- A mutation leaves the next revision of its post, and those of all others. -/
theorem Mutated.revision {db db' : Database} {k : PostId} {row : PostRow} {next : Post}
    {f : SocialPublishJob → SocialPublishJob} (h : Mutated db k row next f db') :
    db'.revision id = if id = k then db.revision id + 1 else db.revision id := by
  unfold Database.revision
  rw [h.posts]
  by_cases hId : id = k
  · subst hId
    rw [AList.lookup_insert, if_pos rfl, h.found]
    rfl
  · rw [AList.lookup_insert_ne hId, if_neg hId]

/-- **No step** lowers the revision of a post. -/
theorem revision_kept (hKind : StepKind cfg s e t) : s.db.revision id ≤ t.db.revision id := by
  have hSame : t.db.posts = s.db.posts → s.db.revision id ≤ t.db.revision id :=
    fun h => (revision_of_posts_eq h).ge
  cases hKind with
  | quiet _ hTables => exact hSame hTables.posts
  | started _ _ _ _ hTables => exact hSame hTables.posts
  | @created _ _ post _ hCreated =>
    -- the id of a new post was not in use
    unfold Database.revision
    rw [hCreated.posts]
    by_cases hId : id = post.id
    · subst hId
      rw [hCreated.unused]
      exact Nat.zero_le _
    · rw [AList.lookup_insert_ne hId]
  | @edited _ _ k _ _ _ _ _ hMutated =>
    rw [hMutated.revision]
    split
    · exact Nat.le_succ _
    · exact le_rfl
  | wrote _ _ _ _ _ hWritten => exact hSame hWritten.posts
  | unwritten _ _ _ hDb => exact hSame (congrArg Database.posts hDb)
  | reconcileFirst _ _ hDb => exact hSame (congrArg Database.posts hDb)
  | reconcileAfter _ _ hDb => exact hSame (congrArg Database.posts hDb)
  | publishSettled _ _ _ hDb => exact hSame (congrArg Database.posts hDb)
  | publishCalled _ _ _ hDb => exact hSame (congrArg Database.posts hDb)
  | adapterReturned _ _ hDb => exact hSame (congrArg Database.posts hDb)
  | crashed _ _ hDb => exact hSame (congrArg Database.posts hDb)

theorem revision_kept_run (h : Steps (publishingSystem cfg) anyStep s t) :
    s.db.revision id ≤ t.db.revision id :=
  h.relation (R := fun s t => s.db.revision id ≤ t.db.revision id) le_rfl
    fun _ _ _ hRun _ hStep => hRun.trans (revision_kept (step_kind hStep))

end Runs

/-! ## Commits -/

section Serialised

variable {cfg : Config} {s t : PublishingState} {operation : UserOperation} {id : PostId}
  {revision : Nat}

/-- A commit is of the stored revision, and leaves the next one with one audit entry. -/
theorem Commits.leaves (h : Commits cfg s operation t)
    (hCarried : operation.carried = some (id, revision)) :
    (s.db.posts.lookup id).map PostRow.revision = some revision ∧
      (t.db.posts.lookup id).map PostRow.revision = some (revision + 1) ∧
      ∃ entry, t.db.auditLogs = s.db.auditLogs ++ [entry] ∧ entry.action = .postUpdated ∧
        entry.entityId = id ∧ entry.revision = some (revision + 1) := by
  obtain ⟨row, next, f, hEdit, hMutated, rfl⟩ := h.edited hCarried
  refine ⟨by rw [hMutated.found]; rfl, ?_, _, hMutated.auditLogs, rfl, rfl, ?_⟩
  · rw [hMutated.posts, AList.lookup_insert]
    rfl
  · rw [PgPostRepository.postUpdated, edit_revision hEdit]

/-- **A later commit** carries a later revision. -/
theorem Commits.later {operation' : UserOperation} {revision' : Nat} {u v : PublishingState}
    (h : Commits cfg s operation t) (hCarried : operation.carried = some (id, revision))
    (hRun : Steps (publishingSystem cfg) anyStep t u) (h' : Commits cfg u operation' v)
    (hCarried' : operation'.carried = some (id, revision')) : revision < revision' := by
  have hLeft : t.db.revision id = revision + 1 := by
    rw [Database.revision, (h.leaves hCarried).2.1]
    rfl
  have hFound : u.db.revision id = revision' := by
    rw [Database.revision, (h'.leaves hCarried').1]
    rfl
  calc
    revision < revision + 1 := Nat.lt_succ_self _
    _ = t.db.revision id := hLeft.symm
    _ ≤ u.db.revision id := revision_kept_run hRun
    _ = revision' := hFound

/-- **Racing edits** of one post, in every order and from every state: an operation that
throws leaves the database as it was; one that commits finds the revision it carries, leaves
the next one, and writes one `post.updated` entry; and of two that commit in a run, the later
one carries a later revision. -/
theorem edits_serialised (cfg : Config) (s : PublishingState) (operation : UserOperation) :
    (∀ error, (transaction (operation.statements cfg s.clock) s.db).1 = .error error →
      (transaction (operation.statements cfg s.clock) s.db).2 = s.db ∧
        (publishingSystem cfg).step s (.user operation) = some s) ∧
    ∀ t id revision, Commits cfg s operation t → operation.carried = some (id, revision) →
      (publishingSystem cfg).step s (.user operation) = some t ∧
      (s.db.posts.lookup id).map PostRow.revision = some revision ∧
      (t.db.posts.lookup id).map PostRow.revision = some (revision + 1) ∧
      (∃ entry, t.db.auditLogs = s.db.auditLogs ++ [entry] ∧ entry.action = .postUpdated ∧
        entry.entityId = id ∧ entry.revision = some (revision + 1)) ∧
      ∀ operation' revision' u v, Steps (publishingSystem cfg) anyStep t u →
        Commits cfg u operation' v → operation'.carried = some (id, revision') →
        revision < revision' := by
  refine ⟨fun error hError => ⟨transaction_error hError, ?_⟩,
    fun t id revision hCommit hCarried => ?_⟩
  · rw [UserOperation.transaction_statements] at hError
    show some (PublishingState.userStep cfg s operation) = _
    unfold PublishingState.userStep
    cases hPerform : operation.perform cfg s.clock s.db with
    | error e => rfl
    | ok result =>
      rw [hPerform] at hError
      injection hError
  · obtain ⟨hFound, hLeft, hAudit⟩ := hCommit.leaves hCarried
    exact ⟨hCommit.step, hFound, hLeft, hAudit,
      fun operation' revision' u v hRun hCommit' hCarried' =>
        hCommit.later hCarried hRun hCommit' hCarried'⟩

/-- An operation that performs commits. -/
theorem commits_of_performs (h : (operation.perform cfg s.clock s.db).isOk = true) :
    ∃ t, Commits cfg s operation t := by
  cases hPerform : operation.perform cfg s.clock s.db with
  | error e => simp [hPerform, Except.isOk, Except.toBool] at h
  | ok result =>
    refine ⟨{ s with db := result.2 }, result.1, result.2, ?_, rfl⟩
    rw [UserOperation.transaction_statements, hPerform]

end Serialised

/-- After an approval of revision 1, no operation with revision 1 commits any more. -/
theorem edits_serialised_approval : ∃ s t,
    Commits (Installation.config false false) s (.schedule 100 0 (some 1000) 1 0) t ∧
    ∀ operation' u v, Steps (publishingSystem (Installation.config false false)) anyStep t u →
      Commits (Installation.config false false) u operation' v →
      operation'.carried ≠ some (0, 1) := by
  obtain ⟨s, -, hPerforms⟩ := exists_reachable_of_run
    (publishingSystem (Installation.config false false)) anyStep
    (fun s => (UserOperation.perform (Installation.config false false) s.clock s.db
      (.schedule 100 0 (some 1000) 1 0)).isOk)
    [.user (.create 100 ⟨200, Installation.content, [⟨.x, 300⟩], 1000⟩)]
    (Installation.start_initial _) (by decide +kernel)
  obtain ⟨t, hCommit⟩ := commits_of_performs hPerforms
  refine ⟨s, t, hCommit, fun operation' u v hRun hCommit' hCarried' => ?_⟩
  have hLater := ((edits_serialised _ s _).2 t 0 1 hCommit rfl).2.2.2.2
    operation' 1 u v hRun hCommit' hCarried'
  exact Nat.lt_irrefl _ hLater

end SocialPromotion
