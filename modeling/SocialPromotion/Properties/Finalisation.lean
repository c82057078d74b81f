import SocialPromotion.Model.Transactions
import SocialPromotion.Properties.RowLifecycle

/-!
# Finalisation

A job becomes published in one transaction with its row of `social_posts` and its audit
entry. The transaction is reached after a confirmation and after a recovery, in any number
of executions at once.

* `ledger_reachable`: in every run, a published job has its row and one entry, and any other
  job has neither;
* `finalised_once`: this, and that a transaction which throws changes nothing.
-/

namespace SocialPromotion

open LTS Transaction Database PublishWorkerProcessor PgPublishOutboxRepository

/-! ## The row and the entry of a publication -/

/-- The audit entry is that of the publication of job `j`. -/
def isPublishedEntry (j : JobId) (entry : AuditLog) : Bool :=
  entry.action = .socialPostPublished ∧ entry.entityId = j

/-- The number of `social_post.published` entries of a job. -/
def Database.publishedEntries (db : Database) (j : JobId) : Nat :=
  db.auditLogs.countP (isPublishedEntry j)

/-- A row of `social_posts` holds the publication of the job. -/
structure EntryOf (row : SocialPublishJob) (entry : SocialPostRow) : Prop where
  postId : entry.postId = row.postId
  account : entry.socialAccountId = row.accountId
  platform : entry.platform = row.platform
  remotePostId : row.remotePostId = some entry.remotePostId
  remotePostUrl : row.remotePostUrl = entry.remotePostUrl
  publishedAt : row.publishedAt = some entry.publishedAt

/-- A published job has its row and one entry; any other job has neither. -/
structure Ledger (db : Database) (j : JobId) : Prop where
  published : ∀ row, db.job? j = some row → row.status = .published →
    (∃ entry, db.socialPosts.lookup j = some entry ∧ EntryOf row entry) ∧
      db.publishedEntries j = 1
  open_ : (∀ row, db.job? j = some row → row.status ≠ .published) →
    db.socialPosts.lookup j = none ∧ db.publishedEntries j = 0

/-- Every job belongs to a stored post, as its foreign key demands. -/
def Owned (db : Database) : Prop :=
  ∀ j row, db.job? j = some row → (db.posts.lookup row.postId).isSome

/-- The ledger of a job depends on its row, its publication and its entries only. -/
theorem Ledger.congr {db db' : Database} {j : JobId} (h : Ledger db j)
    (hRow : db'.job? j = db.job? j) (hPosts : db'.socialPosts.lookup j = db.socialPosts.lookup j)
    (hEntries : db'.publishedEntries j = db.publishedEntries j) : Ledger db' j := by
  obtain ⟨hPublished, hOpen⟩ := h
  rw [← hRow, ← hPosts, ← hEntries] at hPublished hOpen
  exact ⟨hPublished, hOpen⟩

/-- The same, where the row changes but neither becomes published nor was it. -/
theorem Ledger.congr_open {db db' : Database} {j : JobId} (h : Ledger db j)
    (hOld : ∀ row, db.job? j = some row → row.status ≠ .published)
    (hNew : ∀ row, db'.job? j = some row → row.status ≠ .published)
    (hPosts : db'.socialPosts.lookup j = db.socialPosts.lookup j)
    (hEntries : db'.publishedEntries j = db.publishedEntries j) : Ledger db' j where
  published row hRow hStatus := absurd hStatus (hNew row hRow)
  open_ _ := by
    rw [hPosts, hEntries]
    exact h.open_ hOld

theorem publishedEntries_append {db db' : Database} {j : JobId} {entries : List AuditLog}
    (h : db'.auditLogs = db.auditLogs ++ entries) :
    db'.publishedEntries j = db.publishedEntries j + entries.countP (isPublishedEntry j) := by
  rw [publishedEntries, h, List.countP_append, publishedEntries]

/-! ## One step -/

section Calls

variable {w : Worker} {now : Time} {db : Database} {call : Call} {old : SocialPublishJob}

/-- A call makes a row published exactly where it saves a publication. -/
theorem set_published_iff (hCond : call.condition w now db old = true) :
    (call.set w now old).status = .published ↔ call.publishes = true := by
  cases call with
  | claimPublishJob =>
    rcases claimRow_status w.leaseMs now old with ⟨hs, -⟩ | ⟨hs, -⟩ <;>
      simp [Call.set, Call.publishes, hs]
  | saveFailed claimed job error failure retryPending nextRetryAt =>
    cases retryPending <;> simp [Call.set, failedRow, Call.publishes]
  | recordAmbiguous claimed deferred retryPending nextRetryAt =>
    cases retryPending <;> simp [Call.set, ambiguousRow, Call.publishes]
  | reconcileFirst | publish | adapterPublish | reconcileAfter => injection hCond
  | saveRecovered | savePublished => exact iff_of_true rfl rfl
  | markReconciled | markRequest | confirm =>
    simp [Call.set, Call.publishes, requestRow, confirmRow]

/-- A row that a call touches was not published. -/
theorem not_published_of_condition (hCond : call.condition w now db old = true) :
    old.status ≠ .published := by
  intro hStatus
  rw [not_condition_of_ended (Or.inl hStatus)] at hCond
  injection hCond

end Calls

/-- No edit makes a row published. -/
theorem edited_not_published {cfg : Config} {db : Database} {id : PostId} {row : PostRow}
    {operation : UserOperation} {next : Post} {f : SocialPublishJob → SocialPublishJob}
    (hEdit : Edit cfg db id row operation next f) {old : SocialPublishJob}
    (hStatus : old.status ≠ .published) : (f old).status ≠ .published := by
  cases hEdit with
  | update => exact hStatus
  | schedule =>
    unfold PostService.scheduleJob
    split
    · exact hStatus
    · exact nofun
  | cancel =>
    unfold PostService.cancelJob
    split
    · exact nofun
    · exact hStatus
  | retry =>
    unfold PostService.retryJob
    split
    · exact nofun
    · exact hStatus

section Steps

variable {cfg : Config} {s t : PublishingState} {e : Event}

/-- Posts are never deleted, and a new job belongs to its new post. -/
theorem owned_step (hKind : StepKind cfg s e t) (h : Owned s.db) : Owned t.db := by
  have hSame : (∀ k, t.db.job? k = s.db.job? k) → t.db.posts = s.db.posts → Owned t.db := by
    intro hRows hPosts j row hRow
    rw [hRows] at hRow
    rw [hPosts]
    exact h j row hRow
  have hDbSame : t.db = s.db → Owned t.db := fun hDb => hDb ▸ h
  cases hKind with
  | quiet _ hTables => exact hSame hTables.rows hTables.posts
  | started _ _ _ _ hTables => exact hSame hTables.rows hTables.posts
  | @created _ _ post _ hCreated =>
    intro j row hRow
    rw [hCreated.posts]
    by_cases hPost : row.postId = post.id
    · rw [hPost, AList.lookup_insert]
      rfl
    · rw [AList.lookup_insert_ne hPost]
      rcases hCreated.rows j with hOld | ⟨-, target, hNew⟩
      · exact h j row (hOld ▸ hRow)
      · rw [hNew, Option.some.injEq] at hRow
        exact absurd (hRow ▸ rfl) hPost
  | @edited _ _ id post next f _ hEdit hMutated =>
    intro j row hRow
    rw [hMutated.rows] at hRow
    obtain ⟨old, hOld, rfl⟩ := Option.map_eq_some_iff.mp hRow
    have hStored := h j old hOld
    have hPostId : (if old.postId = id then f old else old).postId = old.postId := by
      split
      · exact postId_of_writeBack (edited_writeBack hEdit old)
      · rfl
    rw [hPostId, hMutated.posts]
    by_cases hPost : old.postId = id
    · rw [hPost, AList.lookup_insert]
      rfl
    · rw [AList.lookup_insert_ne hPost]
      exact hStored
  | @wrote _ _ w call old _ _ _ _ _ _ _ hWritten =>
    intro j row hRow
    rw [hWritten.posts]
    rw [hWritten.rows] at hRow
    split at hRow
    · injection hRow with hRow
      have hPostId : row.postId = old.postId := by
        rw [← hRow]
        cases call <;> rfl
      rw [hPostId]
      exact h _ old hWritten.found
    · exact h j row hRow
  | unwritten _ _ _ hDb => exact hDbSame hDb
  | reconcileFirst _ _ hDb => exact hDbSame hDb
  | reconcileAfter _ _ hDb => exact hDbSame hDb
  | publishSettled _ _ _ hDb => exact hDbSame hDb
  | publishCalled _ _ _ hDb => exact hDbSame hDb
  | adapterReturned _ _ hDb => exact hDbSame hDb
  | crashed _ _ hDb => exact hDbSame hDb

/-- The entries that follow an UPDATE of a job with a stored post. -/
theorem followUp_entries {terminal publishes : Bool} {new : SocialPublishJob} {db : Database}
    {j : JobId} (hPost : (db.posts.lookup new.postId).isSome) :
    (followUpAudit terminal publishes new db).countP (isPublishedEntry j) =
      if publishes = true ∧ new.id = j then 1 else 0 := by
  obtain ⟨post, hPost⟩ := Option.isSome_iff_exists.mp hPost
  cases publishes with
  | true =>
    by_cases hId : new.id = j <;>
      simp [followUpAudit, hPost, isPublishedEntry, publishedEntry, hId]
  | false =>
    cases terminal <;> simp [followUpAudit, hPost, isPublishedEntry, failedEntry]

/-- A call that writes its row keeps the ledger of every job. -/
theorem ledger_wrote {w : Worker} {call : Call} {old : SocialPublishJob} {j : JobId}
    (hOwned : Owned s.db) (h : Ledger s.db j)
    (hCond : call.condition w s.clock s.db old = true)
    (hWritten : RowWritten s.db (call.target w) old (call.set w s.clock old) t.db)
    (hFollowed : FollowedUp call.terminal call.publishes s.clock (call.set w s.clock old)
      s.db t.db) : Ledger t.db j := by
  have hNewId : (call.set w s.clock old).id = call.target w :=
    (call.set_id w s.clock old).trans (job?_id hWritten.found)
  have hPost : (s.db.posts.lookup (call.set w s.clock old).postId).isSome := by
    have hSame : (call.set w s.clock old).postId = old.postId := by cases call <;> rfl
    rw [hSame]
    exact hOwned _ old hWritten.found
  have hEntries := publishedEntries_append (j := j) hFollowed.audit
  rw [followUp_entries hPost, hNewId] at hEntries
  have hNotPublished := not_published_of_condition hCond
  by_cases hTarget : j = call.target w
  · subst hTarget
    have hOldOpen : ∀ row, s.db.job? (call.target w) = some row → row.status ≠ .published := by
      intro row hRow
      rw [hWritten.found, Option.some.injEq] at hRow
      exact hRow ▸ hNotPublished
    have hRow := (hWritten.rows (call.target w)).trans (if_pos rfl)
    obtain ⟨hNone, hZero⟩ := h.open_ hOldOpen
    by_cases hPublishes : call.publishes = true
    · -- the row becomes published, with what the transaction adds
      rw [if_pos ⟨hPublishes, rfl⟩, hZero] at hEntries
      obtain ⟨remotePostId, publishedAt, hRemote, hAt, hInserted⟩ :=
        hFollowed.entered hPublishes (hNewId ▸ hNone)
      have hEntry := congrArg (AList.lookup (call.target w)) hInserted
      rw [hNewId, AList.lookup_insert] at hEntry
      refine ⟨fun row hRow' _ => ⟨⟨_, hEntry, ?_⟩, hEntries⟩, fun hOpen => ?_⟩
      · rw [hRow, Option.some.injEq] at hRow'
        subst hRow'
        exact ⟨rfl, rfl, rfl, hRemote, rfl, hAt⟩
      · exact absurd ((set_published_iff hCond).mpr hPublishes) (hOpen _ hRow)
    · rw [if_neg fun hBoth => hPublishes hBoth.1] at hEntries
      refine h.congr_open hOldOpen (fun row hRow' => ?_) ?_ hEntries
      · rw [hRow, Option.some.injEq] at hRow'
        exact hRow' ▸ fun hStatus => hPublishes ((set_published_iff hCond).mp hStatus)
      · rw [hFollowed.socialPosts (Bool.eq_false_of_not_eq_true hPublishes)]
  · -- another job is not touched
    rw [if_neg fun hBoth => hTarget hBoth.2.symm] at hEntries
    refine h.congr ((hWritten.rows j).trans (if_neg hTarget)) ?_ hEntries
    by_cases hPublishes : call.publishes = true
    · obtain ⟨entry, hInserted, -⟩ := hFollowed.published hPublishes
      rw [hInserted, hNewId, AList.lookup_insert_ne hTarget]
    · rw [hFollowed.socialPosts (Bool.eq_false_of_not_eq_true hPublishes)]

theorem publishedEntries_of_eq {db db' : Database} {j : JobId}
    (h : db'.auditLogs = db.auditLogs) : db'.publishedEntries j = db.publishedEntries j := by
  rw [publishedEntries, h, publishedEntries]

/-- **One step** keeps the ledger of every job. -/
theorem ledger_step (hKind : StepKind cfg s e t) (hOwned : Owned s.db) {j : JobId}
    (h : Ledger s.db j) : Ledger t.db j := by
  have hDbSame : t.db = s.db → Ledger t.db j := fun hDb => hDb ▸ h
  cases hKind with
  | quiet _ hTables =>
    exact h.congr (hTables.rows j) (by rw [hTables.socialPosts])
      (publishedEntries_of_eq hTables.auditLogs)
  | started _ _ _ _ hTables =>
    exact h.congr (hTables.rows j) (by rw [hTables.socialPosts])
      (publishedEntries_of_eq hTables.auditLogs)
  | created _ hCreated =>
    have hPosts : t.db.socialPosts.lookup j = s.db.socialPosts.lookup j := by
      rw [hCreated.socialPosts]
    have hEntries := publishedEntries_of_eq (j := j) hCreated.auditLogs
    rcases hCreated.rows j with hOld | ⟨hNone, target, hNew⟩
    · exact h.congr hOld hPosts hEntries
    · refine h.congr_open (fun row hRow => ?_) (fun row hRow => ?_) hPosts hEntries
      · rw [hNone] at hRow
        injection hRow
      · rw [hNew, Option.some.injEq] at hRow
        subst hRow
        exact nofun
  | @edited operation _ id post next f _ hEdit hMutated =>
    have hPosts : t.db.socialPosts.lookup j = s.db.socialPosts.lookup j := by
      rw [hMutated.socialPosts]
    have hEntries : t.db.publishedEntries j = s.db.publishedEntries j :=
      publishedEntries_append hMutated.auditLogs
    have hRow := hMutated.rows j
    cases hOld : s.db.job? j with
    | none =>
      rw [hOld] at hRow
      exact h.congr (hRow.trans hOld.symm) hPosts hEntries
    | some old =>
      rw [hOld, Option.map_some] at hRow
      by_cases hPost : old.postId = id
      · rw [if_pos hPost] at hRow
        by_cases hStatus : old.status = .published
        · -- an edit leaves a published row as it is
          have hMem : old ∈ PgPostRepository.jobsOf s.db id :=
            mem_jobsOf.mpr ⟨(job?_id hOld).symm ▸ hOld, hPost⟩
          rw [(lawful_edited hEdit hMem).published hStatus] at hRow
          exact h.congr (hRow.trans hOld.symm) hPosts hEntries
        · refine h.congr_open (fun row hRow' => ?_) (fun row hRow' => ?_) hPosts hEntries
          · rw [hOld, Option.some.injEq] at hRow'
            exact hRow' ▸ hStatus
          · rw [hRow, Option.some.injEq] at hRow'
            exact hRow' ▸ edited_not_published hEdit hStatus
      · rw [if_neg hPost] at hRow
        exact h.congr (hRow.trans hOld.symm) hPosts hEntries
  | wrote _ _ _ hCond _ hWritten _ _ _ hFollowed =>
    exact ledger_wrote hOwned h hCond hWritten hFollowed
  | unwritten _ _ _ hDb => exact hDbSame hDb
  | reconcileFirst _ _ hDb => exact hDbSame hDb
  | reconcileAfter _ _ hDb => exact hDbSame hDb
  | publishSettled _ _ _ hDb => exact hDbSame hDb
  | publishCalled _ _ _ hDb => exact hDbSame hDb
  | adapterReturned _ _ hDb => exact hDbSame hDb
  | crashed _ _ hDb => exact hDbSame hDb

end Steps

/-! ## Every run -/

theorem owned_reachable {cfg : Config} {ok : PublishingState → Event → Prop}
    {s : PublishingState} (h : Reachable (publishingSystem cfg) ok s) : Owned s.db := by
  refine h.invariant (I := fun s => Owned s.db) (fun s hInit j row hRow => ?_)
    fun _ _ _ hInv _ hStep => owned_step (step_kind hStep) hInv
  obtain ⟨⟨campaigns, accounts, hDb⟩, -⟩ := hInit
  rw [hDb] at hRow
  injection hRow

/-- The ledger of every job is right in every run. -/
theorem ledger_reachable {cfg : Config} {ok : PublishingState → Event → Prop}
    {s : PublishingState} (h : Reachable (publishingSystem cfg) ok s) (j : JobId) :
    Ledger s.db j := by
  refine h.invariant_of (I := fun s => Ledger s.db j) (fun s hInit => ?_)
    fun _ _ _ hReach hInv _ hStep => ledger_step (step_kind hStep) (owned_reachable hReach) hInv
  obtain ⟨⟨campaigns, accounts, hDb⟩, -⟩ := hInit
  rw [hDb]
  refine ⟨fun row hRow => ?_, fun _ => ⟨rfl, rfl⟩⟩
  injection hRow

/-- The job whose publication a call saves. -/
def publicationOf : Call → Option SocialPublishJob
  | .saveRecovered claimed => some claimed.job
  | .savePublished _ job _ => some job
  | _ => none

/-- A call that saves a publication commits its whole transaction, or changes nothing. -/
theorem publication_step {cfg : Config} {s t : PublishingState} {i : Nat} {result : CallResult}
    {w : Worker} {call : Call} {job : SocialPublishJob} (hWorker : s.workers[i]? = some w)
    (hState : w.state = .running call) (hJob : publicationOf call = some job)
    (hStep : (publishingSystem cfg).step s (.repository i result) = some t) :
    t.db = s.db ∨ transaction (publishedStatements job) s.db = (.ok (), t.db) := by
  have hAnswer : ∃ outcome, repositoryCall w s.clock s.db call =
      some (answered s.db (fun _ => State.ended outcome)
        ((savePublished job s.db).map fun db' => ((), db'))) := by
    cases call with
    | saveRecovered | savePublished =>
      injection hJob with hJob
      subst hJob
      exact ⟨_, rfl⟩
    | _ => injection hJob
  obtain ⟨outcome, hAnswer⟩ := hAnswer
  have hLeft : s.repositoryStep i result = some t := hStep
  simp only [PublishingState.repositoryStep, hWorker, hState, hAnswer, Option.map_some,
    Option.some.injEq] at hLeft
  subst hLeft
  rw [transaction_savePublished]
  unfold CallResult.leaves
  cases savePublished job s.db with
  | error e => exact Or.inl (by simp [answered, Except.map])
  | ok db' =>
    by_cases hPerformed : result.performed = true
    · exact Or.inr (by simp [answered, Except.map, hPerformed])
    · exact Or.inl (by simp [hPerformed])

/-- A key of a table has exactly one row where it has one. -/
theorem count_keys_eq_one_iff {κ : Type} [DecidableEq κ] {β : κ → Type} {table : AList β} {k : κ} :
    table.keys.count k = 1 ↔ (table.lookup k).isSome := by
  rw [AList.lookup_isSome, AList.mem_keys]
  constructor
  · intro hCount
    exact List.count_pos_iff.mp (by omega)
  · exact List.count_eq_one_of_mem table.keys_nodup

/-- **Finalisation** in every state of every run: a job is published if and only if it has
exactly one row in `social_posts` and exactly one `social_post.published` entry, and the row
holds its publication; a call that saves a publication commits its whole transaction or
changes nothing, and a transaction that throws changes nothing. -/
theorem finalised_once {cfg : Config} {s : PublishingState}
    (hReach : Reachable (publishingSystem cfg) anyStep s) :
    (∀ j, (∃ row, s.db.job? j = some row ∧ row.status = .published) ↔
      s.db.socialPosts.keys.count j = 1 ∧ s.db.publishedEntries j = 1) ∧
    (∀ j row, s.db.job? j = some row → row.status = .published →
      ∃ entry, s.db.socialPosts.lookup j = some entry ∧ EntryOf row entry) ∧
    (∀ (i : Nat) (w : Worker) (call : Call) (job : SocialPublishJob) (result : CallResult)
      (t : PublishingState), s.workers[i]? = some w → w.state = .running call →
      publicationOf call = some job →
      (publishingSystem cfg).step s (.repository i result) = some t →
      t.db = s.db ∨ transaction (publishedStatements job) s.db = (.ok (), t.db)) ∧
    ∀ job error, (transaction (publishedStatements job) s.db).1 = .error error →
      (transaction (publishedStatements job) s.db).2 = s.db := by
  refine ⟨fun j => ?_, fun j row hRow hStatus => ?_, fun i w call job result t => ?_,
    fun job error => transaction_error⟩
  · have hLedger := ledger_reachable hReach j
    rw [count_keys_eq_one_iff]
    constructor
    · rintro ⟨row, hRow, hStatus⟩
      obtain ⟨⟨entry, hEntry, -⟩, hOne⟩ := hLedger.published row hRow hStatus
      exact ⟨by rw [hEntry]; rfl, hOne⟩
    · rintro ⟨hEntry, -⟩
      by_contra hNot
      have hOpen := hLedger.open_ fun row hRow hStatus => hNot ⟨row, hRow, hStatus⟩
      rw [hOpen.1] at hEntry
      injection hEntry
  · exact ((ledger_reachable hReach j).published row hRow hStatus).1
  · exact fun hWorker hState hJob hStep => publication_step hWorker hState hJob hStep

open Installation in
/-- Job 1 is published. -/
def publishedOnce : List Event :=
  approved ++ [deliver, call 0, call 0, .publish 0 1000,
    .adapterReturns 0 (.ok ⟨"5", none, 1000⟩) 1000, call 0, call 0]

theorem finalised_once_publishedOnce : ∃ (s : PublishingState) (row : SocialPublishJob)
    (entry : SocialPostRow), s.db.job? 1 = some row ∧
    row.status = .published ∧ s.db.socialPosts.lookup 1 = some entry ∧ EntryOf row entry ∧
    s.db.publishedEntries 1 = 1 := by
  obtain ⟨s, hReach, hPublished⟩ := exists_reachable_of_run
    (publishingSystem (Installation.config false false)) anyStep
    (fun s => (s.db.job? 1).any fun row => row.status = .published) publishedOnce
    (Installation.start_initial _) (by decide +kernel)
  obtain ⟨row, hRow, hStatus⟩ := (Option.any_eq_true _ _).mp hPublished
  have hStatus := of_decide_eq_true hStatus
  obtain ⟨hIff, hRows, -⟩ := finalised_once hReach
  obtain ⟨entry, hEntry, hOf⟩ := hRows 1 row hRow hStatus
  exact ⟨s, row, entry, hRow, hStatus, hEntry, hOf, ((hIff 1).mp ⟨row, hRow, hStatus⟩).2⟩

end SocialPromotion
