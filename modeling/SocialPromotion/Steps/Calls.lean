import SocialPromotion.Model.Worker
import SocialPromotion.Steps.Statements

/-!
# What a repository call of the worker does

Each repository call is one UPDATE of one row with what its transaction adds to it. Here
the UPDATE is given by its parts (`target`, `condition`, `set`) and by the state it leads
the execution to (`matched`, `unmatched`), and

* `repositoryCall_cases` says that the call does just that: it writes the one row that
  matches and continues, or changes nothing.
-/

namespace SocialPromotion

open PgPublishOutboxRepository PublishWorkerProcessor

/-- One row was rewritten; posts, media and the outbox are as before. -/
structure RowWritten (db : Database) (id : JobId) (old new : SocialPublishJob) (db' : Database) :
    Prop where
  found : db.job? id = some old
  rows : ∀ k, db'.job? k = if k = id then some new else db.job? k
  posts : db'.posts = db.posts
  postMedia : db'.postMedia = db.postMedia
  outbox : db'.outbox = db.outbox
  nextUuid : db'.nextUuid = db.nextUuid

namespace PublishWorkerProcessor.Call

/-- The job whose row the call addresses. -/
def target (w : Worker) : Call → JobId
  | .claimPublishJob => w.publishJobId
  | .saveRecovered claimed | .reconcileFirst claimed _ | .markReconciled claimed _ _
  | .markRequest claimed _ => claimed.job.id
  | .publish _ job | .adapterPublish _ job _ | .reconcileAfter _ job _ | .confirm _ job _
  | .savePublished _ job _ | .saveFailed _ job _ _ _ _ => job.id
  | .recordAmbiguous _ deferred _ _ => deferred.id

/-- The WHERE clause. -/
def condition (w : Worker) (now : Time) (db : Database) : Call → SocialPublishJob → Bool
  | .claimPublishJob, row => claimable db now w.queueJobId row
  | .markReconciled _ key _, row | .markRequest _ key, row =>
    row.status = .claimed ∧ (row.remoteRequestKey = none ∨ row.remoteRequestKey = some key)
  | .confirm .., row => row.status = .remoteRequesting
  | .saveRecovered _, row | .savePublished .., row => row.status = .remoteConfirmed
  | .saveFailed .., row | .recordAmbiguous .., row => inFlight row
  | .reconcileFirst .., _ | .publish .., _ | .adapterPublish .., _ | .reconcileAfter .., _ => false

/-- The SET clause. -/
def set (w : Worker) (now : Time) : Call → SocialPublishJob → SocialPublishJob
  | .claimPublishJob, row => claimRow w.leaseMs now row
  | .markReconciled _ key _, row | .markRequest _ key, row => requestRow key w.leaseMs now row
  | .confirm _ job _, row => confirmRow job row
  | .saveRecovered claimed, row => publishedRow claimed.job row
  | .savePublished _ job _, row => publishedRow job row
  | .saveFailed _ job _ _ retryPending nextRetryAt, row =>
    failedRow job retryPending nextRetryAt row
  | .recordAmbiguous _ deferred retryPending nextRetryAt, row =>
    ambiguousRow deferred retryPending nextRetryAt row
  | .reconcileFirst .., row | .publish .., row | .adapterPublish .., row
  | .reconcileAfter .., row => row

/-- How the execution ends once it has saved its outcome. -/
def saved (w : Worker) : Call → Option Outcome
  | .saveRecovered claimed => some (.resolved (some (logContext claimed claimed.job w.attempt none)))
  | .savePublished claimed job _ => some (.resolved (some (logContext claimed job w.attempt none)))
  | .saveFailed claimed job error _ retryPending _ =>
    some (failureOutcome retryPending
      (logContext claimed job w.attempt (some (job.errorCode.getD (.failure .unknownError))))
      (executionMessage job error))
  | .recordAmbiguous claimed deferred retryPending _ =>
    some (failureOutcome retryPending
      (logContext claimed deferred w.attempt (some .ambiguousRemoteOutcome))
      (deferred.errorMessage.getD "Remote outcome is ambiguous."))
  | _ => none

/-- The state after a row matched and became `new`. -/
def matched (w : Worker) (db : Database) : Call → SocialPublishJob → State
  | .claimPublishJob, new =>
    afterClaim ((db.posts.lookup new.postId).map fun post =>
      ⟨toPost new.postId post ((db.postMedia.lookup new.postId).getD []), new⟩)
  | .markReconciled claimed _ result, new =>
    .running (.confirm claimed (PublishingService.confirmedBy result new) result)
  | .markRequest claimed _, new => .running (.publish claimed new)
  | .confirm claimed _ result, new => .running (.savePublished claimed new result)
  | call, _ => .ended ((call.saved w).getD .raised)

/-- The state after no row matched. -/
def unmatched (w : Worker) : Call → State
  | .claimPublishJob => .ended (.resolved none)
  | call => .ended ((call.saved w).getD .raised)

theorem unmatched_ended (w : Worker) (call : Call) :
    ∃ outcome, call.unmatched w = .ended outcome := by
  cases call <;> exact ⟨_, rfl⟩

/-- The call records a terminal failure. -/
def terminal : Call → Bool
  | .saveFailed _ _ _ _ retryPending _ | .recordAmbiguous _ _ retryPending _ => !retryPending
  | _ => false

/-- The call saves a publication. -/
def publishes : Call → Bool
  | .saveRecovered _ | .savePublished .. => true
  | _ => false

/-- What makes the rest of a transaction fail after its UPDATE wrote `new`. -/
def Blocked (db : Database) (new : SocialPublishJob) : Call → Prop
  | .saveRecovered _ | .savePublished .. => ∃ k other, db.socialPosts.lookup k = some other ∧
      k ≠ new.id ∧ other.platform = new.platform ∧ some other.remotePostId = new.remotePostId
  | .saveFailed _ _ _ _ retryPending _ | .recordAmbiguous _ _ retryPending _ =>
    retryPending = false ∧ new.retryCount = 0
  | _ => False

/-- The transaction of the call fails, by a CHECK constraint or by what follows its UPDATE. -/
def Fails (w : Worker) (now : Time) (db : Database) (call : Call) : Prop :=
  ∃ old, db.job? (call.target w) = some old ∧ call.condition w now db old = true ∧
    (¬ (call.set w now old).Checks ∨ call.Blocked db (call.set w now old))

theorem set_id (w : Worker) (now : Time) (call : Call) (row : SocialPublishJob) :
    (call.set w now row).id = row.id := by
  cases call <;> rfl

theorem set_scheduledAt (w : Worker) (now : Time) (call : Call) (row : SocialPublishJob) :
    (call.set w now row).scheduledAt = row.scheduledAt := by
  cases call <;> rfl

/-- A repository call never makes a row waiting or cancelled. -/
theorem set_status (w : Worker) (now : Time) (db : Database) (call : Call)
    (row : SocialPublishJob) (h : call.condition w now db row = true) :
    (call.set w now row).status ≠ .waiting ∧ (call.set w now row).status ≠ .cancelled := by
  cases call with
  | claimPublishJob =>
    simp only [set, claimRow]
    split <;> exact ⟨nofun, nofun⟩
  | saveFailed =>
    simp only [set, failedRow]
    split <;> exact ⟨nofun, nofun⟩
  | recordAmbiguous =>
    simp only [set, ambiguousRow]
    split <;> exact ⟨nofun, nofun⟩
  | reconcileFirst | publish | adapterPublish | reconcileAfter => simp [condition] at h
  | _ => exact ⟨nofun, nofun⟩

end PublishWorkerProcessor.Call

/-! ## The statement of a call -/

section Statement

variable {w : Worker} {now : Time} {db db' : Database} {call : Call} {id : JobId}
  {updated : Option SocialPublishJob}

/-- The UPDATE of a call: it writes no row, or the one it matched. -/
theorem statement_cases
    (h : db.updateJob id (call.condition w now db) (call.set w now) = .ok (updated, db')) :
    (updated = none ∧ db' = db ∧
        ∀ row, db.job? id = some row → call.condition w now db row = false) ∨
      ∃ old, call.condition w now db old = true ∧ updated = some (call.set w now old) ∧
        (call.set w now old).Checks ∧ RowWritten db id old (call.set w now old) db' ∧
        db'.alerts = db.alerts ∧ db'.socialPosts = db.socialPosts ∧
        db'.auditLogs = db.auditLogs := by
  rcases Database.updateJob_cases (call.set_id w now) h with hNone | ⟨old, stored, hOld, hCond,
    hStored, hUpdated, rfl⟩
  · exact Or.inl hNone
  · have hStatus := call.set_status w now db old hCond
    -- the trigger has nothing to do for the statuses a worker writes
    rw [Database.trigger_inactive _ _ hStatus.1 hStatus.2]
    refine Or.inr ⟨old, hCond, hUpdated, hStored ▸ stored.checks, ⟨hOld, fun k => ?_, rfl, rfl,
      rfl, rfl⟩, rfl, rfl, rfl⟩
    rw [Database.job?_insert, hStored]

theorem statement_error {e : DbError}
    (h : db.updateJob id (call.condition w now db) (call.set w now) = .error e) :
    ∃ old, db.job? id = some old ∧ call.condition w now db old = true ∧
      ¬ (call.set w now old).Checks :=
  (Database.updateJob_error (call.set_id w now) h).2

end Statement

/-! ## What follows the statement in its transaction -/

section FollowUp

variable {db db' : Database} {row : SocialPublishJob} {now : Time}

/-- The rows, posts, media and outbox of two databases agree. -/
structure SameRows (db db' : Database) : Prop where
  rows : ∀ k, db'.job? k = db.job? k
  posts : db'.posts = db.posts
  postMedia : db'.postMedia = db.postMedia
  outbox : db'.outbox = db.outbox
  nextUuid : db'.nextUuid = db.nextUuid

theorem SameRows.refl (db : Database) : SameRows db db := ⟨fun _ => rfl, rfl, rfl, rfl, rfl⟩

/-- The audit entry of a publication, for the owner of its post. -/
def publishedEntry (row : SocialPublishJob) (post : PostRow) : AuditLog where
  userId := post.ownerId
  action := .socialPostPublished
  entityId := row.id
  status := none
  revision := none
  platform := some row.platform
  errorCode := none
  retryCount := none

/-- The audit entry of a terminal failure. -/
def failedEntry (row : SocialPublishJob) (post : PostRow) : AuditLog where
  userId := post.ownerId
  action := .socialPublishJobFailed
  entityId := row.id
  status := none
  revision := none
  platform := some row.platform
  errorCode := row.errorCode
  retryCount := some row.retryCount

/-- The entries that follow an UPDATE which wrote `new`. -/
def followUpAudit (terminal publishes : Bool) (new : SocialPublishJob) (db : Database) :
    List AuditLog :=
  if publishes then ((db.posts.lookup new.postId).map (publishedEntry new)).toList
  else if terminal then ((db.posts.lookup new.postId).map (failedEntry new)).toList
  else []

/-- What follows an UPDATE that wrote `new`: a terminal failure raises an alert unless the
job has one, a publication is entered into `social_posts`, both leave an audit entry, and
nothing else happens. -/
structure FollowedUp (terminal publishes : Bool) (now : Time) (new : SocialPublishJob)
    (db db' : Database) : Prop where
  alerts : terminal = false → db'.alerts = db.alerts
  alertKept : terminal = true → (db.alerts.lookup new.id).isSome → db'.alerts = db.alerts
  alertRaised : terminal = true → db.alerts.lookup new.id = none →
    ∃ alert, db'.alerts = db.alerts.insert new.id alert ∧ alert.status = .pending ∧
      some alert.errorCode = some (new.errorCode.getD (.failure .unknownError)) ∧
      alert.retryCount = new.retryCount ∧ alert.nextDeliveryAt = now
  socialPosts : publishes = false → db'.socialPosts = db.socialPosts
  published : publishes = true → ∃ entry, db'.socialPosts = db.socialPosts.insert new.id entry ∧
    some entry.remotePostId = new.remotePostId ∧ (entry.platform = new.platform ∨
      ∃ before, db.socialPosts.lookup new.id = some before ∧ entry.platform = before.platform)
  entered : publishes = true → db.socialPosts.lookup new.id = none →
    ∃ remotePostId publishedAt, new.remotePostId = some remotePostId ∧
      new.publishedAt = some publishedAt ∧ db'.socialPosts = db.socialPosts.insert new.id
        ⟨new.postId, new.accountId, new.platform, remotePostId, new.remotePostUrl, publishedAt⟩
  audit : db'.auditLogs = db.auditLogs ++ followUpAudit terminal publishes new db

theorem FollowedUp.nothing {now : Time} {new : SocialPublishJob} {db db' : Database}
    (hAlerts : db'.alerts = db.alerts) (hPosts : db'.socialPosts = db.socialPosts)
    (hAudit : db'.auditLogs = db.auditLogs) : FollowedUp false false now new db db' where
  alerts _ := hAlerts
  alertKept h := by injection h
  alertRaised h := by injection h
  socialPosts _ := hPosts
  published h := by injection h
  entered h := by injection h
  audit := hAudit.trans (List.append_nil _).symm

/-- What follows an UPDATE is seen against the database before the UPDATE. -/
theorem FollowedUp.of_before {terminal publishes : Bool} {now : Time} {new : SocialPublishJob}
    {db db' db'' : Database} (hAlerts : db'.alerts = db.alerts)
    (hPosts : db'.socialPosts = db.socialPosts) (hAudit : db'.auditLogs = db.auditLogs)
    (hOwners : db'.posts = db.posts) (h : FollowedUp terminal publishes now new db' db'') :
    FollowedUp terminal publishes now new db db'' := by
  obtain ⟨h₁, h₂, h₃, h₄, h₅, h₆, h₇⟩ := h
  rw [hAlerts] at h₁ h₂ h₃
  rw [hPosts] at h₄ h₅ h₆
  have hEntries : followUpAudit terminal publishes new db' =
      followUpAudit terminal publishes new db := by
    unfold followUpAudit
    rw [hOwners]
  rw [hAudit, hEntries] at h₇
  exact ⟨h₁, h₂, h₃, h₄, h₅, h₆, h₇⟩

theorem RowWritten.trans_same {db'' : Database} {id : JobId} {old new : SocialPublishJob}
    (h : RowWritten db id old new db') (h' : SameRows db' db'') :
    RowWritten db id old new db'' where
  found := h.found
  rows k := (h'.rows k).trans (h.rows k)
  posts := h'.posts.trans h.posts
  postMedia := h'.postMedia.trans h.postMedia
  outbox := h'.outbox.trans h.outbox
  nextUuid := h'.nextUuid.trans h.nextUuid

theorem insertFinalFailureAudit_followed (h : insertFinalFailureAudit row now db = .ok db') :
    SameRows db db' ∧ FollowedUp true false now row db db' := by
  unfold insertFinalFailureAudit at h
  split at h
  · injection h with h
    subst h
    refine ⟨⟨fun _ => rfl, rfl, rfl, rfl, rfl⟩, fun hNot => by injection hNot,
      fun _ hSome => if_pos hSome, fun _ hNone => ?_, fun _ => rfl, fun hNot => by injection hNot,
      fun hNot => by injection hNot, rfl⟩
    refine ⟨_, if_neg (by simp [hNone]), rfl, rfl, rfl, rfl⟩
  · injection h

theorem finishFailure_cases {retryPending : Bool} {result : Except DbError Database}
    (h : finishFailure retryPending now (some row, db) = result) :
    (∃ db', result = .ok db' ∧ SameRows db db' ∧
        FollowedUp (!retryPending) false now row db db') ∨
      (∃ e, result = .error e) ∧ retryPending = false ∧ row.retryCount = 0 := by
  subst h
  unfold finishFailure
  cases retryPending with
  | true => exact Or.inl ⟨db, rfl, SameRows.refl db, .nothing rfl rfl rfl⟩
  | false =>
    by_cases hCount : 1 ≤ row.retryCount
    · refine Or.inl ?_
      cases hAudit : insertFinalFailureAudit row now db with
      | ok db' => exact ⟨db', hAudit, insertFinalFailureAudit_followed hAudit⟩
      | error e => simp [insertFinalFailureAudit, hCount] at hAudit
    · exact Or.inr ⟨⟨_, dif_neg hCount⟩, rfl, by omega⟩

theorem insertSocialPost_cases {result : Except DbError Database}
    (hPublished : row.publishedAt.isSome) (hRemote : row.remotePostId.isSome)
    (h : insertSocialPost row db = result) :
    (∃ db', result = .ok db' ∧ SameRows db db' ∧ FollowedUp false true now row db db') ∨
      (∃ e, result = .error e) ∧ ∃ k other, db.socialPosts.lookup k = some other ∧
        k ≠ row.id ∧ other.platform = row.platform ∧ some other.remotePostId = row.remotePostId := by
  obtain ⟨publishedAt, hAt⟩ := Option.isSome_iff_exists.mp hPublished
  obtain ⟨remotePostId, hId⟩ := Option.isSome_iff_exists.mp hRemote
  subst h
  simp only [insertSocialPost, hAt, hId]
  split
  · rename_i hTaken
    refine Or.inr ⟨⟨_, rfl⟩, ?_⟩
    obtain ⟨⟨k, other⟩, hMem, hOther⟩ := List.any_eq_true.mp hTaken
    simp only [decide_eq_true_eq] at hOther
    exact ⟨k, other, AList.mem_lookup_iff.mpr hMem, hOther.1, hOther.2.1, by rw [hOther.2.2]⟩
  · refine Or.inl ⟨_, rfl, ⟨fun _ => rfl, rfl, rfl, rfl, rfl⟩, fun _ => rfl,
      fun hNot => by injection hNot, fun hNot => by injection hNot, fun hNot => by injection hNot,
      fun _ => ⟨_, rfl, ?_⟩, fun _ hBefore => ⟨remotePostId, publishedAt, hId, hAt, ?_⟩, rfl⟩
    · cases hBefore : db.socialPosts.lookup row.id with
      | none => exact ⟨hId.symm, Or.inl rfl⟩
      | some before => exact ⟨hId.symm, Or.inr ⟨before, rfl, rfl⟩⟩
    · rw [hBefore]
      rfl

end FollowUp

/-! ## The call as a whole -/

/-- A claimable row belongs to a stored post. -/
theorem exists_post_of_claimable {db : Database} {now : Time} {queueJobId : Option QueueJobId}
    {row : SocialPublishJob} (h : claimable db now queueJobId row = true) :
    ∃ post, db.posts.lookup row.postId = some post ∧ post.status ≠ .draft := by
  simp only [claimable, Bool.and_eq_true, Database.postStatus?] at h
  cases hPost : db.posts.lookup row.postId with
  | none => simp [hPost] at h
  | some post => exact ⟨post, rfl, by simpa [hPost] using h.1.1.2⟩

section Call

variable {w : Worker} {now : Time} {db db' : Database} {state : State}

/-- How a repository call can go; `repositoryCall_cases` proves these are all. -/
inductive CallEffect (w : Worker) (now : Time) (db : Database) (call : Call) :
    State × Database → Prop
  | wrote {old : SocialPublishJob} {db' : Database} (hCond : call.condition w now db old = true)
      (hChecks : (call.set w now old).Checks)
      (hWritten : RowWritten db (call.target w) old (call.set w now old) db')
      (hFollowed : FollowedUp call.terminal call.publishes now (call.set w now old) db db') :
      CallEffect w now db call (call.matched w db (call.set w now old), db')
  | none (hNone : ∀ row, db.job? (call.target w) = some row →
      call.condition w now db row = false) :
      CallEffect w now db call (call.unmatched w, db)
  | failed {old : SocialPublishJob} (hOld : db.job? (call.target w) = some old)
      (hCond : call.condition w now db old = true)
      (hFail : ¬ (call.set w now old).Checks ∨ call.Blocked db (call.set w now old)) :
      CallEffect w now db call (.ended .raised, db)

/-- A call that is one statement. -/
theorem statement_effect {call : Call} {next : SocialPublishJob → State}
    (hMatched : ∀ new, next new = call.matched w db new)
    (hUnmatched : call.unmatched w = .ended .raised) (hTerminal : call.terminal = false)
    (hPublishes : call.publishes = false) :
    CallEffect w now db call (answered db (orRaise next)
      (db.updateJob (call.target w) (call.condition w now db) (call.set w now))) := by
  cases hUpdate : db.updateJob (call.target w) (call.condition w now db) (call.set w now) with
  | error e =>
    obtain ⟨old, hOld, hCond, hChecks⟩ := statement_error hUpdate
    exact .failed hOld hCond (Or.inl hChecks)
  | ok result =>
    obtain ⟨updated, db'⟩ := result
    rcases statement_cases hUpdate with
      ⟨rfl, rfl, hNone⟩ | ⟨old, hCond, rfl, hChecks, hWritten, hAlerts, hPosts, hAudit⟩
    · simp only [answered, orRaise]
      rw [← hUnmatched]
      exact .none hNone
    · simp only [answered, orRaise, hMatched]
      refine .wrote hCond hChecks hWritten ?_
      rw [hTerminal, hPublishes]
      exact .nothing hAlerts hPosts hAudit

/-- A call that saves an outcome: a statement, and `finish` where it matched. -/
theorem save_effect {call : Call} {outcome : Outcome}
    (hMatched : ∀ new, call.matched w db new = .ended outcome)
    (hUnmatched : call.unmatched w = .ended outcome)
    {finish : Option SocialPublishJob × Database → Except DbError Database}
    (hNone : finish (none, db) = .ok db)
    (hFinish : ∀ old db', (call.set w now old).Checks → db'.socialPosts = db.socialPosts →
      (∃ db'', finish (some (call.set w now old), db') = .ok db'' ∧ SameRows db' db'' ∧
        FollowedUp call.terminal call.publishes now (call.set w now old) db' db'') ∨
      (∃ e, finish (some (call.set w now old), db') = .error e) ∧
        call.Blocked db (call.set w now old)) :
    CallEffect w now db call (answered db (fun _ => State.ended outcome)
      ((db.updateJob (call.target w) (call.condition w now db) (call.set w now) >>= finish).map
        fun db' => ((), db'))) := by
  cases hUpdate : db.updateJob (call.target w) (call.condition w now db) (call.set w now) with
  | error e =>
    obtain ⟨old, hOld, hCond, hChecks⟩ := statement_error hUpdate
    exact .failed hOld hCond (Or.inl hChecks)
  | ok result =>
    obtain ⟨updated, db'⟩ := result
    rcases statement_cases hUpdate with
      ⟨rfl, rfl, hNoRow⟩ | ⟨old, hCond, rfl, hChecks, hWritten, hAlerts, hPosts, hAudit⟩
    · simp only [bind, Except.bind, hNone, Except.map, answered]
      rw [← hUnmatched]
      exact .none hNoRow
    · rcases hFinish old db' hChecks hPosts with
        ⟨db'', hOk, hSame, hFollowed⟩ | ⟨⟨e, hError⟩, hBlocked⟩
      · simp only [bind, Except.bind, hOk, Except.map, answered]
        rw [← hMatched (call.set w now old)]
        exact .wrote hCond hChecks (hWritten.trans_same hSame)
          (hFollowed.of_before hAlerts hPosts hAudit hWritten.posts)
      · simp only [bind, Except.bind, hError, Except.map, answered]
        exact .failed hWritten.found hCond (Or.inr hBlocked)

/-- A row written as published has all that its insertion into `social_posts` needs. -/
theorem publication_effect {call : Call} {confirmed : SocialPublishJob} {outcome : Outcome}
    (hMatched : ∀ new, call.matched w db new = .ended outcome)
    (hUnmatched : call.unmatched w = .ended outcome)
    (hSet : ∀ row, (call.set w now row).status = .published)
    (hTerminal : call.terminal = false) (hPublishes : call.publishes = true)
    (hBlocked : ∀ new, (∃ k other, db.socialPosts.lookup k = some other ∧ k ≠ new.id ∧
      other.platform = new.platform ∧ some other.remotePostId = new.remotePostId) →
      call.Blocked db new)
    (hCall : db.updateJob (call.target w) (call.condition w now db) (call.set w now) =
      db.updateJob confirmed.id (fun row => row.status = .remoteConfirmed)
        (publishedRow confirmed)) :
    CallEffect w now db call (answered db (fun _ => State.ended outcome)
      ((savePublished confirmed db).map fun db' => ((), db'))) := by
  unfold savePublished
  rw [← hCall]
  refine save_effect hMatched hUnmatched rfl fun old db' hChecks hPosts => ?_
  obtain ⟨hAt, hRemote⟩ := hChecks.remoteReference (Or.inr (hSet old))
  rw [hTerminal, hPublishes]
  rcases insertSocialPost_cases hAt hRemote rfl with hOk | ⟨hError, hTaken⟩
  · exact Or.inl hOk
  · exact Or.inr ⟨hError, hBlocked _ (hPosts ▸ hTaken)⟩

/-- The claim, which reads the content of the post in its transaction. -/
theorem claim_effect : CallEffect w now db .claimPublishJob (answered db afterClaim
    (claimPublishJob w.publishJobId w.leaseMs w.queueJobId now db)) := by
  unfold claimPublishJob
  show CallEffect w now db .claimPublishJob (answered db afterClaim
    (db.updateJob (Call.claimPublishJob.target w) (Call.claimPublishJob.condition w now db)
      (Call.claimPublishJob.set w now) >>= _))
  cases hUpdate : db.updateJob (Call.claimPublishJob.target w)
      (Call.claimPublishJob.condition w now db) (Call.claimPublishJob.set w now) with
  | error e =>
    obtain ⟨old, hOld, hCond, hChecks⟩ := statement_error hUpdate
    exact .failed hOld hCond (Or.inl hChecks)
  | ok result =>
    obtain ⟨updated, db'⟩ := result
    rcases statement_cases hUpdate with
      ⟨rfl, rfl, hNone⟩ | ⟨old, hCond, rfl, hChecks, hWritten, hAlerts, hPosts, hAudit⟩
    · exact .none hNone
    · -- a row that can be claimed has a post, so the content read finds it
      obtain ⟨post, hPost, -⟩ := exists_post_of_claimable hCond
      have hPost' : db'.posts.lookup (claimRow w.leaseMs now old).postId = some post := by
        rw [hWritten.posts]
        exact hPost
      have hMatched : Call.matched w db .claimPublishJob (claimRow w.leaseMs now old) =
          afterClaim (some ⟨toPost old.postId post ((db.postMedia.lookup old.postId).getD []),
            claimRow w.leaseMs now old⟩) := by
        show afterClaim ((db.posts.lookup old.postId).map _) = _
        rw [hPost]
        rfl
      have hEffect : CallEffect w now db .claimPublishJob _ :=
        .wrote hCond hChecks hWritten (.nothing hAlerts hPosts hAudit)
      simp only [bind, Except.bind, pure, Except.pure, answered, Call.set, hPost',
        hWritten.postMedia]
      simp only [Call.set, hMatched] at hEffect
      exact hEffect

/-- **A repository call** writes the row it matched and goes on, finds no row, or fails and
changes nothing. -/
theorem repositoryCall_cases {call : Call} {after : State × Database}
    (h : repositoryCall w now db call = some after) : CallEffect w now db call after := by
  cases call with
  | claimPublishJob =>
    rw [repositoryCall, Option.some.injEq] at h
    subst h
    exact claim_effect
  | saveRecovered claimed =>
    rw [repositoryCall, Option.some.injEq] at h
    subst h
    exact publication_effect (fun _ => rfl) rfl (fun _ => rfl) rfl rfl (fun _ => id) rfl
  | markReconciled claimed key result =>
    rw [repositoryCall, Option.some.injEq] at h
    subst h
    exact statement_effect (fun _ => rfl) rfl rfl rfl
  | markRequest claimed key =>
    rw [repositoryCall, Option.some.injEq] at h
    subst h
    exact statement_effect (fun _ => rfl) rfl rfl rfl
  | confirm claimed job result =>
    rw [repositoryCall, Option.some.injEq] at h
    subst h
    exact statement_effect (fun _ => rfl) rfl rfl rfl
  | savePublished claimed job result =>
    rw [repositoryCall, Option.some.injEq] at h
    subst h
    exact publication_effect (fun _ => rfl) rfl (fun _ => rfl) rfl rfl (fun _ => id) rfl
  | saveFailed claimed job error failure retryPending nextRetryAt =>
    rw [repositoryCall, Option.some.injEq] at h
    subst h
    refine save_effect (fun _ => rfl) rfl rfl fun old db' _ _ => ?_
    exact finishFailure_cases rfl
  | recordAmbiguous claimed deferred retryPending nextRetryAt =>
    rw [repositoryCall, Option.some.injEq] at h
    subst h
    refine save_effect (fun _ => rfl) rfl rfl fun old db' _ _ => ?_
    exact finishFailure_cases rfl
  | reconcileFirst | publish | adapterPublish | reconcileAfter => injection h

end Call

end SocialPromotion
