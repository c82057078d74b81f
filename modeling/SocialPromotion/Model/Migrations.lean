import SocialPromotion.Lib.Keyed
import SocialPromotion.Model.System

/-!
# The migrations of the job statuses

The tables as migrations 001 to 009 leave them, and what three migrations make of them:
`010_publish_retry_state_and_failure_alerts.sql`, `013_publish_remote_reconciliation.sql` and
`014_editorial_workflow.sql`. The columns that publishing reads are kept, with the constraints
on them: no row violates a CHECK or a foreign key, before a migration or after it.
-/

namespace SocialPromotion

/-! ## The tables before -/

/-- `social_publish_jobs.status` from migration 001 on. -/
inductive LegacyStatus
  | pending | leased | publishing | succeeded | failed | cancelled
deriving DecidableEq, Repr

/-- `social_publish_jobs.status` from migration 010 on, until migration 013. -/
inductive InterimStatus
  | waiting | processing | published | failed | retrying | cancelled
deriving DecidableEq, Repr

/-- The columns of `social_publish_jobs` from migration 001. -/
structure JobColumns (Status : Type) where
  id : JobId
  postId : PostId
  platform : SocialPlatform
  accountId : AccountId
  status : Status
  scheduledAt : Time
  publishedAt : Option Time
  remotePostId : Option String
  remotePostUrl : Option String
  errorCode : Option ErrorCode
  errorMessage : Option String
  retryCount : Nat
  leaseExpiresAt : Option Time

/-- The CHECK constraints of migration 001, where `succeeded` and `failed` are the statuses
they name. Migration 010 renames the first. -/
structure JobColumns.Checks {Status : Type} (succeeded failed : Status)
    (row : JobColumns Status) : Prop where
  remoteReference : row.status = succeeded → row.publishedAt.isSome ∧ row.remotePostId.isSome
  failureHasError : row.status = failed → row.errorCode.isSome
  retryCountBound : row.retryCount ≤ 10

/-- A row of `social_publish_jobs` before migration 010. -/
structure LegacyJob (key : JobId) extends JobColumns LegacyStatus where
  id_eq : id = key
  checks : toJobColumns.Checks .succeeded .failed

/-- A row of `social_publish_jobs` between migrations 010 and 013. -/
structure InterimJob (key : JobId) extends JobColumns InterimStatus where
  nextRetryAt : Option Time
  id_eq : id = key
  checks : toJobColumns.Checks .published .failed

/-- `posts` before migration 014. -/
structure OldPostRow where
  campaignId : CampaignId
  ownerId : UserId
  title : Text
  body : Text
  destinationUrl : Option Text
  scheduledAt : Time
  status : PostStatus

/-- The tables under migration; `accounts` are the columns of `social_accounts` that a job
refers to. -/
structure OldTables {Status : Type} (Job : JobId → Type)
    (columns : ∀ key, Job key → JobColumns Status) where
  accounts : AList fun _ : AccountId => SocialPlatform
  posts : AList fun _ : PostId => OldPostRow
  jobs : AList Job
  postReference : ∀ j job, jobs.lookup j = some job →
    (posts.lookup (columns j job).postId).isSome
  accountReference : ∀ j job, jobs.lookup j = some job →
    accounts.lookup (columns j job).accountId = some (columns j job).platform

abbrev LegacyTables := OldTables LegacyJob fun _ => LegacyJob.toJobColumns

abbrev InterimTables := OldTables InterimJob fun _ => InterimJob.toJobColumns

/-! ## Migration 010 -/

/-- `SET status = CASE status ... END`. -/
def LegacyStatus.migrated : LegacyStatus → InterimStatus
  | .pending => .waiting
  | .leased => .retrying
  | .publishing => .retrying
  | .succeeded => .published
  | .failed => .failed
  | .cancelled => .cancelled

/-- The UPDATE, and the new column `next_retry_at`. -/
def LegacyJob.migrated {key : JobId} (job : LegacyJob key) : InterimJob key where
  id := job.id
  postId := job.postId
  platform := job.platform
  accountId := job.accountId
  status := job.status.migrated
  scheduledAt := job.scheduledAt
  publishedAt := job.publishedAt
  remotePostId := job.remotePostId
  remotePostUrl := job.remotePostUrl
  errorCode := job.errorCode
  errorMessage := job.errorMessage
  retryCount := job.retryCount
  leaseExpiresAt := job.leaseExpiresAt
  nextRetryAt := none
  id_eq := job.id_eq
  checks := by
    refine ⟨fun h => job.checks.remoteReference ?_, fun h => job.checks.failureHasError ?_,
      job.checks.retryCountBound⟩
    all_goals
      revert h
      dsimp only
      cases job.status <;> simp [LegacyStatus.migrated]

def migration010 (old : LegacyTables) : InterimTables where
  accounts := old.accounts
  posts := old.posts
  jobs := Keyed.mapValues (fun _ => LegacyJob.migrated) old.jobs
  postReference j job h := by
    rw [Keyed.lookup_mapValues] at h
    obtain ⟨before, hBefore, rfl⟩ := Option.map_eq_some_iff.mp h
    exact old.postReference j before hBefore
  accountReference j job h := by
    rw [Keyed.lookup_mapValues] at h
    obtain ⟨before, hBefore, rfl⟩ := Option.map_eq_some_iff.mp h
    exact old.accountReference j before hBefore

/-! ## Migrations 013 and 014 -/

/-- `SET status = 'claimed' WHERE status = 'processing'`. -/
def InterimStatus.migrated : InterimStatus → PublishJobStatus
  | .waiting => .waiting
  | .processing => .claimed
  | .published => .published
  | .failed => .failed
  | .retrying => .retrying
  | .cancelled => .cancelled

/-- The new columns, with `'legacy:' || id` as the request key of a published row. -/
def InterimJob.migratedRow {key : JobId} (job : InterimJob key) : SocialPublishJob where
  id := job.id
  postId := job.postId
  platform := job.platform
  accountId := job.accountId
  status := job.status.migrated
  scheduledAt := job.scheduledAt
  publishedAt := job.publishedAt
  remotePostId := job.remotePostId
  remotePostUrl := job.remotePostUrl
  errorCode := job.errorCode
  errorMessage := job.errorMessage
  retryCount := job.retryCount
  leaseExpiresAt := job.leaseExpiresAt
  nextRetryAt := job.nextRetryAt
  remoteRequestKey := if job.status = .published then some (.legacy job.id) else none
  remoteRequestStartedAt := none

/-- The constraints that migration 013 adds hold of every row it leaves. -/
theorem InterimJob.migratedRow_checks {key : JobId} (job : InterimJob key) :
    job.migratedRow.Checks := by
  have hPublished : job.status.migrated = .published → job.status = .published := by
    cases job.status <;> simp [InterimStatus.migrated]
  have hNever : job.status.migrated ≠ .remoteRequesting ∧
      job.status.migrated ≠ .remoteConfirmed := by
    cases job.status <;> simp [InterimStatus.migrated]
  refine ⟨fun h => ?_, fun h => ?_, fun h => job.checks.failureHasError ?_,
    job.checks.retryCountBound⟩
  · rcases h with hs | hs | hs
    · exact absurd hs hNever.1
    · exact absurd hs hNever.2
    · simp [InterimJob.migratedRow, hPublished hs]
  · rcases h with hs | hs
    · exact absurd hs hNever.2
    · exact job.checks.remoteReference (hPublished hs)
  · have hFailed : job.status.migrated = .failed := h
    cases hStatus : job.status with
    | failed => rfl
    | _ => simp [hStatus, InterimStatus.migrated] at hFailed

def InterimJob.migrated {key : JobId} (job : InterimJob key) : StoredJob key :=
  ⟨job.migratedRow, job.id_eq, job.migratedRow_checks⟩

/-- The new columns of migration 014, at their defaults. -/
def OldPostRow.migrated (post : OldPostRow) : PostRow where
  campaignId := post.campaignId
  ownerId := post.ownerId
  title := post.title
  body := post.body
  destinationUrl := post.destinationUrl
  scheduledAt := post.scheduledAt
  status := post.status
  revision := 1
  platformBodies := {}

def migration013 (jobs : AList InterimJob) : AList StoredJob :=
  Keyed.mapValues (fun _ => InterimJob.migrated) jobs

def migration014 (posts : AList fun _ : PostId => OldPostRow) : AList fun _ : PostId => PostRow :=
  Keyed.mapValues (fun _ => OldPostRow.migrated) posts

/-- The system after migrations 013 and 014 with the workers stopped. The clock, the queue,
the other parties and the other tables, among them the outbox after the DELETE of migration
014, are those of `s`. -/
def PublishingState.migrated (s : PublishingState) (old : InterimTables) : PublishingState :=
  { s with
    db := { s.db with posts := migration014 old.posts, jobs := migration013 old.jobs }
    workers := [] }

end SocialPromotion
