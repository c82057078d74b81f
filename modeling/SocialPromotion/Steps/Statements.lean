import SocialPromotion.Model.Database

/-!
# What a statement on a job row does

The two statements on `social_publish_jobs` and the trigger they fire, as facts that the
rest of the development uses in place of their definitions:

* `updateJob_cases`: an UPDATE changes nothing, or writes the one row it matched;
* `trigger_inactive`: the trigger leaves the database alone unless the row is waiting or
  cancelled, which no statement of the worker makes it;
* `trigger_outbox`: what the trigger makes of each outbox row.
-/

namespace SocialPromotion.Database

/-- An UPDATE that does not mention the primary key keeps it. -/
theorem with_id {job : SocialPublishJob} {id : JobId} (h : job.id = id) :
    { job with id := id } = job := by
  subst h
  rfl

variable {db db' : Database} {id : JobId} {row : SocialPublishJob}

theorem job?_eq_some_iff :
    db.job? id = some row ↔ ∃ stored, db.jobs.lookup id = some stored ∧ stored.row = row := by
  simp [job?]

theorem job?_id (h : db.job? id = some row) : row.id = id := by
  obtain ⟨stored, -, rfl⟩ := job?_eq_some_iff.mp h
  exact stored.id_eq

/-- Every stored row satisfies the CHECK constraints. -/
theorem job?_checks (h : db.job? id = some row) : row.Checks := by
  obtain ⟨stored, -, rfl⟩ := job?_eq_some_iff.mp h
  exact stored.checks

/-- The rows after one row has been stored. -/
theorem job?_insert (stored : StoredJob id) (k : JobId) :
    job? { db with jobs := db.jobs.insert id stored } k =
      if k = id then some stored.row else db.job? k := by
  by_cases hk : k = id
  · subst hk
    simp [job?]
  · simp [job?, hk, AList.lookup_insert_ne]

/-! ## The trigger -/

section Trigger

variable (old : Option SocialPublishJob) (new : SocialPublishJob) (db : Database)

@[simp] theorem trigger_jobs : (createSocialPublishQueueOutbox old new db).jobs = db.jobs := by
  unfold createSocialPublishQueueOutbox
  split_ifs <;> rfl

@[simp] theorem trigger_posts : (createSocialPublishQueueOutbox old new db).posts = db.posts := by
  unfold createSocialPublishQueueOutbox
  split_ifs <;> rfl

@[simp] theorem trigger_postMedia :
    (createSocialPublishQueueOutbox old new db).postMedia = db.postMedia := by
  unfold createSocialPublishQueueOutbox
  split_ifs <;> rfl

@[simp] theorem trigger_alerts :
    (createSocialPublishQueueOutbox old new db).alerts = db.alerts := by
  unfold createSocialPublishQueueOutbox
  split_ifs <;> rfl

@[simp] theorem trigger_socialPosts :
    (createSocialPublishQueueOutbox old new db).socialPosts = db.socialPosts := by
  unfold createSocialPublishQueueOutbox
  split_ifs <;> rfl

@[simp] theorem trigger_auditLogs :
    (createSocialPublishQueueOutbox old new db).auditLogs = db.auditLogs := by
  unfold createSocialPublishQueueOutbox
  split_ifs <;> rfl

@[simp] theorem trigger_job? (k : JobId) :
    (createSocialPublishQueueOutbox old new db).job? k = db.job? k := by
  rw [job?, trigger_jobs, job?]

@[simp] theorem trigger_postStatus? (k : PostId) :
    (createSocialPublishQueueOutbox old new db).postStatus? k = db.postStatus? k := by
  rw [postStatus?, trigger_posts, postStatus?]

theorem nextUuid_le_trigger :
    db.nextUuid ≤ (createSocialPublishQueueOutbox old new db).nextUuid := by
  unfold createSocialPublishQueueOutbox
  split_ifs
  · exact le_rfl
  · exact Nat.le_succ _
  · exact le_rfl
  · exact le_rfl

variable {new}

theorem trigger_inactive (hWaiting : new.status ≠ .waiting) (hCancelled : new.status ≠ .cancelled) :
    createSocialPublishQueueOutbox old new db = db := by
  unfold createSocialPublishQueueOutbox
  rw [if_neg fun h => hWaiting h.1, if_neg hCancelled]

/-- The jobs of a draft are not queued. -/
theorem trigger_draft (hDraft : db.postStatus? new.postId = some .draft)
    (hCancelled : new.status ≠ .cancelled) : createSocialPublishQueueOutbox old new db = db := by
  have hInactive : ¬ (new.status = .waiting ∧ db.postStatus? new.postId = some .scheduled) := by
    rw [hDraft]
    exact fun h => nomatch h.2
  unfold createSocialPublishQueueOutbox
  rw [if_neg hInactive, if_neg hCancelled]

theorem trigger_outbox_ne {k : JobId} (hk : k ≠ new.id) :
    (createSocialPublishQueueOutbox old new db).outbox.lookup k = db.outbox.lookup k := by
  unfold createSocialPublishQueueOutbox
  split_ifs
  · rfl
  · exact AList.lookup_insert_ne hk
  · exact AList.lookup_erase_ne hk
  · rfl

end Trigger

/-! ## UPDATE -/

/-- An UPDATE of one row by a statement that leaves its id alone. -/
theorem updateJob_cases {condition : SocialPublishJob → Bool}
    {set : SocialPublishJob → SocialPublishJob} {updated : Option SocialPublishJob}
    (hId : ∀ row, (set row).id = row.id)
    (h : db.updateJob id condition set = .ok (updated, db')) :
    (updated = none ∧ db' = db ∧ ∀ row, db.job? id = some row → condition row = false) ∨
      ∃ old stored, db.job? id = some old ∧ condition old = true ∧ stored.row = set old ∧
        updated = some (set old) ∧
        db' = createSocialPublishQueueOutbox (some old) (set old)
          { db with jobs := db.jobs.insert id stored } := by
  unfold updateJob at h
  split at h
  · rename_i hNone
    injection h with h
    injection h with hUpdated hDb
    refine Or.inl ⟨hUpdated.symm, hDb.symm, fun row hRow => ?_⟩
    simp [job?, hNone] at hRow
  · rename_i stored hStored
    have hOld : db.job? id = some stored.row := job?_eq_some_iff.mpr ⟨stored, hStored, rfl⟩
    have hNew := with_id ((hId stored.row).trans stored.id_eq)
    split at h
    · rename_i hCondition
      simp only [hNew] at h
      split at h
      · rename_i hChecks
        injection h with h
        injection h with hUpdated hDb
        have hSetId : (set stored.row).id = id := (hId _).trans stored.id_eq
        exact Or.inr ⟨stored.row, ⟨set stored.row, hSetId, hChecks⟩, hOld, hCondition, rfl,
          hUpdated.symm, hDb.symm⟩
      · injection h
    · rename_i hCondition
      injection h with h
      injection h with hUpdated hDb
      refine Or.inl ⟨hUpdated.symm, hDb.symm, fun row hRow => ?_⟩
      rw [hOld, Option.some.injEq] at hRow
      simpa [hRow] using hCondition

/-- An UPDATE can only fail by a CHECK of the row it matched. -/
theorem updateJob_error {condition : SocialPublishJob → Bool}
    {set : SocialPublishJob → SocialPublishJob} {e : DbError}
    (hId : ∀ row, (set row).id = row.id) (h : db.updateJob id condition set = .error e) :
    e = .checkViolation ∧
      ∃ old, db.job? id = some old ∧ condition old = true ∧ ¬ (set old).Checks := by
  unfold updateJob at h
  split at h
  · injection h
  · rename_i stored hStored
    have hNew := with_id ((hId stored.row).trans stored.id_eq)
    split at h
    · rename_i hCondition
      simp only [hNew] at h
      split at h
      · injection h
      · rename_i hChecks
        injection h with h
        exact ⟨h.symm, stored.row, job?_eq_some_iff.mpr ⟨stored, hStored, rfl⟩, hCondition,
          hChecks⟩
    · injection h

end SocialPromotion.Database
