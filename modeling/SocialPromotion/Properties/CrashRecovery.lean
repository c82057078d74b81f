import SocialPromotion.Properties.DurablePhases

/-!
# Crash recovery

A worker can die between any two calls. What the next execution of the job does depends on
what is durable when it claims the row:

* `first_attempt`: without a request key, it attempts the publication for the first time;
* `left_unknown`: with a key only, it never publishes, and looks the publication up or leaves
  the key as it is;
* `recovers`: with a publication, it saves that publication;
* `crash_recovery_exact`: these are all cases, whatever died before and whatever dies next.
-/

namespace SocialPromotion

open LTS PublishWorkerProcessor PublishingService PgPublishOutboxRepository

/-! ## Where nothing is durable -/

/-- Execution `k` has yet to mark the first request for job `j`, alone and on the row it
claimed; or it is past that. -/
def AtFirstRequest (claimed : ClaimedPublishJob) (key : RequestKey) (j : JobId) (k : Nat)
    (t : PublishingState) : Prop :=
  ∃ w, t.workers[k]? = some w ∧ w.publishJobId = j ∧
    (w.state = .running (.markRequest claimed key) ∧ t.db.job? j = some claimed.job ∧
        (∀ k', RunsAt t j k' → k' = k) ∨
      ∀ call, w.state = .running call → call ≠ .claimPublishJob ∧
        (∀ claimed key, call ≠ .reconcileFirst claimed key) ∧
        ∀ claimed key, call ≠ .markRequest claimed key)

section First

variable {cfg : Config} {t u : PublishingState} {e : Event} {claimed : ClaimedPublishJob}
  {key : RequestKey} {j : JobId} {k : Nat}

/-- No execution returns to the calls before its request. -/
theorem past_request {w' : Worker} (hKind : StepKind cfg t e u) {w : Worker}
    (hWorker : t.workers[k]? = some w) (hGet : u.workers[k]? = some w')
    (hMoved : w' ≠ w) (hNot : ∀ call, w.state = .running call →
      call ≠ .claimPublishJob ∧ ∀ claimed key, call ≠ .reconcileFirst claimed key)
    {call' : Call} (hState' : w'.state = .running call') : call' ≠ .claimPublishJob ∧
      (∀ claimed key, call' ≠ .reconcileFirst claimed key) ∧
      ∀ claimed key, call' ≠ .markRequest claimed key := by
  cases worker_change hKind hGet with
  | kept hSame =>
    rw [hWorker, Option.some.injEq] at hSame
    exact absurd hSame.symm hMoved
  | started hIndex =>
    have hLt := (List.getElem?_eq_some_iff.mp hWorker).1
    omega
  | @flowed w₁ call state hWorker₁ hState hFlow =>
    rw [hWorker, Option.some.injEq] at hWorker₁
    subst hWorker₁
    obtain ⟨-, hNotReconcile⟩ := hNot call hState
    have hRunning : state = .running call' := hState'
    subst hRunning
    cases hFlow with
    | repeats => exact absurd rfl (hNotReconcile _ _)
    | _ => exact ⟨Call.noConfusion, fun _ _ => Call.noConfusion, fun _ _ => Call.noConfusion⟩
  | @wrote w₁ call old state hWorker₁ hState _ _ _ hNext =>
    rw [hWorker, Option.some.injEq] at hWorker₁
    subst hWorker₁
    obtain ⟨hNotClaim, -⟩ := hNot call hState
    have hRunning : state = .running call' := hState'
    subst hRunning
    generalize call.set w t.clock old = new at hNext
    cases hNext with
    | recovers => exact absurd rfl hNotClaim
    | reconciles => exact absurd rfl hNotClaim
    | requests => exact absurd rfl hNotClaim
    | _ => exact ⟨Call.noConfusion, fun _ _ => Call.noConfusion, fun _ _ => Call.noConfusion⟩

/-- While the execution has yet to mark its request, nothing changes its row. -/
theorem first_row_kept (hClaimed : claimed.job.status = .claimed)
    (hReach : Reachable (publishingSystem cfg) anyStep t) (hKind : StepKind cfg t e u)
    {w : Worker} (hWorker : t.workers[k]? = some w) (hGet : u.workers[k]? = some w)
    (hState : w.state = .running (.markRequest claimed key))
    (hRow : t.db.job? j = some claimed.job) (hAlone : ∀ k', RunsAt t j k' → k' = k) :
    u.db.job? j = some claimed.job := by
  obtain ⟨new, hNew, hChange⟩ := row_change hKind hRow
  rw [hNew, Option.some.injEq]
  cases hChange with
  | same hSame => exact hSame
  | edited _ hEdit hMem hEdited =>
    rw [hEdited]
    exact edited_inProgress hEdit hMem (by rw [hClaimed]; rfl)
  | @called i result w' call hEvent hWorker' hState' hTarget _ hSet =>
    -- a statement on the row would be one of this execution, which has not moved
    have hJob : w'.publishJobId = j := by
      rw [← ((lifecycle_reachable hReach).calls.running hWorker' hState').target rfl, hTarget]
      exact Database.job?_id hRow
    have hSame : i = k := hAlone i ⟨w', call, hWorker', hJob, hState'⟩
    subst hSame hEvent
    cases hKind with
    | quiet _ hTables =>
      rw [hTables.rows, hRow, Option.some.injEq] at hNew
      exact hNew.symm
    | started _ _ _ _ hTables =>
      rw [hTables.rows, hRow, Option.some.injEq] at hNew
      exact hNew.symm
    | wrote hAt hMoved hNext =>
      exfalso
      rw [hMoved.1, Option.some.injEq] at hWorker
      subst hWorker
      rw [hState, State.running.injEq] at hAt
      subst hAt
      rw [hMoved.self, Option.some.injEq] at hGet
      have hStateEq := congrArg Worker.state hGet
      rw [hState] at hStateEq
      rcases hNext with ⟨hRaised, -⟩ | ⟨-, hMatched⟩
      · rw [hRaised] at hStateEq
        injection hStateEq
      · rw [hMatched] at hStateEq
        injection hStateEq with hCallEq
        injection hCallEq
    | unwritten _ _ _ hDb =>
      rw [hDb, hRow, Option.some.injEq] at hNew
      exact hNew.symm

/-- **One step** without overlap. -/
theorem first_step (hClaimed : claimed.job.status = .claimed)
    (hReach : Reachable (publishingSystem cfg) anyStep t) (hGuard : NonOverlapping t e)
    (h : AtFirstRequest claimed key j k t) (hKind : StepKind cfg t e u) :
    AtFirstRequest claimed key j k u := by
  obtain ⟨w, hWorker, hJob, hCases⟩ := h
  obtain ⟨w', hGet, hJob'⟩ := worker_kept hKind hWorker
  refine ⟨w', hGet, hJob'.trans hJob, ?_⟩
  by_cases hMoved : w' = w
  · subst hMoved
    rcases hCases with ⟨hState, hRow, hAlone⟩ | hPast
    · refine Or.inl ⟨hState, ?_, fun k' => ?_⟩
      · exact first_row_kept hClaimed hReach hKind hWorker hGet hState hRow hAlone
      · exact alone_step hKind hGuard ⟨w', _, hWorker, hJob, hState⟩ hAlone
    · exact Or.inr hPast
  · refine Or.inr fun call' hState' => past_request hKind hWorker hGet hMoved ?_ hState'
    rcases hCases with ⟨hState, -⟩ | hPast
    · intro call hCall
      rw [hState, State.running.injEq] at hCall
      subst hCall
      exact ⟨Call.noConfusion, fun _ _ => Call.noConfusion⟩
    · exact fun call hCall => ⟨(hPast call hCall).1, (hPast call hCall).2.1⟩

/-- The first request is marked, and published next. -/
theorem first_request_marked (hClaimed : claimed.job.status = .claimed)
    (hNone : claimed.job.remoteRequestKey = none)
    (hReach : Reachable (publishingSystem cfg) anyStep t) {w : Worker}
    (hWorker : t.workers[k]? = some w) (hJob : w.publishJobId = j)
    (hState : w.state = .running (.markRequest claimed key))
    (hRow : t.db.job? j = some claimed.job) :
    ∃ u job, (publishingSystem cfg).step t (.repository k .returned) = some u ∧
      u.workers[k]? = some { w with state := .running (.publish claimed job) } ∧
      u.db.job? j = some job ∧ job.status = .remoteRequesting ∧
      job.remoteRequestKey = some key := by
  have hSound := (lifecycle_reachable hReach).calls.running hWorker hState
  have hTarget : (Call.markRequest claimed key).target w = j := (hSound.target rfl).trans hJob
  obtain ⟨after, hAfter⟩ : ∃ after, repositoryCall w t.clock t.db (.markRequest claimed key) =
      some after := ⟨_, rfl⟩
  have hStep := @repository_step cfg _ _ _ _ _ hWorker hState hAfter
  have hCondition : (Call.markRequest claimed key).condition w t.clock t.db claimed.job = true := by
    simp [Call.condition, hClaimed, hNone]
  cases repositoryCall_cases hAfter with
  | @wrote before db' _ _ hWritten =>
    have hBefore : before = claimed.job := by
      have hFound := hWritten.found
      rw [hTarget, hRow, Option.some.injEq] at hFound
      exact hFound.symm
    subst hBefore
    refine ⟨_, _, hStep, ?_, (hWritten.rows j).trans (if_pos hTarget.symm), rfl, ?_⟩
    · exact List.getElem?_set_self (List.getElem?_eq_some_iff.mp hWorker).1
    · simp [Call.set, requestRow, hNone]
  | none hNoRow =>
    rw [hNoRow claimed.job (hTarget ▸ hRow)] at hCondition
    injection hCondition
  | @failed before hBefore hCond hFail =>
    exfalso
    rcases hFail with hChecks | hBlocked
    · rw [call_checks_iff hSound (Database.job?_checks hBefore) hCond, not_not] at hChecks
      obtain ⟨⟨claimed', deferred, nextRetryAt, hCall⟩, -⟩ := hChecks
      injection hCall
    · exact hBlocked

/-- A request that is published carries the key of its row. -/
theorem publishStart_key {post : Post} {job : SocialPublishJob} {formatted : SocialPost}
    {request : PublishRequest} (h : publishStart cfg post job = .call formatted request)
    (hKey : job.remoteRequestKey = some key) : request.idempotencyKey = key := by
  unfold publishStart at h
  dsimp only at h
  split at h
  · injection h
  · split at h
    · injection h
    · rename_i found hFound
      rw [hKey, Option.some.injEq] at hFound
      split at h
      · injection h
      · split at h
        · injection h
        · injection h with _ hRequest
          rw [← hRequest, hFound]

/-- An execution that published its request has called the provider. -/
theorem publish_step {w : Worker} {job : SocialPublishJob} {post : SocialPost}
    {request : PublishRequest} (hWorker : t.workers[k]? = some w)
    (hState : w.state = .running (.publish claimed job))
    (hStart : publishStart cfg claimed.post job = .call post request) (date : Time) :
    ∃ u, (publishingSystem cfg).step t (.publish k date) = some u ∧
      u.calls = t.calls ++ [⟨k, job.id, post, request, none⟩] := by
  refine ⟨{ t.setWorker k w (.running (.adapterPublish claimed job t.calls.length)) with
    calls := t.calls ++ [⟨k, job.id, post, request, none⟩] }, ?_, rfl⟩
  show PublishingState.publishStep cfg t k date = _
  simp [PublishingState.publishStep, hWorker, hState, hStart]

end First

/-! ## The next execution -/

section Claim

variable {cfg : Config} {s s' : PublishingState} {k : Nat} {w : Worker} {old : SocialPublishJob}

/-- What the claim leads to. -/
theorem claim_returned (hWorker : s.workers[k]? = some w)
    (hState : w.state = .running .claimPublishJob)
    (hRow : s.db.job? w.publishJobId = some old)
    (hClaim : claimable s.db s.clock w.queueJobId old = true)
    (hStep : (publishingSystem cfg).step s (.repository k .returned) = some s') :
    ∃ post, s'.workers[k]? = some
        { w with state := afterClaim (some ⟨post, claimRow w.leaseMs s.clock old⟩) } ∧
      s'.db.job? w.publishJobId = some (claimRow w.leaseMs s.clock old) ∧
      (claimRow w.leaseMs s.clock old).Checks := by
  obtain ⟨after, hAfter⟩ : ∃ after, repositoryCall w s.clock s.db .claimPublishJob = some after :=
    ⟨_, rfl⟩
  rw [repository_step hWorker hState hAfter, Option.some.injEq] at hStep
  subst hStep
  have hCond : Call.claimPublishJob.condition w s.clock s.db old = true := hClaim
  cases repositoryCall_cases hAfter with
  | @wrote before db' _ hChecks hWritten =>
    have hBefore : before = old := by
      have hFound := hWritten.found
      rw [show Call.claimPublishJob.target w = w.publishJobId from rfl, hRow,
        Option.some.injEq] at hFound
      exact hFound.symm
    subst hBefore
    obtain ⟨post, hPost, -⟩ := exists_post_of_claimable hClaim
    have hMatched : Call.claimPublishJob.matched w s.db (claimRow w.leaseMs s.clock before) =
        afterClaim (some ⟨toPost before.postId post ((s.db.postMedia.lookup before.postId).getD []),
          claimRow w.leaseMs s.clock before⟩) := by
      show afterClaim ((s.db.posts.lookup before.postId).map _) = _
      rw [hPost]
      rfl
    refine ⟨toPost before.postId post ((s.db.postMedia.lookup before.postId).getD []), ?_,
      (hWritten.rows _).trans (if_pos rfl), hChecks⟩
    rw [← hMatched]
    exact List.getElem?_set_self (List.getElem?_eq_some_iff.mp hWorker).1
  | none hNone =>
    rw [hNone old hRow] at hCond
    injection hCond
  | @failed before hBefore hCond' hFail =>
    exfalso
    rcases hFail with hChecks | hBlocked
    · exact hChecks (claimRow_checks (Database.job?_checks hBefore))
    · exact hBlocked

/-- The execution that claimed the row is the only one that runs. -/
theorem alone_after_claim (hKind : StepKind cfg s (.repository k .returned) s') {j : JobId}
    (hAlone : ∀ k', RunsAt s j k' → k' = k) {k' : Nat} (hRuns : RunsAt s' j k') : k' = k := by
  rcases runsAt_origin hKind hRuns with hOld | ⟨-, hJob⟩
  · exact hAlone k' hOld
  · injection hJob

end Claim

/-- Execution `k` makes a first attempt: as long as no other execution is started meanwhile
it marks its request under the key of the job, and then publishes it under this key. -/
def FirstAttempt (cfg : Config) (s : PublishingState) (j : JobId) (k : Nat) : Prop :=
  ∃ w claimed, s.workers[k]? = some w ∧
    w.state = .running (.markRequest claimed (.socialPublish j)) ∧
    ∀ t w', Steps (publishingSystem cfg) NonOverlapping s t → t.workers[k]? = some w' →
      w'.state = w.state →
      ∃ u job, (publishingSystem cfg).step t (.repository k .returned) = some u ∧
        u.workers[k]? = some { w' with state := .running (.publish claimed job) } ∧
        u.db.job? j = some job ∧ job.status = .remoteRequesting ∧
        job.remoteRequestKey = some (.socialPublish j) ∧
        ∀ post request date, publishStart cfg claimed.post job = .call post request →
          request.idempotencyKey = .socialPublish j ∧
          ∃ v, (publishingSystem cfg).step u (.publish k date) = some v ∧
            v.calls = u.calls ++ [⟨k, j, post, request, none⟩]

/-- The provider is not asked to publish the job again, the key stays, and if the job is
published then as a lookup has confirmed it. -/
def LeftUnknown (s : PublishingState) (j : JobId) (key : RequestKey) (t : PublishingState) :
    Prop :=
  NoCall s t j ∧ ∃ row, t.db.job? j = some row ∧ row.remoteRequestKey = some key ∧
    (row.status = .published → LookedUp s t j row.remotePostId)

/-- The provider is not asked anything about the job, its publication stays that of `old`,
and an execution that has claimed the row needs one more statement to have it published. -/
def Recovered (cfg : Config) (s : PublishingState) (j : JobId) (old : SocialPublishJob)
    (t : PublishingState) : Prop :=
  NoCall s t j ∧ NoLookup s t j ∧
    (∃ row, t.db.job? j = some row ∧ Confirmed row ∧ SamePublication row old) ∧
    ∀ k w call, t.workers[k]? = some w → w.publishJobId = j → w.state = .running call →
      call = .claimPublishJob ∨ ∃ claimed, call = .saveRecovered claimed ∧
        (DistinctRemoteIds t → ∃ u context row,
          (publishingSystem cfg).step t (.repository k .returned) = some u ∧
          u.workers[k]? = some { w with state := .ended (.resolved (some context)) } ∧
          u.db.job? j = some row ∧ row.status = .published ∧ SamePublication row old)

section Recovery

variable {cfg : Config} {s s' : PublishingState} {k : Nat} {w : Worker} {old : SocialPublishJob}

/-- An execution that has claimed a row without a key marks its request before it sends it. -/
theorem first_attempt (hReach : Reachable (publishingSystem cfg) anyStep s') {post : Post}
    {leaseMs : Nat} {now : Time} (hNone : old.remoteRequestKey = none)
    (hChecks : (claimRow leaseMs now old).Checks)
    (hWorker : s'.workers[k]? = some
      { w with state := afterClaim (some ⟨post, claimRow leaseMs now old⟩) })
    (hRow : s'.db.job? w.publishJobId = some (claimRow leaseMs now old))
    (hAlone : ∀ k', RunsAt s' w.publishJobId k' → k' = k) :
    FirstAttempt cfg s' w.publishJobId k := by
  have hNoKey : (claimRow leaseMs now old).remoteRequestKey = none := hNone
  have hId : (claimRow leaseMs now old).id = w.publishJobId := Database.job?_id hRow
  -- a row without a key is not confirmed
  have hClaimed : (claimRow leaseMs now old).status = .claimed := by
    rcases claimRow_status leaseMs now old with ⟨hs, -⟩ | ⟨hs, -⟩
    · exact hs
    · have hKey := hChecks.remoteRequestKey (Or.inr (Or.inl hs))
      rw [hNoKey] at hKey
      injection hKey
  have hAfter : afterClaim (some ⟨post, claimRow leaseMs now old⟩) =
      .running (.markRequest ⟨post, claimRow leaseMs now old⟩ (.socialPublish w.publishJobId)) := by
    rw [← hId]
    simp [afterClaim, hClaimed, hNoKey]
  rw [hAfter] at hWorker
  refine ⟨_, _, hWorker, rfl, fun t w' hSteps hGet hState => ?_⟩
  obtain ⟨hReach', w₁, hWorker₁, hJob₁, ⟨-, hRow₁, -⟩ | hPast⟩ :=
    hSteps.invariant_of (I := AtFirstRequest ⟨post, claimRow leaseMs now old⟩
      (.socialPublish w.publishJobId) w.publishJobId k) (fun _ _ _ => trivial)
      (fun t e u hReach hAt hGuard hStep => first_step hClaimed hReach hGuard hAt (step_kind hStep))
      hReach ⟨_, hWorker, rfl, Or.inl ⟨rfl, hRow, hAlone⟩⟩
  · rw [hGet, Option.some.injEq] at hWorker₁
    subst hWorker₁
    obtain ⟨u, job, hStep, hSelf, hJobRow, hStatus, hKey⟩ :=
      first_request_marked hClaimed hNoKey hReach' hGet hJob₁ hState hRow₁
    refine ⟨u, job, hStep, hSelf, hJobRow, hStatus, hKey, fun formatted request date hStart => ?_⟩
    refine ⟨publishStart_key hStart hKey, ?_⟩
    rw [← Database.job?_id hJobRow]
    exact publish_step hSelf rfl hStart date
  · rw [hGet, Option.some.injEq] at hWorker₁
    subst hWorker₁
    exact absurd rfl ((hPast _ hState).2.2 _ _)

/-- An execution that has claimed a row with a key, whose publication is not known, looks the request
up first, and no later run sends another. -/
theorem left_unknown (hReach : Reachable (publishingSystem cfg) anyStep s') {post : Post}
    {leaseMs : Nat} {now : Time} {key : RequestKey} (hKey : old.remoteRequestKey = some key)
    (hNot : ¬ Recoverable old)
    (hAdapter : canSafelyRepeatRemoteRequest cfg old.platform = false)
    (hChecks : (claimRow leaseMs now old).Checks)
    (hWorker : s'.workers[k]? = some
      { w with state := afterClaim (some ⟨post, claimRow leaseMs now old⟩) })
    (hRow : s'.db.job? w.publishJobId = some (claimRow leaseMs now old))
    (hAlone : ∀ k', RunsAt s' w.publishJobId k' → k' = k) :
    s'.workers[k]? = some { w with
        state := .running (.reconcileFirst ⟨post, claimRow leaseMs now old⟩ key) } ∧
      ∀ t, Steps (publishingSystem cfg) anyStep s' t → LeftUnknown s' w.publishJobId key t := by
  have hRowKey : (claimRow leaseMs now old).remoteRequestKey = some key := hKey
  have hStatus : (claimRow leaseMs now old).status = .remoteConfirmed →
      old.status = .remoteConfirmed := by
    intro hConfirmed
    rcases claimRow_status leaseMs now old with ⟨hs, -⟩ | ⟨-, hs⟩
    · rw [hs] at hConfirmed
      injection hConfirmed
    · exact hs
  have hAfter : afterClaim (some ⟨post, claimRow leaseMs now old⟩) =
      .running (.reconcileFirst ⟨post, claimRow leaseMs now old⟩ key) := by
    unfold afterClaim
    dsimp only
    rw [isSome_nonEmpty, if_neg, hRowKey]
    rintro ⟨hConfirmed, hRemote, -⟩
    exact hNot ⟨hStatus hConfirmed, hRemote⟩
  rw [hAfter] at hWorker
  refine ⟨hWorker, fun t hSteps => ?_⟩
  have hStart : Undecided cfg s' w.publishJobId key s' := by
    refine ⟨⟨_, hRow, hRowKey, hAdapter, fun hConfirmed => Or.inr ?_⟩, ?_, .refl _ _, le_rfl⟩
    · rcases hConfirmed with hs | hs
      · refine ⟨hs, ?_⟩
        obtain ⟨id, hId⟩ := Option.isSome_iff_exists.mp (hChecks.remoteReference (Or.inl hs)).2
        have hEmpty : id = "" := by
          by_contra hNe
          refine hNot ⟨hStatus hs, ?_⟩
          rw [show old.remotePostId = some id from hId]
          exact decide_eq_true hNe
        rw [hId, hEmpty]
      · rcases claimRow_status leaseMs now old with ⟨hs', -⟩ | ⟨hs', -⟩ <;> simp [hs'] at hs
    · intro k' w' call hGet hJob hState
      have hSame : k' = k := hAlone k' ⟨w', call, hGet, hJob, hState⟩
      subst hSame
      rw [hWorker, Option.some.injEq] at hGet
      subst hGet
      injection hState with hState
      subst hState
      exact hAdapter
  obtain ⟨-, hEnd⟩ := hSteps.invariant_of
    (I := Undecided cfg s' w.publishJobId key) (fun _ _ => id)
    (fun t e u hReach h _ hStep => undecided_step hReach h (step_kind hStep)) hReach hStart
  obtain ⟨row, hEndRow, hEndKey, -, hConfirmed⟩ := hEnd.row
  refine ⟨hEnd.calls, row, hEndRow, hEndKey, fun hPublished => ?_⟩
  rcases hConfirmed (Or.inr hPublished) with hLookedUp | ⟨hs, -⟩
  · exact hLookedUp
  · rw [hPublished] at hs
    injection hs

/-- An execution that has claimed a confirmed row saves its publication, and no later run asks the
provider for anything. -/
theorem recovers (hReach : Reachable (publishingSystem cfg) anyStep s') {post : Post}
    {leaseMs : Nat} {now : Time} (hOld : Recoverable old)
    (hChecks : (claimRow leaseMs now old).Checks)
    (hWorker : s'.workers[k]? = some
      { w with state := afterClaim (some ⟨post, claimRow leaseMs now old⟩) })
    (hRow : s'.db.job? w.publishJobId = some (claimRow leaseMs now old))
    (hAlone : ∀ k', RunsAt s' w.publishJobId k' → k' = k) :
    s'.workers[k]? = some { w with
        state := .running (.saveRecovered ⟨post, claimRow leaseMs now old⟩) } ∧
      ∀ t, Steps (publishingSystem cfg) anyStep s' t → Recovered cfg s' w.publishJobId old t := by
  have hConfirmed : (claimRow leaseMs now old).status = .remoteConfirmed := if_pos hOld.1
  have hAfter : afterClaim (some ⟨post, claimRow leaseMs now old⟩) =
      .running (.saveRecovered ⟨post, claimRow leaseMs now old⟩) := by
    unfold afterClaim
    dsimp only
    rw [isSome_nonEmpty, if_pos]
    exact ⟨hConfirmed, hOld.2, (hChecks.remoteReference (Or.inl hConfirmed)).1⟩
  rw [hAfter] at hWorker
  refine ⟨hWorker, fun t hSteps => ?_⟩
  have hStart : Settled s' w.publishJobId old s' := by
    refine ⟨⟨_, hRow, Or.inl hConfirmed, rfl, rfl⟩, ?_, .refl _ _, .refl _ _⟩
    intro k' w' call hGet hJob hState
    have hSame : k' = k := hAlone k' ⟨w', call, hGet, hJob, hState⟩
    subst hSame
    rw [hWorker, Option.some.injEq] at hGet
    subst hGet
    injection hState with hState
    exact Or.inr ⟨_, hState.symm⟩
  obtain ⟨hReach', hEnd⟩ := hSteps.invariant_of
    (I := Settled s' w.publishJobId old) (fun _ _ => id)
    (fun t e u hReach h _ hStep => settled_step hReach hOld.2 h (step_kind hStep)) hReach hStart
  refine ⟨hEnd.calls, hEnd.lookups, hEnd.row, fun k' w' call hGet hJob hState => ?_⟩
  rcases hEnd.running k' w' call hGet hJob hState with rfl | ⟨claimed, rfl⟩
  · exact Or.inl rfl
  · exact Or.inr ⟨claimed, rfl, fun hDistinct =>
      recovered_saved hReach' hEnd hDistinct hGet hJob hState⟩

end Recovery

/-- **Crash recovery is exact.** Once every other execution of the job is over, the execution
that claims its row makes a first attempt if no key was durable; asks the provider about the
request, and never to publish again, if only the key was; and only saves the publication if
that was durable. The last two hold from then on, whoever dies, and whoever is started, next. -/
theorem crash_recovery_exact {cfg : Config} {s s' : PublishingState}
    (hReach : Reachable (publishingSystem cfg) anyStep s) {k : Nat} {w : Worker}
    {old : SocialPublishJob} (hWorker : s.workers[k]? = some w)
    (hState : w.state = .running .claimPublishJob)
    (hRow : s.db.job? w.publishJobId = some old)
    (hClaim : claimable s.db s.clock w.queueJobId old = true)
    (hAdapter : canSafelyRepeatRemoteRequest cfg old.platform = false)
    (hAlone : ∀ k', RunsAt s w.publishJobId k' → k' = k)
    (hStep : (publishingSystem cfg).step s (.repository k .returned) = some s') :
    (old.remoteRequestKey = none → FirstAttempt cfg s' w.publishJobId k) ∧
    (∀ key, old.remoteRequestKey = some key → ¬ Recoverable old →
      (∃ claimed, s'.workers[k]? =
        some { w with state := .running (.reconcileFirst claimed key) }) ∧
      ∀ t, Steps (publishingSystem cfg) anyStep s' t → LeftUnknown s' w.publishJobId key t) ∧
    (Recoverable old →
      (∃ claimed, s'.workers[k]? =
        some { w with state := .running (.saveRecovered claimed) }) ∧
      ∀ t, Steps (publishingSystem cfg) anyStep s' t →
        Recovered cfg s' w.publishJobId old t) := by
  obtain ⟨post, hAfter, hNew, hChecks⟩ := claim_returned hWorker hState hRow hClaim hStep
  have hReach' := hReach.tail trivial hStep
  have hOnly : ∀ k', RunsAt s' w.publishJobId k' → k' = k :=
    fun k' => alone_after_claim (step_kind hStep) hAlone
  refine ⟨fun hNone => ?_, fun key hKey hNot => ?_, fun hOld => ?_⟩
  · exact first_attempt hReach' hNone hChecks hAfter hNew hOnly
  · obtain ⟨hReconciles, hLeft⟩ :=
      left_unknown hReach' hKey hNot hAdapter hChecks hAfter hNew hOnly
    exact ⟨⟨_, hReconciles⟩, hLeft⟩
  · obtain ⟨hSaves, hRecovered⟩ := recovers hReach' hOld hChecks hAfter hNew hOnly
    exact ⟨⟨_, hSaves⟩, hRecovered⟩

open Installation in
/-- The worker dies once the publication is confirmed, and the job is delivered again. -/
def diesConfirmed : List Event :=
  approved ++ [deliver, call 0, call 0, .publish 0 1000,
    .adapterReturns 0 (.ok publication) 1000, call 0, .crash 0, deliver]

/-- The second of two executions is about to claim the row of the only job, number 1, which
has a publication. -/
def claimsConfirmed (s : PublishingState) : Bool :=
  s.workers.map (fun w => w.state.isRunning) = [false, true] &&
    ((publishingSystem (Installation.config false false)).step s (Installation.call 1)).any
      (fun s' => s'.db.jobs.keys = [1]) &&
    ((s.workers[1]?).any fun w => w.publishJobId = 1 && w.state = .running .claimPublishJob &&
      (s.db.job? 1).any fun row => claimable s.db s.clock w.queueJobId row &&
        row.status = .remoteConfirmed && row.remotePostId = some "r")

/-- With one job there are no two with the same remote post id. -/
theorem distinctRemoteIds_of_keys {s : PublishingState} (h : s.db.jobs.keys = [1]) :
    DistinctRemoteIds s := by
  have hOne : ∀ j row, s.db.job? j = some row → j = 1 := by
    intro j row hRow
    obtain ⟨stored, hStored, -⟩ := Database.job?_eq_some_iff.mp hRow
    have hMem : j ∈ s.db.jobs.keys :=
      AList.mem_keys.mpr (AList.lookup_isSome.mp (by rw [hStored]; rfl))
    rw [h] at hMem
    exact List.mem_singleton.mp hMem
  intro j k row row' id hRow hRow' _ _ _
  rw [hOne j row hRow, hOne k row' hRow']

/-- The redelivery after a death past the confirmation finds the row claimable and saves the
publication. -/
theorem crash_recovery_exact_confirmed :
    ∃ s s' u row, Reachable (publishingSystem (Installation.config false false)) anyStep s ∧
      (publishingSystem (Installation.config false false)).step s (.repository 1 .returned) =
        some s' ∧
      (publishingSystem (Installation.config false false)).step s' (.repository 1 .returned) =
        some u ∧
      u.db.job? 1 = some row ∧ row.status = .published ∧ row.remotePostId = some "r" := by
  obtain ⟨s, hReach, hEnd⟩ := exists_reachable_of_run
    (publishingSystem (Installation.config false false)) anyStep claimsConfirmed diesConfirmed
    (Installation.start_initial _) (by decide +kernel)
  rw [claimsConfirmed, Bool.and_eq_true, Bool.and_eq_true, decide_eq_true_eq] at hEnd
  obtain ⟨⟨hRunning, hStep⟩, hEnd⟩ := hEnd
  obtain ⟨s', hStep, hKeys⟩ := (Option.any_eq_true _ _).mp hStep
  obtain ⟨w, hWorker, hEnd⟩ := (Option.any_eq_true _ _).mp hEnd
  rw [Bool.and_eq_true, Bool.and_eq_true, decide_eq_true_eq, decide_eq_true_eq] at hEnd
  obtain ⟨⟨hJob, hState⟩, hEnd⟩ := hEnd
  obtain ⟨old, hRow, hEnd⟩ := (Option.any_eq_true _ _).mp hEnd
  rw [Bool.and_eq_true, Bool.and_eq_true, decide_eq_true_eq, decide_eq_true_eq] at hEnd
  obtain ⟨⟨hClaim, hStatus⟩, hRemote⟩ := hEnd
  have hAlone : ∀ k', RunsAt s w.publishJobId k' → k' = 1 := by
    rintro k' ⟨w', call, hGet, -, hRuns⟩
    have hAt : (s.workers.map fun w => w.state.isRunning)[k']? = some true := by
      rw [List.getElem?_map, hGet, Option.map_some, hRuns]
      rfl
    rw [hRunning] at hAt
    match k', hAt with
    | 1, _ => rfl
  have hRecoverable : Recoverable old := ⟨hStatus, by rw [hRemote]; rfl⟩
  have hRecovery := crash_recovery_exact hReach hWorker hState (hJob ▸ hRow) hClaim rfl hAlone hStep
  obtain ⟨⟨claimed, hSelf⟩, hRecovered⟩ := hRecovery.2.2 hRecoverable
  obtain ⟨-, -, -, hRunningNow⟩ := hRecovered s' .refl
  rcases hRunningNow 1 _ _ hSelf rfl rfl with hCall | ⟨-, -, hSave⟩
  · injection hCall
  · obtain ⟨u, -, row, hSaved, -, hPublished, hIs, hSame⟩ :=
      hSave (distinctRemoteIds_of_keys (of_decide_eq_true hKeys))
    rw [hJob] at hPublished
    exact ⟨s, s', u, row, hReach, hStep, hSaved, hPublished, hIs, hSame.1.trans hRemote⟩

end SocialPromotion
