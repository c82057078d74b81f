import SocialPromotion.Lib.History
import SocialPromotion.Model.Analytics
import SocialPromotion.Properties.Finalisation

/-!
# The lease of an analytics collection

A collector claims published jobs under a lease, reads one after the other from its provider
and ends each claim by `saveSnapshot` or `releaseCollectionClaim`. Both end whatever claim
the job has, by whomever.

* `collection_exclusive`: in a run in which no collector ends the unexpired claim of another
  one, no job is granted to a collector while another one has an unexpired claim on it.
-/

namespace SocialPromotion

open LTS

/-- What happens to the claims on jobs, by numbered collectors. -/
inductive CollectionEvent
  | granted (collector : Nat) (jobId : JobId) (expiresAt time : Time)
  | ended (collector : Nat) (jobId : JobId)
deriving DecidableEq, Repr

/-- An unended claim of a collector on a job, with its expiry. -/
abbrev CollectionClaim := Nat × JobId × Time

def openClaim (claims : List CollectionClaim) : CollectionEvent → List CollectionClaim
  | .granted collector jobId expiresAt _ => (collector, jobId, expiresAt) :: claims
  | .ended collector jobId => claims.filter fun claim => ¬ (claim.1 = collector ∧ claim.2.1 = jobId)

/-- The claims that were granted and not ended by the collector that holds them. -/
def openClaims (log : List CollectionEvent) : List CollectionClaim := log.foldl openClaim []

/-- A job is granted only where no other collector has an unexpired claim on it. -/
def FreeGrant (log : List CollectionEvent) : CollectionEvent → Prop
  | .granted collector jobId _ time => ∀ claim ∈ openClaims log, claim.1 ≠ collector →
      claim.2.1 = jobId → claim.2.2 ≤ time
  | .ended _ _ => True

/-- The claims that a step grants to a collector, and the one that it ends. -/
def AnalyticsState.claimEvents (s : AnalyticsState) : AnalyticsEvent → List CollectionEvent
  | .repository i result locked metricId =>
    if result.performed = true then
      match s.collectors[i]? with
      | some (.running (.claimCollectionTargets staleAfterMs leaseMs limit) _ _ _) =>
        let targets := (PgAnalyticsRepository.claimCollectionTargets staleAfterMs leaseMs limit
          s.publishing.clock locked s.publishing.db s.tables).1
        (targets.map AnalyticsCollectionTarget.jobId).map fun jobId =>
          .granted i jobId (s.publishing.clock + leaseMs) s.publishing.clock
      | some (.running (.saveSnapshot target metrics) _ _ _) =>
        match PgAnalyticsRepository.saveSnapshot target metrics metricId s.publishing.db
            s.tables with
        | .ok _ => [.ended i target.jobId]
        | .error _ => []
      | some (.running (.releaseCollectionClaim target _) _ _ _) => [.ended i target.jobId]
      | _ => []
    else []
  | _ => []

/-- The system with the record of its collection claims. -/
def collectionSystem (cfg : Config) :
    System (AnalyticsState × List CollectionEvent) AnalyticsEvent :=
  (analyticsSystem cfg).logged fun s e _ => s.claimEvents e

/-- Whether every other collector's claim on a job that a step ends is over. -/
def endsOwnClaims (s : AnalyticsState × List CollectionEvent) (e : AnalyticsEvent) : Bool :=
  (s.1.claimEvents e).all fun
    | .granted _ _ _ _ => true
    | .ended collector jobId => (openClaims s.2).all fun claim =>
        claim.1 = collector ∨ claim.2.1 ≠ jobId ∨ claim.2.2 ≤ s.1.publishing.clock

/-- No step ends the unexpired claim of another collector. -/
def EndsOwnClaims (s : AnalyticsState × List CollectionEvent) (e : AnalyticsEvent) : Prop :=
  endsOwnClaims s e = true

instance (s : AnalyticsState × List CollectionEvent) (e : AnalyticsEvent) :
    Decidable (EndsOwnClaims s e) :=
  inferInstanceAs (Decidable (_ = _))

/-! ## What a step does to the claims -/

/-- How a step that leads to `s'` changes the column of the leases. -/
inductive CollectionStep (s s' : AnalyticsState) : List CollectionEvent → Prop
  | quiet (hLeases : s'.tables.analyticsLeaseExpiresAt = s.tables.analyticsLeaseExpiresAt) :
      CollectionStep s s' []
  | granted {i : Nat} {expiresAt : Time} {jobIds : List JobId}
      (hFree : ∀ jobId ∈ jobIds, ∀ time, s.tables.analyticsLeaseExpiresAt jobId = some time →
        time ≤ s.publishing.clock)
      (hLeases : ∀ jobId, s'.tables.analyticsLeaseExpiresAt jobId =
        if jobId ∈ jobIds then some expiresAt else s.tables.analyticsLeaseExpiresAt jobId) :
      CollectionStep s s' (jobIds.map fun jobId => .granted i jobId expiresAt s.publishing.clock)
  | ended {i : Nat} {jobId : JobId}
      (hLeases : s'.tables.analyticsLeaseExpiresAt =
        Function.update s.tables.analyticsLeaseExpiresAt jobId none) :
      CollectionStep s s' [.ended i jobId]

section Step

variable {cfg : Config} {s s' : AnalyticsState} {e : AnalyticsEvent}

/-- Only jobs without an unexpired lease are claimed. -/
theorem lease_of_mem_targets {staleAfterMs leaseMs limit : Nat} {now : Time}
    {locked : List JobId} {db : Database} {tables : AnalyticsTables} {jobId : JobId} {time : Time}
    (hMem : jobId ∈ (PgAnalyticsRepository.claimCollectionTargets staleAfterMs leaseMs limit now
      locked db tables).1.map AnalyticsCollectionTarget.jobId)
    (hLease : tables.analyticsLeaseExpiresAt jobId = some time) : time ≤ now := by
  obtain ⟨target, hTarget, rfl⟩ := List.mem_map.mp hMem
  obtain ⟨job, hJob, rfl⟩ := List.mem_map.mp hTarget
  have hOpen := (List.mem_filter.mp ((List.mem_insertionSort _).mp (List.mem_of_mem_take hJob))).2
  rw [Bool.and_eq_true, PgAnalyticsRepository.collectable, Bool.and_eq_true, Bool.and_eq_true]
    at hOpen
  have hExpired := hOpen.1.1.2
  rw [show (PgAnalyticsRepository.toTarget job).jobId = job.id from rfl] at hLease
  rw [hLease] at hExpired
  exact of_decide_eq_true hExpired

theorem saveSnapshot_leases {target : AnalyticsCollectionTarget} {metrics : PostAnalytics}
    {metricId : MetricId} {db : Database} {tables saved : AnalyticsTables}
    (h : PgAnalyticsRepository.saveSnapshot target metrics metricId db tables = .ok saved) :
    saved.analyticsLeaseExpiresAt =
      Function.update tables.analyticsLeaseExpiresAt target.jobId none := by
  unfold PgAnalyticsRepository.saveSnapshot at h
  split at h
  · injection h
  · split at h
    · injection h
    · injection h with h
      exact h ▸ rfl

/-- A statement that is not performed leaves the tables as they were. -/
theorem unperformed_tables {result : CallResult} {now : Time} {locked : List JobId}
    {metricId : MetricId} {db : Database} {tables tables' : AnalyticsTables}
    {state state' : AnalyticsService.State} (hPerformed : ¬ result.performed = true)
    (h : AnalyticsService.step result now locked metricId db tables state =
      some (state', tables')) : tables' = tables := by
  unfold AnalyticsService.step at h
  simp only [CallResult.leaves, if_neg hPerformed] at h
  split at h
  · injection h with h
    injection h with _ hTables
    exact hTables.symm
  · injection h with h
    split at h
    · injection h with _ hTables
      exact hTables.symm
    · injection h with _ hTables
      exact hTables.symm
  · injection h with h
    injection h with _ hTables
    exact hTables.symm
  · injection h
  · injection h
  · injection h

/-- A repository call of a collector grants claims, ends its own or leaves the leases as they are. -/
theorem repositoryStep_collection {i : Nat} {result : CallResult} {locked : List JobId}
    {metricId : MetricId} (h : s.repositoryStep i result locked metricId = some s') :
    s'.publishing = s.publishing ∧
      CollectionStep s s' (s.claimEvents (.repository i result locked metricId)) := by
  unfold AnalyticsState.repositoryStep at h
  split at h
  · rename_i state hState
    obtain ⟨⟨state', tables⟩, hStep, rfl⟩ := Option.map_eq_some_iff.mp h
    refine ⟨rfl, ?_⟩
    simp only [AnalyticsState.claimEvents, hState]
    by_cases hPerformed : result.performed = true
    · rw [if_pos hPerformed]
      unfold AnalyticsService.step at hStep
      simp only [CallResult.leaves, if_pos hPerformed] at hStep
      split at hStep
      · injection hStep with hStep
        injection hStep with _ hTables
        subst hTables
        exact .granted (fun jobId hMem time hLease => lease_of_mem_targets hMem hLease)
          fun jobId => rfl
      · rename_i target metrics rest collectedJobIds failed
        injection hStep with hStep
        dsimp only
        cases hSaved : PgAnalyticsRepository.saveSnapshot target metrics metricId s.publishing.db
            s.tables with
        | ok saved =>
          rw [hSaved] at hStep
          injection hStep with _ hTables
          subst hTables
          exact .ended (saveSnapshot_leases hSaved)
        | error error =>
          rw [hSaved] at hStep
          injection hStep with _ hTables
          subst hTables
          exact .quiet rfl
      · injection hStep with hStep
        injection hStep with _ hTables
        subst hTables
        exact .ended rfl
      · injection hStep
      · injection hStep
      · injection hStep
    · rw [if_neg hPerformed]
      exact .quiet (by rw [unperformed_tables hPerformed hStep])
  · injection h

/-- **One step** of the system and the claims: time may pass, and a statement changes the
column of the leases as its entries in the record say. -/
theorem collection_step (h : (analyticsSystem cfg).step s e = some s') :
    s.publishing.clock ≤ s'.publishing.clock ∧ CollectionStep s s' (s.claimEvents e) := by
  cases e with
  | publishing e =>
    obtain ⟨publishing, hStep, rfl⟩ := Option.map_eq_some_iff.mp h
    exact ⟨clock_le_of_step hStep, .quiet rfl⟩
  | collect staleAfterMs leaseMs limit =>
    injection h with h
    subst h
    exact ⟨le_rfl, .quiet rfl⟩
  | repository i result locked metricId =>
    obtain ⟨hSame, hCollection⟩ := repositoryStep_collection h
    exact ⟨by rw [hSame], hCollection⟩
  | provider i answer =>
    simp only [analyticsSystem, AnalyticsState.step, AnalyticsState.providerStep] at h
    split at h
    · obtain ⟨state, -, rfl⟩ := Option.map_eq_some_iff.mp h
      exact ⟨le_rfl, .quiet rfl⟩
    · injection h

end Step

/-! ## Runs -/

theorem openClaims_append (log more : List CollectionEvent) :
    openClaims (log ++ more) = more.foldl openClaim (openClaims log) := List.foldl_append

/-- What grants add to the claims. -/
theorem mem_openClaims_grants {log : List CollectionEvent} {i : Nat} {expiresAt time : Time}
    {jobIds : List JobId} {claim : CollectionClaim}
    (h : claim ∈ openClaims (log ++ jobIds.map fun jobId => .granted i jobId expiresAt time)) :
    claim ∈ openClaims log ∨ claim.1 = i ∧ claim.2.1 ∈ jobIds ∧ claim.2.2 = expiresAt := by
  induction jobIds using List.reverseRecOn with
  | nil => exact Or.inl (by simpa using h)
  | append_singleton jobIds jobId ih =>
    rw [List.map_append, ← List.append_assoc, openClaims_append] at h
    rcases List.mem_cons.mp h with rfl | h
    · exact Or.inr ⟨rfl, List.mem_append_right _ (List.mem_singleton_self _), rfl⟩
    · rcases ih h with hBefore | ⟨hi, hMem, hExpires⟩
      · exact Or.inl hBefore
      · exact Or.inr ⟨hi, List.mem_append_left _ hMem, hExpires⟩

/-- Every claim is backed by the column, unless it is over. -/
structure ClaimsBacked (s : AnalyticsState × List CollectionEvent) : Prop where
  backed : ∀ claim ∈ openClaims s.2, claim.2.2 ≤ s.1.publishing.clock ∨
    ∃ time, s.1.tables.analyticsLeaseExpiresAt claim.2.1 = some time ∧ claim.2.2 ≤ time
  free : Lawful FreeGrant s.2

section Runs

variable {cfg : Config} {s s' : AnalyticsState} {log events : List CollectionEvent}

/-- A job that may be claimed is one on which every claim is over. -/
theorem ClaimsBacked.over (h : ClaimsBacked (s, log)) {claim : CollectionClaim}
    (hMem : claim ∈ openClaims log)
    (hFree : ∀ time, s.tables.analyticsLeaseExpiresAt claim.2.1 = some time →
      time ≤ s.publishing.clock) : claim.2.2 ≤ s.publishing.clock := by
  rcases h.backed claim hMem with hOver | ⟨time, hLease, hExpires⟩
  · exact hOver
  · exact hExpires.trans (hFree time hLease)

/-- Open claims stay backed by a lease where a claim is ended by its collector alone. -/
theorem ClaimsBacked.step (h : ClaimsBacked (s, log))
    (hClock : s.publishing.clock ≤ s'.publishing.clock) (hStep : CollectionStep s s' events)
    (hOwn : ∀ i jobId, .ended i jobId ∈ events → ∀ claim ∈ openClaims log,
      claim.1 = i ∨ claim.2.1 ≠ jobId ∨ claim.2.2 ≤ s.publishing.clock) :
    ClaimsBacked (s', log ++ events) := by
  cases hStep with
  | quiet hLeases =>
    rw [List.append_nil]
    refine ⟨fun claim hMem => ?_, h.free⟩
    rcases h.backed claim hMem with hOver | hBacked
    · exact Or.inl (hOver.trans hClock)
    · exact Or.inr (hLeases ▸ hBacked)
  | @granted i expiresAt jobIds hFree hLeases =>
    refine ⟨fun claim hMem => ?_, h.free.append fun before entry after hSplit => ?_⟩
    · rcases mem_openClaims_grants hMem with hMem | ⟨-, hJob, hExpires⟩
      · by_cases hJob : claim.2.1 ∈ jobIds
        · exact Or.inl ((h.over hMem (hFree _ hJob)).trans hClock)
        · rcases h.backed claim hMem with hOver | ⟨time, hLease, hExpires⟩
          · exact Or.inl (hOver.trans hClock)
          · exact Or.inr ⟨time, by rw [hLeases, if_neg hJob, hLease], hExpires⟩
      · exact Or.inr ⟨expiresAt, by rw [hLeases, if_pos hJob], hExpires.le⟩
    · obtain ⟨first, rest, rfl, rfl, hRest⟩ := List.map_eq_append_iff.mp hSplit
      obtain ⟨jobId, later, rfl, rfl, -⟩ := List.map_eq_cons_iff.mp hRest
      intro claim hMem hOther hJob
      rcases mem_openClaims_grants hMem with hMem | ⟨hMine, -⟩
      · refine h.over hMem ?_
        rw [hJob]
        exact hFree jobId (List.mem_append_right _ (List.mem_cons_self ..))
      · exact absurd hMine hOther
  | @ended i jobId hLeases =>
    refine ⟨fun claim hMem => ?_, h.free.concat trivial⟩
    rw [openClaims_append] at hMem
    obtain ⟨hMem, hNot⟩ := List.mem_filter.mp hMem
    have hCases := hOwn i jobId (List.mem_singleton_self _) claim hMem
    by_cases hJob : claim.2.1 = jobId
    · have hOther : claim.1 ≠ i := fun hMine => of_decide_eq_true hNot ⟨hMine, hJob⟩
      rcases hCases with hMine | hNe | hOver
      · exact absurd hMine hOther
      · exact absurd hJob hNe
      · exact Or.inl (hOver.trans hClock)
    · rcases h.backed claim hMem with hOver | ⟨time, hLease, hExpires⟩
      · exact Or.inl (hOver.trans hClock)
      · exact Or.inr ⟨time, by rw [hLeases, Function.update_of_ne hJob, hLease], hExpires⟩

/-- **Exclusive collection.** In a run in which no collector ends the unexpired claim of
another one, every job is granted only where no other collector has an unexpired claim. -/
theorem collection_exclusive (hReach : Reachable (collectionSystem cfg) EndsOwnClaims (s, log)) :
    Lawful FreeGrant log := by
  have hInv : ClaimsBacked (s, log) := by
    refine @Reachable.invariant _ _ _ _ ClaimsBacked ?_ ?_ _ hReach
    · rintro ⟨s₀, log₀⟩ ⟨-, hLog⟩
      dsimp only at hLog
      subst hLog
      exact ⟨fun claim hMem => absurd hMem List.not_mem_nil, lawful_nil⟩
    · rintro ⟨s, log⟩ e ⟨s', log'⟩ hBacked hOwn hMove
      obtain ⟨hStep, hLog⟩ := logged_step.mp hMove
      dsimp only at hStep hLog
      subst hLog
      obtain ⟨hClock, hCollection⟩ := collection_step hStep
      refine hBacked.step hClock hCollection fun i jobId hMem claim hClaim => ?_
      have hEnds := List.all_eq_true.mp (List.all_eq_true.mp hOwn _ hMem) claim hClaim
      exact of_decide_eq_true hEnds
  exact hInv.free

end Runs

/-! ## Three collectors and one expired lease -/

namespace Installation

def startAnalytics : AnalyticsState where
  publishing := start
  tables := ⟨fun _ => none, fun _ => none, ∅⟩
  collectors := []

theorem startAnalytics_initial (cfg : Config) :
    (collectionSystem cfg).Initial (startAnalytics, []) :=
  ⟨⟨start_initial cfg, fun _ => rfl, rfl, rfl⟩, rfl⟩

/-- An id as the database draws one. -/
def firstMetric : MetricId := ⟨"00000000-0000-4000-8000-000000000001".toList, by decide⟩

/-- The next statement of a collector goes well. -/
def collectorCall (i : Nat) : AnalyticsEvent := .repository i .returned [] firstMetric

/-- Job 1 is published, and a collector claims it for five seconds. -/
def claimed : List AnalyticsEvent :=
  publishedOnce.map .publishing ++ [.collect 3600000 5000 50, collectorCall 0]

def snapshot : PostAnalytics where
  standard := fun _ => none
  rawMetrics := none
  capturedAt := ⟨2000, by decide⟩

end Installation

/-- The claim of a collector that has stopped expires, a second one is granted the job and is done
in time, and a third one is granted it an hour later. -/
theorem collection_exclusive_saved :
    Lawful FreeGrant [.granted 0 1 6000 1000, .granted 1 1 12000 7000, .ended 1 1,
      .granted 2 1 4012000 4007000] := by
  obtain ⟨⟨s, log⟩, hReach, hLog⟩ := exists_reachable_of_run
    (collectionSystem (Installation.config false false)) EndsOwnClaims
    (fun s => s.2 = [.granted 0 1 6000 1000, .granted 1 1 12000 7000, .ended 1 1,
      .granted 2 1 4012000 4007000])
    (Installation.claimed ++ [.publishing (.tick 6000), .collect 3600000 5000 50,
      Installation.collectorCall 1, .provider 1 (.ok Installation.snapshot),
      Installation.collectorCall 1, .publishing (.tick 4000000), .collect 3600000 5000 50,
      Installation.collectorCall 2])
    (Installation.startAnalytics_initial _) (by decide +kernel)
  have hLog' : log = _ := of_decide_eq_true hLog
  exact hLog' ▸ collection_exclusive hReach

/-- The provider read of a collector takes six seconds and fails. Its release ends the claim
of the collector that took over, and a third one is granted the job. -/
theorem collection_granted_twice :
    ¬ ∀ (cfg : Config) (s : AnalyticsState) (log : List CollectionEvent),
      Reachable (collectionSystem cfg) anyStep (s, log) → Lawful FreeGrant log := by
  intro h
  obtain ⟨⟨s, log⟩, hReach, hLog⟩ := exists_reachable_of_run
    (collectionSystem (Installation.config false false)) anyStep
    (fun s => s.2 = [.granted 0 1 6000 1000, .granted 1 1 12000 7000, .ended 0 1,
      .granted 2 1 12000 7000])
    (Installation.claimed ++ [.publishing (.tick 6000), .collect 3600000 5000 50,
      Installation.collectorCall 1, .provider 0 (.error Installation.connectionLost),
      Installation.collectorCall 0, .collect 3600000 5000 50, Installation.collectorCall 2])
    (Installation.startAnalytics_initial _) (by decide +kernel)
  have hLog' : log = _ := of_decide_eq_true hLog
  subst hLog'
  -- the claim of collector 1 has five seconds to go
  have hFree := h _ s _ hReach [.granted 0 1 6000 1000, .granted 1 1 12000 7000, .ended 0 1]
    (.granted 2 1 12000 7000) [] rfl (1, 1, 12000) (by decide) (by decide) rfl
  exact absurd hFree (by decide)

end SocialPromotion
