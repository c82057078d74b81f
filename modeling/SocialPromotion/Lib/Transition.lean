import Mathlib.Logic.Basic

/-!
# Labelled transition systems with guarded runs

A system is a partial step function over labels. A run is taken under a *guard*: a
condition on the state before a step and on the label of that step. The trivial guard
gives every run of the system; a stronger guard singles out the runs whose steps all
avoid some behaviour.

Results:

* `Steps.invariant` / `Reachable.invariant`: a property that holds initially and is
  preserved by every guarded step holds in every state of a guarded run;
* `Reachable.iff_guarded`: a property that each step keeps exactly under a guard holds exactly
  after the guarded runs;
* `Steps.mono`: a run under a guard is a run under any weaker guard;
* `guardedRun_sound`: a list of labels that executes under a decidable guard is a run,
  so that concrete runs can be evaluated.
-/

namespace LTS

/-- A labelled transition system with a partial step function. -/
structure System (σ ε : Type) where
  Initial : σ → Prop
  step : σ → ε → Option σ

variable {σ ε : Type}

/-- Runs of `M` from `s` to `t` along which every step meets the guard `ok`. -/
inductive Steps (M : System σ ε) (ok : σ → ε → Prop) (s : σ) : σ → Prop
  | refl : Steps M ok s s
  | tail {t u : σ} {e : ε} : Steps M ok s t → ok t e → M.step t e = some u → Steps M ok s u

/-- States that a guarded run reaches from an initial state. -/
def Reachable (M : System σ ε) (ok : σ → ε → Prop) (s : σ) : Prop :=
  ∃ s₀, M.Initial s₀ ∧ Steps M ok s₀ s

/-- The guard that excludes no step. -/
def anyStep (_ : σ) (_ : ε) : Prop := True

instance (s : σ) (e : ε) : Decidable (anyStep s e) := isTrue trivial

variable {M : System σ ε} {ok ok' : σ → ε → Prop}

theorem Steps.trans {s t u : σ} (hst : Steps M ok s t) (htu : Steps M ok t u) :
    Steps M ok s u := by
  induction htu with
  | refl => exact hst
  | tail _ hok hstep ih => exact ih.tail hok hstep

theorem Steps.single {s t : σ} {e : ε} (hok : ok s e) (hstep : M.step s e = some t) :
    Steps M ok s t :=
  Steps.refl.tail hok hstep

/-- A run under a guard is a run under every weaker guard. -/
theorem Steps.mono (himp : ∀ s e, ok s e → ok' s e) {s t : σ} (h : Steps M ok s t) :
    Steps M ok' s t := by
  induction h with
  | refl => exact .refl
  | tail _ hok hstep ih => exact ih.tail (himp _ _ hok) hstep

/-- A property preserved by every guarded step holds along a guarded run. -/
theorem Steps.invariant {I : σ → Prop}
    (hstep : ∀ s e t, I s → ok s e → M.step s e = some t → I t)
    {s t : σ} (h : Steps M ok s t) (hs : I s) : I t := by
  induction h with
  | refl => exact hs
  | tail _ hok hmove ih => exact hstep _ _ _ ih hok hmove

/-- A preserved relation between the first and the last state of a run. -/
theorem Steps.relation {R : σ → σ → Prop} {s : σ} (hrefl : R s s)
    (hstep : ∀ t e u, R s t → ok t e → M.step t e = some u → R s u)
    {t : σ} (h : Steps M ok s t) : R s t := by
  induction h with
  | refl => exact hrefl
  | tail _ hok hmove ih => exact hstep _ _ _ ih hok hmove

theorem Reachable.init {s : σ} (h : M.Initial s) : Reachable M ok s :=
  ⟨s, h, .refl⟩

theorem Reachable.tail {s t : σ} {e : ε} (h : Reachable M ok s) (hok : ok s e)
    (hstep : M.step s e = some t) : Reachable M ok t := by
  obtain ⟨s₀, hInit, hSteps⟩ := h
  exact ⟨s₀, hInit, hSteps.tail hok hstep⟩

theorem Reachable.steps {s t : σ} (h : Reachable M ok s) (hst : Steps M ok s t) :
    Reachable M ok t := by
  obtain ⟨s₀, hInit, hSteps⟩ := h
  exact ⟨s₀, hInit, hSteps.trans hst⟩

theorem Reachable.mono (himp : ∀ s e, ok s e → ok' s e) {s : σ} (h : Reachable M ok s) :
    Reachable M ok' s := by
  obtain ⟨s₀, hInit, hSteps⟩ := h
  exact ⟨s₀, hInit, hSteps.mono himp⟩

/-- Every guarded-reachable state is reachable. -/
theorem Reachable.any {s : σ} (h : Reachable M ok s) : Reachable M anyStep s :=
  h.mono fun _ _ _ => trivial

/-- **Invariant rule.** A property of the initial states that every guarded step
preserves holds in every state a guarded run reaches. -/
theorem Reachable.invariant {I : σ → Prop} (hinit : ∀ s, M.Initial s → I s)
    (hstep : ∀ s e t, I s → ok s e → M.step s e = some t → I t)
    {s : σ} (h : Reachable M ok s) : I s := by
  obtain ⟨s₀, hInit, hSteps⟩ := h
  exact hSteps.invariant hstep (hinit s₀ hInit)

/-- The invariant rule for the run from a reachable state, relative to invariants already
known of reachable states. -/
theorem Steps.invariant_of {I : σ → Prop} (himp : ∀ s e, ok s e → ok' s e)
    (hstep : ∀ s e t, Reachable M ok' s → I s → ok s e → M.step s e = some t → I t)
    {s t : σ} (h : Steps M ok s t) (hReach : Reachable M ok' s) (hs : I s) :
    Reachable M ok' t ∧ I t := by
  -- the run is carried along, so that each step starts from a reachable state
  induction h with
  | refl => exact ⟨hReach, hs⟩
  | tail _ hok hmove ih =>
    exact ⟨ih.1.tail (himp _ _ hok) hmove, hstep _ _ _ ih.1 ih.2 hok hmove⟩

/-- The invariant rule relative to invariants already known of reachable states. -/
theorem Reachable.invariant_of {I : σ → Prop} (hinit : ∀ s, M.Initial s → I s)
    (hstep : ∀ s e t, Reachable M ok s → I s → ok s e → M.step s e = some t → I t)
    {s : σ} (h : Reachable M ok s) : I s := by
  obtain ⟨s₀, hInit, hSteps⟩ := h
  exact (hSteps.invariant_of (fun _ _ => id) hstep (.init hInit) (hinit s₀ hInit)).2

/-- A property that each step keeps in exactly the cases its guard admits holds at the end of
exactly the guarded runs. -/
theorem Reachable.iff_guarded {I : σ → Prop} (hinit : ∀ s, M.Initial s → I s)
    (hstep : ∀ s e t, Reachable M anyStep s → M.step s e = some t → (I t ↔ I s ∧ ok s e))
    {s : σ} (h : Reachable M anyStep s) : I s ↔ Reachable M ok s := by
  constructor
  · obtain ⟨s₀, hInit, hSteps⟩ := h
    intro hHolds
    induction hSteps with
    | refl => exact .init hInit
    | tail hBefore _ hmove ih =>
      obtain ⟨hEarlier, hok⟩ := (hstep _ _ _ ⟨s₀, hInit, hBefore⟩ hmove).mp hHolds
      exact (ih hEarlier).tail hok hmove
  · intro hGuarded
    exact hGuarded.invariant_of hinit fun s e t hReach hHolds hok hmove =>
      (hstep s e t hReach.any hmove).mpr ⟨hHolds, hok⟩

/-! ## Executing a list of labels -/

/-- Execute a list of labels, stopping at a step the guard rejects. -/
def guardedRun (M : System σ ε) (ok : σ → ε → Prop) [∀ s e, Decidable (ok s e)] :
    σ → List ε → Option σ
  | s, [] => some s
  | s, e :: es =>
    if ok s e then
      match M.step s e with
      | some t => guardedRun M ok t es
      | none => none
    else none

theorem guardedRun_sound [∀ s e, Decidable (ok s e)] {es : List ε} {s t : σ}
    (h : guardedRun M ok s es = some t) : Steps M ok s t := by
  induction es generalizing s with
  | nil =>
    rw [guardedRun, Option.some.injEq] at h
    exact h ▸ .refl
  | cons e es ih =>
    rw [guardedRun] at h
    split at h
    · rename_i hok
      split at h
      · rename_i u hmove
        exact (Steps.single hok hmove).trans (ih h)
      · simp at h
    · simp at h

/-- A run that executes from an initial state reaches a state with any property that its
last state is seen to have. -/
theorem exists_reachable_of_run (M : System σ ε) (ok : σ → ε → Prop)
    [∀ s e, Decidable (ok s e)] (p : σ → Bool) (es : List ε) {s : σ} (hInit : M.Initial s)
    (h : (guardedRun M ok s es).any p = true) :
    ∃ t, Reachable M ok t ∧ p t = true := by
  obtain ⟨t, hRun, hp⟩ := (Option.any_eq_true _ _).mp h
  exact ⟨t, ⟨s, hInit, guardedRun_sound hRun⟩, hp⟩

end LTS
