import Mathlib.Data.List.Induction
import Mathlib.Data.List.Infix
import SocialPromotion.Lib.Transition

/-!
# Runs with a record

What a run did is often not seen in the state it ends in. A *logged* system keeps, beside
the state, the list of what an observer saw of its steps; it takes the same steps as the
system it watches.

Results:

* `Reachable.unlogged` / `Reachable.logged`: the runs of a logged system are those of the
  system it watches;
* `Reachable.forall_log_iff`: where a guard says of each step whether all that is recorded of it
  is good, the runs under the guard are those whose whole record is good;
* `Lawful.append`: a record in which every entry was permitted by the entries before it stays
  so where permitted entries are added.
-/

namespace LTS

variable {σ ε κ : Type}

/-- `M` with a record of what `observe` sees of its steps. -/
def System.logged (M : System σ ε) (observe : σ → ε → σ → List κ) : System (σ × List κ) ε where
  Initial s := M.Initial s.1 ∧ s.2 = []
  step s e := (M.step s.1 e).map fun t => (t, s.2 ++ observe s.1 e t)

section Logged

variable {M : System σ ε} {observe : σ → ε → σ → List κ}
  {ok ok' : σ × List κ → ε → Prop}

theorem logged_step {s t : σ × List κ} {e : ε} :
    (M.logged observe).step s e = some t ↔
      M.step s.1 e = some t.1 ∧ t.2 = s.2 ++ observe s.1 e t.1 := by
  constructor
  · intro h
    obtain ⟨u, hStep, rfl⟩ := Option.map_eq_some_iff.mp h
    exact ⟨hStep, rfl⟩
  · rintro ⟨hStep, hLog⟩
    show (M.step s.1 e).map _ = some t
    rw [hStep, Option.map_some, ← hLog]

theorem Steps.unlogged {s t : σ × List κ} (h : Steps (M.logged observe) ok s t) :
    Steps M anyStep s.1 t.1 := by
  induction h with
  | refl => exact .refl
  | tail _ _ hMove ih => exact ih.tail trivial (logged_step.mp hMove).1

theorem Reachable.unlogged {s : σ × List κ} (h : Reachable (M.logged observe) ok s) :
    Reachable M anyStep s.1 := by
  obtain ⟨s₀, hInit, hSteps⟩ := h
  exact ⟨s₀.1, hInit.1, hSteps.unlogged⟩

/-- Every state that the watched system reaches is reached with some record. -/
theorem Reachable.logged (observe : σ → ε → σ → List κ) {s : σ} (h : Reachable M anyStep s) :
    ∃ log, Reachable (M.logged observe) anyStep (s, log) := by
  obtain ⟨s₀, hInit, hSteps⟩ := h
  induction hSteps with
  | refl => exact ⟨[], .init ⟨hInit, rfl⟩⟩
  | @tail t u e _ _ hMove ih =>
    obtain ⟨log, hReach⟩ := ih
    have hLogged : (M.logged observe).step (t, log) e = some (u, log ++ observe t e u) :=
      logged_step.mpr ⟨hMove, rfl⟩
    exact ⟨_, hReach.tail trivial hLogged⟩

/-- Every entry is good in exactly the runs whose steps each make good entries. -/
theorem Reachable.forall_log_iff {P : κ → Prop} {s : σ × List κ}
    (h : Reachable (M.logged observe) anyStep s)
    (hStep : ∀ s log e t, Reachable (M.logged observe) anyStep (s, log) → M.step s e = some t →
      ((∀ entry ∈ observe s e t, P entry) ↔ ok (s, log) e)) :
    (∀ entry ∈ s.2, P entry) ↔ Reachable (M.logged observe) ok s := by
  constructor
  · obtain ⟨s₀, hInit, hSteps⟩ := h
    intro hGood
    induction hSteps with
    | refl => exact .init hInit
    | @tail t u e hSteps _ hMove ih =>
      -- the entries of the last step are good, and so are those before it
      obtain ⟨hNext, hLog⟩ := logged_step.mp hMove
      rw [hLog] at hGood
      have hBefore := ih fun entry hEntry => hGood entry (List.mem_append_left _ hEntry)
      have hEntries : ∀ entry ∈ observe t.1 e u.1, P entry :=
        fun entry hEntry => hGood entry (List.mem_append_right _ hEntry)
      have hOk := (hStep t.1 t.2 e u.1 ⟨s₀, hInit, hSteps⟩ hNext).mp hEntries
      exact hBefore.tail hOk hMove
  · intro hGuarded
    refine hGuarded.invariant_of (I := fun s => ∀ entry ∈ s.2, P entry) (fun s hInit => ?_)
      fun s e t hReach hGood hOk hMove => ?_
    · rw [hInit.2]
      nofun
    · obtain ⟨hNext, hLog⟩ := logged_step.mp hMove
      rw [hLog]
      intro entry hEntry
      rcases List.mem_append.mp hEntry with hEntry | hEntry
      · exact hGood entry hEntry
      · exact (hStep s.1 s.2 e t.1 hReach.any hNext).mpr hOk entry hEntry

end Logged

/-! ## Records in which every entry was permitted -/

/-- Each entry of the record was permitted by the entries before it. -/
def Lawful (permits : List κ → κ → Prop) (log : List κ) : Prop :=
  ∀ before entry after, log = before ++ entry :: after → permits before entry

section Lawful

variable {permits : List κ → κ → Prop}

theorem lawful_nil : Lawful permits ([] : List κ) := by
  intro before entry after h
  exact absurd h.symm (by simp)

theorem Lawful.concat {log : List κ} {entry : κ} (h : Lawful permits log)
    (hEntry : permits log entry) : Lawful permits (log ++ [entry]) := by
  intro before e after hSplit
  rcases List.eq_nil_or_concat after with rfl | ⟨after', last, rfl⟩
  · obtain ⟨rfl, hLast⟩ := List.append_inj' hSplit rfl
    injection hLast with hLast
    exact hLast ▸ hEntry
  · -- the entry is one of the earlier ones
    have hShape : log ++ [entry] = (before ++ e :: after') ++ [last] := by
      rw [hSplit, List.concat_eq_append, List.append_assoc, List.cons_append]
    exact h before e after' (List.append_inj' hShape rfl).1

/-- Several entries are added, each permitted after those before it. -/
theorem Lawful.append {log : List κ} (h : Lawful permits log) :
    ∀ {more : List κ}, (∀ before entry after, more = before ++ entry :: after →
      permits (log ++ before) entry) → Lawful permits (log ++ more) := by
  intro more
  induction more using List.reverseRecOn with
  | nil => exact fun _ => (List.append_nil log).symm ▸ h
  | append_singleton more last ih =>
    intro hMore
    have hBefore : Lawful permits (log ++ more) := by
      refine ih fun before entry after hSplit => hMore before entry (after ++ [last]) ?_
      rw [hSplit, List.append_assoc, List.cons_append]
    rw [← List.append_assoc]
    exact hBefore.concat (hMore more last [] rfl)

end Lawful

end LTS
