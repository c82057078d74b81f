import Mathlib.Data.List.AList
import Mathlib.Data.List.Sort

/-!
# Keyed tables

A table with a primary key is an association list without duplicate keys. This module
adds what is needed to treat one as an SQL table: selecting the rows that satisfy a
condition in the order of a key, and the *frame rule* for a loop that writes one key in
each iteration.
-/

namespace Keyed

/-- The rows of a table that satisfy `p`, ordered by `key`. -/
def select {κ : Type} {β : κ → Type} {ρ : Type} (row : ∀ k, β k → ρ) (p : ρ → Bool)
    (key : ρ → Nat) (t : AList β) : List ρ :=
  ((t.entries.map fun e => row e.1 e.2).filter p).insertionSort fun a b => key a ≤ key b

section Select

variable {κ : Type} [DecidableEq κ] {β : κ → Type} {ρ : Type} {row : ∀ k, β k → ρ}
  {p : ρ → Bool} {key : ρ → Nat} {t : AList β}

/-- A selected row is a stored row that satisfies the condition. -/
theorem mem_select {r : ρ} :
    r ∈ select row p key t ↔ ∃ k b, t.lookup k = some b ∧ row k b = r ∧ p r = true := by
  unfold select
  rw [List.mem_insertionSort, List.mem_filter, List.mem_map]
  constructor
  · rintro ⟨⟨⟨k, b⟩, hmem, rfl⟩, hp⟩
    exact ⟨k, b, AList.mem_lookup_iff.mpr hmem, rfl, hp⟩
  · rintro ⟨k, b, hlook, rfl, hp⟩
    exact ⟨⟨⟨k, b⟩, AList.mem_lookup_iff.mp hlook, rfl⟩, hp⟩

omit [DecidableEq κ] in
/-- When `key'` reads the primary key off a row, no key is selected twice. -/
theorem nodup_select {key' : ρ → κ} (hkey : ∀ k b, key' (row k b) = k) :
    ((select row p key t).map key').Nodup := by
  have hperm : (select row p key t).Perm ((t.entries.map fun e => row e.1 e.2).filter p) :=
    List.perm_insertionSort _ _
  refine (hperm.map key').nodup_iff.mpr ?_
  have hall : ((t.entries.map fun e => row e.1 e.2).map key').Nodup := by
    have heq : (t.entries.map fun e => row e.1 e.2).map key' = t.keys := by
      rw [List.map_map]
      exact List.map_congr_left fun e _ => hkey e.1 e.2
    rw [heq]
    exact t.keys_nodup
  exact hall.sublist (List.filter_sublist.map key')

end Select

/-! ## Rewriting every row -/

section MapValues

variable {κ : Type} {β γ : κ → Type} {f : ∀ k, β k → γ k} {t : AList β}

/-- `UPDATE` without a condition: every row is rewritten under its key. -/
def mapValues (f : ∀ k, β k → γ k) (t : AList β) : AList γ where
  entries := t.entries.map (Sigma.map id f)
  nodupKeys := .map₂ f t.entries t.nodupKeys

theorem lookup_mapValues [DecidableEq κ] (k : κ) :
    (mapValues f t).lookup k = (t.lookup k).map (f k) :=
  List.dlookup_map₂ k

end MapValues

/-! ## Loops that write one key at a time -/

section Loop

variable {σ α κ ν ε : Type} {step : σ → α → Except ε σ}

/-- A fallible computation followed by another succeeds through an intermediate result. -/
theorem bind_eq_ok {β γ : Type} {x : Except ε β} {f : β → Except ε γ} {c : γ} :
    (x >>= f) = .ok c ↔ ∃ b, x = .ok b ∧ f b = .ok c := by
  cases x with
  | error e => simp [bind, Except.bind]
  | ok b => simp [bind, Except.bind]

/-- A fallible loop whose iterations write only the view of their own key leaves every
other key's view as it was. -/
theorem foldlM_view_frame (key : α → κ) (view : κ → σ → ν)
    (hframe : ∀ s x s' k, step s x = .ok s' → k ≠ key x → view k s' = view k s)
    {l : List α} {s s' : σ} (h : l.foldlM step s = .ok s') {k : κ}
    (hk : ∀ x ∈ l, key x ≠ k) : view k s' = view k s := by
  induction l generalizing s with
  | nil =>
    rw [List.foldlM_nil] at h
    cases h
    rfl
  | cons x l ih =>
    rw [List.foldlM_cons, bind_eq_ok] at h
    obtain ⟨t, hx, hrest⟩ := h
    rw [ih hrest fun y hy => hk y (List.mem_cons_of_mem _ hy)]
    exact hframe s x t k hx fun he => hk x (List.mem_cons_self ..) he.symm

/-- A relation that every iteration of a fallible loop satisfies relates its ends. -/
theorem foldlM_relation {R : σ → σ → Prop} (hrefl : ∀ s, R s s)
    (htrans : ∀ s t u, R s t → R t u → R s u) {l : List α}
    (hstep : ∀ x ∈ l, ∀ s s', step s x = .ok s' → R s s') {s s' : σ}
    (h : l.foldlM step s = .ok s') : R s s' := by
  induction l generalizing s with
  | nil =>
    rw [List.foldlM_nil] at h
    cases h
    exact hrefl _
  | cons x l ih =>
    rw [List.foldlM_cons, bind_eq_ok] at h
    obtain ⟨t, hx, hrest⟩ := h
    refine htrans s t s' (hstep x (List.mem_cons_self ..) s t hx) (ih (fun y hy => ?_) hrest)
    exact hstep y (List.mem_cons_of_mem _ hy)

/-- A loop over distinct keys is, for one of its elements, an iteration on that element
between two loops on other keys. -/
theorem foldlM_visit {key : α → κ} {l : List α} {s s' : σ} (h : l.foldlM step s = .ok s')
    (hnd : (l.map key).Nodup) {x : α} (hx : x ∈ l) :
    ∃ (before after : List α) (t t' : σ), before.foldlM step s = .ok t ∧ step t x = .ok t' ∧
      after.foldlM step t' = .ok s' ∧ (∀ y ∈ before, key y ≠ key x) ∧
      ∀ y ∈ after, key y ≠ key x := by
  obtain ⟨before, after, rfl⟩ := List.append_of_mem hx
  rw [List.foldlM_append, bind_eq_ok] at h
  obtain ⟨t, hbefore, hrest⟩ := h
  rw [List.foldlM_cons, bind_eq_ok] at hrest
  obtain ⟨t', hstep, hafter⟩ := hrest
  rw [List.map_append, List.map_cons, List.nodup_append, List.nodup_cons] at hnd
  obtain ⟨-, ⟨hnotAfter, -⟩, hdisjoint⟩ := hnd
  refine ⟨before, after, t, t', hbefore, hstep, hafter, fun y hy he => ?_, fun y hy he => ?_⟩
  · exact hdisjoint (key y) (List.mem_map_of_mem hy) (key x) (List.mem_cons_self ..) he
  · exact hnotAfter (he ▸ List.mem_map_of_mem hy)

/-- A loop that fails does so in one of its iterations. -/
theorem foldlM_error {l : List α} {s : σ} {e : ε} (h : l.foldlM step s = .error e) :
    ∃ (before : List α) (x : α) (after : List α) (t : σ), l = before ++ x :: after ∧
      before.foldlM step s = .ok t ∧ step t x = .error e := by
  induction l generalizing s with
  | nil =>
    rw [List.foldlM_nil] at h
    injection h
  | cons x l ih =>
    rw [List.foldlM_cons] at h
    cases hx : step s x with
    | error e' =>
      rw [hx] at h
      injection h with h
      exact ⟨[], x, l, s, rfl, rfl, h ▸ hx⟩
    | ok t =>
      rw [hx] at h
      obtain ⟨before, y, after, u, rfl, hbefore, hy⟩ := ih h
      refine ⟨x :: before, y, after, u, rfl, ?_, hy⟩
      rw [List.foldlM_cons, hx]
      exact hbefore

end Loop

end Keyed
