import Mathlib.Algebra.Order.BigOperators.Group.List
import Mathlib.Algebra.Order.Ring.Nat
import Mathlib.Data.List.Dedup
import Mathlib.Data.List.Sort

/-!
# Queries over lists of rows

What `DISTINCT ON`, `LEFT JOIN`, `GROUP BY` and an aggregate over nullable values compute,
on rows of any type.

Results:

* `leftJoin_distinctOn`: a left join with one row for each key gives each row of the left side
  once, with the first row of its key;
* `mem_take_insertionSort`: `ORDER BY` with a `LIMIT` keeps a row that has room before it;
* `mem_groupBy`: the group of a key holds the rows of that key;
* `aggregate_flatMap`: an aggregate of parts is the aggregate of the aggregates of the parts;
* `getD_aggregate_add`, `aggregate_greatest`: what a sum and a maximum are.
-/

namespace Query

variable {α β κ : Type}

/-! ## Joins -/

/-- A join has no row twice, where each row names the row of the left side that it is made
of. -/
theorem nodup_flatMap_of_origin {rows : List α} {f : α → List β} (key : α → κ) (origin : β → κ)
    (hKeys : (rows.map key).Nodup) (hNodup : ∀ a ∈ rows, (f a).Nodup)
    (hOrigin : ∀ a ∈ rows, ∀ b ∈ f a, origin b = key a) : (rows.flatMap f).Nodup := by
  refine List.nodup_flatMap.mpr ⟨hNodup, ?_⟩
  refine (List.pairwise_map.mp hKeys).imp_of_mem fun {a a'} ha ha' hNe => ?_
  intro b hb hb'
  exact hNe ((hOrigin a ha b hb).symm.trans (hOrigin a' ha' b hb'))

section Joins

variable [DecidableEq κ]

/-- `DISTINCT ON (key)`: the first row of each key. -/
def distinctOn (key : α → κ) : List α → List α
  | [] => []
  | row :: rows => row :: (distinctOn key rows).filter fun other => key other ≠ key row

theorem filter_distinctOn (key : α → κ) (k : κ) (rows : List α) :
    (distinctOn key rows).filter (fun row => key row = k) =
      (rows.find? fun row => key row = k).toList := by
  induction rows with
  | nil => rfl
  | cons row rows ih =>
    rw [distinctOn, List.filter_cons, List.find?_cons]
    by_cases hk : key row = k
    · rw [if_pos (decide_eq_true hk), decide_eq_true hk, List.filter_filter]
      have hNone : ∀ other ∈ distinctOn key rows,
          ¬ (decide (key other = k) && decide (key other ≠ key row)) = true := by
        intro other _ h
        simp [hk] at h
      rw [List.filter_eq_nil_iff.mpr hNone]
      rfl
    · rw [if_neg (by simpa using hk), decide_eq_false hk, List.filter_filter, ← ih]
      refine List.filter_congr fun other _ => ?_
      by_cases hOther : key other = k
      · simp [hOther, Ne.symm hk]
      · simp [hOther]

/-- `LEFT JOIN`: each row of the left side with its matches, or with none. -/
def leftJoin (on : α → β → Bool) (left : List α) (right : List β) : List (α × Option β) :=
  left.flatMap fun a =>
    match right.filter (on a) with
    | [] => [(a, none)]
    | rows => rows.map fun b => (a, some b)

theorem leftJoin_distinctOn (key : β → κ) (of : α → κ) (left : List α) (right : List β) :
    leftJoin (fun a b => key b = of a) left (distinctOn key right) =
      left.map fun a => (a, right.find? fun b => key b = of a) := by
  induction left with
  | nil => rfl
  | cons a left ih =>
    rw [leftJoin, List.flatMap_cons, ← leftJoin, ih, List.map_cons, filter_distinctOn]
    cases right.find? fun b => key b = of a <;> rfl

/-- The row that `DISTINCT ON` keeps of a sorted list comes before the others of its key. -/
theorem rel_of_find?_sorted {r : α → α → Prop} {rows : List α} {p : α → Bool} {row other : α}
    (hSorted : rows.Pairwise r) (hFound : rows.find? p = some row) (hMem : other ∈ rows)
    (hOther : p other = true) (hNe : other ≠ row) : r row other := by
  obtain ⟨-, before, after, rfl, hBefore⟩ := List.find?_eq_some_iff_append.mp hFound
  rcases List.mem_append.mp hMem with hMem | hMem
  · exact absurd hOther (by simpa using hBefore other hMem)
  · rcases List.mem_cons.mp hMem with rfl | hMem
    · exact absurd rfl hNe
    · exact (List.pairwise_cons.mp (List.pairwise_append.mp hSorted).2.1).1 other hMem

/-- `ORDER BY` with a `LIMIT` keeps a row where fewer rows than the limit come before it. -/
theorem mem_take_insertionSort {r : α → α → Prop} [DecidableRel r] [Std.Total r] [IsTrans α r]
    {rows : List α} {row : α} {before : α → Bool} {limit : Nat} (hMem : row ∈ rows)
    (hBefore : ∀ other ∈ rows, other ≠ row → r other row → before other = true)
    (hRoom : rows.countP before < limit) : row ∈ (rows.insertionSort r).take limit := by
  obtain ⟨first, rest, hSplit, hFirst⟩ :=
    List.eq_append_cons_of_mem ((List.mem_insertionSort r).mpr hMem)
  have hSorted := List.pairwise_insertionSort r rows
  rw [hSplit] at hSorted
  have hCount : first.countP before = first.length := by
    refine List.countP_eq_length.mpr fun other hOther => ?_
    refine hBefore other ?_ (fun hSame => hFirst (hSame ▸ hOther)) ?_
    · refine (List.mem_insertionSort r).mp ?_
      rw [hSplit]
      exact List.mem_append_left _ hOther
    · exact (List.pairwise_append.mp hSorted).2.2 other hOther row List.mem_cons_self
  have hLength : first.length < limit := by
    have hPerm := (List.perm_insertionSort r rows).countP_eq before
    rw [hSplit, List.countP_append, hCount] at hPerm
    omega
  obtain ⟨more, rfl⟩ := Nat.exists_eq_add_of_lt hLength
  rw [hSplit, Nat.add_assoc, List.take_length_add_append, List.take_succ_cons]
  exact List.mem_append_right _ List.mem_cons_self

/-- `GROUP BY key`. -/
def groupBy (key : α → κ) (rows : List α) : List (κ × List α) :=
  (rows.map key).dedup.map fun k => (k, rows.filter fun row => key row = k)

theorem mem_groupBy {key : α → κ} {rows : List α} {group : κ × List α} :
    group ∈ groupBy key rows ↔
      group.1 ∈ rows.map key ∧ group.2 = rows.filter fun row => key row = group.1 := by
  rw [groupBy, List.mem_map]
  constructor
  · rintro ⟨k, hk, rfl⟩
    exact ⟨List.mem_dedup.mp hk, rfl⟩
  · rintro ⟨hk, hRows⟩
    exact ⟨group.1, List.mem_dedup.mpr hk, Prod.ext rfl hRows.symm⟩

end Joins

/-! ## Aggregates -/

section Aggregates

variable (op : α → α → α)

/-- An aggregate function of SQL: NULLs are passed over, and no values give NULL. -/
def aggregate (values : List (Option α)) : Option α := values.foldr (Option.merge op) none

@[simp] theorem aggregate_nil : aggregate op [] = none := rfl

@[simp] theorem aggregate_cons (value : Option α) (values : List (Option α)) :
    aggregate op (value :: values) = Option.merge op value (aggregate op values) := rfl

theorem merge_none (x : Option α) : Option.merge op none x = x := by
  cases x <;> rfl

theorem merge_eq_none {x y : Option α} : Option.merge op x y = none ↔ x = none ∧ y = none := by
  cases x <;> cases y <;> simp [Option.merge]

/-- Absent exactly where absent everywhere. -/
theorem aggregate_eq_none {values : List (Option α)} :
    aggregate op values = none ↔ ∀ value ∈ values, value = none := by
  induction values with
  | nil => simp
  | cons value values ih => rw [aggregate_cons, merge_eq_none, ih, List.forall_mem_cons]

section Associative

variable [Std.Associative op]

theorem aggregate_append (values more : List (Option α)) :
    aggregate op (values ++ more) = Option.merge op (aggregate op values) (aggregate op more) := by
  induction values with
  | nil => exact (merge_none op _).symm
  | cons value values ih =>
    rw [List.cons_append, aggregate_cons, ih, aggregate_cons]
    exact ((Option.associative_merge op).assoc _ _ _).symm

/-- **The aggregate of parts** is the aggregate of their aggregates. -/
theorem aggregate_flatMap (parts : List β) (values : β → List (Option α)) :
    aggregate op (parts.flatMap values) =
      aggregate op (parts.map fun part => aggregate op (values part)) := by
  induction parts with
  | nil => rfl
  | cons part parts ih =>
    rw [List.flatMap_cons, aggregate_append, ih, List.map_cons, aggregate_cons]

end Associative

end Aggregates

/-- A sum is the sum of the values that are there. -/
theorem getD_aggregate_add (values : List (Option Nat)) :
    (aggregate (· + ·) values).getD 0 = (values.map fun value => value.getD 0).sum := by
  induction values with
  | nil => rfl
  | cons value values ih =>
    rw [aggregate_cons, List.map_cons, List.sum_cons, ← ih]
    cases value <;> cases aggregate (· + ·) values <;> simp [Option.merge]

/-- A sum bounds its summands. -/
theorem le_of_aggregate_add {values : List (Option Nat)} {total n : Nat}
    (hTotal : aggregate (· + ·) values = some total) (hMem : some n ∈ values) : n ≤ total := by
  have hSum := getD_aggregate_add values
  rw [hTotal, Option.getD_some] at hSum
  rw [hSum]
  exact List.single_le_sum (fun _ _ => Nat.zero_le _) n (List.mem_map.mpr ⟨some n, hMem, rfl⟩)

/-- The aggregate that keeps the greater of two values is the greatest value. -/
theorem aggregate_greatest {γ : Type} [LinearOrder γ] {f : α → γ} (hf : Function.Injective f)
    {values : List (Option α)} {a : α} :
    aggregate (fun a b => if f a ≤ f b then b else a) values = some a ↔
      some a ∈ values ∧ ∀ b, some b ∈ values → f b ≤ f a := by
  induction values generalizing a with
  | nil => simp
  | cons value values ih =>
    rw [aggregate_cons]
    cases value with
    | none =>
      rw [merge_none, ih]
      simp
    | some c =>
      cases hRest : aggregate (fun a b => if f a ≤ f b then b else a) values with
      | none =>
        have hNone := (aggregate_eq_none _).mp hRest
        constructor
        · rintro h
          injection h with h
          subst h
          refine ⟨List.mem_cons_self .., fun b hb => ?_⟩
          rcases List.mem_cons.mp hb with hb | hb
          · injection hb with hb
            exact hb ▸ le_rfl
          · exact absurd (hNone _ hb) (by simp)
        · rintro ⟨hMem, -⟩
          rcases List.mem_cons.mp hMem with hMem | hMem
          · injection hMem with hMem
            exact hMem ▸ rfl
          · exact absurd (hNone _ hMem) (by simp)
      | some rest =>
        obtain ⟨hMem, hGreatest⟩ := ih.mp hRest
        show some (if f c ≤ f rest then rest else c) = some a ↔ _
        constructor
        · intro h
          injection h with h
          split at h
          · rename_i hle
            subst h
            refine ⟨List.mem_cons_of_mem _ hMem, fun b hb => ?_⟩
            rcases List.mem_cons.mp hb with hb | hb
            · injection hb with hb
              exact hb ▸ hle
            · exact hGreatest b hb
          · rename_i hlt
            subst h
            refine ⟨List.mem_cons_self .., fun b hb => ?_⟩
            rcases List.mem_cons.mp hb with hb | hb
            · injection hb with hb
              exact hb ▸ le_rfl
            · exact (hGreatest b hb).trans (le_of_not_ge hlt)
        · rintro ⟨hMem', hGreatest'⟩
          -- both are greatest, so they are one value
          refine congrArg some (hf (le_antisymm ?_ ?_))
          · split
            · exact hGreatest' rest (List.mem_cons_of_mem _ hMem)
            · exact hGreatest' c (List.mem_cons_self ..)
          · rcases List.mem_cons.mp hMem' with hMem' | hMem'
            · injection hMem' with hMem'
              subst hMem'
              split
              · assumption
              · exact le_rfl
            · have hLe := hGreatest a hMem'
              split
              · exact hLe
              · rename_i hlt
                exact hLe.trans (le_of_not_ge hlt)

end Query
