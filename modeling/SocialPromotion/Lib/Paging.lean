import Mathlib.Data.List.Sort
import SocialPromotion.Lib.Transition

/-!
# Keyset paging

A reader takes the rows of a table page by page, in descending order of a key that no two rows
share. It remembers the key of the last row that it received, asks for the rows below it, one
more than a page holds, and stops at a page after which nothing is left. Between two pages the
table may change.

* `Reading.complete`: while the changes leave the rows below the cursor alone, what was received
  and what is left make up the rows of the first page's table, in order;
* `Reading.pages_le`: no more pages than that many rows fill, and one.
-/

namespace Paging

open LTS

variable {α κ : Type} [LinearOrder κ] (key : α → κ)

/-! ## Rows in order -/

/-- The rows below a cursor; without a cursor, all of them. -/
def below (cursor : Option κ) (rows : List α) : List α :=
  rows.filter fun row => cursor.all fun k => key row < k

/-- `ORDER BY key DESC`. -/
def descending (rows : List α) : List α := rows.insertionSort fun a b => key b ≤ key a

/-- Strictly descending keys. -/
def Descends (rows : List α) : Prop := rows.Pairwise fun a b => key b < key a

/-- `ORDER BY key DESC LIMIT count` over the rows below a cursor. -/
def page (cursor : Option κ) (count : Nat) (rows : List α) : List α :=
  (descending key (below key cursor rows)).take count

variable {key} {cursor : Option κ} {rows rows' : List α}

theorem mem_below {row : α} :
    row ∈ below key cursor rows ↔ row ∈ rows ∧ ∀ k ∈ cursor, key row < k := by
  rw [below, List.mem_filter, Option.all_eq_true]
  simp only [decide_eq_true_eq, Option.mem_def]

theorem mem_descending {row : α} : row ∈ descending key rows ↔ row ∈ rows :=
  List.mem_insertionSort _

theorem descends_descending (h : (rows.map key).Nodup) : Descends key (descending key rows) := by
  have : Std.Total fun a b : α => key b ≤ key a := ⟨fun a b => le_total _ _⟩
  have : IsTrans α fun a b => key b ≤ key a := ⟨fun a b c hab hbc => hbc.trans hab⟩
  have hSorted := List.pairwise_insertionSort (fun a b : α => key b ≤ key a) rows
  have hNodup : ((descending key rows).map key).Nodup :=
    ((List.perm_insertionSort _ rows).map key).nodup_iff.mpr h
  have hNe : (descending key rows).Pairwise fun a b => key a ≠ key b := List.pairwise_map.mp hNodup
  exact (hSorted.and hNe).imp fun h => lt_of_le_of_ne h.1 (Ne.symm h.2)

/-- Two descending lists of the same rows are one. -/
theorem Descends.eq_of_mem_iff (h : Descends key rows) (h' : Descends key rows')
    (hMem : ∀ row, row ∈ rows ↔ row ∈ rows') : rows = rows' := by
  have : Std.Antisymm fun a b : α => key b < key a := ⟨fun a b hab hba => absurd hba hab.asymm⟩
  have : Std.Irrefl fun a b : α => key b < key a := ⟨fun a => lt_irrefl _⟩
  exact List.Pairwise.eq_of_mem_iff h h' hMem

/-- Below the last row of a page stand the rows after the page. -/
theorem Descends.filter_lt (h : Descends key rows) {n : Nat} {last : α}
    (hLast : rows[n]? = some last) :
    rows.filter (fun row => key row < key last) = rows.drop (n + 1) := by
  induction rows generalizing n with
  | nil => simp at hLast
  | cons row rows ih =>
    obtain ⟨hRow, hRows⟩ := List.pairwise_cons.mp h
    cases n with
    | zero =>
      obtain rfl : row = last := Option.some.inj hLast
      have hAll : rows.filter (fun other => key other < key row) = rows :=
        List.filter_eq_self.mpr fun other hOther => decide_eq_true (hRow other hOther)
      rw [List.filter_cons_of_neg (by simp), hAll]
      rfl
    | succ n =>
      have hMem : last ∈ rows := List.mem_of_getElem? hLast
      rw [List.filter_cons_of_neg (by simpa using (hRow last hMem).le), ih hRows hLast]
      rfl

theorem nodup_below (h : (rows.map key).Nodup) : ((below key cursor rows).map key).Nodup :=
  h.sublist (List.filter_sublist.map key)

/-- What is left below the last row of a page. -/
theorem descending_below_last (h : (rows.map key).Nodup) {n : Nat} {last : α}
    (hLast : (descending key (below key cursor rows))[n]? = some last) :
    descending key (below key (some (key last)) rows) =
      (descending key (below key cursor rows)).drop (n + 1) := by
  have hDescends := descends_descending (@nodup_below _ _ _ key cursor rows h)
  rw [← hDescends.filter_lt hLast]
  refine (descends_descending (nodup_below h)).eq_of_mem_iff (hDescends.filter _) fun row => ?_
  rw [List.mem_filter, mem_descending, mem_descending, mem_below, mem_below, decide_eq_true_eq]
  have hBelow := (mem_below.mp (mem_descending.mp (List.mem_of_getElem? hLast))).2
  constructor
  · rintro ⟨hRow, hLt⟩
    have hLt := hLt _ rfl
    exact ⟨⟨hRow, fun k hk => hLt.trans (hBelow k hk)⟩, hLt⟩
  · rintro ⟨⟨hRow, -⟩, hLt⟩
    exact ⟨hRow, fun k hk => Option.mem_some_iff.mp hk ▸ hLt⟩

/-! ## The reader -/

/-- A table and its reader. -/
structure Reading (α κ : Type) where
  rows : List α
  cursor : Option κ
  pages : List (List α)
  finished : Bool

inductive Event (α : Type)
  | page
  | change (rows : List α)

namespace Reading

variable (key) in
/-- One page: a row beyond the limit tells that there are more. -/
def read (limit : Nat) (s : Reading α κ) : Reading α κ :=
  let found := Paging.page key s.cursor (limit + 1) s.rows
  let items := found.take limit
  if limit < found.length then
    { s with cursor := items.getLast?.map key, pages := s.pages ++ [items] }
  else { s with cursor := none, pages := s.pages ++ [items], finished := true }

variable (key) in
def step (limit : Nat) (s : Reading α κ) : Event α → Option (Reading α κ)
  | .page => if s.finished then none else some (s.read key limit)
  | .change rows => some { s with rows := rows }

variable (key) in
def system (limit : Nat) : System (Reading α κ) (Event α) where
  Initial s := s.cursor = none ∧ s.pages = [] ∧ s.finished = false
  step := step key limit

variable (key) in
/-- A change leaves the rows alone that are still to be read. -/
def Undisturbed (s : Reading α κ) : Event α → Prop
  | .page => True
  | .change rows => (rows.map key).Nodup ∧ (s.finished = false →
      ∀ row, (∀ k ∈ s.cursor, key row < k) → (row ∈ rows ↔ row ∈ s.rows))

variable (key) in
/-- The rows that are still to be read. -/
def left (s : Reading α κ) : List α :=
  if s.finished then [] else descending key (below key s.cursor s.rows)

variable (key) in
/-- What holds of a reading of `all`. -/
structure Good (limit : Nat) (all : List α) (s : Reading α κ) : Prop where
  nodup : (s.rows.map key).Nodup
  accounts : s.pages.flatten ++ s.left key = all
  full : s.pages.length * limit ≤ s.pages.flatten.length + if s.finished then limit else 0

variable {limit : Nat} {all : List α} {s t : Reading α κ}

/-- A further page continues the pages before it. -/
theorem good_read (hLimit : 1 ≤ limit) (h : s.Good key limit all) (hOpen : s.finished = false) :
    (s.read key limit).Good key limit all := by
  obtain ⟨hNodup, hAccounts, hFull⟩ := h
  rw [left, hOpen, if_neg Bool.false_ne_true] at hAccounts
  rw [hOpen, if_neg Bool.false_ne_true, Nat.add_zero] at hFull
  unfold read Paging.page
  dsimp only
  generalize hSorted : descending key (below key s.cursor s.rows) = sorted at *
  have hTake : (sorted.take (limit + 1)).take limit = sorted.take limit := by
    rw [List.take_take, Nat.min_eq_left (Nat.le_succ limit)]
  rw [hTake]
  split
  · rename_i hMore
    rw [List.length_take] at hMore
    have hLength : limit < sorted.length := by omega
    obtain ⟨n, rfl⟩ : ∃ n, limit = n + 1 := ⟨limit - 1, by omega⟩
    obtain ⟨last, hLast⟩ : ∃ last, sorted[n]? = some last :=
      ⟨_, List.getElem?_eq_getElem (by omega)⟩
    have hGetLast : (sorted.take (n + 1)).getLast? = some last := by
      rw [List.getLast?_take, if_neg (Nat.succ_ne_zero n), Nat.add_sub_cancel, hLast]
      rfl
    have hLeft := descending_below_last hNodup (hSorted.symm ▸ hLast)
    rw [hSorted] at hLeft
    refine ⟨hNodup, ?_, ?_⟩
    · rw [left, hOpen, if_neg Bool.false_ne_true, hGetLast, Option.map_some, hLeft,
        List.flatten_append, List.flatten_singleton, List.append_assoc, List.take_append_drop,
        hAccounts]
    · rw [hOpen, if_neg Bool.false_ne_true, List.length_append, List.flatten_append,
        List.length_append, List.flatten_singleton, List.length_take, List.length_singleton,
        Nat.add_mul]
      omega
  · rename_i hMore
    rw [List.length_take] at hMore
    have hLength : sorted.length ≤ limit := by omega
    refine ⟨hNodup, ?_, ?_⟩
    · rw [left, if_pos rfl, List.append_nil, List.flatten_append, List.flatten_singleton,
        List.take_of_length_le hLength, hAccounts]
    · rw [if_pos rfl, List.length_append, List.flatten_append, List.length_append,
        List.length_singleton, Nat.add_mul]
      omega

/-- A change that leaves the rows below the cursor alone leaves what is still to be read. -/
theorem left_change (hNodup : (s.rows.map key).Nodup) (hRows : (rows.map key).Nodup)
    (hSame : s.finished = false → ∀ row, (∀ k ∈ s.cursor, key row < k) →
      (row ∈ rows ↔ row ∈ s.rows)) :
    left key { s with rows := rows } = s.left key := by
  unfold left
  dsimp only
  split
  · rfl
  · rename_i hOpen
    refine (descends_descending (nodup_below hRows)).eq_of_mem_iff
      (descends_descending (nodup_below hNodup)) fun row => ?_
    rw [mem_descending, mem_descending, mem_below, mem_below]
    exact and_congr_left fun hBelow => hSame (Bool.eq_false_of_not_eq_true hOpen) row hBelow

theorem good_step (hLimit : 1 ≤ limit) {e : Event α} (h : s.Good key limit all)
    (hOk : Undisturbed key s e) (hStep : step key limit s e = some t) : t.Good key limit all := by
  cases e with
  | page =>
    rw [step] at hStep
    split at hStep
    · cases hStep
    · rename_i hOpen
      exact Option.some.inj hStep ▸ good_read hLimit h (Bool.eq_false_of_not_eq_true hOpen)
  | change rows =>
    obtain ⟨hRows, hSame⟩ := hOk
    obtain rfl := Option.some.inj hStep
    exact ⟨hRows, (left_change h.nodup hRows hSame).symm ▸ h.accounts, h.full⟩

theorem good_run (hLimit : 1 ≤ limit) (hStart : (system key limit).Initial s)
    (hNodup : (s.rows.map key).Nodup) (hRun : Steps (system key limit) (Undisturbed key) s t) :
    t.Good key limit (descending key s.rows) := by
  refine hRun.invariant (fun _ _ _ h hOk hStep => good_step hLimit h hOk hStep) ?_
  obtain ⟨hCursor, hPages, hOpen⟩ := hStart
  refine ⟨hNodup, ?_, ?_⟩
  · have hAll : below key (none : Option κ) s.rows = s.rows :=
      List.filter_eq_self.mpr fun _ _ => rfl
    rw [hPages, left, hOpen, if_neg Bool.false_ne_true, hCursor, hAll]
    rfl
  · rw [hPages, List.length_nil, Nat.zero_mul]
    exact Nat.zero_le _

/-- **Nothing is lost and nothing comes twice.** -/
theorem complete (hLimit : 1 ≤ limit) (hStart : (system key limit).Initial s)
    (hNodup : (s.rows.map key).Nodup) (hRun : Steps (system key limit) (Undisturbed key) s t) :
    t.pages.flatten ++ t.left key = descending key s.rows :=
  (good_run hLimit hStart hNodup hRun).accounts

/-- **The reading ends**, since every page but the last is full. -/
theorem pages_le (hLimit : 1 ≤ limit) (hStart : (system key limit).Initial s)
    (hNodup : (s.rows.map key).Nodup) (hRun : Steps (system key limit) (Undisturbed key) s t) :
    t.pages.length ≤ s.rows.length / limit + 1 := by
  obtain ⟨-, hAccounts, hFull⟩ := good_run hLimit hStart hNodup hRun
  have hLength := congrArg List.length hAccounts
  rw [List.length_append, descending, List.length_insertionSort] at hLength
  have hBound : t.pages.length * limit ≤ s.rows.length + limit := by
    split at hFull <;> omega
  have hQuotient := Nat.div_le_div_right (c := limit) hBound
  rwa [Nat.mul_div_cancel _ hLimit, Nat.add_div_right _ hLimit] at hQuotient

end Reading

end Paging
