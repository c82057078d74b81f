import Mathlib.Data.List.Basic

/-!
# UTF-16

How JavaScript counts a text. A text is the list of its code points, and a surrogate that has no
partner is read as U+FFFD, as it is when the text leaves the process.

* `Utf16.length_slice_le`: a slice is no longer than it was asked to be;
* `Utf16.ofUnits_units`: the code units of a text are read back.
-/

namespace Utf16

/-- The code units of a code point. -/
def units (c : Char) : List Nat :=
  let n := c.toNat
  if n < 0x10000 then [n] else [0xD800 + (n - 0x10000) / 0x400, 0xDC00 + (n - 0x10000) % 0x400]

/-- `text.length`. -/
def length (text : List Char) : Nat := (text.flatMap units).length

def isHighSurrogate (unit : Nat) : Bool := 0xD800 ≤ unit && unit ≤ 0xDBFF
def isLowSurrogate (unit : Nat) : Bool := 0xDC00 ≤ unit && unit ≤ 0xDFFF

/-- The code point of a unit that stands alone. -/
def lone (unit : Nat) : Char :=
  if isHighSurrogate unit || isLowSurrogate unit then Char.ofNat 0xFFFD else Char.ofNat unit

/-- The code points of code units. -/
def ofUnits : List Nat → List Char
  | [] => []
  | [unit] => [lone unit]
  | high :: low :: rest =>
    if isHighSurrogate high && isLowSurrogate low then
      Char.ofNat (0x10000 + (high - 0xD800) * 0x400 + (low - 0xDC00)) :: ofUnits rest
    else lone high :: ofUnits (low :: rest)

/-- `text.slice(0, n)`. -/
def slice (text : List Char) (n : Nat) : List Char := ofUnits ((text.flatMap units).take n)

/-! ## Lengths -/

theorem units_ne_nil (c : Char) : units c ≠ [] := by
  unfold units
  dsimp only
  split <;> simp

theorem length_le (text : List Char) : text.length ≤ length text := by
  induction text with
  | nil => exact Nat.le_refl _
  | cons c text ih =>
    have hUnits : 0 < (units c).length := List.length_pos_iff.mpr (units_ne_nil c)
    have hRest : (text.flatMap units).length = length text := rfl
    rw [length, List.flatMap_cons, List.length_append, List.length_cons]
    omega

theorem length_cons (c : Char) (text : List Char) :
    length (c :: text) = (units c).length + length text := by
  rw [length, List.flatMap_cons, List.length_append, length]

theorem lt_of_mem_units {c : Char} {unit : Nat} (h : unit ∈ units c) : unit < 0x10000 := by
  have hValid : c.toNat < 0xD800 ∨ 0xDFFF < c.toNat ∧ c.toNat < 0x110000 := c.valid
  unfold units at h
  dsimp only at h
  split at h
  · rw [List.mem_singleton] at h
    omega
  · simp only [List.mem_cons, List.not_mem_nil, or_false] at h
    omega

theorem toNat_ofNat {n : Nat} (h : n < 0xD800 ∨ 0xDFFF < n ∧ n < 0x110000) :
    (Char.ofNat n).toNat = n := by
  have hChar : n.isValidChar := h
  rw [Char.ofNat, dif_pos hChar]
  rfl

theorem length_units_lone {unit : Nat} (h : unit < 0x10000) : (units (lone unit)).length = 1 := by
  have hOne : (lone unit).toNat < 0x10000 := by
    unfold lone
    split
    · decide
    · rename_i hNot
      simp only [isHighSurrogate, isLowSurrogate, Bool.or_eq_true, Bool.and_eq_true,
        decide_eq_true_eq, not_or, not_and, Nat.not_le] at hNot
      rw [toNat_ofNat (by omega)]
      exact h
  rw [units, if_pos hOne]
  rfl

theorem length_ofUnits {all : List Nat} (h : ∀ unit ∈ all, unit < 0x10000) :
    length (ofUnits all) = all.length := by
  fun_induction ofUnits all with
  | case1 => rfl
  | case2 unit =>
    rw [length_cons, length_units_lone (h unit List.mem_cons_self)]
    rfl
  | case3 high low rest hPair ih =>
    simp only [isHighSurrogate, isLowSurrogate, Bool.and_eq_true, decide_eq_true_eq] at hPair
    have hRest := ih fun unit hMem => h unit (List.mem_cons_of_mem _ (List.mem_cons_of_mem _ hMem))
    have hCode := toNat_ofNat (n := 0x10000 + (high - 0xD800) * 0x400 + (low - 0xDC00)) (by omega)
    rw [length_cons, hRest, units, if_neg (by omega)]
    exact Nat.add_comm ..
  | case4 high low rest hNot ih =>
    have hRest := ih fun unit hMem => h unit (List.mem_cons_of_mem _ hMem)
    rw [length_cons, hRest, length_units_lone (h high List.mem_cons_self)]
    exact Nat.add_comm ..

theorem length_slice_le (text : List Char) (n : Nat) : length (slice text n) ≤ n := by
  rw [slice, length_ofUnits fun unit hMem => ?_]
  · exact List.length_take_le _ _
  · obtain ⟨c, -, hUnit⟩ := List.mem_flatMap.mp (List.mem_of_mem_take hMem)
    exact lt_of_mem_units hUnit

/-! ## The way back -/

theorem ofUnits_cons {unit : Nat} (h : isHighSurrogate unit = false) (rest : List Nat) :
    ofUnits (unit :: rest) = lone unit :: ofUnits rest := by
  cases rest with
  | nil => rfl
  | cons low rest => rw [ofUnits, h, Bool.false_and, if_neg Bool.false_ne_true]

/-- The code units of one code point are read back. -/
theorem ofUnits_append (c : Char) (rest : List Nat) :
    ofUnits (units c ++ rest) = c :: ofUnits rest := by
  have hValid : c.toNat < 0xD800 ∨ 0xDFFF < c.toNat ∧ c.toNat < 0x110000 := c.valid
  unfold units
  dsimp only
  split
  · have hHigh : isHighSurrogate c.toNat = false := by
      simp only [isHighSurrogate, Bool.and_eq_false_iff, decide_eq_false_iff_not]
      omega
    have hLow : isLowSurrogate c.toNat = false := by
      simp only [isLowSurrogate, Bool.and_eq_false_iff, decide_eq_false_iff_not]
      omega
    rw [List.singleton_append, ofUnits_cons hHigh, lone, hHigh, hLow]
    exact congrArg (· :: _) (Char.ofNat_toNat c)
  · have hPair : (isHighSurrogate (0xD800 + (c.toNat - 0x10000) / 0x400) &&
        isLowSurrogate (0xDC00 + (c.toNat - 0x10000) % 0x400)) = true := by
      simp only [isHighSurrogate, isLowSurrogate, Bool.and_eq_true, decide_eq_true_eq]
      omega
    have hCode : 0x10000 + (0xD800 + (c.toNat - 0x10000) / 0x400 - 0xD800) * 0x400 +
        (0xDC00 + (c.toNat - 0x10000) % 0x400 - 0xDC00) = c.toNat := by omega
    rw [List.cons_append, List.singleton_append, ofUnits, if_pos hPair, hCode, Char.ofNat_toNat]

/-- **The round trip of texts.** -/
theorem ofUnits_units (text : List Char) : ofUnits (text.flatMap units) = text := by
  induction text with
  | nil => rfl
  | cons c text ih => rw [List.flatMap_cons, ofUnits_append, ih]

end Utf16
