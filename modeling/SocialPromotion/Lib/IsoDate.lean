import Mathlib.Algebra.BigOperators.Group.List.Basic
import Mathlib.Tactic.Ring

/-!
# Dates in ISO format

The proleptic Gregorian calendar over a time value, the number of milliseconds since the
epoch, as ECMAScript computes it, and the text that `toISOString` makes of a time value.

* `IsoDate.value_fields`: year, month, day and time of day make the time value again;
* `IsoDate.parse_toISOString`: the text is read as the time value that it was made of.
-/

namespace IsoDate

/-! ## Years -/

/-- The day on which a year begins, counted from 1970-01-01. -/
def dayFromYear (year : Int) : Int :=
  365 * (year - 1970) + (year - 1969) / 4 - (year - 1901) / 100 + (year - 1601) / 400

def isLeap (year : Int) : Bool := year % 4 = 0 && (year % 100 ≠ 0 || year % 400 = 0)

/-- The year of a day: the centuries, the groups of four years and the years that have passed
of a cycle of 400 years, one of which begins with 1601. -/
def yearFromDay (day : Int) : Int :=
  let sinceCycle := (day + 134774) % 146097
  let century := min 3 (sinceCycle / 36524)
  let sinceCentury := sinceCycle - 36524 * century
  let four := sinceCentury / 1461
  let sinceFour := sinceCentury % 1461
  let year := min 3 (sinceFour / 365)
  1601 + 400 * ((day + 134774) / 146097) + 100 * century + 4 * four + year

theorem dayFromYear_succ (year : Int) :
    dayFromYear (year + 1) = dayFromYear year + (if isLeap year then 366 else 365) := by
  have hLeap : isLeap year = true ↔ year % 4 = 0 ∧ (year % 100 ≠ 0 ∨ year % 400 = 0) := by
    simp only [isLeap, Bool.and_eq_true, Bool.or_eq_true, decide_eq_true_eq]
  unfold dayFromYear
  split
  · rename_i h
    rw [hLeap] at h
    omega
  · rename_i h
    rw [hLeap] at h
    omega

section Cycle

variable (q : Int) {c k y : Int} (hc : 0 ≤ c ∧ c ≤ 3) (hk : 0 ≤ k ∧ k ≤ 24) (hy : 0 ≤ y ∧ y ≤ 3)

include hc hk hy in
theorem dayFromYear_cycle : dayFromYear (1601 + 400 * q + 100 * c + 4 * k + y) =
    -134774 + 146097 * q + 36524 * c + 1461 * k + 365 * y := by
  have h4 : (1601 + 400 * q + 100 * c + 4 * k + y - 1969) / 4 = 100 * q + 25 * c + k - 92 := by
    omega
  have h100 : (1601 + 400 * q + 100 * c + 4 * k + y - 1901) / 100 = 4 * q + c - 3 := by omega
  have h400 : (1601 + 400 * q + 100 * c + 4 * k + y - 1601) / 400 = q := by omega
  rw [dayFromYear, h4, h100, h400]
  omega

include hc hk hy in
theorem isLeap_cycle : isLeap (1601 + 400 * q + 100 * c + 4 * k + y) = true ↔
    y = 3 ∧ (k = 24 → c = 3) := by
  simp only [isLeap, Bool.and_eq_true, Bool.or_eq_true, decide_eq_true_eq]
  omega

include hc hk hy in
/-- A day of the cycle lies in the year that its parts name. -/
theorem mem_year_cycle {r : Int} (hr : 365 * y ≤ r ∧ (r < 365 * y + 365 ∨ y = 3 ∧ r < 1461))
    (hCentury : 1461 * k + r < 36524 ∨ c = 3) :
    dayFromYear (1601 + 400 * q + 100 * c + 4 * k + y) ≤
        -134774 + 146097 * q + 36524 * c + 1461 * k + r ∧
      -134774 + 146097 * q + 36524 * c + 1461 * k + r <
        dayFromYear (1601 + 400 * q + 100 * c + 4 * k + y + 1) := by
  have hLeap := isLeap_cycle q hc hk hy
  rw [dayFromYear_succ, dayFromYear_cycle q hc hk hy]
  split
  · omega
  · rename_i hYear
    rw [hLeap] at hYear
    omega

end Cycle

/-- **A day** lies in its year. -/
theorem yearFromDay_spec (day : Int) :
    dayFromYear (yearFromDay day) ≤ day ∧ day < dayFromYear (yearFromDay day + 1) := by
  unfold yearFromDay
  dsimp only
  obtain ⟨n, hn⟩ : ∃ n, n = (day + 134774) % 146097 := ⟨_, rfl⟩
  obtain ⟨q, hq⟩ : ∃ q, q = (day + 134774) / 146097 := ⟨_, rfl⟩
  obtain ⟨c, hc⟩ : ∃ c, c = min 3 (n / 36524) := ⟨_, rfl⟩
  obtain ⟨m, hm⟩ : ∃ m, m = n - 36524 * c := ⟨_, rfl⟩
  obtain ⟨k, hk⟩ : ∃ k, k = m / 1461 := ⟨_, rfl⟩
  obtain ⟨r, hr⟩ : ∃ r, r = m % 1461 := ⟨_, rfl⟩
  obtain ⟨y, hy⟩ : ∃ y, y = min 3 (r / 365) := ⟨_, rfl⟩
  rw [← hn, ← hq, ← hc, ← hm, ← hk, ← hr, ← hy]
  have hDay : day = -134774 + 146097 * q + n ∧ 0 ≤ n ∧ n < 146097 := by omega
  have hCentury : 0 ≤ c ∧ c ≤ 3 ∧ 36524 * c ≤ n ∧ (n < 36524 * c + 36524 ∨ c = 3) := by omega
  have hFour : m = 1461 * k + r ∧ 0 ≤ r ∧ r < 1461 := by omega
  have hYear : 0 ≤ y ∧ y ≤ 3 ∧ 365 * y ≤ r ∧ (r < 365 * y + 365 ∨ y = 3) := by omega
  clear hn hq hc hk hr hy
  have hSame : day = -134774 + 146097 * q + 36524 * c + 1461 * k + r := by omega
  rw [hSame]
  exact mem_year_cycle q ⟨hCentury.1, hCentury.2.1⟩ (by omega) ⟨hYear.1, hYear.2.1⟩ (by omega)
    (by omega)

/-! ## Months -/

def monthLengths (leap : Bool) : List Nat :=
  [31, if leap then 29 else 28, 31, 30, 31, 30, 31, 31, 30, 31, 30, 31]

/-- The months before a day and the days of its own month before it. -/
def monthFromDay : List Nat → Nat → Nat × Nat
  | [], day => (0, day)
  | length :: rest, day =>
    if day < length then (0, day)
    else
      let later := monthFromDay rest (day - length)
      (later.1 + 1, later.2)

theorem monthFromDay_spec {lengths : List Nat} {day : Nat} (h : day < lengths.sum) :
    (lengths.take (monthFromDay lengths day).1).sum + (monthFromDay lengths day).2 = day ∧
      ∃ length, lengths[(monthFromDay lengths day).1]? = some length ∧
        (monthFromDay lengths day).2 < length := by
  induction lengths generalizing day with
  | nil => exact absurd h (Nat.not_lt_zero day)
  | cons length rest ih =>
    rw [monthFromDay]
    by_cases hDay : day < length
    · rw [if_pos hDay]
      exact ⟨Nat.zero_add day, length, rfl, hDay⟩
    · rw [if_neg hDay]
      have hRest : day - length < rest.sum := by
        rw [List.sum_cons] at h
        omega
      obtain ⟨hSum, hLength⟩ := ih hRest
      refine ⟨?_, hLength⟩
      dsimp only
      rw [List.take_succ_cons, List.sum_cons]
      omega

theorem sum_monthLengths (leap : Bool) :
    (monthLengths leap).sum = if leap then 366 else 365 := by
  cases leap <;> rfl

/-! ## Fields -/

structure Fields where
  year : Int
  month : Nat
  day : Nat
  hour : Nat
  minute : Nat
  second : Nat
  millisecond : Nat

/-- The fields of a time value. -/
def fields (t : Int) : Fields :=
  let day := t / 86400000
  let time := (t % 86400000).toNat
  let year := yearFromDay day
  let month := monthFromDay (monthLengths (isLeap year)) (day - dayFromYear year).toNat
  { year := year
    month := month.1 + 1
    day := month.2 + 1
    hour := time / 3600000
    minute := time / 60000 % 60
    second := time / 1000 % 60
    millisecond := time % 1000 }

/-- The days before a date. -/
def Fields.dayNumber (f : Fields) : Int :=
  dayFromYear f.year + (((monthLengths (isLeap f.year)).take (f.month - 1)).sum + (f.day - 1) : Nat)

def Fields.timeOfDay (f : Fields) : Nat :=
  f.hour * 3600000 + f.minute * 60000 + f.second * 1000 + f.millisecond

def Fields.value (f : Fields) : Int := f.dayNumber * 86400000 + f.timeOfDay

/-- The fields name a day of the calendar and a time of it; 24:00 is the end of the day. -/
def Fields.IsLegal (f : Fields) : Prop :=
  (1 ≤ f.month ∧ 1 ≤ f.day ∧ f.day ≤ (monthLengths (isLeap f.year)).getD (f.month - 1) 0) ∧
    f.minute ≤ 59 ∧ f.second ≤ 59 ∧ f.millisecond ≤ 999 ∧ f.timeOfDay ≤ 86400000

instance (f : Fields) : Decidable f.IsLegal := inferInstanceAs (Decidable (_ ∧ _))

theorem day_lt_length (day : Int) :
    (day - dayFromYear (yearFromDay day)).toNat <
      (monthLengths (isLeap (yearFromDay day))).sum := by
  have hYear := yearFromDay_spec day
  rw [dayFromYear_succ] at hYear
  rw [sum_monthLengths]
  split at hYear <;> split <;> omega

theorem dayNumber_fields (t : Int) : (fields t).dayNumber = t / 86400000 := by
  have hYear := (yearFromDay_spec (t / 86400000)).1
  have hMonth := (monthFromDay_spec (day_lt_length (t / 86400000))).1
  simp only [Fields.dayNumber, fields, Nat.add_sub_cancel, hMonth]
  omega

theorem timeOfDay_fields (t : Int) : (fields t).timeOfDay = (t % 86400000).toNat := by
  simp only [Fields.timeOfDay, fields]
  omega

/-- **The calendar loses nothing.** -/
theorem value_fields (t : Int) : (fields t).value = t := by
  rw [Fields.value, dayNumber_fields, timeOfDay_fields]
  omega

theorem isLegal_fields (t : Int) : (fields t).IsLegal := by
  obtain ⟨-, length, hLength, hDay⟩ := monthFromDay_spec (day_lt_length (t / 86400000))
  have hTime := timeOfDay_fields t
  constructor
  · have hFound : (monthLengths (isLeap (fields t).year)).getD ((fields t).month - 1) 0 = length :=
      congrArg (fun o : Option Nat => o.getD 0) hLength
    rw [hFound]
    exact ⟨Nat.succ_pos _, Nat.succ_pos _, hDay⟩
  · rw [hTime]
    simp only [fields]
    omega

/-! ## Texts -/

/-- The last digits of a number. -/
def padded : Nat → Nat → List Char
  | 0, _ => []
  | width + 1, n => Nat.digitChar (n / 10 ^ width % 10) :: padded width n

/-- Four digits, or a sign and six. -/
def yearText (year : Int) : List Char :=
  if 0 ≤ year ∧ year ≤ 9999 then padded 4 year.toNat
  else (if year < 0 then '-' else '+') :: padded 6 year.natAbs

/-- `YYYY-MM-DDTHH:mm:ss.sssZ`. -/
def Fields.text (f : Fields) : List Char :=
  yearText f.year ++ '-' :: (padded 2 f.month ++ '-' :: (padded 2 f.day ++ 'T' ::
    (padded 2 f.hour ++ ':' :: (padded 2 f.minute ++ ':' :: (padded 2 f.second ++ '.' ::
      (padded 3 f.millisecond ++ ['Z']))))))

def toISOString (t : Int) : List Char := (fields t).text

/-- A number of so many digits. -/
def readPadded : Nat → Nat → List Char → Option (Nat × List Char)
  | 0, n, text => some (n, text)
  | width + 1, n, c :: rest =>
    if c.isDigit then readPadded width (n * 10 + (c.toNat - 48)) rest else none
  | _ + 1, _, [] => none

def expect (c : Char) : List Char → Option (List Char)
  | d :: rest => if d = c then some rest else none
  | [] => none

/-- The year zero has no sign. -/
def readYear : List Char → Option (Int × List Char)
  | '+' :: rest => (readPadded 6 0 rest).map fun e => ((e.1 : Int), e.2)
  | '-' :: rest => do
    let (year, rest) ← readPadded 6 0 rest
    guard (year ≠ 0)
    return (-(year : Int), rest)
  | text => (readPadded 4 0 text).map fun e => ((e.1 : Int), e.2)

/-- The fields of a text in the form that `toISOString` writes. -/
def readFields (text : List Char) : Option Fields := do
  let (year, rest) ← readYear text
  let (month, rest) ← readPadded 2 0 (← expect '-' rest)
  let (day, rest) ← readPadded 2 0 (← expect '-' rest)
  let (hour, rest) ← readPadded 2 0 (← expect 'T' rest)
  let (minute, rest) ← readPadded 2 0 (← expect ':' rest)
  let (second, rest) ← readPadded 2 0 (← expect ':' rest)
  let (millisecond, rest) ← readPadded 3 0 (← expect '.' rest)
  guard (rest = ['Z'])
  return { year, month, day, hour, minute, second, millisecond }

/-- The time value of a text in that form. -/
def parse (text : List Char) : Option Int :=
  ((readFields text).filter fun f => f.IsLegal).map Fields.value

theorem digitChar_spec_all : ∀ d < 10,
    (Nat.digitChar d).isDigit = true ∧ (Nat.digitChar d).toNat - 48 = d := by decide

theorem readPadded_padded (width n m : Nat) (rest : List Char) :
    readPadded width m (padded width n ++ rest) = some (m * 10 ^ width + n % 10 ^ width, rest) := by
  induction width generalizing m with
  | zero =>
    rw [padded, List.nil_append, readPadded, Nat.pow_zero, Nat.mod_one, Nat.mul_one, Nat.add_zero]
  | succ width ih =>
    obtain ⟨hDigit, hValue⟩ := digitChar_spec_all (n / 10 ^ width % 10) (Nat.mod_lt _ (by decide))
    rw [padded, List.cons_append, readPadded, if_pos hDigit, hValue, ih, Nat.mod_pow_succ]
    congr 2
    ring

theorem readPadded_of_lt {width n : Nat} (h : n < 10 ^ width) (rest : List Char) :
    readPadded width 0 (padded width n ++ rest) = some (n, rest) := by
  rw [readPadded_padded, Nat.mod_eq_of_lt h, Nat.zero_mul, Nat.zero_add]

theorem isDigit_of_mem_padded {width n : Nat} {c : Char} (h : c ∈ padded width n) :
    c.isDigit = true := by
  induction width with
  | zero => exact absurd h List.not_mem_nil
  | succ width ih =>
    rcases List.mem_cons.mp h with rfl | h
    · exact (digitChar_spec_all _ (Nat.mod_lt _ (by decide))).1
    · exact ih h

/-- The characters of a date. -/
def IsDateChar (c : Char) : Prop := c.isDigit = true ∨ c ∈ ['+', '-', 'T', ':', '.', 'Z']

theorem dateChar_of_mem_padded {width n : Nat} {c : Char} (h : c ∈ padded width n) :
    IsDateChar c :=
  Or.inl (isDigit_of_mem_padded h)

theorem dateChar_of_mem_yearText {year : Int} {c : Char} (h : c ∈ yearText year) :
    IsDateChar c := by
  unfold yearText at h
  split at h
  · exact dateChar_of_mem_padded h
  · rcases List.mem_cons.mp h with rfl | h
    · right
      split <;> decide
    · exact dateChar_of_mem_padded h

theorem dateChar_of_mem_toISOString {t : Int} {c : Char} (h : c ∈ toISOString t) :
    IsDateChar c := by
  simp only [toISOString, Fields.text, List.mem_append, List.mem_cons, List.not_mem_nil,
    or_false] at h
  rcases h with h | rfl | h | rfl | h | rfl | h | rfl | h | rfl | h | rfl | h | rfl
  · exact dateChar_of_mem_yearText h
  all_goals first | exact dateChar_of_mem_padded h | exact Or.inr (by decide)

theorem expect_cons (c : Char) (rest : List Char) : expect c (c :: rest) = some rest := if_pos rfl

/-- A year of four digits does not begin with a sign. -/
theorem readYear_padded (n : Nat) (rest : List Char) :
    readYear (padded 4 n ++ rest) =
      (readPadded 4 0 (padded 4 n ++ rest)).map fun e => ((e.1 : Int), e.2) := by
  have hSign : ∀ d < 10, Nat.digitChar d ≠ '+' ∧ Nat.digitChar d ≠ '-' := by decide
  obtain ⟨hPlus, hMinus⟩ := hSign (n / 10 ^ 3 % 10) (Nat.mod_lt _ (by decide))
  rw [padded, List.cons_append, readYear.eq_3]
  · intro rest' h
    exact hPlus (List.cons.inj h).1
  · intro rest' h
    exact hMinus (List.cons.inj h).1

theorem readYear_yearText {year : Int} (h : -1000000 < year ∧ year < 1000000) (rest : List Char) :
    readYear (yearText year ++ rest) = some (year, rest) := by
  unfold yearText
  split
  · rename_i hFour
    have hLt : year.toNat < 10 ^ 4 := by omega
    have hYear : (year.toNat : Int) = year := by omega
    rw [readYear_padded, readPadded_of_lt hLt, Option.map_some, hYear]
  · have hLt : year.natAbs < 10 ^ 6 := by omega
    split
    · rename_i hNeg
      have hNe : year.natAbs ≠ 0 := by omega
      have hYear : -(year.natAbs : Int) = year := by omega
      rw [List.cons_append, readYear, readPadded_of_lt hLt]
      simp only [Option.bind_eq_bind, Option.bind_some, guard, hNe, ne_eq, not_false_eq_true, hYear]
      rfl
    · have hYear : (year.natAbs : Int) = year := by omega
      rw [List.cons_append, readYear, readPadded_of_lt hLt, Option.map_some, hYear]

/-- Fields that have as many digits as their text. -/
structure Fields.Fits (f : Fields) : Prop where
  year : -1000000 < f.year ∧ f.year < 1000000
  month : f.month < 10 ^ 2
  day : f.day < 10 ^ 2
  hour : f.hour < 10 ^ 2
  minute : f.minute < 10 ^ 2
  second : f.second < 10 ^ 2
  millisecond : f.millisecond < 10 ^ 3

theorem readFields_text {f : Fields} (h : f.Fits) : readFields f.text = some f := by
  have hBind : ∀ {α β : Type} (a : α) (f : α → Option β), (some a >>= f) = f a :=
    fun _ _ => rfl
  unfold readFields Fields.text
  rw [readYear_yearText h.year, hBind]
  dsimp only
  rw [expect_cons, hBind, readPadded_of_lt h.month, hBind]
  dsimp only
  rw [expect_cons, hBind, readPadded_of_lt h.day, hBind]
  dsimp only
  rw [expect_cons, hBind, readPadded_of_lt h.hour, hBind]
  dsimp only
  rw [expect_cons, hBind, readPadded_of_lt h.minute, hBind]
  dsimp only
  rw [expect_cons, hBind, readPadded_of_lt h.second, hBind]
  dsimp only
  rw [expect_cons, hBind, readPadded_of_lt h.millisecond, hBind]
  rfl

theorem month_le_twelve {leap : Bool} {n length : Nat} (h : (monthLengths leap)[n]? = some length) :
    n < 12 ∧ length ≤ 31 := by
  have hN : n < (monthLengths leap).length := (List.getElem?_eq_some_iff.mp h).1
  have hAll : ∀ length ∈ monthLengths leap, length ≤ 31 := by cases leap <;> decide
  exact ⟨hN, hAll _ (List.mem_of_getElem? h)⟩

/-- The fields of a time value within 10^8 days of the epoch fit their text. -/
theorem fits_fields {t : Int} (h : -8640000000000000 ≤ t ∧ t ≤ 8640000000000000) :
    (fields t).Fits := by
  obtain ⟨-, length, hLength, hDay⟩ := monthFromDay_spec (day_lt_length (t / 86400000))
  obtain ⟨hMonth, hThirtyOne⟩ := month_le_twelve hLength
  constructor
  · simp only [fields, yearFromDay]
    omega
  · simp only [fields]
    omega
  · simp only [fields]
    omega
  all_goals
    simp only [fields]
    omega

/-- **The round trip of a date.** -/
theorem parse_toISOString {t : Int} (h : -8640000000000000 ≤ t ∧ t ≤ 8640000000000000) :
    parse (toISOString t) = some t := by
  rw [parse, toISOString, readFields_text (fits_fields h), Option.filter_some,
    if_pos (decide_eq_true (isLegal_fields t)), Option.map_some, value_fields]

end IsoDate
