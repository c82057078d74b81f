import Mathlib.Data.Nat.Digits.Lemmas
import SocialPromotion.Lib.JsonText

/-!
# Texts of UUIDs

What PostgreSQL reads as a `uuid`, and the text that it writes one as. A UUID is the number of its
sixteen octets, the first of them the highest.

* `readUuid_lt`: what is read has sixteen octets;
* `readUuid_printUuid`: and is read from the text that it is written as.
-/

namespace UuidText

open JsonText (hexValue?)

/-- A hyphen may stand after any second octet but the last; `n` octets follow it. -/
def dropHyphen (n : Nat) : List Char → List Char
  | '-' :: rest => if n % 2 = 0 ∧ n ≠ 0 then rest else '-' :: rest
  | rest => rest

/-- The octets of a uuid, each of two digits. -/
def readUuidOctets : Nat → List Char → Option (List Nat × List Char)
  | 0, text => some ([], text)
  | n + 1, a :: b :: rest => do
    let high ← hexValue? a
    let low ← hexValue? b
    let (octets, rest) ← readUuidOctets n (dropHyphen n rest)
    return ((high * 16 + low) :: octets, rest)
  | _ + 1, _ => none

/-- What PostgreSQL reads as a uuid. -/
def readUuid (text : List Char) : Option Nat :=
  match text with
  | '{' :: text' => do
    let (octets, rest) ← readUuidOctets 16 text'
    guard (rest = ['}'])
    return Nat.ofDigits 256 octets.reverse
  | _ => do
    let (octets, rest) ← readUuidOctets 16 text
    guard (rest = [])
    return Nat.ofDigits 256 octets.reverse

/-- The lowest octets of a number, beginning with the lowest. -/
def lowOctets : Nat → Nat → List Nat
  | 0, _ => []
  | n + 1, id => id % 256 :: lowOctets n (id / 256)

/-- Octets in hexadecimal, with the hyphens of a uuid. -/
def printUuidOctets : List Nat → List Char
  | [] => []
  | octet :: rest =>
    Nat.digitChar (octet / 16) :: Nat.digitChar (octet % 16) ::
      (if rest.length ∈ [12, 10, 8, 6] then '-' :: printUuidOctets rest else printUuidOctets rest)

/-- The text that PostgreSQL writes a uuid as. -/
def printUuid (id : Nat) : List Char := printUuidOctets (lowOctets 16 id).reverse

/-! ## Octets -/

theorem length_lowOctets (n id : Nat) : (lowOctets n id).length = n := by
  induction n generalizing id with
  | zero => rfl
  | succ n ih => rw [lowOctets, List.length_cons, ih]

theorem lowOctets_lt {n id octet : Nat} (h : octet ∈ lowOctets n id) : octet < 256 := by
  induction n generalizing id with
  | zero => cases h
  | succ n ih =>
    rcases List.mem_cons.mp h with rfl | h
    · exact Nat.mod_lt id (by decide)
    · exact ih h

theorem ofDigits_lowOctets {n id : Nat} (h : id < 256 ^ n) :
    Nat.ofDigits 256 (lowOctets n id) = id := by
  induction n generalizing id with
  | zero =>
    rw [Nat.pow_zero, Nat.lt_one_iff] at h
    rw [h]
    rfl
  | succ n ih =>
    have hHigh : id / 256 < 256 ^ n := Nat.div_lt_of_lt_mul (by rwa [Nat.pow_succ, mul_comm] at h)
    rw [lowOctets, Nat.ofDigits_cons, ih hHigh]
    exact Nat.mod_add_div id 256

/-! ## Reading back -/

theorem hexValue?_digitChar : ∀ n, n < 16 → hexValue? (Nat.digitChar n) = some n := by decide

theorem digitChar_ne : ∀ n, n < 16 → Nat.digitChar n ≠ '-' ∧ Nat.digitChar n ≠ '{' := by decide

theorem hexValue?_lt {c : Char} {n : Nat} (h : hexValue? c = some n) : n < 16 := by
  have hNat : ∀ {a b : Char}, a ≤ b → a.toNat ≤ b.toNat := fun h => h
  unfold hexValue? at h
  split_ifs at h with hDigit hLower hUpper
  · obtain rfl := Option.some.inj h
    have hLe : c.toNat ≤ 57 := hNat hDigit.2
    omega
  · obtain rfl := Option.some.inj h
    have hLe : c.toNat ≤ 102 := hNat hLower.2
    omega
  · obtain rfl := Option.some.inj h
    have hLe : c.toNat ≤ 70 := hNat hUpper.2
    omega

/-- No hyphen is dropped that was not written. -/
theorem dropHyphen_printUuidOctets {octets : List Nat} (h : ∀ octet ∈ octets, octet < 256) :
    dropHyphen octets.length (if octets.length ∈ [12, 10, 8, 6] then '-' :: printUuidOctets octets
      else printUuidOctets octets) = printUuidOctets octets := by
  split
  · rename_i hLength
    have hEven : octets.length % 2 = 0 ∧ octets.length ≠ 0 := by
      generalize octets.length = n at hLength
      simp only [List.mem_cons, List.not_mem_nil, or_false] at hLength
      omega
    exact if_pos hEven
  · cases octets with
    | nil => rfl
    | cons octet rest =>
      have hOctet := h octet List.mem_cons_self
      have hFirst := (digitChar_ne (octet / 16) (by omega)).1
      unfold dropHyphen printUuidOctets
      split
      · rename_i hHyphen
        exact absurd (List.cons.inj hHyphen).1 hFirst
      · rfl

theorem printUuidOctets_ne {octets : List Nat} {rest : List Char}
    (h : ∀ octet ∈ octets, octet < 256) : printUuidOctets octets ≠ '{' :: rest := by
  cases octets with
  | nil => exact fun hNil => by cases hNil
  | cons octet octets =>
    have hOctet := h octet List.mem_cons_self
    exact fun hBrace => (digitChar_ne (octet / 16) (by omega)).2 (List.cons.inj hBrace).1

/-- Octets are read from their text. -/
theorem readUuidOctets_printUuidOctets {octets : List Nat} (h : ∀ octet ∈ octets, octet < 256) :
    readUuidOctets octets.length (printUuidOctets octets) = some (octets, []) := by
  induction octets with
  | nil => rfl
  | cons octet rest ih =>
    have hOctet := h octet List.mem_cons_self
    have hRest : ∀ o ∈ rest, o < 256 := fun o hMem => h o (List.mem_cons_of_mem octet hMem)
    have hHigh := hexValue?_digitChar (octet / 16) (by omega)
    have hLow := hexValue?_digitChar (octet % 16) (by omega)
    have hValue : octet / 16 * 16 + octet % 16 = octet := Nat.div_add_mod' octet 16
    rw [List.length_cons, printUuidOctets, readUuidOctets, hHigh, hLow]
    simp only [Option.bind_eq_bind, Option.bind_some, dropHyphen_printUuidOctets hRest, ih hRest,
      hValue]
    rfl

/-- What is read are octets. -/
theorem readUuidOctets_lt {n : Nat} {text rest : List Char} {octets : List Nat}
    (h : readUuidOctets n text = some (octets, rest)) :
    octets.length = n ∧ ∀ octet ∈ octets, octet < 256 := by
  induction n generalizing text octets rest with
  | zero =>
    obtain ⟨rfl, -⟩ := Prod.mk.inj (Option.some.inj h)
    exact ⟨rfl, List.forall_mem_nil _⟩
  | succ n ih =>
    match text, h with
    | a :: b :: tail, h =>
      obtain ⟨high, hHigh, h⟩ := Option.bind_eq_some_iff.mp h
      obtain ⟨low, hLow, h⟩ := Option.bind_eq_some_iff.mp h
      obtain ⟨⟨octets', rest'⟩, hTail, h⟩ := Option.bind_eq_some_iff.mp h
      obtain ⟨rfl, -⟩ := Prod.mk.inj (Option.some.inj h)
      obtain ⟨hLength, hOctets⟩ := ih hTail
      have hHighLt := hexValue?_lt hHigh
      have hLowLt := hexValue?_lt hLow
      refine ⟨by rw [List.length_cons, hLength], List.forall_mem_cons.mpr ⟨by omega, hOctets⟩⟩

theorem ofDigits_lt {n : Nat} {text rest : List Char} {octets : List Nat}
    (h : readUuidOctets n text = some (octets, rest)) :
    Nat.ofDigits 256 octets.reverse < 256 ^ n := by
  obtain ⟨hLength, hOctets⟩ := readUuidOctets_lt h
  have hBound := Nat.ofDigits_lt_base_pow_length (b := 256) (l := octets.reverse) (by decide)
    fun octet hMem => hOctets octet (List.mem_reverse.mp hMem)
  rwa [List.length_reverse, hLength] at hBound

theorem readUuid_lt {text : List Char} {id : Nat} (h : readUuid text = some id) :
    id < 256 ^ 16 := by
  unfold readUuid at h
  split at h
  all_goals
    obtain ⟨⟨octets, rest⟩, hOctets, h⟩ := Option.bind_eq_some_iff.mp h
    obtain ⟨-, -, h⟩ := Option.bind_eq_some_iff.mp h
    obtain rfl := Option.some.inj h
    exact ofDigits_lt hOctets

/-- **A uuid** is read from the text that it is written as. -/
theorem readUuid_printUuid {id : Nat} (h : id < 256 ^ 16) : readUuid (printUuid id) = some id := by
  have hOctets : ∀ octet ∈ (lowOctets 16 id).reverse, octet < 256 :=
    fun octet hMem => lowOctets_lt (List.mem_reverse.mp hMem)
  have hRead := readUuidOctets_printUuidOctets hOctets
  rw [List.length_reverse, length_lowOctets] at hRead
  have hValue : Nat.ofDigits 256 (lowOctets 16 id).reverse.reverse = id := by
    rw [List.reverse_reverse, ofDigits_lowOctets h]
  unfold readUuid printUuid
  split
  · rename_i rest hBrace
    exact absurd hBrace (printUuidOctets_ne hOctets)
  · rw [hRead]
    exact congrArg some hValue

end UuidText
