import Mathlib.Data.List.DropRight
import Mathlib.Tactic.IntervalCases

/-!
# Base64url and UTF-8

The two encodings that carry a text through a URL. Octets are `UInt8`, a text is the list of
its code points.

* `Base64url.decode?_encode`: the octets come back, for every list of octets;
* `Utf8.decode_encode`: so does every text through UTF-8.
-/

namespace Base64url

/-- The character of six bits. -/
def digit (n : Nat) : Char :=
  if n < 26 then Char.ofNat (65 + n)
  else if n < 52 then Char.ofNat (71 + n)
  else if n < 62 then Char.ofNat (n - 4)
  else if n = 62 then '-' else '_'

/-- The six bits of a character, in the URL alphabet or in the plain one. -/
def value? (c : Char) : Option Nat :=
  if 'A' ≤ c ∧ c ≤ 'Z' then some (c.toNat - 65)
  else if 'a' ≤ c ∧ c ≤ 'z' then some (c.toNat - 71)
  else if '0' ≤ c ∧ c ≤ '9' then some (c.toNat + 4)
  else if c = '-' ∨ c = '+' then some 62
  else if c = '_' ∨ c = '/' then some 63
  else none

/-- Three octets make four characters; what remains is not padded. -/
def encode : List UInt8 → List Char
  | [] => []
  | [a] => [digit (a.toNat / 4), digit (a.toNat % 4 * 16)]
  | [a, b] =>
    [digit (a.toNat / 4), digit (a.toNat % 4 * 16 + b.toNat / 16), digit (b.toNat % 16 * 4)]
  | a :: b :: c :: rest =>
    digit (a.toNat / 4) :: digit (a.toNat % 4 * 16 + b.toNat / 16) ::
      digit (b.toNat % 16 * 4 + c.toNat / 64) :: digit (c.toNat % 64) :: encode rest

/-- The octets of groups of six bits; bits that fill no octet are dropped. -/
def octets : List Nat → List UInt8
  | p :: q :: r :: s :: rest =>
    .ofNat (p * 4 + q / 16) :: .ofNat (q % 16 * 16 + r / 4) :: .ofNat (r % 4 * 64 + s) ::
      octets rest
  | [p, q, r] => [.ofNat (p * 4 + q / 16), .ofNat (q % 16 * 16 + r / 4)]
  | [p, q] => [.ofNat (p * 4 + q / 16)]
  | _ => []

/-- The characters that a decoder skips. -/
def isBlank (c : Char) : Bool := c = ' ' || c = '\t' || c = '\n' || c = '\r'

/-- At most two characters of padding. -/
def unpad (text : List Char) : List Char :=
  match text.reverse with
  | '=' :: '=' :: rest | '=' :: rest => rest.reverse
  | _ => text

/-- The octets of a text, where all its characters are digits, blanks or padding. -/
def decode? (text : List Char) : Option (List UInt8) :=
  ((unpad (text.filter fun c => !isBlank c)).mapM value?).map octets

/-! ## The way back -/

theorem value?_digit_all : ∀ n < 64, value? (digit n) = some n := by decide

theorem digit_plain_all : ∀ n < 64, digit n ≠ '=' ∧ isBlank (digit n) = false := by decide

/-- The groups of six bits that `encode` writes. -/
def sextets : List UInt8 → List Nat
  | [] => []
  | [a] => [a.toNat / 4, a.toNat % 4 * 16]
  | [a, b] => [a.toNat / 4, a.toNat % 4 * 16 + b.toNat / 16, b.toNat % 16 * 4]
  | a :: b :: c :: rest =>
    a.toNat / 4 :: (a.toNat % 4 * 16 + b.toNat / 16) :: (b.toNat % 16 * 4 + c.toNat / 64) ::
      c.toNat % 64 :: sextets rest

theorem encode_eq (bytes : List UInt8) : encode bytes = (sextets bytes).map digit := by
  induction bytes using encode.induct with
  | case1 => rfl
  | case2 a => rfl
  | case3 a b => rfl
  | case4 a b c rest ih => simp only [encode, sextets, ih, List.map_cons]

theorem sextets_lt (bytes : List UInt8) : ∀ n ∈ sextets bytes, n < 64 := by
  induction bytes using encode.induct with
  | case1 => simp [sextets]
  | case2 a =>
    have ha := a.toNat_lt
    simp only [sextets, List.forall_mem_cons, List.not_mem_nil, false_imp_iff, implies_true,
      and_true]
    omega
  | case3 a b =>
    have ha := a.toNat_lt
    have hb := b.toNat_lt
    simp only [sextets, List.forall_mem_cons, List.not_mem_nil, false_imp_iff, implies_true,
      and_true]
    omega
  | case4 a b c rest ih =>
    have ha := a.toNat_lt
    have hb := b.toNat_lt
    have hc := c.toNat_lt
    simp only [sextets, List.forall_mem_cons]
    exact ⟨by omega, by omega, by omega, by omega, ih⟩

/-- An octet is the number that its bits make. -/
theorem ofNat_eq {n : Nat} {a : UInt8} (h : n = a.toNat) : UInt8.ofNat n = a := by
  rw [h, UInt8.ofNat_toNat]

theorem octets_sextets (bytes : List UInt8) : octets (sextets bytes) = bytes := by
  induction bytes using encode.induct with
  | case1 => rfl
  | case2 a =>
    have hA : UInt8.ofNat (a.toNat / 4 * 4 + a.toNat % 4 * 16 / 16) = a := ofNat_eq (by omega)
    simp only [sextets, octets, hA]
  | case3 a b =>
    have hb := b.toNat_lt
    have hA : UInt8.ofNat (a.toNat / 4 * 4 + (a.toNat % 4 * 16 + b.toNat / 16) / 16) = a :=
      ofNat_eq (by omega)
    have hB : UInt8.ofNat ((a.toNat % 4 * 16 + b.toNat / 16) % 16 * 16 +
        b.toNat % 16 * 4 / 4) = b := ofNat_eq (by omega)
    simp only [sextets, octets, hA, hB]
  | case4 a b c rest ih =>
    have hb := b.toNat_lt
    have hc := c.toNat_lt
    have hA : UInt8.ofNat (a.toNat / 4 * 4 + (a.toNat % 4 * 16 + b.toNat / 16) / 16) = a :=
      ofNat_eq (by omega)
    have hB : UInt8.ofNat ((a.toNat % 4 * 16 + b.toNat / 16) % 16 * 16 +
        (b.toNat % 16 * 4 + c.toNat / 64) / 4) = b := ofNat_eq (by omega)
    have hC : UInt8.ofNat ((b.toNat % 16 * 4 + c.toNat / 64) % 4 * 64 + c.toNat % 64) = c :=
      ofNat_eq (by omega)
    simp only [sextets, octets, hA, hB, hC, ih]

theorem unpad_of_not_mem {text : List Char} (h : '=' ∉ text) : unpad text = text := by
  have hRev : '=' ∉ text.reverse := fun hMem => h (List.mem_reverse.mp hMem)
  unfold unpad
  split
  · rename_i hText
    exact absurd (hText ▸ List.mem_cons_self) hRev
  · rename_i _ hText
    exact absurd (hText ▸ List.mem_cons_self) hRev
  · rfl

theorem mapM_value? {ns : List Nat} (h : ∀ n ∈ ns, n < 64) :
    (ns.map digit).mapM value? = some ns := by
  induction ns with
  | nil => rfl
  | cons n ns ih =>
    obtain ⟨hn, hns⟩ := List.forall_mem_cons.mp h
    rw [List.map_cons, List.mapM_cons, value?_digit_all n hn, ih hns]
    rfl

/-- What holds of every digit holds of every character that `encode` writes. -/
theorem forall_encode {P : Char → Prop} (h : ∀ n < 64, P (digit n)) (bytes : List UInt8) :
    ∀ c ∈ encode bytes, P c := by
  rw [encode_eq]
  intro c hc
  obtain ⟨n, hn, rfl⟩ := List.mem_map.mp hc
  exact h n (sextets_lt bytes n hn)

/-- **The round trip of octets.** -/
theorem decode?_encode (bytes : List UInt8) : decode? (encode bytes) = some bytes := by
  have hPlain : ∀ c ∈ encode bytes, c ≠ '=' ∧ isBlank c = false :=
    forall_encode digit_plain_all bytes
  have hFilter : (encode bytes).filter (fun c => !isBlank c) = encode bytes :=
    List.filter_eq_self.mpr fun c hc => by rw [(hPlain c hc).2, Bool.not_false]
  have hUnpad : unpad (encode bytes) = encode bytes :=
    unpad_of_not_mem fun hMem => (hPlain _ hMem).1 rfl
  have hValues : (encode bytes).mapM value? = some (sextets bytes) := by
    rw [encode_eq]
    exact mapM_value? (sextets_lt bytes)
  rw [decode?, hFilter, hUnpad, hValues, Option.map_some, octets_sextets]

/-- Every three octets, and what is left of them, make up to four characters. -/
theorem length_encode (bytes : List UInt8) : (encode bytes).length = (4 * bytes.length + 2) / 3 := by
  induction bytes using encode.induct with
  | case1 => rfl
  | case2 a => simp only [encode, List.length_cons, List.length_nil]
  | case3 a b => simp only [encode, List.length_cons, List.length_nil]
  | case4 a b c rest ih =>
    simp only [encode, List.length_cons, ih]
    omega

end Base64url

namespace Utf8

/-- What a decoder owes: how many octets, the bits so far and the bounds of the next octet. -/
structure Pending where
  needed : Nat
  codePoint : Nat
  lower : Nat
  upper : Nat

/-- U+FFFD, which stands for what is not UTF-8. -/
def replacement : Char := Char.ofNat 0xFFFD

/-- The first octet of a character. -/
def first (octet : Nat) : List Char × Option Pending :=
  if octet < 0x80 then ([Char.ofNat octet], none)
  else if 0xC2 ≤ octet ∧ octet ≤ 0xDF then ([], some ⟨1, octet % 32, 0x80, 0xBF⟩)
  else if octet = 0xE0 then ([], some ⟨2, octet % 16, 0xA0, 0xBF⟩)
  else if octet = 0xED then ([], some ⟨2, octet % 16, 0x80, 0x9F⟩)
  else if 0xE1 ≤ octet ∧ octet ≤ 0xEF then ([], some ⟨2, octet % 16, 0x80, 0xBF⟩)
  else if octet = 0xF0 then ([], some ⟨3, octet % 8, 0x90, 0xBF⟩)
  else if octet = 0xF4 then ([], some ⟨3, octet % 8, 0x80, 0x8F⟩)
  else if 0xF1 ≤ octet ∧ octet ≤ 0xF3 then ([], some ⟨3, octet % 8, 0x80, 0xBF⟩)
  else ([replacement], none)

/-- One octet; one that does not continue a character begins the next. -/
def step (pending : Option Pending) (octet : Nat) : List Char × Option Pending :=
  match pending with
  | none => first octet
  | some ⟨needed, codePoint, lower, upper⟩ =>
    if lower ≤ octet ∧ octet ≤ upper then
      let codePoint := codePoint * 64 + octet % 64
      if needed = 1 then ([Char.ofNat codePoint], none)
      else ([], some ⟨needed - 1, codePoint, 0x80, 0xBF⟩)
    else (replacement :: (first octet).1, (first octet).2)

def decodeFrom : Option Pending → List UInt8 → List Char
  | none, [] => []
  | some _, [] => [replacement]
  | pending, octet :: rest =>
    (step pending octet.toNat).1 ++ decodeFrom (step pending octet.toNat).2 rest

/-- The text of octets. -/
def decode (octets : List UInt8) : List Char := decodeFrom none octets

/-- The octets of a text. -/
def encode (text : List Char) : List UInt8 := text.flatMap String.utf8EncodeChar

/-! ## The way back -/

theorem first_two {k : Nat} (hLow : 2 ≤ k) (hHigh : k < 32) :
    first (0xC0 + k) = ([], some ⟨1, k, 0x80, 0xBF⟩) := by
  interval_cases k <;> rfl

/-- The second octet of three is bounded by what two octets can write, and by the surrogates. -/
theorem first_three {k : Nat} (h : k < 16) : first (0xE0 + k) =
    ([], some ⟨2, k, if k = 0 then 0xA0 else 0x80, if k = 13 then 0x9F else 0xBF⟩) := by
  interval_cases k <;> rfl

/-- The second octet of four is bounded by what three octets can write, and by U+10FFFF. -/
theorem first_four {k : Nat} (h : k < 5) : first (0xF0 + k) =
    ([], some ⟨3, k, if k = 0 then 0x90 else 0x80, if k = 4 then 0x8F else 0xBF⟩) := by
  interval_cases k <;> rfl

section Octets

variable {octet : UInt8} {rest : List UInt8} {n needed codePoint lower upper : Nat}

theorem decodeFrom_first {pending : Pending} (hOctet : octet.toNat = n)
    (h : first n = ([], some pending)) :
    decodeFrom none (octet :: rest) = decodeFrom (some pending) rest := by
  rw [decodeFrom, hOctet, step, h]
  rfl

theorem decodeFrom_next (hOctet : octet.toNat = n) (hLower : lower ≤ n) (hUpper : n ≤ upper)
    (hNeeded : needed ≠ 1) :
    decodeFrom (some ⟨needed, codePoint, lower, upper⟩) (octet :: rest) =
      decodeFrom (some ⟨needed - 1, codePoint * 64 + n % 64, 0x80, 0xBF⟩) rest := by
  rw [decodeFrom, hOctet, step]
  simp [hLower, hUpper, hNeeded]

theorem decodeFrom_last (hOctet : octet.toNat = n) (hLower : lower ≤ n) (hUpper : n ≤ upper) :
    decodeFrom (some ⟨1, codePoint, lower, upper⟩) (octet :: rest) =
      Char.ofNat (codePoint * 64 + n % 64) :: decodeFrom none rest := by
  rw [decodeFrom, hOctet, step]
  simp [hLower, hUpper]

end Octets

theorem toNat_ofNat {n : Nat} (h : n < 256) : (UInt8.ofNat n).toNat = n := by
  rw [UInt8.toNat_ofNat']
  omega

/-- The octets of one character are read back. -/
theorem decodeFrom_utf8EncodeChar (c : Char) (rest : List UInt8) :
    decodeFrom none (String.utf8EncodeChar c ++ rest) = c :: decodeFrom none rest := by
  have hValid : c.toNat < 0xD800 ∨ 0xDFFF < c.toNat ∧ c.toNat < 0x110000 := c.valid
  rw [String.utf8EncodeChar]
  simp only [show c.val.toNat = c.toNat from rfl]
  have hChar {m : Nat} (h : m = c.toNat) : Char.ofNat m = c := by rw [h, Char.ofNat_toNat]
  split
  · rename_i hOne
    have hFirst : first c.toNat = ([c], none) := by
      rw [first, if_pos (by omega), Char.ofNat_toNat]
    rw [List.singleton_append, decodeFrom, toNat_ofNat (by omega), step, hFirst]
    rfl
  · split
    · -- two octets: five bits and six
      rename_i hTwo
      have hLead := toNat_ofNat (n := c.toNat / 64 % 0x20 + 0xc0) (by omega)
      have hLast := toNat_ofNat (n := c.toNat % 0x40 + 0x80) (by omega)
      rw [List.cons_append, List.singleton_append,
        decodeFrom_first (hLead.trans (Nat.add_comm _ _)) (first_two (by omega) (by omega)),
        decodeFrom_last hLast (by omega) (by omega), hChar (by omega)]
    · split
      · -- three octets: four bits, six and six
        rename_i hThree
        have hLead := toNat_ofNat (n := c.toNat / 4096 % 0x10 + 0xe0) (by omega)
        have hNext := toNat_ofNat (n := c.toNat / 64 % 0x40 + 0x80) (by omega)
        have hLast := toNat_ofNat (n := c.toNat % 0x40 + 0x80) (by omega)
        rw [List.cons_append, List.cons_append, List.singleton_append,
          decodeFrom_first (hLead.trans (Nat.add_comm _ _)) (first_three (by omega)),
          decodeFrom_next hNext (by split <;> omega) (by split <;> omega) (by decide),
          decodeFrom_last hLast (by omega) (by omega), hChar (by omega)]
      · -- four octets: three bits, six, six and six
        have hLead := toNat_ofNat (n := c.toNat / 262144 % 0x08 + 0xf0) (by omega)
        have hSecond := toNat_ofNat (n := c.toNat / 4096 % 0x40 + 0x80) (by omega)
        have hThird := toNat_ofNat (n := c.toNat / 64 % 0x40 + 0x80) (by omega)
        have hLast := toNat_ofNat (n := c.toNat % 0x40 + 0x80) (by omega)
        rw [List.cons_append, List.cons_append, List.cons_append, List.singleton_append,
          decodeFrom_first (hLead.trans (Nat.add_comm _ _)) (first_four (by omega)),
          decodeFrom_next hSecond (by split <;> omega) (by split <;> omega) (by decide),
          decodeFrom_next hThird (by omega) (by omega) (by decide),
          decodeFrom_last hLast (by omega) (by omega), hChar (by omega)]

/-- **The round trip of texts.** -/
theorem decode_encode (text : List Char) : decode (encode text) = text := by
  induction text with
  | nil => rfl
  | cons c rest ih =>
    show decodeFrom none (String.utf8EncodeChar c ++ encode rest) = _
    rw [decodeFrom_utf8EncodeChar]
    exact congrArg (List.cons c) ih

theorem encode_ne_nil {text : List Char} (h : text ≠ []) : encode text ≠ [] := by
  cases text with
  | nil => exact absurd rfl h
  | cons c rest =>
    rw [encode, List.flatMap_cons]
    exact List.append_ne_nil_of_left_ne_nil String.utf8EncodeChar_ne_nil _

end Utf8
