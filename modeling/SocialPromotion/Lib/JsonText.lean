import Mathlib.Data.List.Basic
import Mathlib.Data.Option.Basic
import SocialPromotion.Lib.Utf16

/-!
# JSON

The value of a JSON text, as `JSON.parse` reads it, and the text of an object of strings, as
`JSON.stringify` writes it. A string is read as UTF-16 code units and kept as code points, with
U+FFFD for a surrogate that has no partner; a number is kept by its literal.

* `JsonText.parse_stringify`: an object whose texts need no escape is read back as it was.
-/

inductive JsonValue
  | null
  | bool (value : Bool)
  | number (literal : List Char)
  | string (text : List Char)
  | array (elements : List JsonValue)
  /-- The members in the order of the text, equal names included. -/
  | object (members : List (List Char × JsonValue))

namespace JsonText

/-! ## Strings -/

def hexValue? (c : Char) : Option Nat :=
  if '0' ≤ c ∧ c ≤ '9' then some (c.toNat - 48)
  else if 'a' ≤ c ∧ c ≤ 'f' then some (c.toNat - 87)
  else if 'A' ≤ c ∧ c ≤ 'F' then some (c.toNat - 55)
  else none

/-- The code unit of an escape of one character. -/
def escaped? : Char → Option Nat
  | '"' => some 0x22
  | '\\' => some 0x5C
  | '/' => some 0x2F
  | 'b' => some 0x08
  | 'f' => some 0x0C
  | 'n' => some 0x0A
  | 'r' => some 0x0D
  | 't' => some 0x09
  | _ => none

/-- A string after its opening quote: its code units and what follows it. -/
def readString : List Char → Option (List Nat × List Char)
  | [] => none
  | '"' :: rest => some ([], rest)
  | '\\' :: 'u' :: a :: b :: c :: d :: rest => do
    let unit := (← hexValue? a) * 4096 + (← hexValue? b) * 256 + (← hexValue? c) * 16 +
      (← hexValue? d)
    let (units, rest) ← readString rest
    return (unit :: units, rest)
  | '\\' :: c :: rest => do
    let unit ← escaped? c
    let (units, rest) ← readString rest
    return (unit :: units, rest)
  | c :: rest => do
    guard (0x20 ≤ c.toNat)
    let (units, rest) ← readString rest
    return (Utf16.units c ++ units, rest)

/-! ## Values -/

def isSpace (c : Char) : Bool := c = ' ' || c = '\t' || c = '\n' || c = '\r'

def skipSpace (text : List Char) : List Char := text.dropWhile isSpace

/-- `[0-9]+`. -/
def readDigits (text : List Char) : Option (List Char × List Char) :=
  match text.span Char.isDigit with
  | ([], _) => none
  | (digits, rest) => some (digits, rest)

/-- A part that may be left out; one that is cut short is not read, and nothing may follow a
number that begins like it. -/
def readOptional (read : List Char → Option (List Char × List Char)) (text : List Char) :
    List Char × List Char :=
  (read text).getD ([], text)

def readFraction : List Char → Option (List Char × List Char)
  | '.' :: rest => do
    let (digits, rest) ← readDigits rest
    return ('.' :: digits, rest)
  | _ => none

def readExponent : List Char → Option (List Char × List Char)
  | e :: rest => do
    guard (e = 'e' ∨ e = 'E')
    let (sign, rest) := match rest with
      | '+' :: rest => (['+'], rest)
      | '-' :: rest => (['-'], rest)
      | rest => ([], rest)
    let (digits, rest) ← readDigits rest
    return (e :: sign ++ digits, rest)
  | [] => none

def readNumber (text : List Char) : Option (JsonValue × List Char) := do
  let (sign, rest) := match text with
    | '-' :: rest => (['-'], rest)
    | rest => ([], rest)
  -- a number begins with a zero only where that is all of its integer part
  let (integer, rest) ← match rest with
    | '0' :: rest => some (['0'], rest)
    | rest => readDigits rest
  let (fraction, rest) := readOptional readFraction rest
  let (exponent, rest) := readOptional readExponent rest
  return (.number (sign ++ integer ++ fraction ++ exponent), rest)

mutual

/-- A value and what follows it. -/
def readValue : Nat → List Char → Option (JsonValue × List Char)
  | 0, _ => none
  | fuel + 1, text =>
    match skipSpace text with
    | 'n' :: 'u' :: 'l' :: 'l' :: rest => some (.null, rest)
    | 't' :: 'r' :: 'u' :: 'e' :: rest => some (.bool true, rest)
    | 'f' :: 'a' :: 'l' :: 's' :: 'e' :: rest => some (.bool false, rest)
    | '"' :: rest => (readString rest).map fun e => (.string (Utf16.ofUnits e.1), e.2)
    | '[' :: rest =>
      match skipSpace rest with
      | ']' :: rest => some (.array [], rest)
      | _ => (readElements fuel rest).map fun e => (.array e.1, e.2)
    | '{' :: rest =>
      match skipSpace rest with
      | '}' :: rest => some (.object [], rest)
      | _ => (readMembers fuel rest).map fun e => (.object e.1, e.2)
    | rest => readNumber rest

/-- The elements of an array up to its bracket. -/
def readElements : Nat → List Char → Option (List JsonValue × List Char)
  | 0, _ => none
  | fuel + 1, text => do
    let (value, rest) ← readValue fuel text
    match skipSpace rest with
    | ',' :: rest => (readElements fuel rest).map fun e => (value :: e.1, e.2)
    | ']' :: rest => some ([value], rest)
    | _ => none

/-- The members of an object up to its brace. -/
def readMembers : Nat → List Char → Option (List (List Char × JsonValue) × List Char)
  | 0, _ => none
  | fuel + 1, text =>
    match skipSpace text with
    | '"' :: rest => do
      let (name, rest) ← readString rest
      match skipSpace rest with
      | ':' :: rest => do
        let (value, rest) ← readValue fuel rest
        match skipSpace rest with
        | ',' :: rest =>
          (readMembers fuel rest).map fun e => ((Utf16.ofUnits name, value) :: e.1, e.2)
        | '}' :: rest => some ([(Utf16.ofUnits name, value)], rest)
        | _ => none
      | _ => none
    | _ => none

end

/-- `JSON.parse`; `none` is its `SyntaxError`. A character takes at most two calls. -/
def parse (text : List Char) : Option JsonValue :=
  match readValue (2 * text.length + 1) text with
  | some (value, rest) => if (skipSpace rest).isEmpty then some value else none
  | none => none

/-! ## Writing -/

def hexChar (n : Nat) : Char := if n < 10 then Char.ofNat (48 + n) else Char.ofNat (87 + n)

def escape (c : Char) : List Char :=
  if c = '"' then ['\\', '"']
  else if c = '\\' then ['\\', '\\']
  else if c.toNat = 0x08 then ['\\', 'b']
  else if c.toNat = 0x0C then ['\\', 'f']
  else if c = '\n' then ['\\', 'n']
  else if c = '\r' then ['\\', 'r']
  else if c = '\t' then ['\\', 't']
  else if c.toNat < 0x20 then ['\\', 'u', '0', '0', hexChar (c.toNat / 16), hexChar (c.toNat % 16)]
  else [c]

def quote (text : List Char) : List Char := '"' :: (text.flatMap escape ++ ['"'])

/-- `"name":"text"`, separated by commas. -/
def stringifyMembers : List (List Char × List Char) → List Char
  | [] => []
  | [(name, text)] => quote name ++ ':' :: quote text
  | (name, text) :: rest => quote name ++ ':' :: quote text ++ ',' :: stringifyMembers rest

/-- `JSON.stringify` of an object of strings. -/
def stringify (members : List (List Char × List Char)) : List Char :=
  '{' :: (stringifyMembers members ++ ['}'])

/-! ## Reading what was written -/

/-- Neither a quote nor a backslash, and ASCII from the blank on. -/
def isPlain (c : Char) : Bool := 0x20 ≤ c.toNat && c.toNat < 0x7F && c ≠ '"' && c ≠ '\\'

def IsPlain (text : List Char) : Prop := ∀ c ∈ text, isPlain c = true

theorem escape_of_plain {c : Char} (h : isPlain c = true) : escape c = [c] := by
  simp only [isPlain, Bool.and_eq_true, decide_eq_true_eq] at h
  obtain ⟨⟨⟨hLow, -⟩, hQuote⟩, hSlash⟩ := h
  have hNewline : c ≠ '\n' := fun hc => absurd hLow (by rw [hc]; decide)
  have hReturn : c ≠ '\r' := fun hc => absurd hLow (by rw [hc]; decide)
  have hTab : c ≠ '\t' := fun hc => absurd hLow (by rw [hc]; decide)
  have h8 : c.toNat ≠ 0x08 := by omega
  have h12 : c.toNat ≠ 0x0C := by omega
  rw [escape, if_neg hQuote, if_neg hSlash, if_neg h8, if_neg h12, if_neg hNewline,
    if_neg hReturn, if_neg hTab, if_neg (Nat.not_lt.mpr hLow)]

theorem quote_of_plain {text : List Char} (h : IsPlain text) :
    quote text = '"' :: (text ++ ['"']) := by
  have hText : text.flatMap escape = text := by
    rw [List.flatMap_congr fun c hc => escape_of_plain (h c hc), List.flatMap_singleton']
  rw [quote, hText]

theorem units_plain {c : Char} (h : isPlain c = true) : Utf16.units c = [c.toNat] := by
  simp only [isPlain, Bool.and_eq_true, decide_eq_true_eq] at h
  exact if_pos (by omega)

/-- A plain character stands for itself. -/
theorem readString_cons {c : Char} (h : isPlain c = true) (rest : List Char) :
    readString (c :: rest) = (readString rest).map fun e => (c.toNat :: e.1, e.2) := by
  have hUnit := units_plain h
  simp only [isPlain, Bool.and_eq_true, decide_eq_true_eq] at h
  obtain ⟨⟨⟨hLow, hHigh⟩, hQuote⟩, hSlash⟩ := h
  rw [readString.eq_def]
  split
  · contradiction
  · simp_all
  · simp_all
  · simp_all
  · rename_i hText
    obtain ⟨rfl, rfl⟩ := List.cons_eq_cons.mp hText
    simp only [hLow, guard, hUnit]
    cases readString rest <;> rfl

theorem readString_plain {text : List Char} (h : IsPlain text) (rest : List Char) :
    readString (text ++ '"' :: rest) = some (text.map Char.toNat, rest) := by
  induction text with
  | nil => rw [List.nil_append, readString]; rfl
  | cons c text ih =>
    obtain ⟨hc, hText⟩ := List.forall_mem_cons.mp h
    rw [List.cons_append, readString_cons hc, ih hText]
    rfl

theorem ofUnits_plain {text : List Char} (h : IsPlain text) :
    Utf16.ofUnits (text.map Char.toNat) = text := by
  have hUnits : text.map Char.toNat = text.flatMap Utf16.units := by
    rw [List.map_eq_flatMap]
    exact List.flatMap_congr fun c hMem => (units_plain (h c hMem)).symm
  rw [hUnits, Utf16.ofUnits_units]

theorem skipSpace_cons {c : Char} (h : isSpace c = false) (rest : List Char) :
    skipSpace (c :: rest) = c :: rest :=
  List.dropWhile_cons_of_neg (by rw [h]; exact Bool.false_ne_true)

/-- A quoted plain text is the value that it quotes. -/
theorem readValue_quote {text : List Char} (h : IsPlain text) (fuel : Nat) (rest : List Char) :
    readValue (fuel + 1) (quote text ++ rest) = some (.string text, rest) := by
  have hText : quote text ++ rest = '"' :: (text ++ '"' :: rest) := by
    rw [quote_of_plain h, List.cons_append, List.append_assoc, List.singleton_append]
  rw [hText, readValue, skipSpace_cons rfl]
  simp only [readString_plain h, Option.map_some, ofUnits_plain h]

/-- A member up to what follows its text. -/
theorem readMembers_quote {name text rest : List Char} (hName : IsPlain name)
    (hText : IsPlain text) (fuel : Nat) :
    readMembers (fuel + 2) (quote name ++ ':' :: quote text ++ rest) =
      match skipSpace rest with
      | ',' :: rest =>
        (readMembers (fuel + 1) rest).map fun e => ((name, .string text) :: e.1, e.2)
      | '}' :: rest => some ([(name, .string text)], rest)
      | _ => none := by
  have hInput : quote name ++ ':' :: quote text ++ rest =
      '"' :: (name ++ '"' :: ':' :: (quote text ++ rest)) := by
    rw [quote_of_plain hName]
    simp only [List.cons_append, List.append_assoc]
    rfl
  rw [hInput, readMembers, skipSpace_cons rfl]
  simp only [readString_plain hName, Option.bind_eq_bind, Option.bind_some,
    skipSpace_cons (show isSpace ':' = false from rfl), readValue_quote hText,
    ofUnits_plain hName]

theorem readMembers_stringify {members : List (List Char × List Char)} (hNe : members ≠ [])
    (hPlain : ∀ e ∈ members, IsPlain e.1 ∧ IsPlain e.2) (fuel : Nat)
    (hFuel : members.length + 1 ≤ fuel) (rest : List Char) :
    readMembers fuel (stringifyMembers members ++ '}' :: rest) =
      some (members.map fun e => (e.1, .string e.2), rest) := by
  induction members using stringifyMembers.induct generalizing fuel with
  | case1 => exact absurd rfl hNe
  | case2 name text =>
    obtain ⟨hName, hText⟩ := hPlain _ List.mem_cons_self
    obtain ⟨fuel, rfl⟩ : ∃ n, fuel = n + 2 := ⟨fuel - 2, by simp at hFuel; omega⟩
    rw [stringifyMembers, readMembers_quote hName hText, skipSpace_cons rfl]
    rfl
  | case3 name text members hMore ih =>
    obtain ⟨hName, hText⟩ := hPlain _ List.mem_cons_self
    obtain ⟨fuel, rfl⟩ : ∃ n, fuel = n + 2 := ⟨fuel - 2, by simp at hFuel; omega⟩
    have hRest := ih hMore (fun e he => hPlain e (List.mem_cons_of_mem _ he)) (fuel + 1)
      (by simp only [List.length_cons] at hFuel; omega)
    rw [stringifyMembers.eq_3 _ _ _ hMore, List.append_assoc, List.cons_append,
      readMembers_quote hName hText, skipSpace_cons rfl]
    simp only [hRest, Option.map_some, List.map_cons]

theorem length_stringifyMembers (members : List (List Char × List Char)) :
    members.length ≤ (stringifyMembers members).length := by
  induction members using stringifyMembers.induct with
  | case1 => exact Nat.zero_le _
  | case2 name text =>
    rw [stringifyMembers]
    simp only [List.length_append, List.length_cons, List.length_nil]
    omega
  | case3 name text members hMore ih =>
    rw [stringifyMembers.eq_3 _ _ _ hMore]
    simp only [List.length_append, List.length_cons]
    omega

/-- **An object of plain texts** is read as it was written. -/
theorem parse_stringify {members : List (List Char × List Char)} (hNe : members ≠ [])
    (hPlain : ∀ e ∈ members, IsPlain e.1 ∧ IsPlain e.2) :
    parse (stringify members) = some (.object (members.map fun e => (e.1, .string e.2))) := by
  have hLength := length_stringifyMembers members
  -- the text begins with a name, not with the closing brace
  have hHead : ∃ body, stringifyMembers members ++ ['}'] = '"' :: body := by
    match members with
    | [] => exact absurd rfl hNe
    | [(name, text)] => exact ⟨_, rfl⟩
    | (name, text) :: e :: rest => exact ⟨_, rfl⟩
  obtain ⟨body, hBody⟩ := hHead
  have hMembers := readMembers_stringify hNe hPlain (2 * (stringify members).length)
    (by simp only [stringify, List.length_cons, List.length_append, List.length_nil]; omega) []
  rw [parse, readValue, stringify, skipSpace_cons rfl]
  rw [stringify] at hMembers
  rw [hBody] at hMembers ⊢
  simp only [skipSpace_cons (show isSpace '"' = false from rfl), hMembers, Option.map_some]
  rfl

end JsonText
