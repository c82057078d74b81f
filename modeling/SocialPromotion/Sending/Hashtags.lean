import Mathlib.Data.List.SplitBy
import SocialPromotion.Model.Formatting

/-!
# Where hashtags stand

The search for hashtags consumes the space before a tag together with the tag. What it finds can
be told from left to right by one bit, whether a tag may begin here: at the start and after a
space. That form composes: over joined texts, over trimmed ones and over collapsed spaces.

Results:

* `matchedTags_eq`: the matches of the search are those of the scan;
* `scanTags_append`: a space separates what is scanned;
* `scanTags_removed`: what is a tag once the tags of a text have been taken out.
-/

namespace SocialPromotion

/-- `\p{L}`, `\p{N}` and `_` contain neither a space nor `#`. -/
structure TagClass (isTagChar : Char → Bool) : Prop where
  notSpace : ∀ c, isTagChar c = true → isSpace c = false
  notHash : isTagChar '#' = false

/-- The name that the pattern takes after a `#`. -/
def tagName (isTagChar : Char → Bool) (after : Text) : Text :=
  (after.takeWhile isTagChar).take 50

/-- The tags of a text from left to right; the bit says whether one may begin here. -/
def scanTags (isTagChar : Char → Bool) : Bool → Text → List Text
  | _, [] => []
  | mayBegin, c :: rest =>
    if mayBegin ∧ c = '#' ∧ tagName isTagChar rest ≠ [] then
      ('#' :: tagName isTagChar rest) :: scanTags isTagChar false rest
    else scanTags isTagChar (isSpace c) rest

/-- A tag as it is listed. -/
structure IsTag (isTagChar : Char → Bool) (tag name : Text) : Prop where
  eq : tag = '#' :: name
  nonempty : name ≠ []
  chars : ∀ c ∈ name, isTagChar c = true
  length_le : name.length ≤ 50

section Scan

variable {isTagChar : Char → Bool} {mayBegin : Bool} {c : Char} {a rest : Text}

theorem not_space_hash : isSpace '#' = false := by decide

theorem ne_hash_of_space (h : isSpace c = true) : c ≠ '#' := by
  rintro rfl
  rw [not_space_hash] at h
  cases h

theorem tagName_isTag (h : tagName isTagChar rest ≠ []) :
    IsTag isTagChar ('#' :: tagName isTagChar rest) (tagName isTagChar rest) where
  eq := rfl
  nonempty := h
  chars _ hMem := List.mem_takeWhile_imp (List.mem_of_mem_take hMem)
  length_le := List.length_take_le _ _

/-- A character that is no `#` leads to the next one. -/
theorem scanTags_cons_of_ne (h : c ≠ '#') :
    scanTags isTagChar mayBegin (c :: rest) = scanTags isTagChar (isSpace c) rest := by
  rw [scanTags, if_neg fun hTag => h hTag.2.1]

theorem scanTags_cons_space (h : isSpace c = true) :
    scanTags isTagChar mayBegin (c :: rest) = scanTags isTagChar true rest := by
  rw [scanTags_cons_of_ne (ne_hash_of_space h), h]

/-- Without a place to begin, no tag begins. -/
theorem scanTags_cons_false :
    scanTags isTagChar false (c :: rest) = scanTags isTagChar (isSpace c) rest := by
  rw [scanTags, if_neg fun hTag => Bool.false_ne_true hTag.1]

theorem scanTags_mem {tag : Text} (h : tag ∈ scanTags isTagChar mayBegin rest) :
    ∃ name, IsTag isTagChar tag name := by
  induction rest generalizing mayBegin with
  | nil => cases h
  | cons c rest ih =>
    rw [scanTags] at h
    split at h
    next hTag =>
      obtain rfl | hMem := List.mem_cons.mp h
      · exact ⟨_, tagName_isTag hTag.2.2⟩
      · exact ih hMem
    · exact ih h

theorem scanTags_spaces {spaces : Text} (h : ∀ c ∈ spaces, isSpace c = true) :
    scanTags isTagChar true (spaces ++ rest) = scanTags isTagChar true rest := by
  induction spaces with
  | nil => rfl
  | cons c spaces ih =>
    obtain ⟨hSpace, hSpaces⟩ := List.forall_mem_cons.mp h
    rw [List.cons_append, scanTags_cons_space hSpace, ih hSpaces]

section Class

variable (hClass : TagClass isTagChar)
include hClass

/-- A tag of its own is scanned as one. -/
theorem scanTags_name {name : Text} (h : ∀ c ∈ name, isTagChar c = true) :
    scanTags isTagChar false (name ++ rest) = scanTags isTagChar false rest := by
  induction name with
  | nil => rfl
  | cons c name ih =>
    obtain ⟨hChar, hName⟩ := List.forall_mem_cons.mp h
    rw [List.cons_append, scanTags_cons_false, hClass.notSpace c hChar, ih hName]

theorem not_tagChar_of_space (h : isSpace c = true) : isTagChar c = false := by
  by_contra hChar
  rw [hClass.notSpace c ((Bool.not_eq_false _).mp hChar)] at h
  cases h

/-- The name after a `#` ends at a space. -/
theorem takeWhile_append_space (h : isSpace c = true) :
    (a ++ c :: rest).takeWhile isTagChar = a.takeWhile isTagChar := by
  induction a with
  | nil => rw [List.nil_append, List.takeWhile_cons_of_neg (by
      rw [not_tagChar_of_space hClass h]
      exact Bool.false_ne_true), List.takeWhile_nil]
  | cons first a ih =>
    rw [List.cons_append, List.takeWhile_cons, List.takeWhile_cons, ih]

/-- **A space separates**: the tags before it, then those after it. -/
theorem scanTags_append (h : isSpace c = true) :
    scanTags isTagChar mayBegin (a ++ c :: rest) =
      scanTags isTagChar mayBegin a ++ scanTags isTagChar true rest := by
  induction a generalizing mayBegin with
  | nil => exact scanTags_cons_space h
  | cons first a ih =>
    have hName : tagName isTagChar (a ++ c :: rest) = tagName isTagChar a := by
      unfold tagName
      rw [takeWhile_append_space hClass h]
    rw [List.cons_append, scanTags, scanTags, hName, ih, ih]
    split <;> rfl

theorem scanTags_tag {tag name : Text} (h : IsTag isTagChar tag name) :
    scanTags isTagChar true tag = [tag] := by
  have hTake : tagName isTagChar name = name := by
    unfold tagName
    rw [List.takeWhile_eq_self_iff.mpr h.chars, List.take_of_length_le h.length_le]
  have hRest : scanTags isTagChar false name = [] := by
    have hName : scanTags isTagChar false (name ++ []) = scanTags isTagChar false [] :=
      scanTags_name hClass h.chars
    rwa [List.append_nil] at hName
  rw [h.eq, scanTags, if_pos ⟨rfl, rfl, by rw [hTake]; exact h.nonempty⟩, hTake, hRest]

/-- The list of tags at the end of a caption is read back. -/
theorem scanTags_join {tags : List Text} (h : ∀ tag ∈ tags, ∃ name, IsTag isTagChar tag name) :
    scanTags isTagChar true (tags.intersperse [' ']).flatten = tags := by
  induction tags with
  | nil => rfl
  | cons tag tags ih =>
    obtain ⟨⟨name, hTag⟩, hTags⟩ := List.forall_mem_cons.mp h
    cases tags with
    | nil =>
      rw [List.intersperse_singleton, List.flatten_singleton]
      exact scanTags_tag hClass hTag
    | cons next tags =>
      rw [List.intersperse_cons_cons, List.flatten_cons, List.flatten_cons, List.singleton_append,
        scanTags_append hClass (by decide), scanTags_tag hClass hTag, ih hTags]
      rfl

theorem scanTags_append_spaces {spaces : Text} (h : ∀ c ∈ spaces, isSpace c = true) :
    scanTags isTagChar mayBegin (a ++ spaces) = scanTags isTagChar mayBegin a := by
  cases spaces with
  | nil => rw [List.append_nil]
  | cons c spaces =>
    obtain ⟨hSpace, hSpaces⟩ := List.forall_mem_cons.mp h
    have hNone : scanTags isTagChar true (spaces ++ []) = scanTags isTagChar true [] :=
      scanTags_spaces hSpaces
    rw [List.append_nil] at hNone
    rw [scanTags_append hClass hSpace, hNone]
    exact List.append_nil _

theorem scanTags_trim (text : Text) :
    scanTags isTagChar true (trim text) = scanTags isTagChar true text := by
  have hEnd : scanTags isTagChar true (trim text ++ (text.dropWhile isSpace).rtakeWhile isSpace) =
      scanTags isTagChar true (trim text) :=
    scanTags_append_spaces hClass fun c hMem => List.mem_rtakeWhile_imp hMem
  have hStart : scanTags isTagChar true (text.takeWhile isSpace ++ text.dropWhile isSpace) =
      scanTags isTagChar true (text.dropWhile isSpace) :=
    scanTags_spaces fun c hMem => List.mem_takeWhile_imp hMem
  rw [← hEnd, trim, trimEnd, List.rdropWhile_append_rtakeWhile, ← hStart,
    List.takeWhile_append_dropWhile]

end Class

/-! ## Spaces -/

/-- Two texts that no scan and no name tells apart. -/
structure ScanAlike (isTagChar : Char → Bool) (a b : Text) : Prop where
  scan : ∀ mayBegin, scanTags isTagChar mayBegin a = scanTags isTagChar mayBegin b
  name : a.takeWhile isTagChar = b.takeWhile isTagChar

theorem ScanAlike.cons {a b : Text} (h : ScanAlike isTagChar a b) (c : Char) :
    ScanAlike isTagChar (c :: a) (c :: b) where
  scan mayBegin := by
    have hName : tagName isTagChar a = tagName isTagChar b := by
      unfold tagName
      rw [h.name]
    rw [scanTags, scanTags, hName, h.scan, h.scan]
  name := by rw [List.takeWhile_cons, List.takeWhile_cons, h.name]

theorem ScanAlike.append {a b : Text} (h : ScanAlike isTagChar a b) (run : Text) :
    ScanAlike isTagChar (run ++ a) (run ++ b) := by
  induction run with
  | nil => exact h
  | cons c run ih => exact ih.cons c

/-- One space stands for several. -/
theorem ScanAlike.spaces (hClass : TagClass isTagChar) {a b : Text}
    (h : ScanAlike isTagChar a b) {run : Text} (hRun : run ≠ [])
    (hSpaces : ∀ c ∈ run, isSpace c = true) :
    ScanAlike isTagChar (' ' :: a) (run ++ b) := by
  cases run with
  | nil => exact absurd rfl hRun
  | cons c run =>
    obtain ⟨hSpace, hSpaces⟩ := List.forall_mem_cons.mp hSpaces
    have hNotTag {c : Char} (h : isSpace c = true) : ¬ isTagChar c = true := by
      rw [not_tagChar_of_space hClass h]
      exact Bool.false_ne_true
    constructor
    · intro mayBegin
      rw [List.cons_append, scanTags_cons_space hSpace, scanTags_cons_space (by decide),
        scanTags_spaces hSpaces]
      exact h.scan true
    · rw [List.cons_append, List.takeWhile_cons_of_neg (hNotTag hSpace),
        List.takeWhile_cons_of_neg (hNotTag (by decide))]

theorem scanAlike_collapseSpaces (hClass : TagClass isTagChar) (text : Text) :
    ScanAlike isTagChar (collapseSpaces text) text := by
  have hRuns (runs : List Text) : ScanAlike isTagChar
      (runs.flatMap fun run => if run.all isSpace && 2 ≤ run.length then [' '] else run)
      runs.flatten := by
    induction runs with
    | nil => exact ⟨fun _ => rfl, rfl⟩
    | cons run runs ih =>
      rw [List.flatMap_cons, List.flatten_cons]
      split
      next hCollapsed =>
        obtain ⟨hSpaces, hLength⟩ := (Bool.and_eq_true_iff).mp hCollapsed
        have hNonempty : run ≠ [] := by
          rintro rfl
          cases of_decide_eq_true hLength
        exact ih.spaces hClass hNonempty (List.all_eq_true.mp hSpaces)
      · exact ih.append run
  have hFlatten := List.flatten_splitBy (fun a b => isSpace a == isSpace b) text
  have hAlike := hRuns (text.splitBy fun a b => isSpace a == isSpace b)
  rwa [hFlatten] at hAlike

end Scan

/-! ## The search -/

/-- The tag at the very front of a text, if there is one. -/
def frontTag (isTagChar : Char → Bool) : Text → List Text
  | '#' :: after =>
    if tagName isTagChar after = [] then [] else ['#' :: tagName isTagChar after]
  | _ => []

/-- How the search goes through a text. -/
inductive Searched (isTagChar : Char → Bool) : Bool → Text → List HashtagPiece → Prop
  | done (atStart : Bool) : Searched isTagChar atStart [] []
  | tagAtStart {after : Text} {pieces : List HashtagPiece}
      (hName : tagName isTagChar after ≠ [])
      (hRest : Searched isTagChar false (after.drop (tagName isTagChar after).length) pieces) :
      Searched isTagChar true ('#' :: after) (.tag ('#' :: tagName isTagChar after) :: pieces)
  | tagAfterSpace {atStart : Bool} {c : Char} {after : Text} {pieces : List HashtagPiece}
      (hSpace : isSpace c = true) (hName : tagName isTagChar after ≠ [])
      (hRest : Searched isTagChar false (after.drop (tagName isTagChar after).length) pieces) :
      Searched isTagChar atStart (c :: '#' :: after)
        (.tag (c :: '#' :: tagName isTagChar after) :: pieces)
  | char {atStart : Bool} {c : Char} {rest : Text} {pieces : List HashtagPiece}
      (hFront : atStart = true → frontTag isTagChar (c :: rest) = [])
      (hNext : isSpace c = true → frontTag isTagChar rest = [])
      (hRest : Searched isTagChar false rest pieces) :
      Searched isTagChar atStart (c :: rest) (.char c :: pieces)

section Search

variable {isTagChar : Char → Bool} {atStart : Bool} {text : Text}

theorem frontTag_hash {after : Text} : frontTag isTagChar ('#' :: after) =
    if tagName isTagChar after = [] then [] else ['#' :: tagName isTagChar after] := rfl

theorem frontTag_of_ne {c : Char} {rest : Text} (h : c ≠ '#') :
    frontTag isTagChar (c :: rest) = [] := by
  unfold frontTag
  split
  next hHash =>
    injection hHash with hHash
    exact absurd hHash h
  · rfl

theorem matchHashtag_hash (after : Text) : matchHashtag isTagChar atStart ('#' :: after) =
    if atStart then (frontTag isTagChar ('#' :: after)).head? else none := by
  unfold matchHashtag
  dsimp only
  split
  next after' hHash =>
    injection hHash with _ hHash
    subst hHash
    cases atStart with
    | false => rfl
    | true =>
      rw [if_pos rfl, if_pos rfl, frontTag_hash]
      split
      next hName => rw [if_pos (show tagName isTagChar after = [] from hName)]; rfl
      next hName => rw [if_neg (show ¬ tagName isTagChar after = [] from hName)]; rfl
  next hNot hHash =>
    injection hHash with hHash
    exact absurd hHash.symm hNot
  next hNot _ => exact absurd rfl (hNot after)

theorem matchHashtag_of_ne {c : Char} {rest : Text} (h : c ≠ '#') :
    matchHashtag isTagChar atStart (c :: rest) =
      if isSpace c then (frontTag isTagChar rest).head?.map (c :: ·) else none := by
  unfold matchHashtag
  dsimp only
  split
  next hHash =>
    injection hHash with hHash
    exact absurd hHash h
  next after _ hHash =>
    injection hHash with hFirst hHash
    subst hFirst hHash
    split
    · rw [frontTag_hash]
      split
      next hName => rw [if_pos (show tagName isTagChar after = [] from hName)]; rfl
      next hName => rw [if_neg (show ¬ tagName isTagChar after = [] from hName)]; rfl
    · rfl
  next hNone =>
    have hFront : frontTag isTagChar rest = [] := by
      unfold frontTag
      split
      · exact absurd rfl (hNone c _)
      · rfl
    rw [hFront]
    split <;> rfl

/-- A text with a tag in front. -/
theorem frontTag_head?_some {tag : Text} (h : (frontTag isTagChar text).head? = some tag) :
    ∃ after, text = '#' :: after ∧ tagName isTagChar after ≠ [] ∧
      tag = '#' :: tagName isTagChar after := by
  match text with
  | [] => cases h
  | c :: after =>
    by_cases hHash : c = '#'
    · subst hHash
      rw [frontTag_hash] at h
      split at h
      · cases h
      next hName => exact ⟨after, rfl, hName, (Option.some.inj h).symm⟩
    · rw [frontTag_of_ne hHash] at h
      cases h

theorem hashtagPiecesFrom_cons_some {fuel : Nat} {c : Char} {rest matched : Text}
    (h : matchHashtag isTagChar atStart (c :: rest) = some matched) :
    hashtagPiecesFrom isTagChar (fuel + 1) atStart (c :: rest) =
      .tag matched :: hashtagPiecesFrom isTagChar fuel false
        ((c :: rest).drop matched.length) := by
  rw [hashtagPiecesFrom, h]

theorem hashtagPiecesFrom_cons_none {fuel : Nat} {c : Char} {rest : Text}
    (h : matchHashtag isTagChar atStart (c :: rest) = none) :
    hashtagPiecesFrom isTagChar (fuel + 1) atStart (c :: rest) =
      .char c :: hashtagPiecesFrom isTagChar fuel false rest := by
  rw [hashtagPiecesFrom, h]

/-- **The search as a relation**, where the fuel is enough. -/
theorem searched_hashtagPiecesFrom {fuel : Nat} (h : text.length ≤ fuel) :
    Searched isTagChar atStart text (hashtagPiecesFrom isTagChar fuel atStart text) := by
  induction fuel generalizing atStart text with
  | zero =>
    obtain rfl := List.length_eq_zero_iff.mp (Nat.le_zero.mp h)
    exact .done atStart
  | succ fuel ih =>
    match text with
    | [] => exact .done atStart
    | c :: rest =>
      rw [List.length_cons] at h
      cases hMatch : matchHashtag isTagChar atStart (c :: rest) with
      | some matched =>
        rw [hashtagPiecesFrom_cons_some hMatch]
        by_cases hHash : c = '#'
        · subst hHash
          rw [matchHashtag_hash] at hMatch
          cases atStart with
          | false => cases hMatch
          | true =>
            obtain ⟨after, hText, hName, rfl⟩ := frontTag_head?_some hMatch
            injection hText with _ hText
            subst hText
            refine .tagAtStart hName (ih ?_)
            rw [List.length_drop]
            omega
        · rw [matchHashtag_of_ne hHash] at hMatch
          split at hMatch
          next hSpace =>
            obtain ⟨tag, hTag, rfl⟩ := Option.map_eq_some_iff.mp hMatch
            obtain ⟨after, rfl, hName, rfl⟩ := frontTag_head?_some hTag
            refine .tagAfterSpace hSpace hName (ih ?_)
            rw [List.length_cons] at h
            rw [List.length_drop]
            omega
          · cases hMatch
      | none =>
        rw [hashtagPiecesFrom_cons_none hMatch]
        have hNone {tags : List Text} (h : tags.head? = none) : tags = [] :=
          List.head?_eq_none_iff.mp h
        refine .char (fun hStart => ?_) (fun hSpace => ?_) (ih (by omega))
        · by_cases hHash : c = '#'
          · subst hHash
            rw [matchHashtag_hash, if_pos hStart] at hMatch
            exact hNone hMatch
          · exact frontTag_of_ne hHash
        · rw [matchHashtag_of_ne (ne_hash_of_space hSpace), if_pos hSpace] at hMatch
          exact hNone (Option.map_eq_none_iff.mp hMatch)

theorem searched (text : Text) : Searched isTagChar true text (hashtagPieces isTagChar text) :=
  searched_hashtagPiecesFrom (Nat.le_refl _)

end Search

/-! ## What is found and what is left -/

/-- The text of a piece. -/
def HashtagPiece.source : HashtagPiece → Text
  | .tag matched => matched
  | .char c => [c]

/-- What the search leaves in its place. -/
def HashtagPiece.replaced : HashtagPiece → Text
  | .tag _ => [' ']
  | .char c => [c]

/-- The tag as it is listed: the space before it belongs to the match. -/
def HashtagPiece.listed : HashtagPiece → List Text
  | .tag matched => ['#' :: match trim matched with
    | '#' :: name => name
    | name => name]
  | .char _ => []

/-- The tags that the pattern matches, as they are listed. -/
def matchedTags (isTagChar : Char → Bool) (text : Text) : List Text :=
  (hashtagPieces isTagChar text).flatMap HashtagPiece.listed

/-- The tags that follow another one at once, without a space between. -/
def gluedTags (isTagChar : Char → Bool) : List HashtagPiece → List Text
  | [] => []
  | .tag _ :: rest =>
    frontTag isTagChar (rest.flatMap HashtagPiece.source) ++ gluedTags isTagChar rest
  | .char _ :: rest => gluedTags isTagChar rest

section Found

variable {isTagChar : Char → Bool} {atStart : Bool} {text : Text} {pieces : List HashtagPiece}

theorem take_tagName (after : Text) :
    tagName isTagChar after ++ after.drop (tagName isTagChar after).length = after := by
  have hPrefix : tagName isTagChar after <+: after :=
    (List.take_prefix _ _).trans (List.takeWhile_prefix _)
  rw [List.prefix_iff_eq_append.mp hPrefix]

/-- The pieces make up the text. -/
theorem Searched.source (h : Searched isTagChar atStart text pieces) :
    pieces.flatMap HashtagPiece.source = text := by
  induction h with
  | done => rfl
  | tagAtStart hName hRest ih =>
    rw [List.flatMap_cons, ih]
    exact congrArg ('#' :: ·) (take_tagName _)
  | @tagAfterSpace _ c _ _ hSpace hName hRest ih =>
    rw [List.flatMap_cons, ih]
    exact congrArg (c :: '#' :: ·) (take_tagName _)
  | @char _ c _ _ hFront hNext hRest ih =>
    rw [List.flatMap_cons, ih]
    rfl

theorem scanTags_eq (mayBegin : Bool) (text : Text) : scanTags isTagChar mayBegin text =
    (if mayBegin then frontTag isTagChar text else []) ++ scanTags isTagChar false text := by
  cases mayBegin with
  | false => rfl
  | true =>
    match text with
    | [] => rfl
    | c :: rest =>
      rw [if_pos rfl, scanTags_cons_false, scanTags]
      by_cases hHash : c = '#'
      · subst hHash
        rw [frontTag_hash]
        by_cases hName : tagName isTagChar rest = []
        · rw [if_pos hName, if_neg fun h => h.2.2 hName, List.nil_append]
        · rw [if_neg hName, if_pos ⟨rfl, rfl, hName⟩, not_space_hash]
          rfl
      · rw [frontTag_of_ne hHash, if_neg fun h => hHash h.2.1, List.nil_append]

/-- A place with no tag in front is scanned like one where none may begin. -/
theorem scanTags_of_frontTag {mayBegin : Bool}
    (h : mayBegin = true → frontTag isTagChar text = []) :
    scanTags isTagChar mayBegin text = scanTags isTagChar false text := by
  rw [scanTags_eq]
  cases mayBegin with
  | false => rfl
  | true => rw [if_pos rfl, h rfl, List.nil_append]

section Class

variable (hClass : TagClass isTagChar)
include hClass

theorem trimEnd_tag {tag name : Text} (h : IsTag isTagChar tag name) : trimEnd tag = tag := by
  refine List.rdropWhile_eq_self_iff.mpr fun hNonempty => ?_
  have hLast : tag.getLast hNonempty ∈ name := by
    have hTag := h.eq
    subst hTag
    rw [List.getLast_cons h.nonempty]
    exact List.getLast_mem h.nonempty
  rw [hClass.notSpace _ (h.chars _ hLast)]
  exact Bool.false_ne_true

/-- A match is listed as its tag, with or without a space before it. -/
theorem listed_tag (spaces : Text) {name : Text} (hSpaces : ∀ c ∈ spaces, isSpace c = true)
    (h : IsTag isTagChar ('#' :: name) name) :
    (HashtagPiece.tag (spaces ++ '#' :: name)).listed = ['#' :: name] := by
  have hTrim : trim (spaces ++ '#' :: name) = '#' :: name := by
    unfold trim
    rw [List.dropWhile_append_of_pos hSpaces, List.dropWhile_cons_of_neg (by
      rw [not_space_hash]
      exact Bool.false_ne_true)]
    exact trimEnd_tag hClass h
  dsimp only [HashtagPiece.listed]
  rw [hTrim]
  rfl

/-- The scan passes over a tag the way the search does. -/
theorem scanTags_drop (after : Text) :
    scanTags isTagChar false (after.drop (tagName isTagChar after).length) =
      scanTags isTagChar false after := by
  have hName : scanTags isTagChar false (tagName isTagChar after ++
      after.drop (tagName isTagChar after).length) =
        scanTags isTagChar false (after.drop (tagName isTagChar after).length) :=
    scanTags_name hClass fun c hMem => List.mem_takeWhile_imp (List.mem_of_mem_take hMem)
  rw [← hName, take_tagName]

theorem Searched.listed (h : Searched isTagChar atStart text pieces) :
    pieces.flatMap HashtagPiece.listed = scanTags isTagChar atStart text := by
  induction h with
  | done => rfl
  | @tagAtStart after _ hName hRest ih =>
    have hListed : (HashtagPiece.tag ('#' :: tagName isTagChar after)).listed =
        ['#' :: tagName isTagChar after] :=
      listed_tag hClass [] (fun c hMem => absurd hMem List.not_mem_nil)
        (tagName_isTag hName)
    rw [List.flatMap_cons, ih, hListed, scanTags_drop hClass, scanTags, if_pos ⟨rfl, rfl, hName⟩]
    rfl
  | @tagAfterSpace _ c after _ hSpace hName hRest ih =>
    have hListed : (HashtagPiece.tag (c :: '#' :: tagName isTagChar after)).listed =
        ['#' :: tagName isTagChar after] :=
      listed_tag hClass [c] (by simpa using hSpace) (tagName_isTag hName)
    rw [List.flatMap_cons, ih, hListed, scanTags_drop hClass, scanTags_cons_space hSpace,
      scanTags, if_pos ⟨rfl, rfl, hName⟩]
    rfl
  | @char atStart c rest _ hFront hNext hRest ih =>
    rw [List.flatMap_cons, ih, scanTags_of_frontTag hFront, scanTags_cons_false,
      scanTags_of_frontTag hNext]
    rfl

/-- **The search finds what the scan finds.** -/
theorem matchedTags_eq (text : Text) :
    matchedTags isTagChar text = scanTags isTagChar true text :=
  (searched text).listed hClass

theorem Searched.takeWhile_replaced (h : Searched isTagChar false text pieces) :
    (pieces.flatMap HashtagPiece.replaced).takeWhile isTagChar = text.takeWhile isTagChar := by
  generalize hStart : false = atStart at h
  induction h with
  | done => rfl
  | tagAtStart => cases hStart
  | @tagAfterSpace _ c _ _ hSpace hName hRest ih =>
    have hNotTag {c : Char} (h : isSpace c = true) : ¬ isTagChar c = true := by
      rw [not_tagChar_of_space hClass h]
      exact Bool.false_ne_true
    rw [List.takeWhile_cons_of_neg (hNotTag hSpace), List.flatMap_cons]
    exact List.takeWhile_cons_of_neg (hNotTag (by decide))
  | @char _ c rest pieces hFront hNext hRest ih =>
    show (c :: pieces.flatMap HashtagPiece.replaced).takeWhile isTagChar = _
    rw [List.takeWhile_cons, List.takeWhile_cons, ih rfl]

/-- What stands in front is replaced only where the search may begin with it. -/
theorem Searched.frontTag_replaced (h : Searched isTagChar atStart text pieces) :
    frontTag isTagChar (pieces.flatMap HashtagPiece.replaced) =
      if atStart then [] else frontTag isTagChar text := by
  cases h with
  | done => cases atStart <;> rfl
  | tagAtStart => rfl
  | @tagAfterSpace _ c _ _ hSpace hName hRest =>
    rw [frontTag_of_ne (ne_hash_of_space hSpace), ite_self]
    rfl
  | @char _ c rest pieces hFront hNext hRest =>
    have hSame : frontTag isTagChar (c :: pieces.flatMap HashtagPiece.replaced) =
        frontTag isTagChar (c :: rest) := by
      by_cases hHash : c = '#'
      · subst hHash
        rw [frontTag_hash, frontTag_hash, tagName, tagName, hRest.takeWhile_replaced hClass]
      · rw [frontTag_of_ne hHash, frontTag_of_ne hHash]
    show frontTag isTagChar (c :: pieces.flatMap HashtagPiece.replaced) = _
    rw [hSame]
    cases hStart : atStart with
    | false => rfl
    | true => exact hFront hStart

/-- **What is a tag once the tags are taken out**: those that followed another one at once. -/
theorem Searched.scanTags_replaced (h : Searched isTagChar atStart text pieces) :
    scanTags isTagChar false (pieces.flatMap HashtagPiece.replaced) =
      gluedTags isTagChar pieces := by
  have hTag {after : Text} {pieces : List HashtagPiece}
      (hRest : Searched isTagChar false (after.drop (tagName isTagChar after).length) pieces)
      (ih : scanTags isTagChar false (pieces.flatMap HashtagPiece.replaced) =
        gluedTags isTagChar pieces) :
      scanTags isTagChar false (' ' :: pieces.flatMap HashtagPiece.replaced) =
        frontTag isTagChar (pieces.flatMap HashtagPiece.source) ++ gluedTags isTagChar pieces := by
    rw [scanTags_cons_space (by decide), scanTags_eq, if_pos rfl, hRest.frontTag_replaced hClass,
      hRest.source, ih]
    rfl
  induction h with
  | done => rfl
  | tagAtStart hName hRest ih => exact hTag hRest ih
  | tagAfterSpace hSpace hName hRest ih => exact hTag hRest ih
  | @char _ c rest pieces hFront hNext hRest ih =>
    show scanTags isTagChar false (c :: pieces.flatMap HashtagPiece.replaced) = _
    rw [scanTags_cons_false, scanTags_of_frontTag, ih]
    · rfl
    · intro hSpace
      rw [hRest.frontTag_replaced hClass]
      exact hNext hSpace

end Class

end Found

end SocialPromotion
