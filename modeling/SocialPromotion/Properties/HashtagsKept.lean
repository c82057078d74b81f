import Mathlib
import SocialPromotion.Sending.Hashtags
import SocialPromotion.Sending.Preflight

/-!
# Hashtags of an Instagram caption

`extractHashtags` lists at most 30 tags, each once; `removeHashtags` takes every tag out of the
message. The caption is put together from what is left, the link and the list.

Results:

* `caption_tags`: the tags of a caption, in order;
* `hashtags_kept_iff`: when no hashtag is lost, doubled or made anew.
-/

namespace SocialPromotion

section Tags

variable {isTagChar : Char → Bool}

/-- The text outside of the matched tags. -/
def outsideTags (isTagChar : Char → Bool) (message : Text) : Text :=
  (hashtagPieces isTagChar message).flatMap fun
    | .tag _ => []
    | .char c => [c]

theorem matchedTags_eq_map (message : Text) : matchedTags isTagChar message =
    ((hashtagPieces isTagChar message).filterMap fun
      | .tag matched => some matched
      | .char _ => none).map fun tag =>
        '#' :: match trim tag with
          | '#' :: name => name
          | name => name := by
  unfold matchedTags
  induction hashtagPieces isTagChar message with
  | nil => rfl
  | cons piece pieces ih =>
    rw [List.flatMap_cons, ih]
    cases piece <;> rfl

theorem extractHashtags_eq (message : Text) : extractHashtags isTagChar message =
    (matchedTags isTagChar message).eraseDups.take 30 := by
  rw [matchedTags_eq_map]
  rfl

theorem removeHashtags_eq (message : Text) : removeHashtags isTagChar message =
    trim (collapseSpaces
      ((hashtagPieces isTagChar message).flatMap HashtagPiece.replaced)) := by
  unfold removeHashtags
  congr 3

/-! ## Characters outside of tags -/

theorem filter_eq_nil_of_space {text : Text} (h : ∀ c ∈ text, isSpace c = true) :
    text.filter (fun c => !isSpace c) = [] :=
  List.filter_eq_nil_iff.mpr fun c hMem => by simp [h c hMem]

/-- Trimming removes spaces alone. -/
theorem filter_trim (text : Text) :
    (trim text).filter (fun c => !isSpace c) = text.filter fun c => !isSpace c := by
  have hEnd := congrArg (List.filter fun c => !isSpace c)
    (List.rdropWhile_append_rtakeWhile (p := isSpace) (l := text.dropWhile isSpace))
  have hStart := congrArg (List.filter fun c => !isSpace c)
    (List.takeWhile_append_dropWhile (p := isSpace) (l := text))
  rw [List.filter_append, filter_eq_nil_of_space fun c hMem => List.mem_rtakeWhile_imp hMem,
    List.append_nil] at hEnd
  rw [List.filter_append, filter_eq_nil_of_space fun c hMem => List.mem_takeWhile_imp hMem,
    List.nil_append] at hStart
  exact hEnd.trans hStart

theorem filter_collapseSpaces (text : Text) :
    (collapseSpaces text).filter (fun c => !isSpace c) = text.filter fun c => !isSpace c := by
  have hRun (run : Text) : (if run.all isSpace && 2 ≤ run.length then [' '] else run).filter
      (fun c => !isSpace c) = run.filter fun c => !isSpace c := by
    split
    next hCollapsed =>
      have hSpaces := List.all_eq_true.mp (Bool.and_eq_true_iff.mp hCollapsed).1
      exact (filter_eq_nil_of_space hSpaces).symm
    · rfl
  unfold collapseSpaces
  conv_rhs => rw [← List.flatten_splitBy (fun a b => isSpace a == isSpace b) text]
  rw [List.filter_flatMap, List.filter_flatten, List.flatMap_def]
  simp only [hRun]

/-- **No character outside of a tag disappears**: spaces apart, what is left of a message are its
characters outside of tags, in order. -/
theorem filter_removeHashtags (message : Text) :
    (removeHashtags isTagChar message).filter (fun c => !isSpace c) =
      (outsideTags isTagChar message).filter fun c => !isSpace c := by
  rw [removeHashtags_eq, filter_trim, filter_collapseSpaces]
  unfold outsideTags
  rw [List.filter_flatMap, List.filter_flatMap]
  congr 1
  funext piece
  cases piece <;> rfl

/-! ## The caption -/

theorem scanTags_joinNonEmpty (hClass : TagClass isTagChar) (parts : List Text) :
    scanTags isTagChar true (joinNonEmpty ['\n', '\n'] parts) =
      parts.flatMap (scanTags isTagChar true) := by
  have hJoin (parts : List Text) :
      scanTags isTagChar true (parts.intersperse ['\n', '\n']).flatten =
        parts.flatMap (scanTags isTagChar true) := by
    induction parts with
    | nil => rfl
    | cons part parts ih =>
      cases parts with
      | nil => rw [List.intersperse_singleton, List.flatten_singleton, List.flatMap_singleton]
      | cons next parts =>
        rw [List.intersperse_cons_cons, List.flatten_cons, List.flatten_cons, List.flatMap_cons,
          ← ih]
        show scanTags isTagChar true (part ++ '\n' :: '\n' :: _) = _
        rw [scanTags_append hClass (by decide), scanTags_cons_space (by decide)]
        rfl
  have hFilter (parts : List Text) : (parts.filter fun part => !part.isEmpty).flatMap
      (scanTags isTagChar true) = parts.flatMap (scanTags isTagChar true) := by
    induction parts with
    | nil => rfl
    | cons part parts ih =>
      cases part with
      | nil => exact ih
      | cons c rest =>
        rw [List.filter_cons_of_pos (by rfl), List.flatMap_cons, List.flatMap_cons, ih]
  unfold joinNonEmpty
  rw [hJoin, hFilter]

theorem extractHashtags_isTag (hClass : TagClass isTagChar) {message tag : Text}
    (h : tag ∈ extractHashtags isTagChar message) : ∃ name, IsTag isTagChar tag name := by
  rw [extractHashtags_eq, matchedTags_eq hClass] at h
  exact scanTags_mem (List.mem_eraseDups.mp (List.mem_of_mem_take h))

/-- The tags of what `removeHashtags` leaves are those that followed another at once. -/
theorem matchedTags_removeHashtags (hClass : TagClass isTagChar) (message : Text) :
    matchedTags isTagChar (removeHashtags isTagChar message) =
      gluedTags isTagChar (hashtagPieces isTagChar message) := by
  have hSearched : Searched isTagChar true message _ := searched message
  rw [matchedTags_eq hClass, removeHashtags_eq, scanTags_trim hClass,
    (scanAlike_collapseSpaces hClass _).scan, scanTags_eq, if_pos rfl,
    hSearched.frontTag_replaced hClass, if_pos rfl, hSearched.scanTags_replaced hClass,
    List.nil_append]

/-- What the formatter makes of a message. -/
theorem instagramFormat_eq (message title : Text) (url : Option Text) :
    InstagramContentFormatter.format isTagChar ⟨some message, url, title⟩ =
      .ok (.instagram
        (joinNonEmpty ['\n', '\n'] [
          joinNonEmpty ['\n', '\n'] [trim title, trim (removeHashtags isTagChar message)],
          url.getD [], ((extractHashtags isTagChar message).intersperse [' ']).flatten])
        (extractHashtags isTagChar message)) := rfl

/-- **The tags of a caption**: those of the title, those glued to another tag, those of the link
and those of the list. -/
theorem caption_tags (hClass : TagClass isTagChar) {message title caption : Text}
    {url : Option Text} {hashtags : List Text}
    (h : InstagramContentFormatter.format isTagChar ⟨some message, url, title⟩ =
      .ok (.instagram caption hashtags)) :
    hashtags = extractHashtags isTagChar message ∧
      matchedTags isTagChar caption = matchedTags isTagChar title ++
        gluedTags isTagChar (hashtagPieces isTagChar message) ++
        matchedTags isTagChar (url.getD []) ++ hashtags := by
  rw [instagramFormat_eq] at h
  obtain ⟨rfl, rfl⟩ := PlatformContent.instagram.inj (Except.ok.inj h)
  refine ⟨rfl, ?_⟩
  rw [← matchedTags_removeHashtags hClass, matchedTags_eq hClass, matchedTags_eq hClass,
    matchedTags_eq hClass, matchedTags_eq hClass, scanTags_joinNonEmpty hClass,
    List.flatMap_cons, List.flatMap_cons, List.flatMap_singleton, scanTags_joinNonEmpty hClass,
    List.flatMap_cons, List.flatMap_singleton, scanTags_trim hClass, scanTags_trim hClass,
    scanTags_join hClass fun tag => extractHashtags_isTag hClass]
  simp only [List.append_assoc]

/-! ## The list of hashtags -/

theorem nodup_eraseDups (l : List Text) : l.eraseDups.Nodup := by
  match l with
  | [] => exact List.nodup_nil
  | a :: rest =>
    rw [List.eraseDups_cons, List.nodup_cons]
    refine ⟨fun hMem => ?_, nodup_eraseDups _⟩
    have hKept := (List.mem_filter.mp (List.mem_eraseDups.mp hMem)).2
    simp at hKept
  termination_by l.length
  decreasing_by
    exact Nat.lt_succ_of_le (List.length_filter_le _ _)

/-- The tags of a message, each once and in the order of their first places. -/
def distinctTags (isTagChar : Char → Bool) (message : Text) : List Text :=
  (matchedTags isTagChar message).eraseDups

theorem mem_distinctTags {message tag : Text} :
    tag ∈ distinctTags isTagChar message ↔ tag ∈ matchedTags isTagChar message :=
  List.mem_eraseDups

theorem extractHashtags_count {message tag : Text} : (extractHashtags isTagChar message).count tag =
    if tag ∈ (distinctTags isTagChar message).take 30 then 1 else 0 := by
  rw [extractHashtags_eq]
  have hNodup : ((distinctTags isTagChar message).take 30).Nodup :=
    (nodup_eraseDups _).sublist (List.take_sublist _ _)
  split
  next hMem => exact List.count_eq_one_of_mem hNodup hMem
  next hMem => exact List.count_eq_zero_of_not_mem hMem

/-- Up to 30 tags are listed; of more, at least one is left out. -/
theorem all_listed_iff {message : Text} :
    (∀ tag ∈ matchedTags isTagChar message, tag ∈ (distinctTags isTagChar message).take 30) ↔
      (distinctTags isTagChar message).length ≤ 30 := by
  constructor
  · intro hListed
    by_contra hMore
    have hLong : 30 < (distinctTags isTagChar message).length := Nat.lt_of_not_le hMore
    -- the tag after the first 30 is not among them
    have hMem : (distinctTags isTagChar message)[30] ∈ (distinctTags isTagChar message).take 30 :=
      hListed _ (mem_distinctTags.mp (List.getElem_mem hLong))
    obtain ⟨i, hi, hEq⟩ := List.mem_take_iff_getElem.mp hMem
    have hSame := (List.Nodup.getElem_inj_iff (nodup_eraseDups _)).mp hEq
    omega
  · intro hFew tag hMem
    rw [List.take_of_length_le hFew]
    exact mem_distinctTags.mpr hMem

/-- The tags of a caption besides the listed ones. -/
def unlistedTags (isTagChar : Char → Bool) (message title : Text) (url : Option Text) :
    List Text :=
  matchedTags isTagChar title ++ gluedTags isTagChar (hashtagPieces isTagChar message) ++
    matchedTags isTagChar (url.getD [])

end Tags

/-- **When the hashtags of a message are kept**: every tag is listed once, and exactly the listed
tags are taken out, for up to 30 different ones. A tag stands in the caption once where the title,
the link and the tags glued to another one have it not, or have it once if it is not listed. No
other character is lost, and no new tag arises without glued ones. -/
theorem hashtags_kept_iff {isTagChar : Char → Bool} (hClass : TagClass isTagChar)
    (message title : Text) (url : Option Text) :
    ∃ caption hashtags, InstagramContentFormatter.format isTagChar ⟨some message, url, title⟩ =
        .ok (.instagram caption hashtags) ∧
      ((∀ tag ∈ matchedTags isTagChar message, hashtags.count tag = 1) ↔
        (distinctTags isTagChar message).length ≤ 30) ∧
      ((∀ tag, tag ∈ matchedTags isTagChar message ↔ tag ∈ hashtags) ↔
        (distinctTags isTagChar message).length ≤ 30) ∧
      ((∀ tag ∈ matchedTags isTagChar message, (matchedTags isTagChar caption).count tag = 1) ↔
        ∀ tag ∈ matchedTags isTagChar message,
          (unlistedTags isTagChar message title url).count tag =
            if tag ∈ (distinctTags isTagChar message).take 30 then 0 else 1) ∧
      (removeHashtags isTagChar message).filter (fun c => !isSpace c) =
        (outsideTags isTagChar message).filter (fun c => !isSpace c) ∧
      (matchedTags isTagChar (removeHashtags isTagChar message) = [] ↔
        gluedTags isTagChar (hashtagPieces isTagChar message) = []) := by
  refine ⟨_, _, instagramFormat_eq message title url, ?_, ?_, ?_, filter_removeHashtags message,
    by rw [matchedTags_removeHashtags hClass]⟩
  · rw [← all_listed_iff]
    refine forall₂_congr fun tag hMem => ?_
    rw [extractHashtags_count]
    split <;> simp [*]
  · rw [← all_listed_iff, extractHashtags_eq]
    refine ⟨fun hAll tag hMem => (hAll tag).mp hMem, fun hListed tag => ⟨hListed tag, ?_⟩⟩
    exact fun hMem => mem_distinctTags.mp (List.mem_of_mem_take hMem)
  · refine forall₂_congr fun tag hMem => ?_
    rw [(caption_tags hClass (instagramFormat_eq message title url)).2, List.count_append,
      extractHashtags_count]
    unfold unlistedTags
    split <;> omega

/-- Letters and digits are neither spaces nor `#`. -/
theorem tagClass_isAlphanum : TagClass Char.isAlphanum where
  notSpace c h := by
    simp only [Char.isAlphanum, Char.isAlpha, Char.isUpper, Char.isLower, Char.isDigit,
      Bool.or_eq_true, Bool.and_eq_true, decide_eq_true_eq, UInt32.le_iff_toNat_le,
      ge_iff_le] at h
    have hRange : 48 ≤ c.toNat ∧ c.toNat ≤ 122 := by
      have hToNat : c.toNat = c.val.toNat := rfl
      simp at h
      omega
    unfold isSpace
    dsimp only
    simp only [Bool.or_eq_false_iff, Bool.and_eq_false_iff, decide_eq_false_iff_not,
      beq_eq_false_iff_ne]
    omega
  notHash := by decide

theorem hashtags_kept_iff_two :
    ∃ caption hashtags, InstagramContentFormatter.format Char.isAlphanum
        ⟨some "Hi #a #b".toList, none, []⟩ = .ok (.instagram caption hashtags) ∧
      ((∀ tag ∈ matchedTags Char.isAlphanum "Hi #a #b".toList, hashtags.count tag = 1) ↔
        (distinctTags Char.isAlphanum "Hi #a #b".toList).length ≤ 30) ∧
      ((∀ tag, tag ∈ matchedTags Char.isAlphanum "Hi #a #b".toList ↔ tag ∈ hashtags) ↔
        (distinctTags Char.isAlphanum "Hi #a #b".toList).length ≤ 30) ∧
      ((∀ tag ∈ matchedTags Char.isAlphanum "Hi #a #b".toList,
          (matchedTags Char.isAlphanum caption).count tag = 1) ↔
        ∀ tag ∈ matchedTags Char.isAlphanum "Hi #a #b".toList,
          (unlistedTags Char.isAlphanum "Hi #a #b".toList [] none).count tag =
            if tag ∈ (distinctTags Char.isAlphanum "Hi #a #b".toList).take 30 then 0 else 1) ∧
      (removeHashtags Char.isAlphanum "Hi #a #b".toList).filter (fun c => !isSpace c) =
        (outsideTags Char.isAlphanum "Hi #a #b".toList).filter (fun c => !isSpace c) ∧
      (matchedTags Char.isAlphanum (removeHashtags Char.isAlphanum "Hi #a #b".toList) = [] ↔
        gluedTags Char.isAlphanum (hashtagPieces Char.isAlphanum "Hi #a #b".toList) = []) :=
  hashtags_kept_iff tagClass_isAlphanum "Hi #a #b".toList [] none

/-- A message of 31 tags. -/
def manyTags : Text :=
  (List.range 31).flatMap fun n => ' ' :: '#' :: Nat.toDigits 10 n

/-- The last one is taken out of the message and not listed: the caption has 30. -/
theorem hashtag_lost :
    ['#', '3', '0'] ∈ matchedTags Char.isAlphanum manyTags ∧
      ['#', '3', '0'] ∉ extractHashtags Char.isAlphanum manyTags ∧
      removeHashtags Char.isAlphanum manyTags = [] ∧
      InstagramContentFormatter.format Char.isAlphanum ⟨some manyTags, none, []⟩ =
        .ok (.instagram ((List.range 30).flatMap fun n =>
            (if n = 0 then [] else [' ']) ++ '#' :: Nat.toDigits 10 n)
          ((List.range 30).map fun n => '#' :: Nat.toDigits 10 n)) := by
  decide +kernel

end SocialPromotion
