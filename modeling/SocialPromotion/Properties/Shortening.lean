import SocialPromotion.Sending.Preflight

/-!
# Shortened texts

`compact` cuts a text down to a bound and marks the cut with an ellipsis. Threads and X call it
before `issues` measures the text, so what `issues` measures is the shortened text.

Results:

* `compact_kept_iff`: from a bound of 2 on the result is within the bound, and an X text with its
  link within 280 unless the link leaves no room;
* `shortened_reported_iff`: which cuts `issues` reports.
-/

namespace SocialPromotion

/-! ## compact -/

section Compact

variable {text : Text} {n : Nat}

theorem compact_of_le (h : (trim text).length ≤ n) : compact text n = trim text := if_pos h

theorem compact_of_lt (h : n < (trim text).length) :
    compact text n = trimEnd ((trim text).take (max 1 (n - 1))) ++ ['…'] :=
  if_neg (Nat.not_le_of_lt h)

theorem trimEnd_isPrefix (text : Text) : trimEnd text <+: text := List.rdropWhile_prefix _ _

/-- A trimmed text ends in no space. -/
theorem getLast?_trimEnd {c : Char} (h : (trimEnd text).getLast? = some c) :
    isSpace c = false := by
  obtain ⟨hNonempty, rfl⟩ := List.mem_getLast?_eq_getLast h
  exact Bool.eq_false_of_not_eq_true (List.rdropWhile_last_not _ _ hNonempty)

/-- It begins with none either. -/
theorem head?_trim {c : Char} (h : (trim text).head? = some c) : isSpace c = false := by
  have hHead : (text.dropWhile isSpace).head? = some c := by
    obtain ⟨rest, hRest⟩ := trimEnd_isPrefix (text.dropWhile isSpace)
    rw [← hRest, List.head?_append, show (trimEnd _).head? = some c from h, Option.some_or]
  have hStops := List.head?_dropWhile_not isSpace text
  rw [hHead] at hStops
  exact hStops

theorem trimEnd_singleton {c : Char} (h : isSpace c = false) : trimEnd [c] = [c] := by
  simp [trimEnd, List.rdropWhile_singleton, h]

/-- One character is left where the bound is 1. -/
theorem compact_one (h : 1 < (trim text).length) :
    compact text 1 = (trim text).take 1 ++ ['…'] := by
  rw [compact_of_lt h]
  cases hText : trim text with
  | nil => simp [hText] at h
  | cons c rest =>
    have hSpace : isSpace c = false := head?_trim (by rw [hText]; rfl)
    rw [show (c :: rest).take (max 1 (1 - 1)) = [c] from rfl, trimEnd_singleton hSpace]
    rfl

theorem length_compact_le (h : 2 ≤ n) : (compact text n).length ≤ n := by
  by_cases hFits : (trim text).length ≤ n
  · rw [compact_of_le hFits]
    exact hFits
  · have hKept : (trimEnd ((trim text).take (max 1 (n - 1)))).length ≤ max 1 (n - 1) :=
      (trimEnd_isPrefix _).length_le.trans (List.length_take_le _ _)
    rw [compact_of_lt (Nat.lt_of_not_le hFits), List.length_append, List.length_singleton]
    omega

theorem length_compact_one :
    (compact text 1).length = if (trim text).length ≤ 1 then (trim text).length else 2 := by
  split
  next h => rw [compact_of_le h]
  next h =>
    have hTake : ((trim text).take 1).length = 1 := by
      rw [List.length_take]
      omega
    rw [compact_one (Nat.lt_of_not_le h), List.length_append, hTake, List.length_singleton]

end Compact

/-- What is promised of `compact`: at most `n` characters, the trimmed text where it fits, and
otherwise a beginning of it that ends in no space, with one ellipsis. -/
structure CompactSpec (text : Text) (n : Nat) : Prop where
  bounded : (compact text n).length ≤ n
  whole : (trim text).length ≤ n → compact text n = trim text
  cut : n < (trim text).length → ∃ kept, kept <+: trim text ∧
    (∀ c, kept.getLast? = some c → isSpace c = false) ∧ compact text n = kept ++ ['…']

theorem compactSpec_iff {text : Text} {n : Nat} (h : 1 ≤ n) :
    CompactSpec text n ↔ 2 ≤ n ∨ (trim text).length ≤ n := by
  have hCut (hLong : n < (trim text).length) : ∃ kept, kept <+: trim text ∧
      (∀ c, kept.getLast? = some c → isSpace c = false) ∧ compact text n = kept ++ ['…'] :=
    ⟨_, (trimEnd_isPrefix _).trans (List.take_prefix _ _), fun _ => getLast?_trimEnd,
      compact_of_lt hLong⟩
  constructor
  · intro hSpec
    by_contra hNone
    obtain ⟨hBound, hLong⟩ := not_or.mp hNone
    obtain rfl : n = 1 := by omega
    have hBounded := hSpec.bounded
    rw [length_compact_one, if_neg hLong] at hBounded
    omega
  · intro hRoom
    refine ⟨?_, compact_of_le, hCut⟩
    obtain hBound | hFits := hRoom
    · exact length_compact_le hBound
    · rw [compact_of_le hFits]
      exact hFits

/-- The text with the link on a line of its own. -/
def withLink (text : Text) : Option Text → Text
  | some (c :: rest) => text ++ '\n' :: c :: rest
  | _ => text

/-- The X formatter leaves room for the link within 280 characters. -/
def XWithinLimit (title message : Text) (url : Option Text) : Prop :=
  ∃ text, XContentFormatter.format ⟨some message, url, title⟩ = .ok (.x text) ∧
    (withLink text url).length ≤ 280

/-- The bound of an X text: an empty link takes no room. -/
def xBound : Option Text → Nat
  | some (c :: rest) => max 1 (280 - ((c :: rest).length + 1))
  | _ => 280

theorem xFormat_eq (title message : Text) (url : Option Text) :
    XContentFormatter.format ⟨some message, url, title⟩ =
      .ok (.x (compact (joinNonEmpty ['\n', '\n'] [trim title, trim message]) (xBound url))) :=
  match url with
  | none => rfl
  | some [] => rfl
  | some (_ :: _) => rfl

/-- The title and the message as four formatters join them. -/
def joinedText (title message : Text) : Text :=
  trim (joinNonEmpty ['\n', '\n'] [trim title, trim message])

theorem xWithinLimit_iff {title message : Text} {url : Option Text}
    (h : (url.getD []).length < 280) :
    XWithinLimit title message url ↔ (url.getD []).length ≤ 277 ∨
      (joinedText title message).length + (url.getD []).length ≤ 279 := by
  have hText : XWithinLimit title message url ↔
      (withLink (compact (joinNonEmpty ['\n', '\n'] [trim title, trim message]) (xBound url))
        url).length ≤ 280 := by
    refine ⟨fun ⟨text, hText, hFits⟩ => ?_, fun hFits => ⟨_, xFormat_eq title message url, hFits⟩⟩
    rw [xFormat_eq] at hText
    obtain rfl := PlatformContent.x.inj (Except.ok.inj hText)
    exact hFits
  rw [hText]
  have hNoLink : (compact (joinNonEmpty ['\n', '\n'] [trim title, trim message]) 280).length ≤ 280 :=
    length_compact_le (by decide)
  rcases url with _ | _ | ⟨c, rest⟩
  · exact iff_of_true hNoLink (Or.inl (Nat.zero_le 277))
  · exact iff_of_true hNoLink (Or.inl (Nat.zero_le 277))
  · simp only [Option.getD_some, withLink, xBound, List.length_append, List.length_cons] at h ⊢
    by_cases hRoom : rest.length + 1 ≤ 277
    · have hCompact := @length_compact_le (joinNonEmpty ['\n', '\n'] [trim title, trim message])
        (max 1 (280 - (rest.length + 1 + 1))) (by omega)
      exact iff_of_true (by omega) (Or.inl hRoom)
    · -- 278 and 279 characters of a link both leave a bound of 1
      have hBound : max 1 (280 - (rest.length + 1 + 1)) = 1 := by omega
      rw [hBound, length_compact_one, or_iff_right hRoom]
      unfold joinedText
      split <;> omega

/-- **`compact` keeps its bound from 2 on**: for a bound of 1 exactly where the text fits. An X
text with its link stays within 280 exactly where the link has at most 277 characters or the
text needs no more room than is left. -/
theorem compact_kept_iff (text title message : Text) (n : Nat) (url : Option Text) :
    (1 ≤ n → (CompactSpec text n ↔ 2 ≤ n ∨ (trim text).length ≤ n)) ∧
      ((url.getD []).length < 280 →
        (XWithinLimit title message url ↔ (url.getD []).length ≤ 277 ∨
          (joinedText title message).length + (url.getD []).length ≤ 279)) :=
  ⟨compactSpec_iff, xWithinLimit_iff⟩

/-- A bound of 1 gives two characters, and a link of 278 characters leads to it. -/
theorem compact_exceeds_bound : ¬ CompactSpec ['H', 'i'] 1 ∧
    ¬ XWithinLimit [] ['H', 'i'] (some ("https://example.org/".toList ++ List.replicate 258 'a')) := by
  constructor
  · rw [compactSpec_iff (Nat.le_refl 1)]
    decide
  · rw [xWithinLimit_iff (by decide +kernel)]
    decide +kernel

/-! ## Shortened texts and their issues -/

section Trimmed

variable {text : Text}

theorem trim_eq_self (hHead : ∀ c, text.head? = some c → isSpace c = false)
    (hLast : ∀ c, text.getLast? = some c → isSpace c = false) : trim text = text := by
  have hFront : text.dropWhile isSpace = text := by
    cases text with
    | nil => rfl
    | cons c rest =>
      have hSpace : isSpace c = false := hHead c rfl
      simp [hSpace]
  unfold trim trimEnd
  rw [hFront]
  refine List.rdropWhile_eq_self_iff.mpr fun hNonempty => ?_
  rw [hLast _ (List.getLast?_eq_some_getLast hNonempty)]
  exact Bool.false_ne_true

theorem trim_trim (text : Text) : trim (trim text) = trim text :=
  trim_eq_self (fun _ => head?_trim) fun _ => getLast?_trimEnd

/-- Trimmed parts are joined to a trimmed text. -/
theorem joinedText_eq (title message : Text) :
    joinedText title message = joinNonEmpty ['\n', '\n'] [trim title, trim message] := by
  unfold joinedText
  rw [joinNonEmpty_pair]
  by_cases hTitle : trim title = []
  · rw [if_pos hTitle, trim_trim]
  rw [if_neg hTitle]
  by_cases hMessage : trim message = []
  · rw [if_pos hMessage, trim_trim]
  rw [if_neg hMessage]
  refine trim_eq_self (fun c h => ?_) fun c h => ?_
  · rw [List.append_assoc, List.head?_append_of_ne_nil _ hTitle] at h
    exact head?_trim h
  · rw [List.getLast?_append_of_ne_nil _ hMessage] at h
    exact getLast?_trimEnd h

theorem joinedText_nil (message : Text) : joinedText [] message = trim message := by
  rw [joinedText_eq]
  exact joinNonEmpty_pair ..

/-- A title that is not blank shows in the joined text. -/
theorem length_lt_joinedText {title message : Text} (h : ¬ Blank title) :
    (trim message).length < (joinedText title message).length := by
  have hTitle : trim title ≠ [] := mt trim_eq_nil_iff.mp h
  have hLength : 0 < (trim title).length := List.length_pos_of_ne_nil hTitle
  rw [joinedText_eq, joinNonEmpty_pair, if_neg hTitle]
  split
  next hMessage =>
    rw [hMessage]
    exact hLength
  · rw [List.length_append, List.length_append]
    omega

end Trimmed

/-- The whole text of a post on a platform: its override, or the title and the body. -/
def completeText (content : PostContent) (platform : SocialPlatform) : Text :=
  match (content.platformBodies.getD {}).get platform with
  | .text override => trim override
  | _ => joinedText content.title content.body

/-- What Threads and X shorten: Threads leaves the title out. -/
def shortenedText (content : PostContent) (platform : SocialPlatform) : Text :=
  match (content.platformBodies.getD {}).get platform with
  | .text override => trim override
  | _ => if platform = .threads then trim content.body else joinedText content.title content.body

/-- The bound they shorten to. -/
def shortenedBound (platform : SocialPlatform) (url : Option Text) : Nat :=
  if platform = .threads then 500 else xBound url

/-- What would stand before the ellipsis. -/
def keptText (content : PostContent) (platform : SocialPlatform) : Text :=
  trimEnd ((shortenedText content platform).take (max 1 (shortenedBound platform content.url - 1)))

/-- The text fits its bound, or a character and an ellipsis are all of it where the link leaves
room for one, or its beginning alone is too heavy with the ellipsis and the link. -/
def FitsOrTooHeavy (content : PostContent) (platform : SocialPlatform) : Prop :=
  (shortenedText content platform).length ≤ shortenedBound platform content.url ∨
    (shortenedBound platform content.url = 1 ∧
      (shortenedText content platform).drop 1 = ['…']) ∨
    PostService.lengthLimit platform <
      ((keptText content platform).map (PostService.weight platform)).sum +
        PostService.weight platform '…' + PostService.linkLength platform content.url

/-- The title is part of what the formatter of the platform is given to shorten. -/
def TitleIncluded (content : PostContent) (platform : SocialPlatform) : Prop :=
  platform = .threads → Blank content.title ∨
    ∃ override, (content.platformBodies.getD {}).get platform = .text override

section Bodies

variable {isTagChar : Char → Bool} {post : Post} {job : SocialPublishJob}
  {formatted : SocialPost}

/-- The body for Threads and X is the compacted text. -/
theorem body_shortened (h : FormatterService.format isTagChar post job = .ok formatted)
    (hPlatform : job.platform = .threads ∨ job.platform = .x) :
    ∃ text, trim text = shortenedText post.content job.platform ∧
      formatted.body = compact text (shortenedBound job.platform post.content.url) := by
  obtain ⟨-, -, -, content, hContent, hBody⟩ := format_ok h
  rw [hBody]
  unfold originalFor at hContent
  unfold shortenedText shortenedBound
  have hNotThreads : SocialPlatform.x ≠ .threads := by decide
  cases hOverride : (post.content.platformBodies.getD {}).get job.platform with
  | null =>
    rw [hOverride] at hContent
    obtain hJob | hJob := hPlatform <;> rw [hJob] at hContent <;> cases hContent
  | absent =>
    rw [hOverride] at hContent
    obtain hJob | hJob := hPlatform <;> rw [hJob] at hContent ⊢
    · obtain rfl := Except.ok.inj hContent
      exact ⟨_, rfl, rfl⟩
    · obtain rfl := Except.ok.inj (hContent.symm.trans (xFormat_eq ..))
      rw [if_neg hNotThreads, if_neg hNotThreads, FormatterService.textFor]
      exact ⟨_, rfl, rfl⟩
  | text override =>
    rw [hOverride] at hContent
    obtain hJob | hJob := hPlatform <;> rw [hJob] at hContent ⊢
    · obtain rfl := Except.ok.inj hContent
      exact ⟨_, rfl, rfl⟩
    · obtain rfl := Except.ok.inj (hContent.symm.trans (xFormat_eq ..))
      rw [if_neg hNotThreads, FormatterService.textFor]
      exact ⟨_, joinedText_nil override, rfl⟩

theorem one_le_shortenedBound (platform : SocialPlatform) (url : Option Text) :
    1 ≤ shortenedBound platform url := by
  unfold shortenedBound xBound
  split
  · decide
  · split <;> omega

/-- A text that was cut differs from the whole one, except for a character and an ellipsis. -/
theorem compact_eq_trim_iff {text : Text} {n : Nat} (hBound : 1 ≤ n) :
    compact text n = trim text ↔
      (trim text).length ≤ n ∨ (n = 1 ∧ (trim text).drop 1 = ['…']) := by
  by_cases hFits : (trim text).length ≤ n
  · exact iff_of_true (compact_of_le hFits) (Or.inl hFits)
  rw [or_iff_right hFits]
  obtain rfl | hRoom := Nat.eq_or_lt_of_le hBound
  · rw [compact_one (Nat.lt_of_not_le hFits), and_iff_right rfl]
    constructor
    · intro h
      have hSplit := h.trans (List.take_append_drop 1 (trim text)).symm
      exact (List.append_cancel_left hSplit).symm
    · intro h
      rw [← h, List.take_append_drop]
  · refine iff_of_false (fun h => hFits ?_) fun h => by omega
    rw [← h]
    exact length_compact_le hRoom

/-- Where it was cut it is what was kept, with an ellipsis. -/
theorem body_cut (h : FormatterService.format isTagChar post job = .ok formatted)
    (hPlatform : job.platform = .threads ∨ job.platform = .x)
    (hCut : formatted.body ≠ shortenedText post.content job.platform) :
    formatted.body = keptText post.content job.platform ++ ['…'] := by
  obtain ⟨text, hText, hBody⟩ := body_shortened h hPlatform
  rw [hBody, ← hText] at hCut
  have hLong : shortenedBound job.platform post.content.url < (trim text).length :=
    Nat.lt_of_not_le fun hFits => hCut (compact_of_le hFits)
  rw [hBody, compact_of_lt hLong, hText]
  rfl

theorem body_eq_shortenedText_iff
    (h : FormatterService.format isTagChar post job = .ok formatted)
    (hPlatform : job.platform = .threads ∨ job.platform = .x) :
    formatted.body = shortenedText post.content job.platform ↔
      (shortenedText post.content job.platform).length ≤
          shortenedBound job.platform post.content.url ∨
        (shortenedBound job.platform post.content.url = 1 ∧
          (shortenedText post.content job.platform).drop 1 = ['…']) := by
  obtain ⟨text, hText, hBody⟩ := body_shortened h hPlatform
  rw [hBody, ← hText]
  exact compact_eq_trim_iff (one_le_shortenedBound ..)

/-- Exactly the texts that fit or stay too heavy are whole or found too long. -/
theorem whole_or_tooLong_iff
    (h : FormatterService.format isTagChar post job = .ok formatted)
    (hPlatform : job.platform = .threads ∨ job.platform = .x) :
    (formatted.body ≠ shortenedText post.content job.platform →
      PostService.lengthLimit job.platform <
        (formatted.body.map (PostService.weight job.platform)).sum +
          PostService.linkLength job.platform post.content.url) ↔
      FitsOrTooHeavy post.content job.platform := by
  unfold FitsOrTooHeavy
  rw [← or_assoc, ← body_eq_shortenedText_iff h hPlatform]
  by_cases hWhole : formatted.body = shortenedText post.content job.platform
  · exact iff_of_true (fun hCut => absurd hWhole hCut) (Or.inl hWhole)
  · rw [or_iff_right hWhole, imp_iff_right hWhole, body_cut h hPlatform hWhole, List.map_append,
      List.sum_append_nat, List.map_singleton, List.sum_singleton]

theorem length_shortenedText_le (content : PostContent) (platform : SocialPlatform)
    (h : ¬ TitleIncluded content platform) :
    (shortenedText content platform).length < (completeText content platform).length := by
  unfold TitleIncluded at h
  obtain ⟨rfl, hTitle⟩ := Classical.not_imp.mp h
  obtain ⟨hBlank, hOverride⟩ := not_or.mp hTitle
  unfold shortenedText completeText
  cases hBody : (content.platformBodies.getD {}).get .threads with
  | text override => exact absurd ⟨override, hBody⟩ hOverride
  | absent => exact length_lt_joinedText hBlank
  | null => exact length_lt_joinedText hBlank

theorem shortenedText_eq (content : PostContent) (platform : SocialPlatform)
    (h : TitleIncluded content platform) :
    shortenedText content platform = completeText content platform := by
  unfold TitleIncluded at h
  unfold shortenedText completeText
  split
  · rfl
  next hOther =>
    split
    next hThreads =>
      obtain hBlank | ⟨override, hOverride⟩ := h hThreads
      · rw [joinedText_eq, joinNonEmpty_pair, if_pos (trim_eq_nil_iff.mpr hBlank)]
      · exact absurd hOverride (hOther override)
    · rfl

/-- A body is never longer than what it was shortened from. -/
theorem length_body_le (h : FormatterService.format isTagChar post job = .ok formatted)
    (hPlatform : job.platform = .threads ∨ job.platform = .x)
    (hBound : 2 ≤ shortenedBound job.platform post.content.url) :
    formatted.body.length ≤ (shortenedText post.content job.platform).length := by
  obtain ⟨text, hText, hBody⟩ := body_shortened h hPlatform
  rw [hBody, ← hText]
  by_cases hFits : (trim text).length ≤ shortenedBound job.platform post.content.url
  · rw [compact_of_le hFits]
  · exact (length_compact_le hBound).trans (Nat.le_of_not_le hFits)

theorem body_eq_completeText_iff
    (h : FormatterService.format isTagChar post job = .ok formatted)
    (hPlatform : job.platform = .threads ∨ job.platform = .x) :
    formatted.body = completeText post.content job.platform ↔
      formatted.body = shortenedText post.content job.platform ∧
        TitleIncluded post.content job.platform := by
  by_cases hTitle : TitleIncluded post.content job.platform
  · rw [shortenedText_eq _ _ hTitle, and_iff_left hTitle]
  · refine iff_of_false (fun hComplete => ?_) fun hBoth => hTitle hBoth.2
    have hThreads : job.platform = .threads := (Classical.not_imp.mp hTitle).1
    have hShorter := length_shortenedText_le _ _ hTitle
    have hBody := length_body_le h hPlatform (by
      rw [hThreads]
      exact (by decide : 2 ≤ 500))
    rw [hComplete] at hBody
    omega

end Bodies

/-- The issue of a text that is too long. -/
def lengthIssue (platform : SocialPlatform) : String :=
  platform.text ++ ": 링크를 포함한 최종 문구가 너무 깁니다. SNS별 문구를 줄여주세요."

theorem lengthIssue_inj {p q : SocialPlatform} : lengthIssue p = lengthIssue q ↔ p = q := by
  cases p <;> cases q <;> simp [lengthIssue, SocialPlatform.text]

/-- No other issue reads like it. -/
theorem lengthIssue_ne (p q : SocialPlatform) :
    lengthIssue p ≠ "Instagram: 이미지 또는 동영상 1개가 필요합니다." ∧
      lengthIssue p ≠
        "Instagram: PNG 대신 JPEG 이미지를 사용하세요. 정사각형 업로드는 JPEG로 변환합니다." ∧
      lengthIssue p ≠
        "LinkedIn: 현재 텍스트·링크 게시만 지원합니다. 미디어를 제거하거나 별도 초안으로 작성하세요." ∧
      lengthIssue p ≠ q.text ++ ": 현재 미디어 1개까지만 지원합니다." := by
  cases p <;> cases q <;> simp [lengthIssue, SocialPlatform.text]

section Issues

variable {cfg : Config} {record : PostRecord} {job : SocialPublishJob}

theorem lengthIssue_mem_issuesOf {post : Post} {found : List String} (platform : SocialPlatform)
    (h : PostService.issuesOf cfg post job = .ok found) :
    ∃ formatted, FormatterService.format cfg.isTagChar post job = .ok formatted ∧
      (lengthIssue platform ∈ found ↔ platform = job.platform ∧
        PostService.lengthLimit job.platform <
          (formatted.body.map (PostService.weight job.platform)).sum +
            PostService.linkLength job.platform post.content.url) := by
  obtain ⟨formatted, hFormatted, h⟩ := Keyed.bind_eq_ok.mp h
  refine ⟨formatted, hFormatted, ?_⟩
  obtain ⟨hCount, hPng, hLinkedIn, hMedia⟩ := lengthIssue_ne platform job.platform
  have hIssue : (lengthIssue platform = job.platform.text ++
      ": 링크를 포함한 최종 문구가 너무 깁니다. SNS별 문구를 줄여주세요.") ↔
      platform = job.platform := lengthIssue_inj
  have hIte {c : Prop} [Decidable c] {issue : String} :
      lengthIssue platform ∈ (if c then [issue] else []) ↔ lengthIssue platform = issue ∧ c := by
    split <;> simp [*]
  -- with or without the search for a PNG
  dsimp only at h
  split at h <;> obtain ⟨png, -, h⟩ := Keyed.bind_eq_ok.mp h <;> obtain rfl := Except.ok.inj h <;>
    simp only [List.mem_append, hIte, hCount, hPng, hLinkedIn, hMedia, hIssue,
      false_and, or_false, gt_iff_lt]

theorem mem_mapM_ok {α β ε : Type} {f : α → Except ε β} {l : List α} {results : List β}
    (h : l.mapM f = .ok results) {b : β} (hMem : b ∈ results) : ∃ a ∈ l, f a = .ok b := by
  induction l generalizing results with
  | nil =>
    obtain rfl := Except.ok.inj h
    cases hMem
  | cons first rest ih =>
    rw [List.mapM_cons] at h
    obtain ⟨b', hFirst, h⟩ := Keyed.bind_eq_ok.mp h
    obtain ⟨others, hRest, h⟩ := Keyed.bind_eq_ok.mp h
    obtain rfl := Except.ok.inj h
    cases hMem with
    | head => exact ⟨first, List.mem_cons_self, hFirst⟩
    | tail _ hMem =>
      obtain ⟨a, hMem', hOk⟩ := ih hRest hMem
      exact ⟨a, List.mem_cons_of_mem first hMem', hOk⟩

/-- The bodies of the jobs of one platform are the same. -/
theorem body_eq_of_platform {isTagChar : Char → Bool} {post : Post}
    {job' : SocialPublishJob} {formatted formatted' : SocialPost}
    (h : FormatterService.format isTagChar post job = .ok formatted)
    (h' : FormatterService.format isTagChar post job' = .ok formatted')
    (hPlatform : job.platform = job'.platform) : formatted.body = formatted'.body := by
  obtain ⟨-, -, -, content, hContent, hBody⟩ := format_ok h
  obtain ⟨-, -, -, content', hContent', hBody'⟩ := format_ok h'
  rw [hPlatform, hContent'] at hContent
  rw [hBody, hBody', Except.ok.inj hContent]

/-- `issues` finds a text of a platform too long exactly where its formatted text is. -/
theorem lengthIssue_mem_issues {found : List String}
    (h : PostService.issues cfg record = .ok found) (hJob : job ∈ record.jobs) :
    ∃ formatted, FormatterService.format cfg.isTagChar record.post job = .ok formatted ∧
      (lengthIssue job.platform ∈ found ↔ PostService.lengthLimit job.platform <
        (formatted.body.map (PostService.weight job.platform)).sum +
          PostService.linkLength job.platform record.post.content.url) := by
  obtain ⟨perJob, hPerJob, h⟩ := Keyed.bind_eq_ok.mp h
  obtain rfl := Except.ok.inj h
  obtain ⟨own, hOwnMem, hOwn⟩ := mem_of_mapM_ok hPerJob hJob
  obtain ⟨formatted, hFormatted, hIff⟩ :=
    lengthIssue_mem_issuesOf job.platform hOwn
  refine ⟨formatted, hFormatted, ?_⟩
  rw [List.mem_eraseDups, List.mem_flatten]
  constructor
  · rintro ⟨issues, hIssues, hMem⟩
    obtain ⟨job', -, hOk⟩ := mem_mapM_ok hPerJob hIssues
    obtain ⟨formatted', hFormatted', hIff'⟩ :=
      lengthIssue_mem_issuesOf job.platform hOk
    obtain ⟨hPlatform, hLong⟩ := hIff'.mp hMem
    rw [← hPlatform, ← body_eq_of_platform hFormatted hFormatted' hPlatform] at hLong
    exact hLong
  · intro hLong
    exact ⟨own, hOwnMem, hIff.mpr ⟨rfl, hLong⟩⟩

end Issues

/-- **What `issues` reports of a cut**: for a Threads or X job exactly the texts that fit, or are
too heavy even when cut, are formatted whole or reported. Without issues exactly these are the
whole text of the post, save for the title that Threads leaves out. -/
theorem shortened_reported_iff {cfg : Config} {record : PostRecord} {found : List String}
    (hIssues : PostService.issues cfg record = .ok found) {job : SocialPublishJob}
    (hJob : job ∈ record.jobs) (hPlatform : job.platform = .threads ∨ job.platform = .x) :
    ∃ formatted, FormatterService.format cfg.isTagChar record.post job = .ok formatted ∧
      ((formatted.body ≠ shortenedText record.post.content job.platform →
          lengthIssue job.platform ∈ found) ↔
        FitsOrTooHeavy record.post.content job.platform) ∧
      (found = [] → (formatted.body = completeText record.post.content job.platform ↔
        FitsOrTooHeavy record.post.content job.platform ∧
          TitleIncluded record.post.content job.platform)) := by
  obtain ⟨formatted, hFormatted, hIssue⟩ := lengthIssue_mem_issues hIssues hJob
  have hReported : (formatted.body ≠ shortenedText record.post.content job.platform →
      lengthIssue job.platform ∈ found) ↔ FitsOrTooHeavy record.post.content job.platform := by
    rw [hIssue]
    exact whole_or_tooLong_iff hFormatted hPlatform
  refine ⟨formatted, hFormatted, hReported, ?_⟩
  rintro rfl
  rw [body_eq_completeText_iff hFormatted hPlatform, ← hReported]
  simp

/-- A text of 501 characters for Threads. -/
def longRecord : PostRecord where
  post := { Deployment.post with
    content := { Deployment.post.content with title := [], body := List.replicate 501 'a' } }
  jobs := [Deployment.job .threads]

theorem shortened_reported_iff_long :
    ∃ formatted, FormatterService.format Deployment.surroundings.cfg.isTagChar longRecord.post
        (Deployment.job .threads) = .ok formatted ∧
      ((formatted.body ≠ shortenedText longRecord.post.content .threads →
          lengthIssue .threads ∈ ([] : List String)) ↔ FitsOrTooHeavy longRecord.post.content .threads) ∧
      (([] : List String) = [] → (formatted.body = completeText longRecord.post.content .threads ↔
        FitsOrTooHeavy longRecord.post.content .threads ∧
          TitleIncluded longRecord.post.content .threads)) :=
  shortened_reported_iff
    (by decide +kernel : PostService.issues Deployment.surroundings.cfg longRecord = .ok [])
    (List.mem_singleton_self (Deployment.job .threads)) (Or.inl rfl)

/-- It is cut without an issue. -/
theorem shortened_not_reported :
    PostService.issues Deployment.surroundings.cfg longRecord = .ok [] ∧
      (FormatterService.format Deployment.surroundings.cfg.isTagChar longRecord.post
        (Deployment.job .threads)).map SocialPost.body =
          .ok (List.replicate 499 'a' ++ ['…']) ∧
      completeText longRecord.post.content .threads = List.replicate 501 'a' := by
  decide +kernel

end SocialPromotion
