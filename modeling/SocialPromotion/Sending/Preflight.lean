import SocialPromotion.Sending.Contents

/-!
# What the preflight looks at

`issues` formats the post for every job and measures the text of the formatter; the adapter
trims that text again, adds the link or not, and has checks of its own. Here is what the one
says of the other.

Results:

* `issuesOf_nil`: what a job without issues satisfies;
* `format_ok`: where the fields of a formatted post come from;
* `body_blank_iff`: the text of a post with a text is blank only by a blank override.
-/

namespace SocialPromotion

/-! ## Texts -/

def Blank (text : Text) : Prop := ∀ c ∈ text, isSpace c = true

theorem trim_sublist (text : Text) : (trim text).Sublist text :=
  (List.rdropWhile_prefix _ _).sublist.trans (List.dropWhile_suffix _).sublist

theorem mem_dropWhile {α : Type} {p : α → Bool} {l : List α} {a : α} (h : a ∈ l)
    (hStops : p a = false) : a ∈ l.dropWhile p := by
  rw [← List.takeWhile_append_dropWhile (p := p) (l := l)] at h
  obtain hTaken | hLeft := List.mem_append.mp h
  · rw [List.mem_takeWhile_imp hTaken] at hStops
    cases hStops
  · exact hLeft

/-- Only spaces are trimmed away. -/
theorem mem_trim {text : Text} {c : Char} (h : c ∈ text) (hSpace : isSpace c = false) :
    c ∈ trim text :=
  List.mem_reverse.mpr (mem_dropWhile (List.mem_reverse.mpr (mem_dropWhile h hSpace)) hSpace)

theorem blank_trim_iff {text : Text} : Blank (trim text) ↔ Blank text := by
  refine ⟨fun h c hMem => ?_, fun h c hMem => h c ((trim_sublist text).subset hMem)⟩
  by_contra hSpace
  exact hSpace (h c (mem_trim hMem (Bool.eq_false_of_not_eq_true hSpace)))

theorem trim_eq_nil_iff {text : Text} : trim text = [] ↔ Blank text := by
  constructor
  · intro h
    rw [← blank_trim_iff, h]
    exact fun c hMem => absurd hMem List.not_mem_nil
  · exact fun h => List.rdropWhile_eq_nil_iff.mpr fun c hMem =>
      h c ((List.dropWhile_suffix _).subset hMem)

/-- Every part that is not empty is in the joined text. -/
theorem infix_joinNonEmpty {separator part : Text} {parts : List Text} (h : part ∈ parts)
    (hNonempty : part ≠ []) : part <:+: joinNonEmpty separator parts := by
  have hKept : part ∈ parts.filter fun part => !part.isEmpty :=
    List.mem_filter.mpr ⟨h, by simpa using hNonempty⟩
  obtain ⟨i, hPart⟩ := List.mem_iff_getElem?.mp hKept
  refine List.infix_of_mem_flatten (List.mem_of_getElem? (i := 2 * i) ?_)
  rw [List.getElem?_intersperse_two_mul, hPart]

theorem joinNonEmpty_pair (separator a b : Text) :
    joinNonEmpty separator [a, b] =
      if a = [] then b else if b = [] then a else a ++ separator ++ b := by
  cases a <;> cases b <;> simp [joinNonEmpty]

theorem blank_append_iff {a b : Text} : Blank (a ++ b) ↔ Blank a ∧ Blank b :=
  List.forall_mem_append

/-- A separator of spaces shows nothing. -/
theorem blank_joinNonEmpty_iff {separator a b : Text} (h : Blank separator) :
    Blank (joinNonEmpty separator [a, b]) ↔ Blank a ∧ Blank b := by
  have hNil : Blank [] := fun c hMem => absurd hMem List.not_mem_nil
  rw [joinNonEmpty_pair]
  by_cases hFirst : a = []
  · rw [if_pos hFirst, hFirst, and_iff_right hNil]
  rw [if_neg hFirst]
  by_cases hSecond : b = []
  · rw [if_pos hSecond, hSecond, and_iff_left hNil]
  · rw [if_neg hSecond, blank_append_iff, blank_append_iff, and_iff_left h]

/-- A text that was cut short ends in an ellipsis, which is no space. -/
theorem blank_compact_iff {text : Text} {n : Nat} : Blank (compact text n) ↔ Blank text := by
  unfold compact
  dsimp only
  split
  · exact blank_trim_iff
  next hLong =>
    refine iff_of_false (fun h => ?_) fun h => hLong ?_
    · exact absurd (h '…' (List.mem_append_right _ (List.mem_singleton_self _))) (by decide)
    · rw [trim_eq_nil_iff.mpr h]
      exact Nat.zero_le n

/-! ## The formatted post -/

/-- What the formatter of a platform is given. -/
def originalFor (content : PostContent) (platform : SocialPlatform) : OriginalCampaignContent :=
  match (content.platformBodies.getD {}).get platform with
  | .absent => ⟨some content.body, content.url, content.title⟩
  | .null => ⟨none, content.url, []⟩
  | .text override => ⟨some override, content.url, []⟩

/-- One formatter with what it is given. -/
theorem formatter_eq (isTagChar : Char → Bool) (content : PostContent)
    (platform : SocialPlatform) :
    (match (content.platformBodies.getD {}).get platform with
      | .absent => FormatterService.formatterFor isTagChar platform
          ⟨some content.body, content.url, content.title⟩
      | .null => FormatterService.formatterFor isTagChar platform ⟨none, content.url, []⟩
      | .text override =>
        FormatterService.formatterFor isTagChar platform ⟨some override, content.url, []⟩) =
    FormatterService.formatterFor isTagChar platform (originalFor content platform) := by
  unfold originalFor
  cases (content.platformBodies.getD {}).get platform <;> rfl

theorem formatAll_ok {isTagChar : Char → Bool} {post : Post} {contents : PlatformContents}
    (h : FormatterService.formatAll isTagChar post = .ok contents) (platform : SocialPlatform) :
    FormatterService.formatterFor isTagChar platform (originalFor post.content platform) =
      .ok (contents.get platform) := by
  unfold FormatterService.formatAll at h
  obtain ⟨linkedin, hLinkedin, h⟩ := Keyed.bind_eq_ok.mp h
  obtain ⟨instagram, hInstagram, h⟩ := Keyed.bind_eq_ok.mp h
  obtain ⟨facebook, hFacebook, h⟩ := Keyed.bind_eq_ok.mp h
  obtain ⟨threads, hThreads, h⟩ := Keyed.bind_eq_ok.mp h
  obtain ⟨x, hX, h⟩ := Keyed.bind_eq_ok.mp h
  obtain rfl := Except.ok.inj h
  cases platform with
  | linkedin => exact (formatter_eq isTagChar post.content .linkedin).symm.trans hLinkedin
  | instagram => exact (formatter_eq isTagChar post.content .instagram).symm.trans hInstagram
  | facebook => exact (formatter_eq isTagChar post.content .facebook).symm.trans hFacebook
  | threads => exact (formatter_eq isTagChar post.content .threads).symm.trans hThreads
  | x => exact (formatter_eq isTagChar post.content .x).symm.trans hX

/-- The fields of a formatted post, and the call of the formatter its text comes from. -/
theorem format_ok {isTagChar : Char → Bool} {post : Post} {job : SocialPublishJob}
    {formatted : SocialPost} (h : FormatterService.format isTagChar post job = .ok formatted) :
    formatted.platform = job.platform ∧ formatted.destinationUrl = post.content.url ∧
      formatted.media = post.content.media ∧ ∃ content,
        FormatterService.formatterFor isTagChar job.platform
          (originalFor post.content job.platform) = .ok content ∧
        formatted.body = FormatterService.textFor content := by
  obtain ⟨contents, hContents, h⟩ := Keyed.bind_eq_ok.mp h
  obtain rfl := Except.ok.inj h
  exact ⟨rfl, rfl, rfl, _, formatAll_ok hContents job.platform, rfl⟩

theorem blank_newline : Blank ['\n'] := by
  simpa [Blank] using (by decide : isSpace '\n' = true)

theorem blank_lineBreaks : Blank ['\n', '\n'] := by
  simpa [Blank] using (by decide : isSpace '\n' = true)

/-- A text for a platform of its own that is blank. -/
def BlankOverride (content : PostContent) (platform : SocialPlatform) : Prop :=
  ∃ override, (content.platformBodies.getD {}).get platform = .text override ∧ Blank override

/-- The text of four formatters is blank with the title and the message they are given; Threads
leaves the title out. -/
theorem formatterFor_blank_iff {isTagChar : Char → Bool} {platform : SocialPlatform}
    {message title : Text} {url : Option Text} {content : PlatformContent}
    (hPlatform : platform ≠ .instagram)
    (h : FormatterService.formatterFor isTagChar platform ⟨some message, url, title⟩ =
      .ok content) :
    Blank (FormatterService.textFor content) ↔
      (Blank title ∨ platform = .threads) ∧ Blank message := by
  have hTitle : Blank (joinNonEmpty ['\n', '\n'] [trim title, trim message]) ↔
      Blank title ∧ Blank message := by
    rw [blank_joinNonEmpty_iff blank_lineBreaks, blank_trim_iff, blank_trim_iff]
  cases platform with
  | instagram => exact absurd rfl hPlatform
  | linkedin =>
    obtain rfl := Except.ok.inj h
    exact hTitle.trans (by simp)
  | facebook =>
    obtain rfl := Except.ok.inj h
    exact hTitle.trans (by simp)
  | threads =>
    obtain rfl := Except.ok.inj h
    exact blank_compact_iff.trans (by simp)
  | x =>
    obtain rfl := Except.ok.inj h
    exact blank_compact_iff.trans (hTitle.trans (by simp))

/-- **A formatted text is blank only by a blank override**, where the post has a text. -/
theorem body_blank_iff {isTagChar : Char → Bool} {post : Post} {job : SocialPublishJob}
    {formatted : SocialPost} (hBody : ¬ Blank post.content.body)
    (hPlatform : job.platform ≠ .instagram)
    (h : FormatterService.format isTagChar post job = .ok formatted) :
    Blank formatted.body ↔ BlankOverride post.content job.platform := by
  obtain ⟨-, -, -, content, hContent, hText⟩ := format_ok h
  rw [hText]
  unfold originalFor at hContent
  unfold BlankOverride
  cases hOverride : (post.content.platformBodies.getD {}).get job.platform with
  | absent =>
    rw [hOverride] at hContent
    rw [formatterFor_blank_iff hPlatform hContent]
    exact iff_of_false (fun hBlank => hBody hBlank.2) (by simp)
  | null =>
    rw [hOverride] at hContent
    cases hJob : job.platform <;> rw [hJob] at hContent <;> cases hContent
  | text override =>
    rw [hOverride] at hContent
    have hNil : Blank [] := fun c hMem => absurd hMem List.not_mem_nil
    rw [formatterFor_blank_iff hPlatform hContent, and_iff_right (Or.inl hNil)]
    simp

/-! ## The issues of a job -/

/-- What a job without issues satisfies: the length of the formatted text with the room for its
link, and the number of its media. -/
theorem issuesOf_nil {cfg : Config} {post : Post} {job : SocialPublishJob}
    (h : PostService.issuesOf cfg post job = .ok []) :
    ∃ formatted, FormatterService.format cfg.isTagChar post job = .ok formatted ∧
      (formatted.body.map (PostService.weight job.platform)).sum +
          PostService.linkLength job.platform post.content.url ≤
        PostService.lengthLimit job.platform ∧
      (job.platform = .instagram → post.content.media.length = 1) ∧
      (job.platform = .linkedin → post.content.media = []) ∧
      (job.platform ≠ .x → post.content.media.length ≤ 1) := by
  obtain ⟨formatted, hFormatted, h⟩ := Keyed.bind_eq_ok.mp h
  refine ⟨formatted, hFormatted, ?_⟩
  dsimp only at h
  -- with or without the search for a PNG, all five lists are empty
  split at h <;> obtain ⟨png, -, h⟩ := Keyed.bind_eq_ok.mp h <;>
    simp only [pure, Except.pure, Except.ok.injEq, List.append_eq_nil_iff, ite_eq_right_iff,
      List.cons_ne_nil, imp_false, not_and, not_not, Nat.not_lt, gt_iff_lt] at h
  · exact ⟨h.1.1.1.1, fun hInstagram => h.1.1.1.2 hInstagram, h.1.2, h.2⟩
  · exact ⟨h.1.1.1.1, fun hInstagram => h.1.1.1.2 hInstagram, h.1.2, h.2⟩

theorem mem_of_mapM_ok {α β ε : Type} {f : α → Except ε β} {l : List α} {results : List β}
    (h : l.mapM f = .ok results) {a : α} (hMem : a ∈ l) : ∃ b ∈ results, f a = .ok b := by
  induction l generalizing results with
  | nil => cases hMem
  | cons first rest ih =>
    rw [List.mapM_cons] at h
    obtain ⟨b, hFirst, h⟩ := Keyed.bind_eq_ok.mp h
    obtain ⟨others, hRest, h⟩ := Keyed.bind_eq_ok.mp h
    obtain rfl := Except.ok.inj h
    cases hMem with
    | head => exact ⟨b, List.mem_cons_self, hFirst⟩
    | tail _ hMem =>
      obtain ⟨b', hMem', hOk⟩ := ih hRest hMem
      exact ⟨b', List.mem_cons_of_mem b hMem', hOk⟩

/-- A post has no issues only where none of its jobs has. -/
theorem issues_nil {cfg : Config} {record : PostRecord}
    (h : PostService.issues cfg record = .ok []) {job : SocialPublishJob}
    (hJob : job ∈ record.jobs) : PostService.issuesOf cfg record.post job = .ok [] := by
  obtain ⟨perJob, hPerJob, h⟩ := Keyed.bind_eq_ok.mp h
  have hNone : perJob.flatten = [] := by
    have hErased := Except.ok.inj h
    cases hFlat : perJob.flatten with
    | nil => rfl
    | cons issue rest => simp [hFlat, List.eraseDups_cons] at hErased
  obtain ⟨found, hMem, hFound⟩ := mem_of_mapM_ok hPerJob hJob
  rw [hFound, List.flatten_eq_nil_iff.mp hNone found hMem]

end SocialPromotion
