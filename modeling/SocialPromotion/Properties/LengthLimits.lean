import Mathlib.Algebra.Order.BigOperators.Group.List
import Mathlib.Algebra.Order.Group.Nat
import SocialPromotion.Sending.Preflight

/-!
# The preflight bounds what is sent

`issues` measures the text of the formatter and adds the room for a link. The text that is
sent is put together later, by the adapter, from the trimmed text and the link itself.

Results:

* `sent_text_within_limit`: without issues, every text in a request of the adapter is within
  the limit of its platform.
-/

namespace SocialPromotion

open Program

/-- One code point as X counts it. -/
def xCount (c : Char) : Nat := if c.toNat ≤ 127 then 1 else 2

/-- A text as X counts it: the link at its end, whatever its length, counts 23. -/
def xLength (url text : Text) : Nat :=
  if url ≠ [] ∧ url <:+ text then
    ((text.take (text.length - url.length)).map xCount).sum + 23
  else (text.map xCount).sum

/-- The limits of the platforms, in code points and for X in its own count. -/
def WithinLimit (platform : SocialPlatform) (url text : Text) : Prop :=
  match platform with
  | .linkedin => text.length ≤ 3000
  | .instagram => text.length ≤ 2200
  | .facebook => text.length ≤ 10000
  | .threads => text.length ≤ 500
  | .x => xLength url text ≤ 280

section Counting

variable {platform : SocialPlatform} {text : Text}

theorem weight_x (c : Char) : PostService.weight .x c = xCount c := by
  unfold PostService.weight xCount
  by_cases hAscii : c.toNat ≤ 127
  · rw [if_neg (by simp [hAscii]), if_pos hAscii]
  · rw [if_pos ⟨rfl, Nat.lt_of_not_le hAscii⟩, if_neg hAscii]

theorem sum_weight (h : platform ≠ .x) :
    (text.map (PostService.weight platform)).sum = text.length := by
  have hOne : PostService.weight platform = fun _ => 1 :=
    funext fun c => if_neg fun hX => h hX.1
  rw [hOne, List.map_const', List.sum_replicate_nat, Nat.mul_one]

/-- Trimming makes no text heavier. -/
theorem sum_trim_le (weight : Char → Nat) :
    ((trim text).map weight).sum ≤ (text.map weight).sum :=
  ((trim_sublist text).map weight).sum_le_sum fun _ _ => Nat.zero_le _

/-- Without a link the text of X and Threads is the trimmed one. -/
theorem bodyAndUrl_noUrl {post : SocialPost} (h : post.destinationUrl.getD [] = []) :
    bodyAndUrl post = trim post.body := by
  unfold bodyAndUrl
  rw [joinNonEmpty_pair, h, if_pos rfl]
  split
  next hBody => exact hBody.symm
  · rfl

/-- With one it ends in the link, after the trimmed text and a line break or after nothing. -/
theorem bodyAndUrl_url {post : SocialPost} (h : post.destinationUrl.getD [] ≠ []) :
    ∃ before, bodyAndUrl post = before ++ post.destinationUrl.getD [] ∧
      (before = [] ∨ before = trim post.body ++ ['\n']) := by
  unfold bodyAndUrl
  rw [joinNonEmpty_pair, if_neg h]
  split
  · exact ⟨[], rfl, Or.inl rfl⟩
  · exact ⟨_, rfl, Or.inr rfl⟩

end Counting

section Limits

variable {post : SocialPost}

theorem linkLength_threads {url : Option Text} (h : url.getD [] ≠ []) :
    PostService.linkLength .threads url = (url.getD []).length + 1 := by
  match url with
  | none => exact absurd rfl h
  | some [] => exact absurd rfl h
  | some (_ :: _) => rfl

theorem linkLength_x {url : Option Text} (h : url.getD [] ≠ []) :
    PostService.linkLength .x url = 24 := by
  match url with
  | none => exact absurd rfl h
  | some [] => exact absurd rfl h
  | some (_ :: _) => rfl

/-- The link of Threads counts with the line break before it. -/
theorem length_bodyAndUrl_le : (bodyAndUrl post).length ≤
    post.body.length + PostService.linkLength .threads post.destinationUrl := by
  have hTrim : (trim post.body).length ≤ post.body.length := (trim_sublist _).length_le
  by_cases hUrl : post.destinationUrl.getD [] = []
  · rw [bodyAndUrl_noUrl hUrl]
    exact Nat.le_add_right_of_le hTrim
  · obtain ⟨before, hText, rfl | rfl⟩ := bodyAndUrl_url hUrl
    · rw [hText, linkLength_threads hUrl, List.nil_append]
      omega
    · rw [hText, linkLength_threads hUrl, List.length_append, List.length_append,
        List.length_singleton]
      omega

/-- The link of X counts 23, and the line break before it one more. -/
theorem xLength_bodyAndUrl_le : xLength (post.destinationUrl.getD []) (bodyAndUrl post) ≤
    (post.body.map xCount).sum + PostService.linkLength .x post.destinationUrl := by
  have hTrim : ((trim post.body).map xCount).sum ≤ (post.body.map xCount).sum :=
    sum_trim_le xCount
  unfold xLength
  by_cases hUrl : post.destinationUrl.getD [] = []
  · rw [if_neg fun h => h.1 hUrl, bodyAndUrl_noUrl hUrl]
    exact Nat.le_add_right_of_le hTrim
  · obtain ⟨before, hText, hBefore⟩ := bodyAndUrl_url hUrl
    have hSuffix : post.destinationUrl.getD [] <:+ bodyAndUrl post := ⟨before, hText.symm⟩
    have hTake : (bodyAndUrl post).take
        ((bodyAndUrl post).length - (post.destinationUrl.getD []).length) = before := by
      rw [hText, List.length_append, Nat.add_sub_cancel, List.take_left']
      rfl
    rw [if_pos ⟨hUrl, hSuffix⟩, hTake, linkLength_x hUrl]
    obtain rfl | rfl := hBefore
    · simp
    · rw [List.map_append, List.sum_append_nat]
      have hBreak : (['\n'].map xCount).sum = 1 := by decide
      omega

theorem within_limit {platform : SocialPlatform}
    (h : (post.body.map (PostService.weight platform)).sum +
      PostService.linkLength platform post.destinationUrl ≤ PostService.lengthLimit platform) :
    WithinLimit platform (post.destinationUrl.getD []) (post.sentText platform) := by
  cases platform with
  | linkedin | facebook | instagram =>
    rw [sum_weight (by decide)] at h
    exact Nat.le_of_add_right_le h
  | threads =>
    rw [sum_weight (by decide)] at h
    exact length_bodyAndUrl_le.trans h
  | x =>
    rw [funext weight_x] at h
    exact xLength_bodyAndUrl_le.trans h

end Limits

/-- **The preflight is sound for the length**: of a post without issues every job is formatted,
and whatever its adapter then sends has no text beyond the limit of the platform. -/
theorem sent_text_within_limit {s : Surroundings} {record : PostRecord}
    (hIssues : PostService.issues s.cfg record = .ok []) {job : SocialPublishJob}
    (hJob : job ∈ record.jobs) :
    ∃ formatted, FormatterService.format s.cfg.isTagChar record.post job = .ok formatted ∧
      ∀ replies, ∀ x ∈ ((adapterPublish s job.platform formatted).run replies).exchanges,
        ∀ text, x.1.text = some text →
          WithinLimit job.platform (record.post.content.url.getD []) text := by
  obtain ⟨formatted, hFormatted, hLength, -⟩ := issuesOf_nil (issues_nil hIssues hJob)
  obtain ⟨hPlatform, hUrl, -⟩ := format_ok hFormatted
  refine ⟨formatted, hFormatted, fun replies x hMem text hText => ?_⟩
  have hSends := (@adapterPublish_asks s formatted job.platform).exchanges hMem
  rw [← hUrl] at hLength ⊢
  obtain ⟨request, reply⟩ := x
  cases request with
  | fetch request =>
    rw [hSends.text_eq hText]
    exact within_limit hLength
  | _ => cases hText

/-- The post of the deployment with a link, for X alone. -/
def linkedRecord : PostRecord where
  post := { Deployment.post with
    content := { Deployment.post.content with url := some "https://example.org/a".toList } }
  jobs := [Deployment.job .x]

theorem sent_text_within_limit_linked :
    ∃ formatted, FormatterService.format Deployment.surroundings.cfg.isTagChar linkedRecord.post
        (Deployment.job .x) = .ok formatted ∧
      ∀ replies, ∀ x ∈ ((adapterPublish Deployment.surroundings .x formatted).run
          replies).exchanges, ∀ text, x.1.text = some text →
        WithinLimit .x "https://example.org/a".toList text :=
  sent_text_within_limit (s := Deployment.surroundings)
    (by decide +kernel : PostService.issues Deployment.surroundings.cfg linkedRecord = .ok [])
    List.mem_cons_self

end SocialPromotion
