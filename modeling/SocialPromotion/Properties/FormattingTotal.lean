import SocialPromotion.Sending.Preflight

/-!
# When a post can be formatted

A JSON `null` for a platform passes the validators, is stored, and takes the place of the text
in the formatter of that platform. `formatAll` runs all five formatters before `format` picks one.

Results:

* `formatting_total_iff`: a content can be formatted, for whichever platform, exactly where it
  has no such `null`.
-/

namespace SocialPromotion

open FormatterService

/-- No platform has a JSON `null` for its text. -/
def NoNullOverride (content : PostContent) : Prop :=
  ∀ platform, (content.platformBodies.getD {}).get platform ≠ .null

/-- Two contents that a platform sees alike: they may differ in the texts of the others. -/
structure SameFor (platform : SocialPlatform) (content content' : PostContent) : Prop where
  title : content.title = content'.title
  body : content.body = content'.body
  url : content.url = content'.url
  media : content.media = content'.media
  override : (content.platformBodies.getD {}).get platform =
    (content'.platformBodies.getD {}).get platform

section Formatting

variable {isTagChar : Char → Bool} {post : Post}

/-- A formatter throws on `null` and on nothing else. -/
theorem formatterFor_ok_iff (platform : SocialPlatform) (input : OriginalCampaignContent) :
    (∃ content, formatterFor isTagChar platform input = .ok content) ↔ input.message ≠ none := by
  obtain ⟨message, url, title⟩ := input
  cases message with
  | none =>
    refine iff_of_false ?_ fun h => h rfl
    cases platform <;> rintro ⟨content, hContent⟩ <;> cases hContent
  | some message =>
    refine iff_of_true ?_ (Option.some_ne_none message)
    cases platform <;> exact ⟨_, rfl⟩

theorem originalFor_message (content : PostContent) (platform : SocialPlatform) :
    (originalFor content platform).message ≠ none ↔
      (content.platformBodies.getD {}).get platform ≠ .null := by
  unfold originalFor
  cases (content.platformBodies.getD {}).get platform <;> simp

theorem formatAll_ok_iff (isTagChar : Char → Bool) :
    (∃ contents, formatAll isTagChar post = .ok contents) ↔ NoNullOverride post.content := by
  constructor
  · rintro ⟨contents, hContents⟩ platform
    rw [← originalFor_message, ← formatterFor_ok_iff]
    exact ⟨_, formatAll_ok hContents platform⟩
  · intro hNull
    have hOk (platform : SocialPlatform) : ∃ content,
        formatterFor isTagChar platform (originalFor post.content platform) = .ok content :=
      (formatterFor_ok_iff ..).mpr ((originalFor_message ..).mpr (hNull platform))
    obtain ⟨linkedin, hLinkedin⟩ := hOk .linkedin
    obtain ⟨instagram, hInstagram⟩ := hOk .instagram
    obtain ⟨facebook, hFacebook⟩ := hOk .facebook
    obtain ⟨threads, hThreads⟩ := hOk .threads
    obtain ⟨x, hX⟩ := hOk .x
    refine ⟨⟨linkedin, instagram, facebook, threads, x⟩, ?_⟩
    unfold formatAll
    exact Keyed.bind_eq_ok.mpr ⟨_, (formatter_eq ..).trans hLinkedin,
      Keyed.bind_eq_ok.mpr ⟨_, (formatter_eq ..).trans hInstagram,
      Keyed.bind_eq_ok.mpr ⟨_, (formatter_eq ..).trans hFacebook,
      Keyed.bind_eq_ok.mpr ⟨_, (formatter_eq ..).trans hThreads,
      Keyed.bind_eq_ok.mpr ⟨_, (formatter_eq ..).trans hX, rfl⟩⟩⟩⟩⟩

/-- What `format` returns is made of the one content its platform asked for. -/
theorem format_eq (isTagChar : Char → Bool) (job : SocialPublishJob)
    (h : NoNullOverride post.content) :
    ∃ content,
      formatterFor isTagChar job.platform (originalFor post.content job.platform) =
        .ok content ∧
      format isTagChar post job = .ok {
        localPostId := post.id
        socialAccountId := job.accountId
        platform := job.platform
        title := post.content.title
        body := textFor content
        destinationUrl := post.content.url
        media := post.content.media
        formattedContent := content } := by
  obtain ⟨contents, hContents⟩ := (formatAll_ok_iff isTagChar).mpr h
  exact ⟨_, formatAll_ok hContents job.platform, Keyed.bind_eq_ok.mpr ⟨contents, hContents, rfl⟩⟩

theorem format_ok_iff (job : SocialPublishJob) :
    (∃ formatted, format isTagChar post job = .ok formatted) ↔ NoNullOverride post.content := by
  constructor
  · rintro ⟨formatted, hFormatted⟩
    obtain ⟨contents, hContents, -⟩ := Keyed.bind_eq_ok.mp hFormatted
    exact (formatAll_ok_iff isTagChar).mp ⟨contents, hContents⟩
  · intro hNull
    obtain ⟨content, -, hFormat⟩ := format_eq isTagChar job hNull
    exact ⟨_, hFormat⟩

end Formatting

/-! ## Issues -/

section Issues

variable {cfg : Config} {post : Post}

/-- Media that `MediaService` let pass have URLs that parse. -/
theorem isPng_ok (h : validateMedia cfg post.content.media = .ok post.content.media)
    {m : PostMedia} (hMem : m ∈ post.content.media) :
    ∃ png, PostService.isPng cfg m.url = .ok png := by
  unfold validateMedia at h
  split at h
  next hAll =>
    have hUrl := List.all_eq_true.mp hAll m hMem
    unfold PostService.isPng
    cases hParse : cfg.parseUrl m.url with
    | none => simp [hParse] at hUrl
    | some url => exact ⟨_, rfl⟩
  · cases h

theorem anyPng_ok {media : List PostMedia}
    (h : ∀ m ∈ media, ∃ png, PostService.isPng cfg m.url = .ok png) :
    ∃ png, PostService.anyPng cfg media = .ok png := by
  induction media with
  | nil => exact ⟨_, rfl⟩
  | cons m rest ih =>
    obtain ⟨png, hPng⟩ := h m List.mem_cons_self
    obtain ⟨others, hOthers⟩ := ih fun m' hMem => h m' (List.mem_cons_of_mem m hMem)
    unfold PostService.anyPng
    rw [hPng, hOthers]
    split
    · cases png <;> exact ⟨_, rfl⟩
    · exact ⟨_, rfl⟩

theorem issuesOf_ok_iff (h : validateMedia cfg post.content.media = .ok post.content.media)
    (job : SocialPublishJob) :
    (∃ found, PostService.issuesOf cfg post job = .ok found) ↔ NoNullOverride post.content := by
  rw [← @format_ok_iff cfg.isTagChar post job]
  constructor
  · rintro ⟨found, hFound⟩
    obtain ⟨formatted, hFormatted, -⟩ := Keyed.bind_eq_ok.mp hFound
    exact ⟨formatted, hFormatted⟩
  · rintro ⟨formatted, hFormatted⟩
    obtain ⟨png, hPng⟩ := anyPng_ok fun _ => isPng_ok h
    unfold PostService.issuesOf
    rw [hFormatted]
    dsimp only [Bind.bind, Except.bind]
    rw [hPng]
    split <;> exact ⟨_, rfl⟩

theorem mapM_ok_iff {α β ε : Type} {f : α → Except ε β} {l : List α} :
    (∃ results, l.mapM f = .ok results) ↔ ∀ a ∈ l, ∃ b, f a = .ok b := by
  induction l with
  | nil => exact iff_of_true ⟨_, rfl⟩ fun a hMem => absurd hMem List.not_mem_nil
  | cons first rest ih =>
    rw [List.forall_mem_cons, ← ih, List.mapM_cons]
    constructor
    · rintro ⟨results, hResults⟩
      obtain ⟨b, hFirst, hRest⟩ := Keyed.bind_eq_ok.mp hResults
      obtain ⟨others, hOthers, -⟩ := Keyed.bind_eq_ok.mp hRest
      exact ⟨⟨b, hFirst⟩, others, hOthers⟩
    · rintro ⟨⟨b, hFirst⟩, others, hOthers⟩
      exact ⟨b :: others,
        Keyed.bind_eq_ok.mpr ⟨b, hFirst, Keyed.bind_eq_ok.mpr ⟨others, hOthers, rfl⟩⟩⟩

theorem issues_ok_iff (h : validateMedia cfg post.content.media = .ok post.content.media)
    (jobs : List SocialPublishJob) :
    (∃ found, PostService.issues cfg ⟨post, jobs⟩ = .ok found) ↔
      NoNullOverride post.content ∨ jobs = [] := by
  have hMapM : (∃ found, PostService.issues cfg ⟨post, jobs⟩ = .ok found) ↔
      ∃ perJob, jobs.mapM (PostService.issuesOf cfg post) = .ok perJob := by
    constructor
    · rintro ⟨found, hFound⟩
      obtain ⟨perJob, hPerJob, -⟩ := Keyed.bind_eq_ok.mp hFound
      exact ⟨perJob, hPerJob⟩
    · rintro ⟨perJob, hPerJob⟩
      exact ⟨_, Keyed.bind_eq_ok.mpr ⟨perJob, hPerJob, rfl⟩⟩
  rw [hMapM, mapM_ok_iff]
  simp only [issuesOf_ok_iff h]
  cases jobs with
  | nil => simp
  | cons job rest =>
    refine ⟨fun hAll => Or.inl (hAll job List.mem_cons_self), ?_⟩
    rintro (hNull | hNil)
    · exact fun _ _ => hNull
    · cases hNil

end Issues

/-! ## Two contents -/

section Independence

variable {content content' : PostContent} {platform : SocialPlatform}

theorem SameFor.originalFor (h : SameFor platform content content') :
    originalFor content platform = originalFor content' platform := by
  unfold SocialPromotion.originalFor
  rw [h.title, h.body, h.url, h.override]

/-- Two contents a platform sees alike are formatted alike for it, unless one of them cannot be
formatted at all. -/
theorem format_same_iff (isTagChar : Char → Bool) (post : Post) (job : SocialPublishJob)
    (h : SameFor job.platform post.content content') :
    (format isTagChar post job).toOption =
        (format isTagChar { post with content := content' } job).toOption ↔
      (NoNullOverride post.content ↔ NoNullOverride content') := by
  have hThrows {post : Post} (hNull : ¬ NoNullOverride post.content) :
      (format isTagChar post job).toOption = none := by
    cases hFormat : format isTagChar post job with
    | error => rfl
    | ok formatted => exact absurd ((format_ok_iff job).mp ⟨formatted, hFormat⟩) hNull
  by_cases hNull : NoNullOverride post.content
  · obtain ⟨made, hMade, hFormat⟩ := format_eq isTagChar job hNull
    rw [hFormat, iff_true_left hNull]
    by_cases hNull' : NoNullOverride content'
    · obtain ⟨made', hMade', hFormat'⟩ :=
        @format_eq { post with content := content' } isTagChar job hNull'
      rw [hFormat', iff_true_right hNull']
      rw [h.originalFor] at hMade
      obtain rfl := Except.ok.inj (hMade.symm.trans hMade')
      rw [h.title, h.url, h.media]
    · rw [hThrows hNull']
      exact iff_of_false (Option.some_ne_none _) hNull'
  · rw [hThrows hNull, iff_false_left hNull]
    by_cases hNull' : NoNullOverride content'
    · obtain ⟨made', -, hFormat'⟩ :=
        @format_eq { post with content := content' } isTagChar job hNull'
      rw [hFormat']
      exact iff_of_false (fun hSome => by cases hSome) fun hNone => hNone hNull'
    · rw [hThrows hNull']
      exact iff_of_true rfl hNull'

end Independence

/-- **Formatting is total, and each platform on its own, exactly without `null` overrides**: of a
post whose media passed the check, every job can be formatted, and the issues of jobs can be
listed, exactly where no platform has a `null`; and another content that looks the same to the
platform of a job gives the same, unless just one of the two has a `null` for some platform. -/
theorem formatting_total_iff {cfg : Config} {post : Post}
    (hMedia : validateMedia cfg post.content.media = .ok post.content.media) :
    (∀ job, (∃ formatted, format cfg.isTagChar post job = .ok formatted) ↔
        NoNullOverride post.content) ∧
      (∀ jobs, (∃ found, PostService.issues cfg ⟨post, jobs⟩ = .ok found) ↔
        NoNullOverride post.content ∨ jobs = []) ∧
      ∀ job content', SameFor job.platform post.content content' →
        ((format cfg.isTagChar post job).toOption =
            (format cfg.isTagChar { post with content := content' } job).toOption ↔
          (NoNullOverride post.content ↔ NoNullOverride content')) :=
  ⟨format_ok_iff, issues_ok_iff hMedia,
    fun job _ hSame => format_same_iff cfg.isTagChar post job hSame⟩

theorem formatting_total_iff_post :
    (∀ job, (∃ formatted, format Deployment.surroundings.cfg.isTagChar Deployment.post job =
        .ok formatted) ↔ NoNullOverride Deployment.post.content) ∧
      (∀ jobs, (∃ found, PostService.issues Deployment.surroundings.cfg
        ⟨Deployment.post, jobs⟩ = .ok found) ↔
          NoNullOverride Deployment.post.content ∨ jobs = []) ∧
      ∀ job content', SameFor job.platform Deployment.post.content content' →
        ((format Deployment.surroundings.cfg.isTagChar Deployment.post job).toOption =
            (format Deployment.surroundings.cfg.isTagChar
              { Deployment.post with content := content' } job).toOption ↔
          (NoNullOverride Deployment.post.content ↔ NoNullOverride content')) :=
  formatting_total_iff rfl

/-- The post with `platformBodies: { x: null }`. -/
def nullOverride : Post :=
  { Deployment.post with
    content := { Deployment.post.content with platformBodies := some { x := .null } } }

/-- It is accepted, and its job for LinkedIn cannot be formatted. -/
theorem null_override_throws :
    CreatePostContentDto.validate (fun _ => true) nullOverride.content = true ∧
      validateMedia Deployment.surroundings.cfg nullOverride.content.media =
        .ok nullOverride.content.media ∧
      format Deployment.surroundings.cfg.isTagChar nullOverride (Deployment.job .linkedin) =
        .error (.typeError "Cannot read properties of null") ∧
      PostService.issues Deployment.surroundings.cfg
          ⟨nullOverride, [Deployment.job .linkedin]⟩ =
        .error (.typeError "Cannot read properties of null") := by
  decide +kernel

end SocialPromotion
