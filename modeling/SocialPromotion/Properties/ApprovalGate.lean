import SocialPromotion.Model.Connections
import SocialPromotion.Properties.PreflightSends

/-!
# The approval gate and the adapters

`checkAccounts` looks at the status, the token, the expiry and the scopes of an account; the
adapter of its platform looks at the same columns and, besides, at the form of the provider's
own id of the account, which an OAuth callback stores as it comes.

Results:

* `scopes_agree`: the gate and the adapters want the same scopes;
* `gate_agrees_iff`: an account that passes the gate is refused exactly for the form of its id.
-/

namespace SocialPromotion

open Program

/-- The ids that a platform's credential service takes: digits, and for LinkedIn a member id or
the URN of a person or an organization. -/
def KnownAccountId (platform : SocialPlatform) (id : Text) : Prop :=
  match platform with
  | .linkedin => (id ≠ [] ∧ ∀ c ∈ id, TokenService.isKeyChar c = true) ∨
      ∃ kind ∈ ["urn:li:organization:", "urn:li:person:"], ∃ name,
        id = kind.toList ++ name ∧ name ≠ [] ∧ ':' ∉ name
  | _ => id ≠ [] ∧ ∀ c ∈ id, c.isDigit = true

section Ids

variable {id : Text}

theorem isAuthorUrn_iff : isAuthorUrn id = true ↔
    ∃ kind ∈ ["urn:li:organization:", "urn:li:person:"], ∃ name,
      id = kind.toList ++ name ∧ name ≠ [] ∧ ':' ∉ name := by
  unfold isAuthorUrn
  simp only [Bool.or_eq_true, List.mem_cons, List.not_mem_nil, or_false, exists_eq_or_imp,
    exists_eq_left]
  refine or_congr ?_ ?_
  all_goals
    split
    · rename_i name hPrefix
      have hId := List.isPrefixOf?_eq_some_iff_append_eq.mp hPrefix
      refine decide_eq_true_iff.trans ⟨fun h => ⟨name, hId.symm, h⟩, fun hName => ?_⟩
      obtain ⟨name', hId', h⟩ := hName
      rw [List.append_cancel_left (hId.trans hId')]
      exact h
    · rename_i hPrefix
      refine iff_of_false Bool.false_ne_true fun hName => ?_
      obtain ⟨name, hId, -⟩ := hName
      rw [List.isPrefixOf?_eq_some_iff_append_eq.mpr hId.symm] at hPrefix
      cases hPrefix

theorem isKeyChar_colon : TokenService.isKeyChar ':' = false := by decide

theorem linkedIn_known_iff :
    (LinkedInCredentialService.providerId id).isSome ↔ KnownAccountId .linkedin id := by
  have hFilter : (LinkedInCredentialService.providerId id).isSome ↔
      isAuthorUrn (linkedInAuthorUrn id) = true := by
    unfold LinkedInCredentialService
    cases hUrn : isAuthorUrn (linkedInAuthorUrn id) <;> simp [Option.filter, hUrn]
  rw [hFilter]
  unfold KnownAccountId linkedInAuthorUrn
  by_cases hMember : id ≠ [] ∧ id.all TokenService.isKeyChar = true
  · rw [if_pos hMember]
    refine iff_of_true (isAuthorUrn_iff.mpr ?_) (Or.inl ⟨hMember.1, List.all_eq_true.mp hMember.2⟩)
    refine ⟨"urn:li:person:", by simp, id, rfl, hMember.1, fun hColon => ?_⟩
    have hKey := List.all_eq_true.mp hMember.2 ':' hColon
    rw [isKeyChar_colon] at hKey
    cases hKey
  · rw [if_neg hMember, isAuthorUrn_iff]
    rw [List.all_eq_true] at hMember
    exact (or_iff_right hMember).symm

theorem numericId_known_iff : (numericId id).isSome ↔ id ≠ [] ∧ ∀ c ∈ id, c.isDigit = true := by
  unfold numericId isNumericId
  simp

/-- The credential service of a platform takes exactly the known ids. -/
theorem providerId_isSome_iff (platform : SocialPlatform) :
    ((credentialServiceOf platform).providerId id).isSome ↔ KnownAccountId platform id := by
  cases platform with
  | linkedin => exact linkedIn_known_iff
  | facebook | instagram | threads | x => exact numericId_known_iff

/-- A LinkedIn id names an organization exactly where its author URN does. -/
theorem organization_prefix (id : Text) :
    "urn:li:organization:".toList.isPrefixOf (linkedInAuthorUrn id) =
      "urn:li:organization:".toList.isPrefixOf id := by
  unfold linkedInAuthorUrn
  split
  next hMember =>
    -- a member id has no colon, and its URN is that of a person
    have hPerson : "urn:li:organization:".toList.isPrefixOf ("urn:li:person:".toList ++ id) =
        false := rfl
    rw [hPerson, eq_comm, Bool.eq_false_iff]
    intro hOrganization
    obtain ⟨name, rfl⟩ := List.isPrefixOf_iff_prefix.mp hOrganization
    have hColon := List.all_eq_true.mp hMember.2 ':' (List.mem_append_left _ (by decide))
    rw [isKeyChar_colon] at hColon
    cases hColon
  · rfl

end Ids

/-! ## Scopes -/

theorem find?_missing_iff {required scope : List String} :
    (required.find? fun s => s ∉ scope) = none ↔
      (required.filter fun s => !scope.contains s) = [] := by
  rw [List.find?_eq_none, List.filter_eq_nil_iff]
  simp

/-- **The gate and the adapters want the same scopes.** -/
theorem scopes_agree {platform : SocialPlatform} {credential : PublishingCredential}
    {externalId : String}
    (h : (credentialServiceOf platform).providerId externalId.toList = some credential.providerId) :
    ((writeScopesOf platform credential).find? fun scope => scope ∉ credential.scope) = none ↔
      missingPublishingScopes platform credential.scope externalId = [] := by
  rw [find?_missing_iff]
  cases platform with
  | facebook | instagram | threads | x => exact Iff.rfl
  | linkedin =>
    have hFilter : (some (linkedInAuthorUrn externalId.toList)).filter isAuthorUrn =
        some credential.providerId := h
    have hUrn : linkedInAuthorUrn externalId.toList = credential.providerId :=
      Option.some.inj (Option.filter_eq_some_iff.mp hFilter).1
    unfold missingPublishingScopes
    show ((LinkedInAdapter.writeScopes credential).filter _ = []) ↔ _
    unfold LinkedInAdapter.writeScopes
    rw [← hUrn, organization_prefix]

/-! ## The gate -/

section Gate

variable {s : Surroundings} {db : Database} {tokens : AccountId → Text} {ownerId : UserId}
  {job : SocialPublishJob} {t : Time}

/-- The account of a job that passed the gate. -/
theorem checkAccount_ok (h : PgPostRepository.checkAccount db ownerId true t job = .ok ()) :
    ∃ account, db.socialAccounts.lookup job.accountId = some account ∧
      account.platform = job.platform ∧ account.status = .active ∧
      account.hasAccessToken = true ∧ (account.expiresAt.all fun time => t < time) = true ∧
      missingPublishingScopes job.platform account.scope account.platformAccountId = [] := by
  unfold PgPostRepository.checkAccount at h
  cases hAvailable : PgPostRepository.availableAccount db ownerId job t with
  | none => simp [hAvailable] at h
  | some account =>
    simp only [hAvailable, true_and] at h
    obtain ⟨hLookup, hFilter⟩ := Option.filter_eq_some_iff.mp hAvailable
    obtain ⟨-, hPlatform, hActive, hToken, hExpiry⟩ := of_decide_eq_true hFilter
    refine ⟨account, hLookup, hPlatform, hActive, hToken, hExpiry, ?_⟩
    by_contra hMissing
    rw [if_pos hMissing] at h
    cases h

theorem checkAccount_of_mem {jobs : List SocialPublishJob}
    (h : PgPostRepository.checkAccounts db ownerId jobs true t = .ok ()) (hJob : job ∈ jobs) :
    PgPostRepository.checkAccount db ownerId true t job = .ok () := by
  induction jobs with
  | nil => cases hJob
  | cons first rest ih =>
    obtain ⟨⟨⟩, hFirst, hRest⟩ := Keyed.bind_eq_ok.mp h
    cases hJob with
    | head => exact hFirst
    | tail _ hJob => exact ih hRest hJob

/-- The row that `findActiveSocialAccount` selects of an account that passed the gate. -/
theorem selectActive_eq {account : SocialAccount}
    (hLookup : db.socialAccounts.lookup job.accountId = some account)
    (hPlatform : account.platform = job.platform) (hActive : account.status = .active)
    (hToken : account.hasAccessToken = true) :
    PgOAuthAccountRepository.selectActive tokens job.accountId job.platform db = some {
      id := job.accountId
      platform := account.platform
      platformAccountId := account.platformAccountId.toList
      accessTokenEncrypted := tokens job.accountId
      expiresAt := account.expiresAt
      scope := account.scope } := by
  unfold PgOAuthAccountRepository.selectActive
  rw [hLookup]
  simp [Option.filter, hPlatform, hActive, hToken]

/-- Of such an account only the form of its id can hinder the adapter. -/
theorem accountHindrance_iff {platform : SocialPlatform} {row : ActiveSocialAccountCredential}
    (hExpiry : (row.expiresAt.all fun time => t < time) = true)
    (hDecrypts : ∃ text, TokenService.decrypt s row.accessTokenEncrypted = .ok text)
    {externalId : String} (hId : row.platformAccountId = externalId.toList)
    (hScopes : missingPublishingScopes platform row.scope externalId = []) :
    accountHindrance (credentialServiceOf platform) s (writeScopesOf platform) row t = none ↔
      KnownAccountId platform row.platformAccountId := by
  obtain ⟨text, hText⟩ := hDecrypts
  have hValid : ¬ (row.expiresAt.any fun time => time ≤ t) = true := by
    cases hExpires : row.expiresAt with
    | none => exact Bool.false_ne_true
    | some time => simpa [hExpires] using hExpiry
  rw [← providerId_isSome_iff]
  unfold accountHindrance
  rw [if_neg hValid]
  cases hProvider : (credentialServiceOf platform).providerId row.platformAccountId with
  | none => exact iff_of_false (Option.some_ne_none _) Bool.false_ne_true
  | some providerId =>
    rw [hId] at hProvider
    have hNone : ((writeScopesOf platform ⟨row.id, providerId, text, row.scope⟩).find? fun scope =>
        scope ∉ row.scope) = none :=
      (@scopes_agree platform ⟨row.id, providerId, text, row.scope⟩ externalId hProvider).mpr
        hScopes
    simp only [hText, hNone]
    exact iff_of_true trivial rfl

theorem hindered_adapterCredential (platform : SocialPlatform) (id : AccountId)
    (replies : Nat → Reply) (n : Nat) :
    (adapterCredential s platform id).Hindered (fun _ => True) Hindrance.Shows replies n
      (credentialHindrance (credentialServiceOf platform) s (writeScopesOf platform) (replies n)
        (replies (n + 1))) (n + 2) := by
  cases platform <;> exact hindered_writeCredential fun _ _ => trivial

end Gate

/-- **The gate agrees with the adapters up to the form of the id**: of an account that passed
`checkAccounts` at a time, and whose token decrypts, the adapter of the platform gets a credential
for its write at that time exactly where the id stored for the account is one it knows. -/
theorem gate_agrees_iff {s : Surroundings} {db : Database} {tokens : AccountId → Text}
    {ownerId : UserId} {jobs : List SocialPublishJob} {t : Time}
    (hGate : PgPostRepository.checkAccounts db ownerId jobs true t = .ok ())
    {job : SocialPublishJob} (hJob : job ∈ jobs)
    (hDecrypts : ∃ text, TokenService.decrypt s (tokens job.accountId) = .ok text)
    (hDatabase : (s.setting "DATABASE_URL").isSome) {replies : Nat → Reply} {n : Nat}
    (hQuery : (replies n).account = .ok
      (PgOAuthAccountRepository.selectActive tokens job.accountId job.platform db))
    (hClock : (replies (n + 1)).date = t) :
    ∃ account, db.socialAccounts.lookup job.accountId = some account ∧
      ((∃ credential, ((adapterCredential s job.platform job.accountId).run replies n).result =
          .ok credential) ↔
        KnownAccountId job.platform account.platformAccountId.toList) := by
  obtain ⟨account, hLookup, hPlatform, hActive, hToken, hExpiry, hScopes⟩ :=
    checkAccount_ok (checkAccount_of_mem hGate hJob)
  refine ⟨account, hLookup, ?_⟩
  rw [(hindered_adapterCredential ..).result_ok_iff]
  unfold credentialHindrance
  rw [hQuery, selectActive_eq hLookup hPlatform hActive hToken, hClock, unmet_of hDatabase]
  exact accountHindrance_iff hExpiry hDecrypts rfl hScopes

/-! ## An account that only the gate takes -/

/-- The profile of an X user whose id is no number. -/
def aliceProfile : List (String × Json) :=
  [("data", .object [("id", .string "alice".toList)])]

/-- Connected by its user, with every scope and without an expiry. -/
def aliceDatabase (id : Text) : Database :=
  PgOAuthAccountRepository.upsertSocialAccount
    ⟨100, .x, id, none, ["tweet.read", "tweet.write", "users.read"]⟩ (Database.empty ∅ ∅)

/-- The job of the deployment for that account. -/
def aliceJob : SocialPublishJob := { Deployment.job .x with accountId := 0 }

/-- The lookup finds the row, and the clock shows 1000. -/
def aliceReplies (id : Text) (_ : Nat) : Reply :=
  { Deployment.reply .x (.failed ⟨true, none, none⟩ false) with
    account := .ok (PgOAuthAccountRepository.selectActive (fun _ => "v1.a.b.c".toList) 0 .x
      (aliceDatabase id)) }

theorem gate_agrees_iff_numeric :
    ∃ account, (aliceDatabase ['7']).socialAccounts.lookup 0 = some account ∧
      ((∃ credential, ((adapterCredential Deployment.surroundings .x 0).run
          (aliceReplies ['7']) 0).result = .ok credential) ↔
        KnownAccountId .x account.platformAccountId.toList) :=
  have hGate : PgPostRepository.checkAccounts (aliceDatabase ['7']) 100 [aliceJob] true 1000 =
      .ok () := by decide +kernel
  gate_agrees_iff (s := Deployment.surroundings) hGate (List.mem_singleton_self aliceJob)
    ⟨['t'], by decide +kernel⟩ (by decide) rfl rfl

/-- The callback stores it, the gate lets it pass, and the credential service refuses it. -/
theorem gate_accepts_unknown_id :
    XOAuthProvider.identityFromProfile aliceProfile = .ok ⟨"alice".toList, none⟩ ∧
      PgPostRepository.checkAccounts (aliceDatabase "alice".toList) 100 [aliceJob] true 1000 =
        .ok () ∧
      TokenService.decrypt Deployment.surroundings "v1.a.b.c".toList = .ok ['t'] ∧
      ((adapterCredential Deployment.surroundings .x 0).run
        (aliceReplies "alice".toList) 0).result =
          .error (.forbidden "X publishing requires a verified numeric user ID.") := by
  decide +kernel

end SocialPromotion
