import SocialPromotion.Model.Access
import SocialPromotion.Properties.Tenants

/-!
# Editors write, publishers approve

With `SERVICE_RBAC_ENABLED`, the guards let a request through to an operation on posts only with
the role of its handler.

* `admitted_user`: a handler that reads `request.user` runs with the user of a verified token;
* `role_of_admitted`: an operation that is admitted has its caller in the role for it;
* `published_in_roles`: what the providers are ever asked to publish belongs to a user who is both
  an editor and a publisher, whatever executions, dispatchers and other users do meanwhile.
-/

namespace SocialPromotion

open LTS Database PgPostRepository PostService PublishWorkerProcessor Installation
open ServiceJwtVerifier (AuthenticatedUser)

-- ---------------------------------------------------------------------------
-- Admission
-- ---------------------------------------------------------------------------

section Admission

variable {rbacEnabled : Bool} {verified : Except ThrownError AuthenticatedUser}
  {handler : Handler} {user : Option AuthenticatedUser}

theorem admitRequest_eq_ok : admitRequest rbacEnabled verified handler = .ok user ↔
    ServiceJwtAuthGuard.canActivate verified handler = .ok user ∧
      RoleGuard.canActivate rbacEnabled user handler = .ok () := by
  unfold admitRequest
  constructor
  · intro h
    obtain ⟨user', hUser, h⟩ := Keyed.bind_eq_ok.mp h
    obtain ⟨⟨⟩, hRole, h⟩ := Keyed.bind_eq_ok.mp h
    obtain rfl := Except.ok.inj h
    exact ⟨hUser, hRole⟩
  · rintro ⟨hUser, hRole⟩
    exact Keyed.bind_eq_ok.mpr ⟨user, hUser, Keyed.bind_eq_ok.mpr ⟨(), hRole, rfl⟩⟩

/-- The handlers that read the user are the ones that are not public. -/
theorem isPublic_of_readsUser (h : handler.readsUser = true) : handler.isPublic = none := by
  cases handler
  all_goals first
    | rfl
    | cases h

/-- A handler that reads the user runs with the user of a verified token. -/
theorem admitted_user (h : admitRequest rbacEnabled verified handler = .ok user)
    (hReads : handler.readsUser = true) :
    ∃ authenticated, user = some authenticated ∧ verified = .ok authenticated := by
  obtain ⟨hUser, -⟩ := admitRequest_eq_ok.mp h
  rw [ServiceJwtAuthGuard.canActivate, isPublic_of_readsUser hReads, if_neg fun h => by cases h]
    at hUser
  cases verified with
  | error e => cases hUser
  | ok authenticated => exact ⟨authenticated, (Except.ok.inj hUser).symm, rfl⟩

end Admission

/-- The role in which an operation is performed. -/
def UserOperation.role : UserOperation → PromotionRole
  | .create .. | .update .. => .editor
  | .schedule .. | .publishNow .. | .cancel .. | .retry .. => .publisher

/-- A user acts in a role, which an admin does in each. -/
def ActsAs (user : AuthenticatedUser) (role : PromotionRole) : Prop :=
  PromotionRole.admin.text ∈ user.roles.getD [] ∨ role.text ∈ user.roles.getD []

/-- The guards let a request for the operation through, with the token of its caller. -/
def UserOperation.isAdmitted (user : UserId → AuthenticatedUser) (operation : UserOperation) :
    Bool :=
  operation.handlers.any fun handler =>
    (admitRequest true (.ok (user operation.ownerId)) handler).isOk

def Event.isAdmitted (user : UserId → AuthenticatedUser) : Event → Bool
  | .user operation => operation.isAdmitted user
  | _ => true

/-- Operations come in as requests that the guards let through; `user id` has the roles that the
tokens of a user list. -/
def Admitted (user : UserId → AuthenticatedUser) (_ : PublishingState) (e : Event) : Prop :=
  e.isAdmitted user = true

instance (user : UserId → AuthenticatedUser) (s : PublishingState) (e : Event) :
    Decidable (Admitted user s e) :=
  inferInstanceAs (Decidable (_ = _))

theorem metadata_of_handler {operation : UserOperation} {handler : Handler}
    (h : handler ∈ operation.handlers) :
    handler.readsUser = true ∧ handler.requiredRoles = some [operation.role] := by
  cases operation
  all_goals simp only [UserOperation.handlers, List.mem_cons, List.not_mem_nil, or_false] at h
  case create =>
    rcases h with rfl | rfl
    · exact ⟨rfl, rfl⟩
    · exact ⟨rfl, rfl⟩
  all_goals
    subst h
    exact ⟨rfl, rfl⟩

/-- An operation that is admitted has its caller in the role for it. -/
theorem role_of_admitted {user : UserId → AuthenticatedUser} {s : PublishingState}
    {operation : UserOperation} (h : Admitted user s (.user operation)) :
    ActsAs (user operation.ownerId) operation.role := by
  obtain ⟨handler, hHandler, hOk⟩ := List.any_eq_true.mp h
  obtain ⟨hReads, hRequired⟩ := metadata_of_handler hHandler
  cases hResult : admitRequest true (.ok (user operation.ownerId)) handler with
  | error e =>
    rw [hResult] at hOk
    cases hOk
  | ok admitted =>
    obtain ⟨authenticated, rfl, hUser⟩ := admitted_user hResult hReads
    obtain rfl := Except.ok.inj hUser
    obtain ⟨-, hRole⟩ := admitRequest_eq_ok.mp hResult
    rw [RoleGuard.canActivate, hRequired, if_neg (by simp)] at hRole
    dsimp only at hRole
    split at hRole
    · rename_i hAdmits
      simpa [RoleGuard.admits, ActsAs] using hAdmits
    · cases hRole

-- ---------------------------------------------------------------------------
-- Every run
-- ---------------------------------------------------------------------------

/-- Posts belong to editors, and to publishers once they are no drafts. -/
structure Dutiful (user : UserId → AuthenticatedUser) (db : Database) : Prop where
  written : ∀ id row, db.posts.lookup id = some row → ActsAs (user row.ownerId) .editor
  approved : ∀ id row, db.posts.lookup id = some row → row.status ≠ .draft →
    ActsAs (user row.ownerId) .publisher

section Runs

variable {cfg : Config} {user : UserId → AuthenticatedUser} {s t : PublishingState} {e : Event}

theorem Dutiful.of_posts_eq {db db' : Database} (h : Dutiful user db)
    (hPosts : db'.posts = db.posts) : Dutiful user db' :=
  ⟨fun id row hRow => h.written id row (hPosts ▸ hRow),
    fun id row hRow => h.approved id row (hPosts ▸ hRow)⟩

theorem Dutiful.insert {db db' : Database} {id : PostId} {row : PostRow} (h : Dutiful user db)
    (hPosts : db'.posts = db.posts.insert id row) (hWritten : ActsAs (user row.ownerId) .editor)
    (hApproved : row.status ≠ .draft → ActsAs (user row.ownerId) .publisher) :
    Dutiful user db' := by
  constructor
  case written =>
    intro id' row' hRow
    rw [hPosts] at hRow
    by_cases hId : id' = id
    · subst hId
      obtain rfl := Option.some.inj ((AList.lookup_insert _).symm.trans hRow)
      exact hWritten
    · exact h.written id' row' ((AList.lookup_insert_ne hId).symm.trans hRow)
  case approved =>
    intro id' row' hRow
    rw [hPosts] at hRow
    by_cases hId : id' = id
    · subst hId
      obtain rfl := Option.some.inj ((AList.lookup_insert _).symm.trans hRow)
      exact hApproved
    · exact h.approved id' row' ((AList.lookup_insert_ne hId).symm.trans hRow)

/-- An edit that leaves no draft was a publisher's, or found none. -/
theorem role_of_edit {db : Database} {id : PostId} {row : PostRow} {operation : UserOperation}
    {next : Post} {f : SocialPublishJob → SocialPublishJob}
    (hEdit : Edit cfg db id row operation next f) (hNext : next.status ≠ .draft) :
    operation.role = .publisher := by
  cases hEdit with
  | update content _ hStatus => exact absurd hStatus hNext
  | schedule _ hApproval =>
    cases operation
    case schedule | publishNow => rfl
    all_goals cases hApproval
  | cancel | retry => rfl

/-- **One step** leaves posts to those in the roles for them. -/
theorem dutiful_step (h : Dutiful user s.db) (hAdmitted : Admitted user s e)
    (hMove : (publishingSystem cfg).step s e = some t) : Dutiful user t.db := by
  by_cases hUser : ∃ operation, e = .user operation
  · obtain ⟨operation, rfl⟩ := hUser
    have hRole := role_of_admitted hAdmitted
    cases user_step hMove with
    | failed hSame => exact hSame ▸ h
    | @created post dto hCreate hCreated =>
      refine h.insert hCreated.created.posts ?_ fun hDraft => absurd hCreated.created.draft hDraft
      show ActsAs (user post.ownerId) .editor
      have hEditor : operation.role = .editor := by rw [hCreate]; rfl
      rw [hCreated.owner, ← hEditor]
      exact hRole
    | @edited id row next f hOwner hEdit hMutated =>
      refine h.insert hMutated.posts (h.written id row hMutated.found) fun hDraft => ?_
      show ActsAs (user row.ownerId) .publisher
      rw [hOwner, ← role_of_edit hEdit hDraft]
      exact hRole
  · cases table_step hMove with
    | kept _ hPosts => exact h.of_posts_eq hPosts
    | wrote _ _ _ hWritten => exact h.of_posts_eq hWritten.posts
    | created | edited => exact absurd ⟨_, rfl⟩ hUser

theorem dutiful_reachable (hReach : Reachable (publishingSystem cfg) (Admitted user) s) :
    Dutiful user s.db := by
  refine hReach.invariant (I := fun s => Dutiful user s.db) (fun s hInit => ?_)
    fun s e t h hAdmitted hMove => dutiful_step h hAdmitted hMove
  obtain ⟨⟨campaigns, accounts, hDb⟩, -⟩ := hInit
  rw [hDb]
  exact ⟨fun _ _ hRow => (by cases hRow), fun _ _ hRow => (by cases hRow)⟩

/-- **What is published was written by an editor and approved by a publisher**: where the guards
admit every operation, every provider call is for a post whose owner acts in both roles. -/
theorem published_in_roles (hReach : Reachable (publishingSystem cfg) (Admitted user) s) :
    ∀ c ∈ s.calls, ∃ row, s.db.posts.lookup c.post.localPostId = some row ∧
      ActsAs (user row.ownerId) .editor ∧ ActsAs (user row.ownerId) .publisher := by
  intro c hCall
  obtain ⟨n, hGet⟩ := List.getElem?_of_mem hCall
  obtain ⟨job, post, ⟨stored, status, -, -, -, hId, -, hStatus, hDraft⟩, hFormat⟩ :=
    (sends_stored_reachable hReach).calls n c hGet
  obtain ⟨row, hRow, rfl⟩ := Option.map_eq_some_iff.mp hStatus
  obtain ⟨hPost, -⟩ := format_target hFormat
  have hDuties := dutiful_reachable hReach
  exact ⟨row, by rw [hPost, hId, hRow], hDuties.written _ row hRow,
    hDuties.approved _ row hRow hDraft⟩

end Runs

/-- User 100 is an editor and a publisher. -/
theorem published_in_roles_first : ∃ s : PublishingState, s.calls.length = 1 ∧
    ∀ c ∈ s.calls, ∃ row, s.db.posts.lookup c.post.localPostId = some row ∧
      ActsAs ⟨[], some ["editor".toList, "publisher".toList]⟩ .editor ∧
      ActsAs ⟨[], some ["editor".toList, "publisher".toList]⟩ .publisher := by
  obtain ⟨s, hReach, hCalls⟩ := exists_reachable_of_run (publishingSystem (config false false))
    (Admitted fun _ => ⟨[], some ["editor".toList, "publisher".toList]⟩)
    (fun s => s.calls.length = 1) (approved ++ [deliver, call 0, call 0, .publish 0 1000])
    (start_initial _) (by decide +kernel)
  exact ⟨s, of_decide_eq_true hCalls, published_in_roles hReach⟩

end SocialPromotion
