import SocialPromotion.Model.ServiceJwt
import SocialPromotion.Model.System

/-!
# Who may call what

`roles.decorator.ts`, `public-route.decorator.ts`, `role.guard.ts`, the guard of
`service-jwt-auth.guard.ts` around its verifier, and the marks that the controllers put on their
handlers. Both guards are registered as `APP_GUARD`, so each request passes them in this order
before its handler runs.
-/

namespace SocialPromotion

open ServiceJwtVerifier (AuthenticatedUser)

inductive PromotionRole
  | editor | publisher | admin
deriving DecidableEq, Repr

def PromotionRole.text : PromotionRole → Text
  | .editor => "editor".toList
  | .publisher => "publisher".toList
  | .admin => "admin".toList

/-! ## The handlers -/

/-- The handlers, controller by controller. -/
inductive Handler
  | createPost | listPosts | getPost | updatePost | previewPost | publishPost | schedulePost
  | cancelPost | retryPost | duplicatePost | postResults | postAnalytics
  | campaignDashboard | campaignRawMetrics
  | createCampaign | listCampaigns | getCampaign
  | listIntegrations | connect (platform : SocialPlatform) | selectFacebookPage | disconnect
  | linkedInCallback | metaCallback | threadsCallback | xCallback
  | createChannel | createEntry | openEntry | consultationEvent | funnel
  | uploadMedia | mediaFile
  | audit | failureAlerts
  | healthCheck | healthReady
deriving DecidableEq, Repr

/-- What `PublicRoute` and `RequireRoles` set; `none` is `undefined`. -/
structure RouteMetadata where
  isPublicRoute : Option Bool := none
  requiredPromotionRoles : Option (List PromotionRole) := none

namespace Handler

def publicRoute : RouteMetadata := { isPublicRoute := some true }

def requireRoles (roles : List PromotionRole) : RouteMetadata :=
  { requiredPromotionRoles := some roles }

/-- `context.getHandler()`. -/
def metadata : Handler → RouteMetadata
  | .createPost | .updatePost | .duplicatePost | .createCampaign => requireRoles [.editor]
  | .publishPost | .schedulePost | .cancelPost | .retryPost => requireRoles [.publisher]
  | .connect _ | .selectFacebookPage | .disconnect => requireRoles [.admin]
  | .openEntry | .consultationEvent | .mediaFile => publicRoute
  | _ => {}

/-- `context.getClass()`. -/
def classMetadata : Handler → RouteMetadata
  | .linkedInCallback | .metaCallback | .threadsCallback | .xCallback => publicRoute
  | .healthCheck | .healthReady => publicRoute
  | .audit | .failureAlerts => requireRoles [.admin]
  | _ => {}

/-- `reflector.getAllAndOverride(IS_PUBLIC_ROUTE, ...)`. -/
def isPublic (handler : Handler) : Option Bool :=
  handler.metadata.isPublicRoute <|> handler.classMetadata.isPublicRoute

/-- `reflector.getAllAndOverride(REQUIRED_ROLES, ...)`. -/
def requiredRoles (handler : Handler) : Option (List PromotionRole) :=
  handler.metadata.requiredPromotionRoles <|> handler.classMetadata.requiredPromotionRoles

/-- The handlers that read `request.user`. -/
def readsUser : Handler → Bool
  | .linkedInCallback | .metaCallback | .threadsCallback | .xCallback | .openEntry
  | .consultationEvent | .mediaFile | .healthCheck | .healthReady => false
  | _ => true

end Handler

/-! ## The guards -/

/-- `request.user` after `canActivate`, from what `verify` makes of the request. -/
def ServiceJwtAuthGuard.canActivate (verified : Except ThrownError AuthenticatedUser)
    (handler : Handler) : Except ThrownError (Option AuthenticatedUser) :=
  if handler.isPublic = some true then .ok none else verified.map some

namespace RoleGuard

def missingRole (required : List PromotionRole) : ThrownError :=
  .httpException 403 ("One of the required promotion roles is missing: " ++
    ", ".intercalate (required.map fun role => String.ofList role.text) ++ ".")

/-- One of the roles a request comes with is admitted where `required` are. -/
def admits (required : List PromotionRole) (roles : List Text) : Bool :=
  roles.contains PromotionRole.admin.text || required.any fun role => roles.contains role.text

/-- `rbacEnabled` is `process.env.SERVICE_RBAC_ENABLED === 'true'`. -/
def canActivate (rbacEnabled : Bool) (user : Option AuthenticatedUser) (handler : Handler) :
    Except ThrownError Unit :=
  if ¬ rbacEnabled then .ok ()
  else match handler.requiredRoles with
    | none | some [] => .ok ()
    | some required =>
      if admits required ((user.bind AuthenticatedUser.roles).getD []) then .ok ()
      else .error (missingRole required)

end RoleGuard

/-- The user that a handler runs with, where both guards let the request pass. -/
def admitRequest (rbacEnabled : Bool) (verified : Except ThrownError AuthenticatedUser)
    (handler : Handler) : Except ThrownError (Option AuthenticatedUser) := do
  let user ← ServiceJwtAuthGuard.canActivate verified handler
  RoleGuard.canActivate rbacEnabled user handler
  return user

/-! ## post.controller.ts -/

/-- The handlers that perform an operation; `duplicate` ends in a `create`. -/
def UserOperation.handlers : UserOperation → List Handler
  | .create .. => [.createPost, .duplicatePost]
  | .update .. => [.updatePost]
  | .schedule .. => [.schedulePost]
  | .publishNow .. => [.publishPost]
  | .cancel .. => [.cancelPost]
  | .retry .. => [.retryPost]

end SocialPromotion
