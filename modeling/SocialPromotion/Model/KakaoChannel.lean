import Mathlib.Data.List.AList
import SocialPromotion.Lib.Transition
import SocialPromotion.Lib.UuidText
import SocialPromotion.Model.Outside
import SocialPromotion.Model.RawMetrics

/-!
# Kakao Channel

`kakao-channel.service.ts` and `pg-kakao-channel.repository.ts` over the tables of migration
007: registered channels, the links that lead into them and the consultations that follow. A
call is one statement, so the runs of `kakaoSystem` are all orders of calls.
-/

namespace SocialPromotion

/-! ## Entities -/

inductive KakaoChannelInboundSource
  | platform (platform : SocialPlatform)
  | direct
deriving DecidableEq, Repr

inductive KakaoConsultationStatus
  | started | assigned | resolved | closed
deriving DecidableEq, Repr

inductive KakaoChannelStatus
  | active | disabled
deriving DecidableEq, Repr

/-- `kakao_channels`. -/
structure KakaoChannelRow where
  ownerId : UserId
  publicId : Text
  name : Text
  consultationUrl : Text
  status : KakaoChannelStatus
deriving DecidableEq, Repr

/-- `kakao_channel_inbound_events`, keyed by its UNIQUE `tracking_code`, which also stands for
the entry's own id. -/
structure KakaoInboundEventRow where
  channelId : Uuid
  campaignId : Option CampaignId
  source : KakaoChannelInboundSource
  openedAt : Option Time
deriving DecidableEq, Repr

/-- `kakao_channel_consultations`, keyed by UNIQUE (channel_id, external_conversation_ref). -/
structure KakaoConsultationRow where
  inboundEventId : Option Uuid
  status : KakaoConsultationStatus
  startedAt : Time
  resolvedAt : Option Time
deriving DecidableEq, Repr

structure KakaoTables where
  channels : AList fun _ : Uuid => KakaoChannelRow
  inboundEvents : AList fun _ : Uuid => KakaoInboundEventRow
  consultations : AList fun _ : Uuid × Text => KakaoConsultationRow

/-! ## Errors -/

/-- The classes of errors that the statements run into. -/
inductive SqlState
  | uniqueViolation | foreignKeyViolation | checkViolation
  | invalidTextRepresentation | characterNotInRepertoire
deriving DecidableEq, Repr

inductive KakaoChannelError
  | thrown (error : ThrownError)
  | database (state : SqlState)
deriving DecidableEq, Repr

namespace KakaoChannelError

def typeError (message : String) : KakaoChannelError := .thrown (.typeError message)
def forbidden (message : String) : KakaoChannelError := .thrown (.forbidden message)
def notFound (message : String) : KakaoChannelError := .thrown (.notFound message)
def serviceUnavailable (message : String) : KakaoChannelError :=
  .thrown (.serviceUnavailable message)

end KakaoChannelError

/-- A check that throws unless `c` holds. -/
def checkThat (c : Prop) [Decidable c] (error : KakaoChannelError) : Except KakaoChannelError Unit :=
  if c then .ok () else .error error

/-! ## Texts -/

/-- A parameter where a uuid is expected. -/
def sqlUuid (text : Text) : Except KakaoChannelError Uuid :=
  match UuidText.readUuid text with
  | some id => .ok id
  | none => .error (.database .invalidTextRepresentation)

/-- A parameter where a text is expected: PostgreSQL keeps no NUL. -/
def sqlText (text : Text) : Except KakaoChannelError Text :=
  if Char.ofNat 0 ∈ text then .error (.database .characterNotInRepertoire) else .ok text

/-- `trim(text)` of SQL, which removes spaces only. -/
def sqlTrim (text : Text) : Text := (text.dropWhile fun c => c = ' ').rdropWhile fun c => c = ' '

/-- `char_length(trim(text)) BETWEEN 1 AND bound`. -/
def sqlLengthCheck (bound : Nat) (text : Text) : Bool :=
  1 ≤ (sqlTrim text).length ∧ (sqlTrim text).length ≤ bound

/-- `/^[_A-Za-z0-9-]{1,100}$/`. -/
def isPublicId (text : Text) : Bool :=
  1 ≤ text.length ∧ text.length ≤ 100 ∧
    text.all fun c => c.isAlphanum || c = '_' || c = '-'

/-! ## pg-kakao-channel.repository.ts -/

namespace PgKakaoChannelRepository

/-- `status IN ('resolved', 'closed')`. -/
def isOver (status : KakaoConsultationStatus) : Bool :=
  status = .resolved ∨ status = .closed

def db (s : Surroundings) : Except KakaoChannelError Unit :=
  checkThat (s.setting "DATABASE_URL").isSome
    (.serviceUnavailable "Kakao Channel database persistence is not configured.")

/-- `id` is what `gen_random_uuid()` draws. -/
def createChannel (s : Surroundings) (id : Uuid) (ownerId : UserId)
    (publicId name consultationUrl : Text) (tables : KakaoTables) :
    Except KakaoChannelError KakaoTables := do
  db s
  let publicId ← sqlText publicId
  let name ← sqlText name
  let consultationUrl ← sqlText consultationUrl
  checkThat (isPublicId publicId ∧ sqlLengthCheck 100 name ∧
    "https://pf.kakao.com/".toList.isPrefixOf consultationUrl) (.database .checkViolation)
  checkThat (id ∉ tables.channels ∧ ∀ e ∈ tables.channels.entries,
    ¬ (e.2.ownerId = ownerId ∧ e.2.publicId = publicId)) (.database .uniqueViolation)
  return { tables with
    channels := tables.channels.insert id ⟨ownerId, publicId, name, consultationUrl, .active⟩ }

def findOwnedChannel (s : Surroundings) (ownerId : UserId) (channelId : Text)
    (tables : KakaoTables) : Except KakaoChannelError (Option (Uuid × KakaoChannelRow)) := do
  db s
  let id ← sqlUuid channelId
  return ((tables.channels.lookup id).filter fun channel =>
    channel.ownerId = ownerId ∧ channel.status = .active).map fun channel => (id, channel)

/-- `campaigns` are the ids in the table that `campaign_id` refers to. -/
def createEntry (s : Surroundings) (campaigns : CampaignId → Bool) (channelId : Uuid)
    (campaignId : Option Text) (source : KakaoChannelInboundSource) (trackingCode : Uuid)
    (tables : KakaoTables) : Except KakaoChannelError KakaoTables := do
  db s
  let campaignId ← campaignId.mapM sqlUuid
  checkThat (trackingCode ∉ tables.inboundEvents) (.database .uniqueViolation)
  checkThat (channelId ∈ tables.channels ∧ campaignId.all campaigns)
    (.database .foreignKeyViolation)
  return { tables with
    inboundEvents := tables.inboundEvents.insert trackingCode ⟨channelId, campaignId, source, none⟩ }

/-- `opened_at` keeps the first opening. -/
def openEntry (s : Surroundings) (trackingCode : Text) (now : Time) (tables : KakaoTables) :
    Except KakaoChannelError (Option Text × KakaoTables) := do
  db s
  let code ← sqlUuid trackingCode
  match tables.inboundEvents.lookup code with
  | none => return (none, tables)
  | some event =>
    match (tables.channels.lookup event.channelId).filter fun c => c.status = .active with
    | none => return (none, tables)
    | some channel =>
      let opened := { event with openedAt := some (event.openedAt.getD now) }
      return (some channel.consultationUrl,
        { tables with inboundEvents := tables.inboundEvents.insert code opened })

structure ConsultationInput where
  channelId : Text
  inboundTrackingCode : Option Text
  externalConversationRef : Text
  status : KakaoConsultationStatus
deriving DecidableEq, Repr

/-- `SELECT id FROM kakao_channel_inbound_events WHERE tracking_code = $2 AND channel_id = $1`. -/
def inboundEventId (channelId : Uuid) (trackingCode : Option Uuid) (tables : KakaoTables) :
    Option Uuid :=
  trackingCode.filter fun code =>
    (tables.inboundEvents.lookup code).any fun event => event.channelId = channelId

/-- The row that the INSERT proposes. -/
def insertedRow (inboundEventId : Option Uuid) (status : KakaoConsultationStatus) (now : Time) :
    KakaoConsultationRow where
  inboundEventId := inboundEventId
  status := status
  startedAt := now
  resolvedAt := none

/-- What DO UPDATE makes of the row that is there. -/
def updatedRow (row : KakaoConsultationRow) (status : KakaoConsultationStatus) (now : Time) :
    KakaoConsultationRow :=
  { row with
    status := status
    resolvedAt := if isOver status then some now else row.resolvedAt }

/-- INSERT ... ON CONFLICT (channel_id, external_conversation_ref) DO UPDATE. -/
def upsertConsultation (channelId : Uuid) (trackingCode : Option Uuid) (reference : Text)
    (status : KakaoConsultationStatus) (now : Time) (tables : KakaoTables) : KakaoTables :=
  { tables with
    consultations := tables.consultations.insert (channelId, reference)
      (match tables.consultations.lookup (channelId, reference) with
        | none => insertedRow (inboundEventId channelId trackingCode tables) status now
        | some row => updatedRow row status now) }

def recordConsultation (s : Surroundings) (input : ConsultationInput) (now : Time)
    (tables : KakaoTables) : Except KakaoChannelError KakaoTables := do
  db s
  let channelId ← sqlUuid input.channelId
  let trackingCode ← input.inboundTrackingCode.mapM sqlUuid
  let reference ← sqlText input.externalConversationRef
  checkThat (sqlLengthCheck 200 reference) (.database .checkViolation)
  checkThat (channelId ∈ tables.channels) (.database .foreignKeyViolation)
  return upsertConsultation channelId trackingCode reference input.status now tables

structure KakaoChannelFunnel where
  issuedEntries : Nat
  openedEntries : Nat
  consultationsStarted : Nat
  consultationsResolved : Nat
deriving DecidableEq, Repr

def getFunnel (s : Surroundings) (ownerId : UserId) (channelId : Text) (tables : KakaoTables) :
    Except KakaoChannelError (Option KakaoChannelFunnel) := do
  let channel ← findOwnedChannel s ownerId channelId tables
  return channel.map fun (id, _) =>
    let events := (tables.inboundEvents.entries.map fun e => e.2).filter fun e => e.channelId = id
    let consultations := (tables.consultations.entries.filter fun e => e.1.1 = id).map fun e => e.2
    { issuedEntries := events.length
      openedEntries := events.countP fun e => e.openedAt.isSome
      consultationsStarted := consultations.length
      consultationsResolved := consultations.countP fun row => isOver row.status }

end PgKakaoChannelRepository

/-! ## kakao-channel.service.ts -/

structure CreateKakaoChannelDto where
  publicId : Text
  name : Text
  consultationUrl : Text
deriving DecidableEq, Repr

structure CreateKakaoChannelEntryDto where
  channelId : Text
  campaignId : Option Text
  source : Text
deriving DecidableEq, Repr

structure KakaoConsultationEventDto where
  channelId : Text
  inboundTrackingCode : Option Text
  externalConversationRef : Text
  status : Text
deriving DecidableEq, Repr

namespace KakaoChannelService

open AnalyticsService (isHexDigitAnyCase SOCIAL_PLATFORMS)

/-- The expression of `uuid`. -/
def uuidClasses : List (Char → Bool) :=
  repeated 8 isHexDigitAnyCase ++ isHyphen :: repeated 4 isHexDigitAnyCase ++ isHyphen ::
    (fun c => '1' ≤ c && c ≤ '8') :: repeated 3 isHexDigitAnyCase ++ isHyphen ::
    (fun c => c = '8' || c = '9' || c = 'a' || c = 'b' || c = 'A' || c = 'B') ::
    repeated 3 isHexDigitAnyCase ++ isHyphen :: repeated 12 isHexDigitAnyCase

def uuid (value : Text) : Bool := matchesClasses uuidClasses value

def publicId (value : Text) : Except KakaoChannelError Text := do
  checkThat (isPublicId value) (.typeError "Kakao Channel public ID is invalid.")
  return value

def source (value : Text) : Option KakaoChannelInboundSource :=
  if value = "direct".toList then some .direct
  else (SOCIAL_PLATFORMS.find? fun platform => platform.text.toList = value).map .platform

def consultationUrl (s : Surroundings) (value : Text) : Except KakaoChannelError Text :=
  match s.cfg.parseUrl value with
  | none => .error (.typeError "Kakao consultation URL is invalid.")
  | some url =>
    if url.protocol ≠ "https:" ∨ s.hostname value ≠ "pf.kakao.com".toList ∨
        ¬ "/chat".toList.isSuffixOf url.pathname then
      .error (.typeError "Kakao consultation URL must be an HTTPS pf.kakao.com channel chat URL.")
    else .ok (s.href value)

/-- Two texts have the same UTF-8 octets where they are the same text. -/
def assertIntegrationKey (s : Surroundings) (actual : Option Text) :
    Except KakaoChannelError Unit :=
  match s.setting "KAKAO_CHANNEL_INTEGRATION_KEY" with
  | none => .error (.serviceUnavailable "KAKAO_CHANNEL_INTEGRATION_KEY is not configured.")
  | some expected => checkThat (actual.getD [] = expected)
      (.forbidden "Kakao Channel integration authentication failed.")

def createChannel (s : Surroundings) (id : Uuid) (ownerId : UserId)
    (input : CreateKakaoChannelDto) (tables : KakaoTables) :
    Except KakaoChannelError KakaoTables := do
  let publicId ← publicId input.publicId
  let name := trim input.name
  checkThat (name ≠ [] ∧ Utf16.length name ≤ 100)
    (.typeError "Kakao Channel name must be 1-100 characters.")
  let consultationUrl ← consultationUrl s input.consultationUrl
  PgKakaoChannelRepository.createChannel s id ownerId publicId name consultationUrl tables

/-- The entry's row is there also where its URL cannot be built afterwards. -/
def createEntry (s : Surroundings) (campaigns : CampaignId → Bool) (ownerId : UserId)
    (input : CreateKakaoChannelEntryDto) (trackingCode : Uuid) (tables : KakaoTables) :
    Except KakaoChannelError KakaoTables := do
  match ← PgKakaoChannelRepository.findOwnedChannel s ownerId input.channelId tables with
  | none => throw (.notFound "Kakao Channel not found.")
  | some (id, _) =>
    match source input.source with
    | none => throw (.typeError "Kakao Channel inbound source is invalid.")
    | some source =>
      let campaignId := (input.campaignId.map trim).filter fun text => !text.isEmpty
      PgKakaoChannelRepository.createEntry s campaigns id campaignId source trackingCode tables

/-- The entry is opened also where the URL that is read back fails its check. -/
def openEntry (s : Surroundings) (trackingCode : Text) (now : Time) (tables : KakaoTables) :
    Except KakaoChannelError (Except KakaoChannelError Text × KakaoTables) := do
  checkThat (uuid trackingCode) (.notFound "Kakao Channel entry was not found.")
  let (entry, tables) ← PgKakaoChannelRepository.openEntry s trackingCode now tables
  match entry with
  | none => throw (.notFound "Kakao Channel entry was not found.")
  | some url => return (consultationUrl s url, tables)

def consultationStatus (value : Text) : Option KakaoConsultationStatus :=
  [("started", .started), ("assigned", .assigned), ("resolved", .resolved),
    ("closed", .closed)].lookup (String.ofList value)

def recordConsultation (s : Surroundings) (integrationKey : Option Text)
    (input : KakaoConsultationEventDto) (now : Time) (tables : KakaoTables) :
    Except KakaoChannelError KakaoTables := do
  assertIntegrationKey s integrationKey
  checkThat (uuid input.channelId) (.typeError "Kakao Channel ID is invalid.")
  -- an empty code is falsy, and passed on
  checkThat (input.inboundTrackingCode.all fun code => code.isEmpty || uuid code)
    (.typeError "Kakao inbound tracking code is invalid.")
  checkThat (trim input.externalConversationRef ≠ [] ∧
      Utf16.length input.externalConversationRef ≤ 200)
    (.typeError "External consultation reference must be 1-200 characters.")
  match consultationStatus input.status with
  | none => throw (.typeError "Kakao consultation status is invalid.")
  | some status =>
    PgKakaoChannelRepository.recordConsultation s {
      channelId := input.channelId
      inboundTrackingCode := input.inboundTrackingCode
      externalConversationRef := trim input.externalConversationRef
      status := status } now tables

def funnel (s : Surroundings) (ownerId : UserId) (channelId : Text) (tables : KakaoTables) :
    Except KakaoChannelError PgKakaoChannelRepository.KakaoChannelFunnel := do
  match ← PgKakaoChannelRepository.getFunnel s ownerId channelId tables with
  | none => throw (.notFound "Kakao Channel not found.")
  | some funnel => return funnel

end KakaoChannelService

/-! ## All orders of calls -/

structure KakaoState where
  tables : KakaoTables
  /-- The ids of the campaigns, which another part of the application keeps. -/
  campaigns : CampaignId → Bool
  clock : Time

inductive KakaoEvent
  | tick (ms : Nat)
  /-- Campaigns come and go; `campaign_id` is ON DELETE SET NULL. -/
  | changeCampaigns (campaigns : CampaignId → Bool)
  | createChannel (id : Uuid) (ownerId : UserId) (input : CreateKakaoChannelDto)
  | createEntry (ownerId : UserId) (input : CreateKakaoChannelEntryDto) (trackingCode : Uuid)
  | openEntry (trackingCode : Text)
  | recordConsultation (integrationKey : Option Text) (input : KakaoConsultationEventDto)

namespace KakaoState

def Initial (s : KakaoState) : Prop :=
  s.tables = ⟨∅, ∅, ∅⟩

/-- The entries once some campaigns are gone. -/
def keepCampaigns (campaigns : CampaignId → Bool) (row : KakaoInboundEventRow) :
    KakaoInboundEventRow :=
  { row with campaignId := row.campaignId.filter campaigns }

/-- A call that throws changes nothing and is no step. -/
def step (surroundings : Surroundings) (s : KakaoState) : KakaoEvent → Option KakaoState
  | .tick ms => some { s with clock := s.clock + ms }
  | .changeCampaigns campaigns => some { s with
      campaigns := campaigns
      tables := { s.tables with
        inboundEvents := Keyed.mapValues (fun _ => keepCampaigns campaigns)
          s.tables.inboundEvents } }
  | .createChannel id ownerId input =>
    withTables (KakaoChannelService.createChannel surroundings id ownerId input s.tables)
  | .createEntry ownerId input trackingCode =>
    withTables (KakaoChannelService.createEntry surroundings s.campaigns ownerId input trackingCode
      s.tables)
  | .openEntry trackingCode => withTables ((KakaoChannelService.openEntry surroundings trackingCode
      s.clock s.tables).map Prod.snd)
  | .recordConsultation integrationKey input =>
    withTables (KakaoChannelService.recordConsultation surroundings integrationKey input s.clock
      s.tables)
where
  withTables : Except KakaoChannelError KakaoTables → Option KakaoState
    | .ok tables => some { s with tables := tables }
    | .error _ => none

end KakaoState

def kakaoSystem (surroundings : Surroundings) : LTS.System KakaoState KakaoEvent where
  Initial := KakaoState.Initial
  step := KakaoState.step surroundings

end SocialPromotion
