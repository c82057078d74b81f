import SocialPromotion.Lib.History
import SocialPromotion.Lib.Keyed
import SocialPromotion.Model.KakaoChannel
import SocialPromotion.Sending.Preflight

/-!
# Consultations and their history

The INSERT of `recordConsultation` sets the entry that a conversation came from and leaves
`resolved_at` out; its ON CONFLICT branch sets `resolved_at` and leaves the entry as it is.
So a row is told by the events before it, but the first event counts for more than the others.

* `consultation_told`: what the row of a conversation is, from its recorded events;
* `consultation_reflects_history`: when the row shows them all.
-/

namespace SocialPromotion

open LTS Keyed UuidText PgKakaoChannelRepository

/-! ## The record of the events -/

/-- An event that was recorded; `trackingCode` is what it carried, if that was a tracking code of
the channel. -/
structure RecordedConsultation where
  channelId : Uuid
  reference : Text
  status : KakaoConsultationStatus
  trackingCode : Option Uuid
deriving DecidableEq

/-- What a successful call of `recordConsultation` recorded. -/
def recordedConsultation (s : KakaoState) (e : KakaoEvent) (_ : KakaoState) :
    List RecordedConsultation :=
  match e with
  | .recordConsultation _ input =>
    match readUuid input.channelId, KakaoChannelService.consultationStatus input.status with
    | some channelId, some status =>
      [⟨channelId, trim input.externalConversationRef, status,
        inboundEventId channelId (input.inboundTrackingCode.bind readUuid) s.tables⟩]
    | _, _ => []
  | _ => []

/-- All calls, with the record of the consultation events. -/
def consultationSystem (surroundings : Surroundings) :
    System (KakaoState × List RecordedConsultation) KakaoEvent :=
  (kakaoSystem surroundings).logged recordedConsultation

/-- The events of one conversation, in order. -/
def eventsOf (channelId : Uuid) (reference : Text) (log : List RecordedConsultation) :
    List RecordedConsultation :=
  log.filter fun event => event.channelId = channelId ∧ event.reference = reference

/-- What the events of a conversation say about its row, if it has one. -/
def Told (events : List RecordedConsultation) : Option KakaoConsultationRow → Prop
  | none => events = []
  | some row => ∃ first later, events = first :: later ∧
      row.status = (later.getLastD first).status ∧
      row.inboundEventId = first.trackingCode ∧
      row.resolvedAt.isSome = later.any fun event => isOver event.status

/-- The row shows the last status, when the conversation was over if it is, and where it came
from if any event said so. -/
def Reflects (events : List RecordedConsultation) (row : KakaoConsultationRow) : Prop :=
  (events.getLast?.map RecordedConsultation.status = some row.status) ∧
    (isOver row.status → row.resolvedAt.isSome) ∧
    ((∃ event ∈ events, event.trackingCode.isSome) → row.inboundEventId.isSome)

/-- The first event does not end the conversation as its only one, and it carries a tracking code
of the channel if any event does. -/
def FirstEventTells (events : List RecordedConsultation) : Prop :=
  ∀ first later, events = first :: later →
    (later = [] → ¬ isOver first.status) ∧
      ((∃ event ∈ later, event.trackingCode.isSome) → first.trackingCode.isSome)

/-! ## One call -/

theorem checkThat_eq_ok {c : Prop} [Decidable c] {error : KakaoChannelError} {u : Unit} :
    checkThat c error = .ok u ↔ c := by
  unfold checkThat
  by_cases h : c <;> simp [h]

theorem sqlUuid_eq_ok {text : Text} {id : Uuid} :
    sqlUuid text = .ok id ↔ readUuid text = some id := by
  unfold sqlUuid
  cases readUuid text <;> simp

theorem mapM_sqlUuid {text : Option Text} {id : Option Uuid}
    (h : text.mapM sqlUuid = .ok id) : id = text.bind readUuid := by
  cases text with
  | none =>
    injection h with h
    exact h.symm
  | some text =>
    obtain ⟨id', hRead, hId⟩ := bind_eq_ok.mp h
    injection hId with hId
    rw [← hId, Option.bind_some, sqlUuid_eq_ok.mp hRead]

/-- A call that succeeds is the upsert of what it read from its input. -/
theorem recordConsultation_spec {surroundings : Surroundings} {integrationKey : Option Text}
    {input : KakaoConsultationEventDto} {now : Time} {tables tables' : KakaoTables}
    (h : KakaoChannelService.recordConsultation surroundings integrationKey input now tables =
      .ok tables') :
    ∃ channelId status, readUuid input.channelId = some channelId ∧
      KakaoChannelService.consultationStatus input.status = some status ∧
      tables' = upsertConsultation channelId (input.inboundTrackingCode.bind readUuid)
        (trim input.externalConversationRef) status now tables := by
  obtain ⟨_, _, h⟩ := bind_eq_ok.mp h
  obtain ⟨_, _, h⟩ := bind_eq_ok.mp h
  obtain ⟨_, _, h⟩ := bind_eq_ok.mp h
  obtain ⟨_, _, h⟩ := bind_eq_ok.mp h
  cases hStatus : KakaoChannelService.consultationStatus input.status with
  | none =>
    rw [hStatus] at h
    cases h
  | some status =>
    rw [hStatus] at h
    obtain ⟨_, _, h⟩ := bind_eq_ok.mp h
    obtain ⟨channelId, hChannel, h⟩ := bind_eq_ok.mp h
    obtain ⟨trackingCode, hCode, h⟩ := bind_eq_ok.mp h
    obtain ⟨reference, hReference, h⟩ := bind_eq_ok.mp h
    obtain ⟨_, _, h⟩ := bind_eq_ok.mp h
    obtain ⟨_, _, h⟩ := bind_eq_ok.mp h
    have hText : reference = trim input.externalConversationRef := by
      unfold sqlText at hReference
      split at hReference
      · cases hReference
      · injection hReference with hReference
        exact hReference.symm
    injection h with h
    refine ⟨channelId, status, sqlUuid_eq_ok.mp hChannel, rfl, ?_⟩
    rw [← h, hText, mapM_sqlUuid hCode]

/-! ## The other calls keep the consultations -/

section Others

variable {surroundings : Surroundings} {tables tables' : KakaoTables} {ownerId : UserId}

theorem createChannel_consultations {id : Uuid} {input : CreateKakaoChannelDto}
    (h : KakaoChannelService.createChannel surroundings id ownerId input tables = .ok tables') :
    tables'.consultations = tables.consultations := by
  obtain ⟨_, _, h⟩ := bind_eq_ok.mp h
  obtain ⟨_, _, h⟩ := bind_eq_ok.mp h
  obtain ⟨_, _, h⟩ := bind_eq_ok.mp h
  -- the statement: four parameters, two constraints and the new row
  obtain ⟨_, _, h⟩ := bind_eq_ok.mp h
  obtain ⟨_, _, h⟩ := bind_eq_ok.mp h
  obtain ⟨_, _, h⟩ := bind_eq_ok.mp h
  obtain ⟨_, _, h⟩ := bind_eq_ok.mp h
  obtain ⟨_, _, h⟩ := bind_eq_ok.mp h
  obtain ⟨_, _, h⟩ := bind_eq_ok.mp h
  injection h with h
  rw [← h]

theorem createEntry_consultations {campaigns : CampaignId → Bool}
    {input : CreateKakaoChannelEntryDto} {trackingCode : Uuid}
    (h : KakaoChannelService.createEntry surroundings campaigns ownerId input trackingCode tables =
      .ok tables') : tables'.consultations = tables.consultations := by
  obtain ⟨channel, _, h⟩ := bind_eq_ok.mp h
  cases channel with
  | none => cases h
  | some channel =>
    cases hSource : KakaoChannelService.source input.source with
    | none =>
      simp only [hSource] at h
      cases h
    | some source =>
      simp only [hSource] at h
      obtain ⟨_, _, h⟩ := bind_eq_ok.mp h
      obtain ⟨_, _, h⟩ := bind_eq_ok.mp h
      obtain ⟨_, _, h⟩ := bind_eq_ok.mp h
      obtain ⟨_, _, h⟩ := bind_eq_ok.mp h
      injection h with h
      rw [← h]

theorem selectedEntry_consultations {trackingCode : Text} {now : Time} {url : Option Text}
    (h : PgKakaoChannelRepository.openEntry surroundings trackingCode now tables =
      .ok (url, tables')) : tables'.consultations = tables.consultations := by
  obtain ⟨_, _, h⟩ := bind_eq_ok.mp h
  obtain ⟨code, _, h⟩ := bind_eq_ok.mp h
  split at h
  · injection h with h
    rw [← (Prod.mk.inj h).2]
  · split at h
    · injection h with h
      rw [← (Prod.mk.inj h).2]
    · injection h with h
      rw [← (Prod.mk.inj h).2]

theorem openEntry_consultations {trackingCode : Text} {now : Time}
    (h : (KakaoChannelService.openEntry surroundings trackingCode now tables).map Prod.snd =
      .ok tables') : tables'.consultations = tables.consultations := by
  cases hOpen : KakaoChannelService.openEntry surroundings trackingCode now tables with
  | error error =>
    rw [hOpen] at h
    cases h
  | ok opened =>
    rw [hOpen] at h
    injection h with h
    obtain ⟨_, _, hOpen⟩ := bind_eq_ok.mp hOpen
    obtain ⟨⟨url, tables''⟩, hSelected, hOpen⟩ := bind_eq_ok.mp hOpen
    cases url with
    | none => cases hOpen
    | some url =>
      injection hOpen with hOpen
      rw [← h, ← hOpen]
      exact selectedEntry_consultations hSelected

end Others

/-! ## Steps -/

section Step

variable {surroundings : Surroundings} {s t : KakaoState} {e : KakaoEvent}

theorem withTables_eq_some {result : Except KakaoChannelError KakaoTables} :
    KakaoState.step.withTables s result = some t ↔
      ∃ tables, result = .ok tables ∧ t = { s with tables := tables } := by
  cases result with
  | error error => simp [KakaoState.step.withTables]
  | ok tables => simp [KakaoState.step.withTables, eq_comm]

/-- A step leaves the consultations alone, or records one event in them. -/
theorem kakao_step (h : (kakaoSystem surroundings).step s e = some t) :
    (t.tables.consultations = s.tables.consultations ∧ recordedConsultation s e t = []) ∨
      ∃ channelId trackingCode reference status,
        t.tables = upsertConsultation channelId trackingCode reference status s.clock s.tables ∧
        recordedConsultation s e t =
          [⟨channelId, reference, status, inboundEventId channelId trackingCode s.tables⟩] := by
  cases e with
  | tick ms =>
    injection h with h
    exact .inl ⟨by rw [← h], rfl⟩
  | changeCampaigns campaigns =>
    injection h with h
    exact .inl ⟨by rw [← h], rfl⟩
  | createChannel id ownerId input =>
    obtain ⟨tables, hCall, rfl⟩ := withTables_eq_some.mp h
    exact .inl ⟨createChannel_consultations hCall, rfl⟩
  | createEntry ownerId input trackingCode =>
    obtain ⟨tables, hCall, rfl⟩ := withTables_eq_some.mp h
    exact .inl ⟨createEntry_consultations hCall, rfl⟩
  | openEntry trackingCode =>
    obtain ⟨tables, hCall, rfl⟩ := withTables_eq_some.mp h
    exact .inl ⟨openEntry_consultations hCall, rfl⟩
  | recordConsultation integrationKey input =>
    obtain ⟨tables, hCall, rfl⟩ := withTables_eq_some.mp h
    obtain ⟨channelId, status, hChannel, hStatus, hTables⟩ := recordConsultation_spec hCall
    refine .inr ⟨channelId, _, _, status, hTables, ?_⟩
    rw [recordedConsultation, hChannel, hStatus]

end Step

/-! ## The row of a conversation -/

section Row

variable {events : List RecordedConsultation} {event : RecordedConsultation}
  {row : KakaoConsultationRow} {now : Time}

/-- The first event of a conversation makes its row. -/
theorem told_inserted :
    Told [event] (some (insertedRow event.trackingCode event.status now)) :=
  ⟨event, [], rfl, rfl, rfl, rfl⟩

/-- Every later event updates it. -/
theorem told_updated (h : Told events (some row)) :
    Told (events ++ [event]) (some (updatedRow row event.status now)) := by
  obtain ⟨first, later, rfl, hStatus, hEntry, hResolved⟩ := h
  refine ⟨first, later ++ [event], rfl, ?_, hEntry, ?_⟩
  · rw [List.getLastD_concat]
    rfl
  · rw [List.any_append, ← hResolved]
    show (if isOver event.status then some now else row.resolvedAt).isSome = _
    by_cases hOver : isOver event.status = true
    · simp [hOver]
    · simp [hOver]

variable (event) in
theorem eventsOf_concat_self (log : List RecordedConsultation) :
    eventsOf event.channelId event.reference (log ++ [event]) =
      eventsOf event.channelId event.reference log ++ [event] := by
  rw [eventsOf, List.filter_append, List.filter_singleton]
  simp [eventsOf]

theorem eventsOf_concat_other {channelId : Uuid} {reference : Text}
    (log : List RecordedConsultation)
    (h : (channelId, reference) ≠ (event.channelId, event.reference)) :
    eventsOf channelId reference (log ++ [event]) = eventsOf channelId reference log := by
  have hOther : ¬ (event.channelId = channelId ∧ event.reference = reference) := by
    rintro ⟨rfl, rfl⟩
    exact h rfl
  rw [eventsOf, List.filter_append, List.filter_singleton]
  simp [eventsOf, hOther]

end Row

/-- **The row of a conversation.** In every run it is what the recorded events say. -/
theorem consultation_told {surroundings : Surroundings}
    {s : KakaoState × List RecordedConsultation}
    (h : Reachable (consultationSystem surroundings) anyStep s) (channelId : Uuid)
    (reference : Text) :
    Told (eventsOf channelId reference s.2)
      (s.1.tables.consultations.lookup (channelId, reference)) := by
  refine h.invariant (I := fun s => Told (eventsOf channelId reference s.2)
    (s.1.tables.consultations.lookup (channelId, reference))) (fun s hInit => ?_)
    fun s e t hTold _ hMove => ?_
  · obtain ⟨hTables, hLog⟩ := hInit
    rw [hLog, hTables]
    exact rfl
  · obtain ⟨hStep, hLog⟩ := logged_step.mp hMove
    rw [hLog]
    obtain ⟨hSame, hNone⟩ | ⟨channelId', code, reference', status, hTables, hRecorded⟩ :=
      kakao_step hStep
    · rw [hNone, List.append_nil, hSame]
      exact hTold
    · rw [hRecorded, hTables]
      by_cases hKey : (channelId, reference) = (channelId', reference')
      · -- the event belongs to this conversation
        obtain ⟨rfl, rfl⟩ := Prod.mk.inj hKey
        rw [upsertConsultation, AList.lookup_insert, eventsOf_concat_self
          ⟨channelId, reference, status, inboundEventId channelId code s.1.tables⟩]
        cases hRow : s.1.tables.consultations.lookup (channelId, reference) with
        | none =>
          rw [hRow] at hTold
          rw [show eventsOf channelId reference s.2 = [] from hTold]
          exact told_inserted
        | some row =>
          rw [hRow] at hTold
          exact told_updated hTold
      · rw [eventsOf_concat_other _ hKey, upsertConsultation, AList.lookup_insert_ne hKey]
        exact hTold

/-! ## Which events are taken -/

section Taken

variable {text : Text}

theorem sqlTrim_sublist (text : Text) : (sqlTrim text).Sublist text :=
  (List.rdropWhile_prefix _ _).sublist.trans (List.dropWhile_suffix _).sublist

/-- SQL trims no more than `trim` does. -/
theorem sqlTrim_trim_ne_nil (h : trim text ≠ []) : sqlTrim (trim text) ≠ [] := by
  obtain ⟨c, hMem, hVisible⟩ : ∃ c ∈ trim text, isSpace c = false := by
    by_contra hNone
    refine h (trim_eq_nil_iff.mpr (blank_trim_iff.mp fun c hMem => ?_))
    by_contra hVisible
    exact hNone ⟨c, hMem, Bool.eq_false_of_not_eq_true hVisible⟩
  have hNoSpace : decide (c = ' ') = false := by
    rw [decide_eq_false_iff_not]
    rintro rfl
    exact absurd hVisible (by decide)
  have hKept : c ∈ sqlTrim (trim text) :=
    List.mem_reverse.mpr (mem_dropWhile (List.mem_reverse.mpr (mem_dropWhile hMem hNoSpace))
      hNoSpace)
  exact List.ne_nil_of_mem hKept

/-- A reference that passes the check of the service passes the CHECK of its column. -/
theorem sqlLengthCheck_trim (hVisible : trim text ≠ []) (hLength : Utf16.length text ≤ 200) :
    sqlLengthCheck 200 (trim text) = true := by
  have hPos := List.length_pos_iff.mpr (sqlTrim_trim_ne_nil hVisible)
  have hTrimmed := (sqlTrim_sublist (trim text)).length_le
  have hText := (trim_sublist text).length_le
  have hUnits := Utf16.length_le text
  rw [sqlLengthCheck, decide_eq_true_eq]
  omega

/-- **Events are taken.** An event of a registered channel with the integration's key, a uuid or
nothing for a tracking code, a reference of 1-200 characters without NUL and one of the four
statuses is recorded. -/
theorem recordConsultation_taken {surroundings : Surroundings} {integrationKey : Text}
    {s : KakaoState} {input : KakaoConsultationEventDto} {channelId : Uuid}
    {status : KakaoConsultationStatus}
    (hDatabase : (surroundings.setting "DATABASE_URL").isSome)
    (hKey : surroundings.setting "KAKAO_CHANNEL_INTEGRATION_KEY" = some integrationKey)
    (hUuid : KakaoChannelService.uuid input.channelId = true)
    (hChannel : readUuid input.channelId = some channelId) (hKnown : channelId ∈ s.tables.channels)
    (hCode : ∀ code ∈ input.inboundTrackingCode,
      KakaoChannelService.uuid code = true ∧ (readUuid code).isSome)
    (hVisible : trim input.externalConversationRef ≠ [])
    (hLength : Utf16.length input.externalConversationRef ≤ 200)
    (hNul : Char.ofNat 0 ∉ input.externalConversationRef)
    (hStatus : KakaoChannelService.consultationStatus input.status = some status) :
    ∃ t, (kakaoSystem surroundings).step s (.recordConsultation (some integrationKey) input) =
      some t := by
  have hCodes : input.inboundTrackingCode.all (fun code =>
      code.isEmpty || KakaoChannelService.uuid code) = true := by
    cases hGiven : input.inboundTrackingCode with
    | none => rfl
    | some code => simp [(hCode code hGiven).1]
  have hCodeRead : ∃ code, input.inboundTrackingCode.mapM sqlUuid = .ok code := by
    cases hGiven : input.inboundTrackingCode with
    | none => exact ⟨none, rfl⟩
    | some code =>
      obtain ⟨id, hId⟩ := Option.isSome_iff_exists.mp (hCode code hGiven).2
      refine ⟨some id, bind_eq_ok.mpr ⟨id, sqlUuid_eq_ok.mpr hId, rfl⟩⟩
  obtain ⟨code, hCodeRead⟩ := hCodeRead
  have hText : sqlText (trim input.externalConversationRef) =
      .ok (trim input.externalConversationRef) :=
    if_neg fun hMem => hNul ((trim_sublist _).subset hMem)
  have hStored : PgKakaoChannelRepository.recordConsultation surroundings
      ⟨input.channelId, input.inboundTrackingCode, trim input.externalConversationRef, status⟩
      s.clock s.tables = .ok (upsertConsultation channelId code
        (trim input.externalConversationRef) status s.clock s.tables) := by
    refine bind_eq_ok.mpr ⟨(), checkThat_eq_ok.mpr hDatabase, ?_⟩
    refine bind_eq_ok.mpr ⟨channelId, sqlUuid_eq_ok.mpr hChannel, ?_⟩
    refine bind_eq_ok.mpr ⟨code, hCodeRead, ?_⟩
    refine bind_eq_ok.mpr ⟨_, hText, ?_⟩
    refine bind_eq_ok.mpr ⟨(), checkThat_eq_ok.mpr (sqlLengthCheck_trim hVisible hLength), ?_⟩
    exact bind_eq_ok.mpr ⟨(), checkThat_eq_ok.mpr hKnown, rfl⟩
  have hKeyOk : KakaoChannelService.assertIntegrationKey surroundings (some integrationKey) =
      .ok () := by
    unfold KakaoChannelService.assertIntegrationKey
    rw [hKey]
    exact checkThat_eq_ok.mpr rfl
  have hCall : KakaoChannelService.recordConsultation surroundings (some integrationKey) input
      s.clock s.tables = .ok (upsertConsultation channelId code
        (trim input.externalConversationRef) status s.clock s.tables) := by
    refine bind_eq_ok.mpr ⟨(), hKeyOk, ?_⟩
    refine bind_eq_ok.mpr ⟨(), checkThat_eq_ok.mpr hUuid, ?_⟩
    refine bind_eq_ok.mpr ⟨(), checkThat_eq_ok.mpr hCodes, ?_⟩
    refine bind_eq_ok.mpr ⟨(), checkThat_eq_ok.mpr ⟨hVisible, hLength⟩, ?_⟩
    rw [hStatus]
    exact hStored
  exact ⟨_, withTables_eq_some.mpr ⟨_, hCall, rfl⟩⟩

end Taken

/-! ## When the row reflects its events -/

theorem getLast?_cons_eq {α : Type} (first : α) (later : List α) :
    (first :: later).getLast? = some (later.getLastD first) := by
  rw [List.getLast?_cons, List.getLastD_eq_getLast?]

/-- A row that is what its events say shows them all in exactly one case. -/
theorem reflects_iff {events : List RecordedConsultation} {row : KakaoConsultationRow}
    (h : Told events (some row)) : Reflects events row ↔ FirstEventTells events := by
  obtain ⟨first, later, rfl, hStatus, hEntry, hResolved⟩ := h
  constructor
  · rintro ⟨-, hOver, hCarried⟩ first' later' hSame
    obtain ⟨rfl, rfl⟩ := List.cons.inj hSame
    refine ⟨fun hOnly hEnds => ?_, fun ⟨event, hEvent, hCode⟩ => ?_⟩
    · -- the only event ends the conversation, so `resolved_at` would be there
      subst hOnly
      have hSet := hOver (by rw [hStatus]; exact hEnds)
      rw [hResolved] at hSet
      cases hSet
    · rw [← hEntry]
      exact hCarried ⟨event, List.mem_cons_of_mem _ hEvent, hCode⟩
  · intro hTells
    obtain ⟨hOnly, hCarried⟩ := hTells first later rfl
    refine ⟨?_, fun hOver => ?_, fun ⟨event, hEvent, hCode⟩ => ?_⟩
    · rw [getLast?_cons_eq, Option.map_some, ← hStatus]
    · rw [hStatus] at hOver
      rw [hResolved, List.any_eq_true]
      rcases List.eq_nil_or_concat later with rfl | ⟨before, last, rfl⟩
      · exact absurd hOver (hOnly rfl)
      · -- the last event came through the ON CONFLICT branch
        rw [List.concat_eq_append, List.getLastD_concat] at hOver
        exact ⟨last, by simp, hOver⟩
    · rw [hEntry]
      rcases List.mem_cons.mp hEvent with rfl | hLater
      · exact hCode
      · exact hCarried ⟨event, hLater, hCode⟩

/-- **When a consultation reflects its events.** After any run, the row of a conversation with
events shows its last status, when it was over if it is, and where it came from if an event said
so, if and only if its first event is not an only one that ends it and carries a tracking code of
the channel where any event does. -/
theorem consultation_reflects_history {surroundings : Surroundings}
    {s : KakaoState × List RecordedConsultation}
    (h : Reachable (consultationSystem surroundings) anyStep s) (channelId : Uuid)
    (reference : Text) (hEvents : eventsOf channelId reference s.2 ≠ []) :
    (∃ row, s.1.tables.consultations.lookup (channelId, reference) = some row ∧
      Reflects (eventsOf channelId reference s.2) row) ↔
      FirstEventTells (eventsOf channelId reference s.2) := by
  have hTold := consultation_told h channelId reference
  cases hRow : s.1.tables.consultations.lookup (channelId, reference) with
  | none =>
    rw [hRow] at hTold
    exact absurd hTold hEvents
  | some row =>
    rw [hRow] at hTold
    rw [← reflects_iff hTold]
    constructor
    · rintro ⟨row', hSame, hReflects⟩
      injection hSame with hSame
      exact hSame ▸ hReflects
    · exact fun hReflects => ⟨row, rfl, hReflects⟩

/-! ## Two conversations -/

namespace Bridge

def channelUrl : Text := "https://pf.kakao.com/_campaign/chat".toList

def surroundings : Surroundings where
  cfg := {
    adapters := fun _ => none
    isTagChar := Char.isAlphanum
    parseUrl := fun text =>
      if text = channelUrl then some ⟨"https:", "/_campaign/chat".toList⟩ else none }
  env name :=
    if name = "DATABASE_URL" then some "postgres://localhost/social".toList
    else if name = "KAKAO_CHANNEL_INTEGRATION_KEY" then some "test-kakao-bridge-key".toList
    else none
  hostname _ := "pf.kakao.com".toList
  href := id
  number _ := .nan
  toLowerCase := List.map Char.toLower
  parseJson _ := none
  fromBase64 _ := []
  toBase64 _ := []
  decipher _ _ _ _ := none

def start : KakaoState × List RecordedConsultation :=
  (⟨⟨∅, ∅, ∅⟩, fun _ => false, 0⟩, [])

def channelId : Uuid := 0x8c5912f341c54dafb6cb7616c8140bcb
def reference : Text := "bridge-conversation-opaque-001".toList

def register : KakaoEvent :=
  .createChannel channelId 1 ⟨"_campaign".toList, "Campaign Foundation".toList, channelUrl⟩

def event (status : String) : KakaoEvent :=
  .recordConsultation (some "test-kakao-bridge-key".toList)
    ⟨"8c5912f3-41c5-4daf-b6cb-7616c8140bcb".toList, none, reference, status.toList⟩

end Bridge

theorem consultation_reflects_started_resolved :
    ∃ s, Reachable (consultationSystem Bridge.surroundings) anyStep s ∧
      ∃ row, s.1.tables.consultations.lookup (Bridge.channelId, Bridge.reference) = some row ∧
        row.status = .resolved ∧ row.resolvedAt.isSome := by
  obtain ⟨s, hReach, hRun⟩ := exists_reachable_of_run (consultationSystem Bridge.surroundings)
    anyStep (fun s => eventsOf Bridge.channelId Bridge.reference s.2 =
      [⟨Bridge.channelId, Bridge.reference, .started, none⟩,
        ⟨Bridge.channelId, Bridge.reference, .resolved, none⟩])
    [Bridge.register, Bridge.event "started", Bridge.event "resolved"] (s := Bridge.start)
    ⟨rfl, rfl⟩ (by decide +kernel)
  have hEvents := of_decide_eq_true hRun
  obtain ⟨row, hRow, hLast, hOver, -⟩ := (consultation_reflects_history hReach Bridge.channelId
    Bridge.reference (by rw [hEvents]; nofun)).mpr (by
      rw [hEvents]
      intro first later hSplit
      obtain ⟨rfl, rfl⟩ := List.cons.inj hSplit
      exact ⟨nofun, fun ⟨event, hMem, hCode⟩ => by simp_all⟩)
  rw [hEvents] at hLast
  injection hLast with hLast
  exact ⟨s, hReach, row, hRow, hLast.symm, hOver (hLast ▸ rfl)⟩

/-- The only event of this conversation resolves it, and the row does not say when. -/
theorem consultation_resolved_at_once :
    ∃ s, Reachable (consultationSystem Bridge.surroundings) anyStep s ∧
      eventsOf Bridge.channelId Bridge.reference s.2 =
        [⟨Bridge.channelId, Bridge.reference, .resolved, none⟩] ∧
      ∃ row, s.1.tables.consultations.lookup (Bridge.channelId, Bridge.reference) = some row ∧
        row.status = .resolved ∧ row.resolvedAt = none := by
  obtain ⟨s, hReach, hRun⟩ := exists_reachable_of_run (consultationSystem Bridge.surroundings)
    anyStep (fun s => eventsOf Bridge.channelId Bridge.reference s.2 =
        [⟨Bridge.channelId, Bridge.reference, .resolved, none⟩] ∧
      s.1.tables.consultations.lookup (Bridge.channelId, Bridge.reference) =
        some ⟨none, .resolved, 0, none⟩)
    [Bridge.register, Bridge.event "resolved"] (s := Bridge.start) ⟨rfl, rfl⟩ (by decide +kernel)
  obtain ⟨hEvents, hRow⟩ := of_decide_eq_true hRun
  exact ⟨s, hReach, hEvents, _, hRow, rfl, rfl⟩

end SocialPromotion
