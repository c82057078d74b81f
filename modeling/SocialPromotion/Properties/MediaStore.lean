import SocialPromotion.Model.Media
import SocialPromotion.Properties.AuthenticationErrors

/-!
# What is uploaded is what is served

A file of the media store is written by the one upload that has created it, from the front to the
end, and is never written over; a download reads it from the front as far as it has got.

* `MediaCall.permits`, `MediaCall.obeys`: what a handler asks of the file system;
* `Stored`: every file is a beginning of the file of the upload that created it;
* `Downloads`: what a download has read is a beginning of its file;
* `media_kept`: whatever uploads and downloads interleave, fail or stop, a file whose upload was
  answered is served as it was uploaded, under the type it was uploaded with.
-/

namespace SocialPromotion.Media

open LTS Processes Program
open ServiceJwtVerifier (AuthenticatedUser require_eq_ok)

abbrev MediaHistory := List (MediaQuestion × MediaReply)

-- ---------------------------------------------------------------------------
-- What a handler may ask
-- ---------------------------------------------------------------------------

/-- The octets that an exchange has written. -/
def writtenBy (e : MediaQuestion × MediaReply) : Nat :=
  match e.1 with
  | .write _ _ => if e.2.error.isNone then max 1 e.2.written else 0
  | _ => 0

/-- The octets that a process has written. -/
def written (history : MediaHistory) : Nat := (history.map writtenBy).sum

theorem written_append (history more : MediaHistory) :
    written (history ++ more) = written history + written more := by
  rw [written, List.map_append, List.sum_append]
  rfl

/-- The octets that an exchange has read. -/
def readBy (e : MediaQuestion × MediaReply) : List UInt8 :=
  match e.1 with
  | .read _ _ => if e.2.error.isNone then e.2.octets else []
  | _ => []

/-- The octets that a process has read. -/
def received (history : MediaHistory) : List UInt8 := history.flatMap readBy

theorem received_append (history more : MediaHistory) :
    received (history ++ more) = received history ++ received more :=
  List.flatMap_append

/-- A file was created. -/
def HasCreated (name : Text) (history : MediaHistory) : Prop :=
  ∃ reply, (.create name, reply) ∈ history ∧ reply.error = none

theorem HasCreated.append {name : Text} {history more : MediaHistory}
    (h : HasCreated name history) : HasCreated name (history ++ more) := by
  obtain ⟨reply, hMem, hError⟩ := h
  exact ⟨reply, List.mem_append_left _ hMem, hError⟩

namespace MediaCall

variable (r : MediaRuntime)

/-- An upload that has passed its checks. -/
structure Checked (user : Option AuthenticatedUser) (uploaded : Option UploadedFile)
    (file : UploadedFile) (extension : MediaExtension) : Prop where
  user : ∃ authenticated, user = some authenticated
  uploaded : uploaded = some file
  extension : mediaExtension file.buffer file.mimetype = .ok extension

def uploadPermits (user : Option AuthenticatedUser) (uploaded : Option UploadedFile)
    (uuid : RandomUuid) (history : MediaHistory) : MediaQuestion → Prop
  | .mkdir => True
  | .create name => written history = 0 ∧ (∀ e ∈ history, ∀ name, e.1 ≠ .create name) ∧
    ∃ file extension, Checked user uploaded file extension ∧ name = fileName uuid extension
  | .write name rest => HasCreated name history ∧ ∃ file extension,
    Checked user uploaded file extension ∧ name = fileName uuid extension ∧
      rest = file.buffer.drop (written history)
  | .uploaded result => ∃ file extension, Checked user uploaded file extension ∧
    HasCreated (fileName uuid extension) history ∧ file.buffer.length ≤ written history ∧
      result.size = file.buffer.length ∧
      ∃ base, r.setting "MEDIA_PUBLIC_BASE_URL" = some base ∧
        result.url = withoutFinalSlash base ++ '/' :: fileName uuid extension
  | _ => False

/-- A response has been sent as far as the file was read. -/
structure Sends (name : Text) (history : MediaHistory) (streamed : StreamedFile) : Prop where
  type : streamed.type = servedType name
  found : ∃ info, (.stat name, info) ∈ history ∧ info.error = none ∧
    info.size = some streamed.length
  octets : streamed.octets = (received history).take streamed.length

/-- The response is as long as its headers say, or the file has ended. -/
def Ended (name : Text) (history : MediaHistory) (streamed : StreamedFile) : Prop :=
  streamed.length ≤ (received history).length ∨
    ∃ reply, (.read name (received history).length, reply) ∈ history ∧ reply.error = none ∧
      reply.octets = []

def filePermits (name : Text) (history : MediaHistory) : MediaQuestion → Prop
  | .stat n => n = name ∧ isStoredName name = true
  | .read n offset => n = name ∧ isStoredName name = true ∧ offset = (received history).length
  | .served streamed => Sends name history streamed ∧ Ended name history streamed
  | .cutOff streamed => Sends name history streamed
  | _ => False

/-- What a handler may ask after its exchanges so far. -/
def permits : MediaCall → MediaHistory → MediaQuestion → Prop
  | .upload user uploaded uuid, history => uploadPermits r user uploaded uuid history
  | .file name, history => filePermits name history

end MediaCall

section Obeys

variable {r : MediaRuntime} {user : Option AuthenticatedUser} {uploaded : Option UploadedFile}
  {uuid : RandomUuid}

theorem checkUpload_eq_ok {file : UploadedFile} {base : Text} {extension : MediaExtension}
    (h : checkUpload r user uploaded = .ok (file, base, extension)) :
    MediaCall.Checked user uploaded file extension ∧
      r.setting "MEDIA_PUBLIC_BASE_URL" = some base := by
  unfold checkUpload at h
  obtain ⟨⟨⟩, hUser, h⟩ := Keyed.bind_eq_ok.mp h
  have hSome : user.isSome = true := require_eq_ok.mp hUser
  split at h
  · cases h
  · rename_i found hFile
    dsimp only at h
    split at h
    · cases h
    · rename_i base' hBase
      split at h
      · cases h
      · obtain ⟨⟨⟩, -, h⟩ := Keyed.bind_eq_ok.mp h
        obtain ⟨extension', hExtension, h⟩ := Keyed.bind_eq_ok.mp h
        obtain ⟨⟨⟩, -, h⟩ := Keyed.bind_eq_ok.mp h
        obtain ⟨⟨⟩, -, h⟩ := Keyed.bind_eq_ok.mp h
        obtain ⟨rfl, hRest⟩ := Prod.mk.inj (Except.ok.inj h)
        obtain ⟨rfl, rfl⟩ := Prod.mk.inj hRest
        exact ⟨⟨Option.isSome_iff_exists.mp hSome, (Option.filter_eq_some_iff.mp hFile).1,
          hExtension⟩, hBase⟩

/-- A question that throws where the file system fails. -/
theorem obeys_ask_bind {permits : MediaHistory → MediaQuestion → Prop} {history : MediaHistory}
    {question : MediaQuestion} {α : Type} {f : MediaReply → MediaPromise α}
    (h : permits history question)
    (hNext : ∀ reply, reply.error = none →
      Obeys permits anyEnd (history ++ [(question, reply)]) (f reply)) :
    Obeys permits anyEnd history (ask question >>= f) := by
  unfold ask
  rw [bind_assoc]
  refine Obeys.ask_bind h fun reply => ?_
  cases hError : reply.error with
  | some error => trivial
  | none => exact hNext reply hError

/-- The rounds of `writeFile` write what is left, and all of it. -/
theorem obeys_writeAll {name : Text} {file : UploadedFile} {extension : MediaExtension}
    {α : Type} {f : Unit → MediaPromise α}
    (hChecked : MediaCall.Checked user uploaded file extension)
    (hName : name = fileName uuid extension) (rounds : Nat) (rest : List UInt8)
    (history : MediaHistory) (hCreated : HasCreated name history)
    (hRest : rest = file.buffer.drop (written history)) (hRounds : rest.length ≤ rounds)
    (hNext : ∀ xs, HasCreated name xs → file.buffer.length ≤ written xs →
      Obeys (MediaCall.uploadPermits r user uploaded uuid) anyEnd xs (f ())) :
    Obeys (MediaCall.uploadPermits r user uploaded uuid) anyEnd history
      (writeAll name rounds rest >>= f) := by
  have hDone : ∀ xs, [] = file.buffer.drop (written xs) → file.buffer.length ≤ written xs :=
    fun xs h => List.drop_eq_nil_iff.mp h.symm
  induction rounds generalizing rest history with
  | zero =>
    have hNone : rest = [] := List.length_eq_zero_iff.mp (Nat.le_zero.mp hRounds)
    rw [writeAll]
    exact hNext history hCreated (hDone history (hNone ▸ hRest))
  | succ rounds ih =>
    cases rest with
    | nil =>
      rw [writeAll]
      · exact hNext history hCreated (hDone history hRest)
      · exact Nat.succ_ne_zero rounds
    | cons octet rest =>
      rw [writeAll, bind_assoc]
      refine obeys_ask_bind ⟨hCreated, file, extension, hChecked, hName, hRest⟩
        fun reply hReply => ?_
      have hWritten : written (history ++ [(.write name (octet :: rest), reply)]) =
          written history + max 1 reply.written := by
        rw [written_append]
        simp [written, writtenBy, hReply]
      refine ih _ _ hCreated.append ?_ ?_
      · rw [hWritten, hRest, List.drop_drop]
      · rw [List.length_drop]
        simp only [List.length_cons] at hRounds ⊢
        omega

theorem obeys_upload : Obeys (MediaCall.uploadPermits r user uploaded uuid) anyEnd []
    (upload r user uploaded uuid) := by
  unfold upload
  refine Obeys.lift_bind (fun checked hChecked => ?_) fun _ _ => trivial
  obtain ⟨file, base, extension⟩ := checked
  obtain ⟨hUpload, hBase⟩ := checkUpload_eq_ok hChecked
  refine obeys_ask_bind trivial fun reply _ => ?_
  refine obeys_ask_bind ⟨rfl, fun e hMem name h => ?_, file, extension, hUpload, rfl⟩
    fun reply hReply => ?_
  · rw [List.mem_singleton.mp hMem] at h
    cases h
  · refine obeys_writeAll hUpload rfl _ _ _ ⟨reply, by simp, hReply⟩ rfl (le_refl _)
      fun xs hCreated hAll => ?_
    exact Obeys.ask_bind ⟨file, extension, hUpload, hCreated, hAll, rfl, base, hBase, rfl⟩
      fun _ => trivial

/-- The rounds of `sendAll` send what has been read. -/
theorem obeys_sendAll {name : Text} {α : Type} {f : StreamedFile → MediaPromise α}
    (hStored : isStoredName name = true) (rounds : Nat) (streamed : StreamedFile)
    (history : MediaHistory) (hSends : MediaCall.Sends name history streamed)
    (hRounds : streamed.length ≤ (received history).length + rounds)
    (hNext : ∀ xs streamed', MediaCall.Sends name xs streamed' →
      MediaCall.Ended name xs streamed' →
      Obeys (MediaCall.filePermits name) anyEnd xs (f streamed')) :
    Obeys (MediaCall.filePermits name) anyEnd history (sendAll name rounds streamed >>= f) := by
  induction rounds generalizing streamed history with
  | zero =>
    rw [sendAll]
    exact hNext history streamed hSends (.inl hRounds)
  | succ rounds ih =>
    rw [sendAll]
    split
    · rename_i hLong
      refine hNext history streamed hSends (.inl (hLong.trans ?_))
      rw [hSends.octets]
      exact List.length_take_le' _ _
    · rename_i hShort
      -- nothing that was read has been cut off
      have hWhole : streamed.octets = received history := by
        rw [hSends.octets, List.length_take] at hShort
        rw [hSends.octets, List.take_of_length_le (by omega)]
      rw [bind_assoc]
      refine Obeys.ask_bind ⟨rfl, hStored, by rw [hWhole]⟩ fun reply => ?_
      obtain ⟨info, hStat, hInfo, hSize⟩ := hSends.found
      have hFound : ∃ info, (.stat name, info) ∈
          history ++ [(.read name streamed.octets.length, reply)] ∧ info.error = none ∧
            info.size = some streamed.length :=
        ⟨info, List.mem_append_left _ hStat, hInfo, hSize⟩
      have hReceived : received (history ++ [(.read name streamed.octets.length, reply)]) =
          received history ++ (if reply.error.isNone then reply.octets else []) := by
        rw [received_append]
        simp [received, readBy]
      cases hError : reply.error with
      | some error =>
        rw [hError] at hReceived
        have hSame := hReceived.trans (List.append_nil _)
        exact Obeys.ask_bind ⟨hSends.type, hFound, by rw [hSame, hSends.octets]⟩ fun _ => trivial
      | none =>
        rw [hError] at hReceived
        dsimp only
        split
        · rename_i hEmpty
          have hNil : reply.octets = [] := List.isEmpty_iff.mp hEmpty
          have hSame : received (history ++ [(.read name streamed.octets.length, reply)]) =
              received history := by
            rw [hReceived, hNil]
            exact List.append_nil _
          refine hNext _ streamed ⟨hSends.type, hFound, by rw [hSame, hSends.octets]⟩
            (.inr ⟨reply, ?_, hError, hNil⟩)
          rw [hSame, hWhole]
          exact List.mem_append_right _ (List.mem_singleton_self _)
        · rename_i hSome
          have hMore := hReceived.trans
            (congrArg (received history ++ ·) (if_pos rfl : _ = reply.octets))
          have hOne : 1 ≤ reply.octets.length :=
            List.length_pos_iff.mpr fun hNil => hSome (List.isEmpty_iff.mpr hNil)
          refine ih _ _ ⟨hSends.type, hFound, ?_⟩ ?_
          · rw [hMore, hWhole]
          · rw [hMore, List.length_append]
            exact hRounds.trans (by omega)

theorem obeys_file (name : Text) :
    Obeys (MediaCall.filePermits name) anyEnd [] (Media.file r name) := by
  unfold Media.file
  refine Obeys.lift_bind (fun _ hName => ?_) fun _ _ => trivial
  have hStored : isStoredName name = true := require_eq_ok.mp hName
  refine Obeys.lift_bind (fun _ _ => ?_) fun _ _ => trivial
  refine Obeys.ask_bind ⟨rfl, hStored⟩ fun info => ?_
  split
  · rename_i size hError hSize
    refine obeys_sendAll hStored size _ _
      ⟨rfl, ⟨info, List.mem_singleton_self _, hError, hSize⟩, List.take_nil.symm⟩
      (Nat.le_add_left size _)
      fun xs streamed hSends hEnded => ?_
    exact Obeys.ask_bind ⟨hSends, hEnded⟩ fun _ => trivial
  · trivial

/-- **No handler asks for more** than it is permitted. -/
theorem MediaCall.obeys (call : MediaCall) :
    Obeys (call.permits r) anyEnd [] (call.program r) := by
  cases call with
  | upload user uploaded uuid => exact obeys_upload
  | file name => exact obeys_file name

end Obeys

-- ---------------------------------------------------------------------------
-- Names
-- ---------------------------------------------------------------------------

/-- A file is stored under a name that can be asked for. -/
theorem isStoredName_fileName (uuid : RandomUuid) (extension : MediaExtension) :
    isStoredName (fileName uuid extension) = true := by
  have hTake : (fileName uuid extension).take 36 = uuid.text := by
    rw [fileName, ← uuid.length, List.take_left]
  have hDrop : (fileName uuid extension).drop 36 = '.' :: extension.text := by
    rw [fileName, ← uuid.length, List.drop_left]
  rw [isStoredName, hTake, hDrop]
  refine decide_eq_true ⟨uuid.length, List.all_eq_true.mpr fun c hMem => ?_, ?_⟩
  · rcases uuid.digits c hMem with (hLetter | hDigit) | hDash
    · exact decide_eq_true (.inl hLetter)
    · exact decide_eq_true (.inr (.inl hDigit))
    · exact decide_eq_true (.inr (.inr hDash))
  · cases extension
    all_goals rfl

theorem isSuffixOf_fileName (uuid : RandomUuid) (extension : MediaExtension) (suffix : Text)
    (h : suffix.length = 4) :
    suffix.isSuffixOf (fileName uuid extension) = (suffix = '.' :: extension.text : Bool) := by
  have hLength : ('.' :: extension.text).length = 4 := by
    cases extension
    all_goals rfl
  by_cases hSame : suffix = '.' :: extension.text
  · rw [decide_eq_true hSame, hSame]
    exact List.isSuffixOf_iff_suffix.mpr (List.suffix_append _ _)
  · rw [decide_eq_false hSame]
    refine Bool.eq_false_iff.mpr fun hSuffix => hSame ?_
    have hBoth := List.suffix_append uuid.text ('.' :: extension.text)
    exact (List.suffix_of_suffix_length_le (List.isSuffixOf_iff_suffix.mp hSuffix) hBoth
      (by rw [h, hLength])).eq_of_length (by rw [h, hLength])

/-- A file is served under the type that its extension stands for. -/
theorem servedType_fileName (uuid : RandomUuid) (extension : MediaExtension) :
    servedType (fileName uuid extension) = extension.mime := by
  rw [servedType, isSuffixOf_fileName _ _ _ rfl, isSuffixOf_fileName _ _ _ rfl]
  cases extension
  all_goals rfl

/-- The type of an uploaded file is the one its extension stands for. -/
theorem mime_of_extension {buffer : List UInt8} {mime : Text} {extension : MediaExtension}
    (h : mediaExtension buffer mime = .ok extension) : extension.mime = mime := by
  unfold mediaExtension at h
  split at h
  · rename_i hJpg
    obtain rfl := Except.ok.inj h
    exact hJpg.1.symm
  · split at h
    · rename_i hPng
      obtain rfl := Except.ok.inj h
      exact hPng.1.symm
    · split at h
      · rename_i hMp4
        obtain rfl := Except.ok.inj h
        exact hMp4.1.symm
      · cases h

-- ---------------------------------------------------------------------------
-- The files
-- ---------------------------------------------------------------------------

/-- An exchange of the upload of a file under a name. -/
def Uploading (x : MediaExchange) (file : UploadedFile) (name : Text) : Prop :=
  ∃ user uploaded uuid extension, x.call = .upload user uploaded uuid ∧
    MediaCall.Checked user uploaded file extension ∧ name = fileName uuid extension

/-- An exchange that has created a file. -/
def Creates (name : Text) (x : MediaExchange) : Prop :=
  x.question = .create name ∧ x.reply.error = none

/-- A file is as far written as the upload is that has created it. -/
structure Stored (files : Directory) (log : List MediaExchange) : Prop where
  made : ∀ name octets, files.lookup name = some octets → ∃ x ∈ log, Creates name x ∧
    ∃ file, Uploading x file name ∧ octets = file.buffer.take (written (history x.process log))
  present : ∀ x ∈ log, ∀ name, Creates name x → (files.lookup name).isSome
  once : ∀ x ∈ log, ∀ y ∈ log, ∀ name, Creates name x → Creates name y → x.process = y.process

section Steps

variable {r : MediaRuntime} {files : Directory} {log : List MediaExchange} {x y : MediaExchange} {name : Text}
  {file : UploadedFile}

theorem Uploading.unique {file' : UploadedFile} {name' : Text} (h : Uploading x file name)
    (h' : Uploading y file' name') (hCall : y.call = x.call) : file' = file ∧ name' = name := by
  obtain ⟨user, uploaded, uuid, extension, hUpload, hChecked, rfl⟩ := h
  obtain ⟨user', uploaded', uuid', extension', hUpload', hChecked', rfl⟩ := h'
  rw [hUpload', hUpload] at hCall
  injection hCall with hUser hUploaded hUuid
  subst hUser hUploaded hUuid
  obtain rfl : file' = file :=
    Option.some.inj (hChecked'.uploaded.symm.trans hChecked.uploaded)
  obtain rfl : extension' = extension :=
    Except.ok.inj (hChecked'.extension.symm.trans hChecked.extension)
  exact ⟨rfl, rfl⟩

theorem written_concat_self : written (history x.process (log ++ [x])) =
    written (history x.process log) + writtenBy (x.question, x.reply) := by
  rw [history_concat_self, written_append, written, written, List.map_singleton,
    List.sum_singleton]

theorem written_concat_other (h : x.process ≠ y.process) :
    written (history y.process (log ++ [x])) = written (history y.process log) := by
  rw [history_concat_other h]

theorem written_concat_nothing (h : writtenBy (x.question, x.reply) = 0) (i : Nat) :
    written (history i (log ++ [x])) = written (history i log) := by
  by_cases hSame : x.process = i
  · rw [← hSame, written_concat_self, h, Nat.add_zero]
  · rw [history_concat_other hSame]

/-- Nothing is created or written. -/
theorem Stored.kept (h : Stored files log) (hNothing : writtenBy (x.question, x.reply) = 0)
    (hNone : ∀ name, ¬ Creates name x) : Stored files (log ++ [x]) where
  made name octets hLookup := by
    obtain ⟨y, hMem, hCreates, file, hUploading, rfl⟩ := h.made name octets hLookup
    exact ⟨y, List.mem_append_left _ hMem, hCreates, file, hUploading,
      by rw [written_concat_nothing hNothing]⟩
  present y hMem name hCreates := by
    rcases List.mem_append.mp hMem with hMem | hMem
    · exact h.present y hMem name hCreates
    · exact absurd (List.mem_singleton.mp hMem ▸ hCreates) (hNone name)
  once y hY z hZ name hCreates hCreates' := by
    rcases List.mem_append.mp hY with hY | hY
    · rcases List.mem_append.mp hZ with hZ | hZ
      · exact h.once y hY z hZ name hCreates hCreates'
      · exact absurd (List.mem_singleton.mp hZ ▸ hCreates') (hNone name)
    · exact absurd (List.mem_singleton.mp hY ▸ hCreates) (hNone name)

/-- A file is created that was not there. -/
theorem Stored.created (h : Stored files log) (hFree : files.lookup name = none)
    (hCreates : Creates name x) (hUploading : Uploading x file name)
    (hFirst : written (history x.process log) = 0) :
    Stored (files.insert name []) (log ++ [x]) := by
  have hNothing : writtenBy (x.question, x.reply) = 0 := by
    rw [writtenBy, hCreates.1]
  have hNew : ∀ y ∈ log, ¬ Creates name y := by
    intro y hMem hAgain
    have hPresent := h.present y hMem name hAgain
    rw [hFree] at hPresent
    cases hPresent
  have hOnly : ∀ {name' : Text}, Creates name' x → name' = name := fun h' =>
    MediaQuestion.create.inj (h'.1.symm.trans hCreates.1)
  constructor
  case made =>
    intro name' octets hLookup
    by_cases hName : name' = name
    · subst hName
      obtain rfl := Option.some.inj ((AList.lookup_insert _).symm.trans hLookup)
      refine ⟨x, List.mem_append_right _ (List.mem_singleton_self x), hCreates, file, hUploading,
        ?_⟩
      rw [written_concat_nothing hNothing, hFirst, List.take_zero]
    · obtain ⟨y, hMem, hCreated, file', hUploading', rfl⟩ :=
        h.made name' octets ((AList.lookup_insert_ne hName).symm.trans hLookup)
      exact ⟨y, List.mem_append_left _ hMem, hCreated, file', hUploading',
        by rw [written_concat_nothing hNothing]⟩
  case present =>
    intro y hMem name' hCreated
    by_cases hName : name' = name
    · rw [hName, AList.lookup_insert]
      rfl
    · rw [AList.lookup_insert_ne hName]
      rcases List.mem_append.mp hMem with hMem | hMem
      · exact h.present y hMem name' hCreated
      · exact absurd (hOnly (List.mem_singleton.mp hMem ▸ hCreated)) hName
  case once =>
    intro y hY z hZ name' hCreated hCreated'
    rcases List.mem_append.mp hY with hOld | hLast
    · rcases List.mem_append.mp hZ with hOld' | hLast'
      · exact h.once y hOld z hOld' name' hCreated hCreated'
      · exact absurd (hOnly (List.mem_singleton.mp hLast' ▸ hCreated') ▸ hCreated) (hNew y hOld)
    · rcases List.mem_append.mp hZ with hOld' | hLast'
      · exact absurd (hOnly (List.mem_singleton.mp hLast ▸ hCreated) ▸ hCreated') (hNew z hOld')
      · rw [List.mem_singleton.mp hLast, List.mem_singleton.mp hLast']

/-- The upload that has created a file writes on at its end. -/
theorem Stored.wrote (h : Stored files log) {octets rest : List UInt8} {n : Nat}
    (hLookup : files.lookup name = some octets) (hQuestion : x.question = .write name rest)
    (hError : x.reply.error = none) (hN : max 1 x.reply.written = n)
    (hUploading : Uploading x file name)
    (hRest : rest = file.buffer.drop (written (history x.process log)))
    (hCreated : HasCreated name (history x.process log))
    (hCalls : ∀ y ∈ log, y.process = x.process → y.call = x.call) :
    Stored (files.insert name (octets ++ rest.take n)) (log ++ [x]) := by
  have hNone : ∀ name', ¬ Creates name' x := fun name' h' => by cases hQuestion.symm.trans h'.1
  have hWrites : writtenBy (x.question, x.reply) = n := by
    rw [writtenBy, hQuestion]
    dsimp only
    rw [hError]
    exact hN
  have hPresent : ∀ {name' : Text}, (files.lookup name').isSome →
      ((files.insert name (octets ++ rest.take n)).lookup name').isSome := by
    intro name' hSome
    by_cases hName : name' = name
    · rw [hName, AList.lookup_insert]
      rfl
    · rw [AList.lookup_insert_ne hName]
      exact hSome
  constructor
  case made =>
    intro name' octets' hLookup'
    by_cases hName : name' = name
    · subst hName
      obtain rfl := Option.some.inj ((AList.lookup_insert _).symm.trans hLookup')
      obtain ⟨y, hMem, hCreates, file', hUploading', rfl⟩ := h.made name' octets hLookup
      -- the file was created by this very upload
      obtain ⟨reply, hAsked, hReply⟩ := hCreated
      obtain ⟨z, hZ, hProcess, hExchange⟩ := mem_history.mp hAsked
      obtain ⟨hCreate, rfl⟩ := Prod.mk.inj hExchange
      have hSame : y.process = x.process :=
        (h.once y hMem z hZ name' hCreates ⟨hCreate, hReply⟩).trans hProcess
      obtain ⟨rfl, -⟩ := hUploading.unique hUploading' (hCalls y hMem hSame)
      refine ⟨y, List.mem_append_left _ hMem, hCreates, file', hUploading', ?_⟩
      rw [hSame, written_concat_self, hWrites, hRest, List.take_add]
    · obtain ⟨y, hMem, hCreates, file', hUploading', rfl⟩ :=
        h.made name' octets' ((AList.lookup_insert_ne hName).symm.trans hLookup')
      refine ⟨y, List.mem_append_left _ hMem, hCreates, file', hUploading', ?_⟩
      rw [written_concat_other fun hSame => hName
        (hUploading.unique hUploading' (hCalls y hMem hSame.symm)).2]
  case present =>
    intro y hMem name' hCreates
    rcases List.mem_append.mp hMem with hMem | hMem
    · exact hPresent (h.present y hMem name' hCreates)
    · exact absurd (List.mem_singleton.mp hMem ▸ hCreates) (hNone name')
  case once =>
    intro y hY z hZ name' hCreates hCreates'
    rcases List.mem_append.mp hY with hY | hY
    · rcases List.mem_append.mp hZ with hZ | hZ
      · exact h.once y hY z hZ name' hCreates hCreates'
      · exact absurd (List.mem_singleton.mp hZ ▸ hCreates') (hNone name')
    · exact absurd (List.mem_singleton.mp hY ▸ hCreates) (hNone name')

/-- Nothing but `create` and `write` changes a file. -/
theorem Stored.quiet (h : Stored files log) (hCreate : ∀ name, x.question ≠ .create name)
    (hWrite : ∀ name rest, x.question ≠ .write name rest) : Stored files (log ++ [x]) := by
  refine h.kept ?_ fun name hCreates => hCreate name hCreates.1
  rw [writtenBy]
  split
  · rename_i name rest hQuestion
    exact absurd hQuestion (hWrite name rest)
  · rfl

/-- A failed call leaves the files as they are. -/
theorem Stored.failed (h : Stored files log) (hError : x.reply.error ≠ none) :
    Stored files (log ++ [x]) := by
  refine h.kept ?_ fun name hCreates => hError hCreates.2
  rw [writtenBy]
  split
  · exact if_neg fun hNone => hError (Option.isNone_iff_eq_none.mp hNone)
  · rfl

/-- **One answer** of the file system. -/
theorem stored_answer (h : Stored files log) {next : Directory}
    (hPermitted : x.call.permits r (history x.process log) x.question)
    (hCalls : ∀ y ∈ log, y.process = x.process → y.call = x.call)
    (hAnswer : files.answer x.process x.question x.world = some (x.reply, next)) :
    Stored next (log ++ [x]) := by
  unfold Directory.answer at hAnswer
  split at hAnswer
  · -- the file system fails
    obtain ⟨hReply, rfl⟩ := Prod.mk.inj (Option.some.inj hAnswer)
    exact h.failed (by rw [← hReply]; simp)
  · cases hQuestion : x.question with
    | create name =>
      rw [hQuestion] at hAnswer hPermitted
      dsimp only at hAnswer
      split at hAnswer
      · obtain ⟨hReply, rfl⟩ := Prod.mk.inj (Option.some.inj hAnswer)
        exact h.failed (by rw [← hReply]; simp)
      · rename_i hFree
        obtain ⟨hReply, rfl⟩ := Prod.mk.inj (Option.some.inj hAnswer)
        cases hCall : x.call with
        | file name' =>
          rw [hCall] at hPermitted
          exact hPermitted.elim
        | upload user uploaded uuid =>
          rw [hCall] at hPermitted
          obtain ⟨hFirst, -, file, extension, hChecked, hName⟩ := hPermitted
          exact h.created hFree ⟨hQuestion, by rw [← hReply]⟩
            ⟨user, uploaded, uuid, extension, hCall, hChecked, hName⟩ hFirst
    | write name rest =>
      rw [hQuestion] at hAnswer hPermitted
      dsimp only at hAnswer
      split at hAnswer
      · rename_i octets hLookup
        obtain ⟨hReply, rfl⟩ := Prod.mk.inj (Option.some.inj hAnswer)
        cases hCall : x.call with
        | file name' =>
          rw [hCall] at hPermitted
          exact hPermitted.elim
        | upload user uploaded uuid =>
          rw [hCall] at hPermitted
          obtain ⟨hCreated, file, extension, hChecked, hName, hRest⟩ := hPermitted
          refine h.wrote hLookup hQuestion (by rw [← hReply]) ?_
            ⟨user, uploaded, uuid, extension, hCall, hChecked, hName⟩ hRest hCreated hCalls
          rw [← hReply]
          exact max_eq_right (le_max_left 1 _)
      · obtain ⟨hReply, rfl⟩ := Prod.mk.inj (Option.some.inj hAnswer)
        exact h.failed (by rw [← hReply]; simp)
    | read name offset =>
      have hNext : next = files := by
        rw [hQuestion] at hAnswer
        dsimp only at hAnswer
        split at hAnswer
        all_goals exact (Prod.mk.inj (Option.some.inj hAnswer)).2.symm
      rw [hNext]
      exact h.quiet (fun _ h' => by cases hQuestion.symm.trans h')
        fun _ _ h' => by cases hQuestion.symm.trans h'
    | mkdir | stat | uploaded | served | cutOff =>
      rw [hQuestion] at hAnswer
      obtain ⟨-, rfl⟩ := Prod.mk.inj (Option.some.inj hAnswer)
      exact h.quiet (fun _ h' => by cases hQuestion.symm.trans h')
        fun _ _ h' => by cases hQuestion.symm.trans h'

end Steps

-- ---------------------------------------------------------------------------
-- Downloads
-- ---------------------------------------------------------------------------

/-- The octets of a file, none where there is no file. -/
def Directory.content (files : Directory) (name : Text) : List UInt8 :=
  (files.lookup name).getD []

/-- What a download has read is a beginning of its file. -/
def Downloads (files : Directory) (log : List MediaExchange) : Prop :=
  ∀ i name, (∀ y ∈ log, y.process = i → y.call = .file name) →
    received (history i log) <+: files.content name

section Downloads

variable {r : MediaRuntime} {files next : Directory} {log : List MediaExchange} {x : MediaExchange}
  {name : Text} {i : Nat} {world : Directory.World} {reply : MediaReply}

/-- A file changes at its end only. -/
theorem content_answer {question : MediaQuestion}
    (h : files.answer i question world = some (reply, next)) (name : Text) :
    files.content name <+: next.content name := by
  unfold Directory.answer at h
  split at h
  · obtain ⟨-, rfl⟩ := Prod.mk.inj (Option.some.inj h)
    exact List.prefix_rfl
  · cases question with
    | create name' =>
      dsimp only at h
      split at h
      · obtain ⟨-, rfl⟩ := Prod.mk.inj (Option.some.inj h)
        exact List.prefix_rfl
      · rename_i hFree
        obtain ⟨-, rfl⟩ := Prod.mk.inj (Option.some.inj h)
        by_cases hName : name = name'
        · subst hName
          rw [Directory.content, hFree]
          exact List.nil_prefix
        · rw [Directory.content, Directory.content, AList.lookup_insert_ne hName]
    | write name' rest =>
      dsimp only at h
      split at h
      · rename_i octets hLookup
        obtain ⟨-, rfl⟩ := Prod.mk.inj (Option.some.inj h)
        by_cases hName : name = name'
        · subst hName
          rw [Directory.content, Directory.content, hLookup, AList.lookup_insert]
          exact List.prefix_append _ _
        · rw [Directory.content, Directory.content, AList.lookup_insert_ne hName]
      · obtain ⟨-, rfl⟩ := Prod.mk.inj (Option.some.inj h)
        exact List.prefix_rfl
    | read name' offset =>
      dsimp only at h
      split at h
      all_goals
        obtain ⟨-, rfl⟩ := Prod.mk.inj (Option.some.inj h)
        exact List.prefix_rfl
    | mkdir | stat | uploaded | served | cutOff =>
      obtain ⟨-, rfl⟩ := Prod.mk.inj (Option.some.inj h)
      exact List.prefix_rfl

theorem answer_stat (h : files.answer i (.stat name) world = some (reply, next))
    (hError : reply.error = none) : reply.size = (files.lookup name).map List.length := by
  unfold Directory.answer at h
  split at h
  · obtain ⟨rfl, -⟩ := Prod.mk.inj (Option.some.inj h)
    cases hError
  · obtain ⟨rfl, -⟩ := Prod.mk.inj (Option.some.inj h)
    rfl

/-- A read gives some of what is there behind the offset. -/
theorem answer_read {offset : Nat} (h : files.answer i (.read name offset) world = some (reply, next))
    (hError : reply.error = none) :
    ∃ n, 1 ≤ n ∧ reply.octets = ((files.content name).drop offset).take n := by
  unfold Directory.answer at h
  split at h
  · obtain ⟨rfl, -⟩ := Prod.mk.inj (Option.some.inj h)
    cases hError
  · dsimp only at h
    split at h
    · rename_i octets hLookup
      obtain ⟨rfl, -⟩ := Prod.mk.inj (Option.some.inj h)
      refine ⟨max 1 world.count, le_max_left 1 _, ?_⟩
      rw [Directory.content, hLookup]
      rfl
    · obtain ⟨rfl, -⟩ := Prod.mk.inj (Option.some.inj h)
      cases hError

theorem prefix_append_take {received content : List UInt8} (h : received <+: content) (n : Nat) :
    received ++ (content.drop received.length).take n <+: content := by
  obtain ⟨rest, rfl⟩ := h
  rw [List.drop_left]
  exact (List.prefix_append_right_inj received).mpr (List.take_prefix n rest)

/-- **One answer** of the file system. -/
theorem downloads_answer (h : Downloads files log)
    (hPermitted : x.call.permits r (history x.process log) x.question)
    (hAnswer : files.answer x.process x.question x.world = some (x.reply, next)) :
    Downloads next (log ++ [x]) := by
  intro i name hCalls
  have hBefore := h i name fun y hMem => hCalls y (List.mem_append_left _ hMem)
  by_cases hSame : x.process = i
  · subst hSame
    have hCall := hCalls x (List.mem_append_right _ (List.mem_singleton_self x)) rfl
    rw [hCall] at hPermitted
    have hConcat : received (history x.process (log ++ [x])) =
        received (history x.process log) ++ readBy (x.question, x.reply) := by
      rw [history_concat_self, received_append]
      exact congrArg _ (List.append_nil _)
    rw [hConcat]
    refine List.IsPrefix.trans ?_ (content_answer hAnswer name)
    cases hQuestion : x.question with
    | read name' offset =>
      rw [hQuestion] at hPermitted hAnswer
      obtain ⟨rfl, -, rfl⟩ := hPermitted
      cases hError : x.reply.error with
      | some error =>
        have hNothing : readBy (.read name' (received (history x.process log)).length, x.reply) =
            [] := if_neg (by rw [hError]; exact Bool.false_ne_true)
        rw [hNothing, List.append_nil]
        exact hBefore
      | none =>
        obtain ⟨n, -, hOctets⟩ := answer_read hAnswer hError
        have hRead : readBy (.read name' (received (history x.process log)).length, x.reply) =
            x.reply.octets := if_pos (by rw [hError]; rfl)
        rw [hRead, hOctets]
        exact prefix_append_take hBefore n
    | mkdir | create | write | stat | uploaded | served | cutOff =>
      rw [readBy, List.append_nil]
      exact hBefore
  · rw [history_concat_other hSame]
    exact hBefore.trans (content_answer hAnswer name)

end Downloads

-- ---------------------------------------------------------------------------
-- Every run
-- ---------------------------------------------------------------------------

section Runs

variable {r : MediaRuntime} {s : MediaState} {log : List MediaExchange}

theorem stored (h : Reachable (mediaSystem r) anyStep (s, log)) : Stored s.shared log := by
  refine Processes.holds (I := Stored) MediaCall.obeys ?_ ?_ ?_ h
  · intro files hInitial
    subst hInitial
    exact ⟨fun name octets hLookup => (by cases hLookup), List.forall_mem_nil _,
      List.forall_mem_nil _⟩
  · intro files log own files' _ hOwn
    cases own
  · intro s log x files _ hStored _ hPermitted hCalls hAnswer
    exact stored_answer hStored hPermitted hCalls hAnswer

theorem downloads (h : Reachable (mediaSystem r) anyStep (s, log)) : Downloads s.shared log := by
  refine Processes.holds (I := Downloads) MediaCall.obeys ?_ ?_ ?_ h
  · intro files _ i name _
    exact List.nil_prefix
  · intro files log own files' _ hOwn
    cases own
  · intro s log x files _ hDownloads _ hPermitted _ hAnswer
    exact downloads_answer hDownloads hPermitted hAnswer

/-- The exchanges of one process are those of one call. -/
theorem call_eq_of_process {x y : MediaExchange} (h : Conducted (MediaCall.permits r) s log)
    (hX : x ∈ log) (hY : y ∈ log) (hSame : x.process = y.process) : x.call = y.call := by
  obtain ⟨a, hA, hCallX⟩ := h.calls x hX
  obtain ⟨b, hB, hCallY⟩ := h.calls y hY
  rw [hSame, hB] at hA
  rw [← hCallX, ← hCallY, Option.some.inj hA]

theorem history_append (i : Nat) (log more : List MediaExchange) :
    history i (log ++ more) = history i log ++ history i more := by
  rw [history, List.filter_append, List.map_append]
  rfl

/-- A file whose upload has been answered is there as it was uploaded. -/
theorem lookup_uploaded (h : Reachable (mediaSystem r) anyStep (s, log))
    {first more : List MediaExchange} {u : MediaExchange} {file : UploadedFile} {name : Text}
    (hSplit : log = first ++ u :: more) (hUploading : Uploading u file name)
    (hCreated : HasCreated name (history u.process first))
    (hAll : file.buffer.length ≤ written (history u.process first)) :
    s.shared.lookup name = some file.buffer := by
  have hStored := stored h
  have hConducted := conducted MediaCall.obeys h
  obtain ⟨reply, hAsked, hReply⟩ := hCreated
  obtain ⟨z, hZ, hProcess, hExchange⟩ := mem_history.mp hAsked
  obtain ⟨hCreate, rfl⟩ := Prod.mk.inj hExchange
  have hMemZ : z ∈ log := hSplit ▸ List.mem_append_left _ hZ
  have hMemU : u ∈ log := hSplit ▸ List.mem_append_right _ List.mem_cons_self
  obtain ⟨octets, hLookup⟩ :=
    Option.isSome_iff_exists.mp (hStored.present z hMemZ name ⟨hCreate, hReply⟩)
  obtain ⟨y, hY, hCreates, file', hUploading', rfl⟩ := hStored.made name octets hLookup
  have hSame : y.process = u.process :=
    (hStored.once y hY z hMemZ name hCreates ⟨hCreate, hReply⟩).trans hProcess
  obtain ⟨rfl, -⟩ := hUploading.unique hUploading' (call_eq_of_process hConducted hY hMemU hSame)
  have hWritten : file'.buffer.length ≤ written (history y.process log) := by
    rw [hSame, hSplit, history_append, written_append]
    exact le_trans hAll (Nat.le_add_right _ _)
  rw [hLookup, List.take_of_length_le hWritten]

/-- The name that a question gives the file system. -/
def MediaQuestion.name? : MediaQuestion → Option Text
  | .create name | .write name _ | .stat name | .read name _ => some name
  | _ => none

/-- What the media store does with files. -/
structure MediaKept (r : MediaRuntime) (log : List MediaExchange) : Prop where
  /-- The file system is asked for stored names only, which name no other directory. -/
  confined : ∀ x ∈ log, ∀ name, x.question.name? = some name → isStoredName name = true
  /-- What is sent, whether or not the response breaks off, is a beginning of a file that a user has
  uploaded, under its type. -/
  served : ∀ before x after name streamed, log = before ++ x :: after → x.call = .file name →
    x.question = .served streamed ∨ x.question = .cutOff streamed →
    ∃ y ∈ before, ∃ user file uuid extension,
      y.call = .upload (some user) (some file) uuid ∧ name = fileName uuid extension ∧
      mediaExtension file.buffer file.mimetype = .ok extension ∧
      streamed.type = file.mimetype ∧ streamed.octets <+: file.buffer
  /-- Once an upload is answered, its file is there under the name in the URL, and a download that
  begins then gets the whole file. -/
  uploaded : ∀ first u second result, log = first ++ u :: second → u.question = .uploaded result →
    ∃ user file uuid name base, u.call = .upload (some user) (some file) uuid ∧
      r.setting "MEDIA_PUBLIC_BASE_URL" = some base ∧
      result.url = withoutFinalSlash base ++ '/' :: name ∧ isStoredName name = true ∧
      result.size = file.buffer.length ∧
      (∀ w ∈ second, w.question = .stat name → w.reply.error = none →
        w.reply.size = some file.buffer.length) ∧
      ∀ before x after streamed, second = before ++ x :: after → x.call = .file name →
        x.question = .served streamed → (∀ y ∈ first, y.process ≠ x.process) →
        streamed = ⟨file.mimetype, file.buffer.length, file.buffer⟩

/-- An exchange of a recorded run, with the state it met. -/
theorem exchange_made {before after : List MediaExchange} {x : MediaExchange}
    (h : Reachable (mediaSystem r) anyStep (s, log)) (hSplit : log = before ++ x :: after) :
    ∃ s', Reachable (mediaSystem r) anyStep (s', before) ∧
      x.call.permits r (history x.process before) x.question ∧
      ∃ next, s'.shared.answer x.process x.question x.world = some (x.reply, next) := by
  obtain ⟨s', t, next, hReach, hAnswered⟩ := made h before x after hSplit
  exact ⟨s', hReach, (conducted MediaCall.obeys hReach).permitted hAnswered, t.shared,
    hAnswered.found ▸ hAnswered.answer⟩

/-- What a download sends is of a file that has been uploaded. -/
theorem sent_uploaded {before after : List MediaExchange} {x : MediaExchange} {name : Text}
    {streamed : StreamedFile} {s' : MediaState} (h : Reachable (mediaSystem r) anyStep (s, log))
    (hSplit : log = before ++ x :: after) (hReach : Reachable (mediaSystem r) anyStep (s', before))
    (hCall : x.call = .file name)
    (hSends : MediaCall.Sends name (history x.process before) streamed) :
    ∃ y ∈ before, ∃ user file uuid extension,
      y.call = .upload (some user) (some file) uuid ∧ name = fileName uuid extension ∧
      mediaExtension file.buffer file.mimetype = .ok extension ∧
      streamed.type = file.mimetype ∧ streamed.octets <+: file.buffer := by
  have hConducted := conducted MediaCall.obeys h
  have hMemX : x ∈ log := hSplit ▸ List.mem_append_right _ List.mem_cons_self
  -- the file was there when the download asked for its size
  obtain ⟨info, hStat, hInfo, hSize⟩ := hSends.found
  obtain ⟨w, hW, -, hExchange⟩ := mem_history.mp hStat
  obtain ⟨hAsked, rfl⟩ := Prod.mk.inj hExchange
  obtain ⟨b₁, b₂, rfl⟩ := List.append_of_mem hW
  obtain ⟨s₁, hReach₁, -, next, hAnswer⟩ := exchange_made hReach rfl
  rw [hAsked] at hAnswer
  rw [answer_stat hAnswer hInfo] at hSize
  obtain ⟨octets₁, hLookup₁, -⟩ := Option.map_eq_some_iff.mp hSize
  obtain ⟨y₁, hY₁, hCreates₁, -⟩ := (stored hReach₁).made name octets₁ hLookup₁
  -- and so it is now, as far as its upload has got
  obtain ⟨octets, hLookup⟩ := Option.isSome_iff_exists.mp
    ((stored hReach).present y₁ (List.mem_append_left _ hY₁) name hCreates₁)
  obtain ⟨y, hY, -, file, ⟨user, uploaded, uuid, extension, hUpload, hChecked, rfl⟩, hTake⟩ :=
    (stored hReach).made name octets hLookup
  obtain ⟨authenticated, rfl⟩ := hChecked.user
  obtain rfl := hChecked.uploaded
  refine ⟨y, hY, authenticated, file, uuid, extension, hUpload, rfl, hChecked.extension, ?_, ?_⟩
  · rw [hSends.type, servedType_fileName, mime_of_extension hChecked.extension]
  · have hReceived := downloads hReach x.process (fileName uuid extension) fun z hMem hProcess =>
      (call_eq_of_process hConducted (hSplit ▸ List.mem_append_left _ hMem) hMemX hProcess).trans
        hCall
    rw [Directory.content, hLookup, Option.getD_some, hTake] at hReceived
    rw [hSends.octets]
    exact ((List.take_prefix _ _).trans hReceived).trans (List.take_prefix _ _)

/-- A response that has ended and met the whole file all along has it whole. -/
theorem received_whole {before after : List MediaExchange} {x : MediaExchange} {name : Text}
    {streamed : StreamedFile} {buffer : List UInt8} {s' : MediaState}
    (h : Reachable (mediaSystem r) anyStep (s, log)) (hSplit : log = before ++ x :: after)
    (hReach : Reachable (mediaSystem r) anyStep (s', before)) (hCall : x.call = .file name)
    (hLookup : s'.shared.lookup name = some buffer)
    (hEnded : MediaCall.Ended name (history x.process before) streamed)
    (hLength : streamed.length = buffer.length)
    (hRead : ∀ offset reply, (.read name offset, reply) ∈ history x.process before →
      ∃ (files : Directory) (i : Nat) (world : Directory.World) (next : Directory),
        files.lookup name = some buffer ∧
        files.answer i (.read name offset) world = some (reply, next)) :
    received (history x.process before) = buffer := by
  have hConducted := conducted MediaCall.obeys h
  have hMemX : x ∈ log := hSplit ▸ List.mem_append_right _ List.mem_cons_self
  have hPrefix := downloads hReach x.process name fun z hMem hProcess =>
    (call_eq_of_process hConducted (hSplit ▸ List.mem_append_left _ hMem) hMemX hProcess).trans
      hCall
  rw [Directory.content, hLookup, Option.getD_some] at hPrefix
  refine hPrefix.eq_of_length_le ?_
  rcases hEnded with hLong | ⟨reply, hMem, hError, hNil⟩
  · exact hLength ▸ hLong
  · obtain ⟨files, i, world, next, hThere, hAnswer⟩ := hRead _ reply hMem
    obtain ⟨n, hOne, hOctets⟩ := answer_read hAnswer hError
    rw [hNil, Directory.content, hThere, Option.getD_some] at hOctets
    -- nothing is behind what was received
    have hZero := congrArg List.length hOctets
    rw [List.length_take, List.length_drop, List.length_nil] at hZero
    omega

/-- **The media store keeps what is uploaded**, whatever uploads and downloads interleave, fail or
stop. -/
theorem media_kept (h : Reachable (mediaSystem r) anyStep (s, log)) : MediaKept r log := by
  constructor
  case confined =>
    intro x hMem name hName
    obtain ⟨before, after, hSplit⟩ := List.append_of_mem hMem
    obtain ⟨-, -, hPermitted, -⟩ := exchange_made h hSplit
    cases hCall : x.call with
    | upload user uploaded uuid =>
      rw [hCall] at hPermitted
      cases hQuestion : x.question with
      | create name' =>
        rw [hQuestion] at hPermitted hName
        obtain ⟨-, -, file, extension, -, rfl⟩ := hPermitted
        exact Option.some.inj hName ▸ isStoredName_fileName uuid extension
      | write name' rest =>
        rw [hQuestion] at hPermitted hName
        obtain ⟨-, file, extension, -, rfl, -⟩ := hPermitted
        exact Option.some.inj hName ▸ isStoredName_fileName uuid extension
      | stat | read | served | cutOff =>
        rw [hQuestion] at hPermitted
        exact hPermitted.elim
      | mkdir | uploaded =>
        rw [hQuestion] at hName
        cases hName
    | file name' =>
      rw [hCall] at hPermitted
      cases hQuestion : x.question with
      | stat asked =>
        rw [hQuestion] at hPermitted hName
        obtain ⟨rfl, hStored⟩ := hPermitted
        exact Option.some.inj hName ▸ hStored
      | read asked offset =>
        rw [hQuestion] at hPermitted hName
        obtain ⟨rfl, hStored, -⟩ := hPermitted
        exact Option.some.inj hName ▸ hStored
      | mkdir | create | write | uploaded =>
        rw [hQuestion] at hPermitted
        exact hPermitted.elim
      | served | cutOff =>
        rw [hQuestion] at hName
        cases hName
  case served =>
    intro before x after name streamed hSplit hCall hQuestion
    obtain ⟨s', hReach, hPermitted, -⟩ := exchange_made h hSplit
    rw [hCall] at hPermitted
    have hSends : MediaCall.Sends name (history x.process before) streamed := by
      rcases hQuestion with hServed | hCut
      · rw [hServed] at hPermitted
        exact hPermitted.1
      · rw [hCut] at hPermitted
        exact hPermitted
    exact sent_uploaded h hSplit hReach hCall hSends
  case uploaded =>
    intro first u second result hSplit hQuestion
    obtain ⟨-, -, hPermitted, -⟩ := exchange_made h hSplit
    rw [hQuestion] at hPermitted
    cases hCall : u.call with
    | file name =>
      rw [hCall] at hPermitted
      exact hPermitted.elim
    | upload user uploaded uuid =>
      rw [hCall] at hPermitted
      obtain ⟨file, extension, hChecked, hCreated, hAll, hSize, base, hBase, hUrl⟩ := hPermitted
      have hUploading : Uploading u file (fileName uuid extension) :=
        ⟨user, uploaded, uuid, extension, hCall, hChecked, rfl⟩
      obtain ⟨authenticated, rfl⟩ := hChecked.user
      obtain rfl := hChecked.uploaded
      -- whoever asks after the answer finds the whole file
      have hFound : ∀ a w b, second = a ++ w :: b → ∃ s' : MediaState,
          s'.shared.lookup (fileName uuid extension) = some file.buffer ∧
          ∃ next, s'.shared.answer w.process w.question w.world = some (w.reply, next) := by
        intro a w b hSecond
        have hSplit' : log = (first ++ u :: a) ++ w :: b := by
          rw [hSplit, hSecond, List.append_assoc, List.cons_append]
        obtain ⟨s', hReach, -, next, hAnswer⟩ := exchange_made h hSplit'
        exact ⟨s', lookup_uploaded hReach rfl hUploading hCreated hAll, next, hAnswer⟩
      have hStat : ∀ w ∈ second, w.question = .stat (fileName uuid extension) →
          w.reply.error = none → w.reply.size = some file.buffer.length := by
        intro w hMem hAsked hError
        obtain ⟨a, b, hSecond⟩ := List.append_of_mem hMem
        obtain ⟨s', hLookup, next, hAnswer⟩ := hFound a w b hSecond
        rw [hAsked] at hAnswer
        rw [answer_stat hAnswer hError, hLookup, Option.map_some]
      refine ⟨authenticated, file, uuid, fileName uuid extension, base, rfl, hBase, hUrl,
        isStoredName_fileName uuid extension, hSize, hStat, ?_⟩
      intro before x after streamed hSecond hFile hServed hLater
      have hSplit' : log = (first ++ u :: before) ++ x :: after := by
        rw [hSplit, hSecond, List.append_assoc, List.cons_append]
      obtain ⟨s', hReach, hPermitted, -⟩ := exchange_made h hSplit'
      rw [hFile, hServed] at hPermitted
      obtain ⟨hSends, hEnded⟩ := hPermitted
      -- the exchanges of the download come after the answer
      have hAfter : ∀ e ∈ history x.process (first ++ u :: before), e.1 ≠ .uploaded result →
          ∃ y ∈ before, y.question = e.1 ∧ y.reply = e.2 := by
        intro e hMem hOther
        obtain ⟨y, hY, hProcess, rfl⟩ := mem_history.mp hMem
        rcases List.mem_append.mp hY with hY | hY
        · exact absurd hProcess (hLater y hY)
        · rcases List.mem_cons.mp hY with rfl | hY
          · exact absurd hQuestion hOther
          · exact ⟨y, hY, rfl, rfl⟩
      -- so they find the whole file
      obtain ⟨info, hInfo, hNone, hLength⟩ := hSends.found
      obtain ⟨w, hW, hStatW, hReplyW⟩ := hAfter _ hInfo fun h' => by cases h'
      have hSize' := hStat w (hSecond ▸ List.mem_append_left _ hW) hStatW (hReplyW ▸ hNone)
      rw [hReplyW, hLength, Option.some.injEq] at hSize'
      have hReceived : received (history x.process (first ++ u :: before)) = file.buffer := by
        refine received_whole h hSplit' hReach hFile
          (lookup_uploaded hReach rfl hUploading hCreated hAll) hEnded hSize' ?_
        intro offset reply hMem
        obtain ⟨y, hY, hReadY, hReplyY⟩ := hAfter _ hMem fun h' => by cases h'
        obtain ⟨a, b, rfl⟩ := List.append_of_mem hY
        obtain ⟨s₁, hLookup, next, hAnswer⟩ :=
          hFound a y (b ++ x :: after) (by rw [hSecond, List.append_assoc, List.cons_append])
        rw [hReadY, hReplyY] at hAnswer
        exact ⟨s₁.shared, y.process, y.world, next, hLookup, hAnswer⟩
      have hOctets := hSends.octets
      rw [hReceived, hSize', List.take_length] at hOctets
      have hType := hSends.type.trans ((servedType_fileName uuid extension).trans
        (mime_of_extension hChecked.extension))
      obtain ⟨type, length, octets⟩ := streamed
      rw [StreamedFile.mk.injEq]
      exact ⟨hType, hSize', hOctets⟩

end Runs

-- ---------------------------------------------------------------------------
-- A run
-- ---------------------------------------------------------------------------

namespace Visit

def runtime : MediaRuntime where
  env _ := some "https://cdn/".toList
  urlProtocol _ := some "https:".toList

def uuid : RandomUuid where
  text := List.replicate 36 'a'
  length := rfl
  digits c hMem := by
    rw [List.eq_of_mem_replicate hMem]
    decide

def user : AuthenticatedUser := ⟨['u'], none⟩

def jpeg : UploadedFile := ⟨[255, 216, 255, 1], "image/jpeg".toList⟩

def answered (i count : Nat) : Processes.Event MediaCall Directory.World Empty :=
  .answer i ⟨none, count⟩

/-- Two uploads draw one uuid; the first goes on in two writes, the second fails; then the file is
downloaded in two reads. -/
def events : List (Processes.Event MediaCall Directory.World Empty) :=
  [.start (.upload (some user) (some jpeg) uuid), .start (.upload (some user) (some jpeg) uuid),
    answered 0 0, answered 1 0, answered 0 0, answered 0 3, answered 1 0, answered 0 9,
    answered 0 0, .start (.file (fileName uuid .jpg)), answered 2 0, answered 2 3, answered 2 9,
    answered 2 0]

def isServed (x : MediaExchange) : Bool :=
  match x.question with
  | .served streamed => streamed = ⟨jpeg.mimetype, 4, jpeg.buffer⟩
  | _ => false

theorem start_initial : (mediaSystem runtime).Initial (⟨∅, []⟩, []) := ⟨⟨rfl, rfl⟩, rfl⟩

end Visit

/-- A file is served in two steps that was written in two while another upload failed. -/
theorem media_kept_visit : ∃ log : List MediaExchange,
    (∃ x ∈ log, Visit.isServed x = true) ∧ MediaKept Visit.runtime log := by
  obtain ⟨⟨s, log⟩, hReach, hLog⟩ := exists_reachable_of_run (mediaSystem Visit.runtime) anyStep
    (fun s => s.2.any Visit.isServed) Visit.events Visit.start_initial (by decide +kernel)
  exact ⟨log, List.any_eq_true.mp hLog, media_kept hReach⟩

end SocialPromotion.Media
