import Mathlib.Data.List.AList
import SocialPromotion.Lib.Processes
import SocialPromotion.Lib.TextEncoding
import SocialPromotion.Model.Clients
import SocialPromotion.Model.ServiceJwt

/-!
# The media store

`media.controller.ts`: files are uploaded under fresh names into one directory and served from it
to everyone. `writeFile` opens its file so that it must not exist yet, and then writes in as many
steps as the system takes, and `createReadStream` reads in as many; between the steps other requests
run.
-/

namespace SocialPromotion.Media

open Processes

inductive MediaExtension
  | jpg | png | mp4
deriving DecidableEq, Repr

namespace MediaExtension

def text : MediaExtension → Text
  | .jpg => "jpg".toList
  | .png => "png".toList
  | .mp4 => "mp4".toList

/-- The type that `mediaExtension` asks for, and that a file is served with. -/
def mime : MediaExtension → Text
  | .jpg => "image/jpeg".toList
  | .png => "image/png".toList
  | .mp4 => "video/mp4".toList

end MediaExtension

/-- `crypto.randomUUID()`. -/
structure RandomUuid where
  text : Text
  length : text.length = 36
  digits : ∀ c ∈ text, (('a' ≤ c ∧ c ≤ 'f') ∨ ('0' ≤ c ∧ c ≤ '9')) ∨ c = '-'

/-- What the handlers run in. -/
structure MediaRuntime where
  /-- `process.env`. -/
  env : String → Option Text
  /-- The protocol of `new URL(text)`, where `none` is a thrown `TypeError`. -/
  urlProtocol : Text → Option Text

def MediaRuntime.setting (r : MediaRuntime) (name : String) : Option Text :=
  (r.env name).filter fun value => !value.isEmpty

/-! ## Requests and replies -/

structure UploadedFile where
  buffer : List UInt8
  mimetype : Text
deriving DecidableEq, Repr

structure UploadResult where
  type : MediaType
  url : Text
  size : Nat
deriving DecidableEq, Repr

/-- A `StreamableFile`: its headers, and the octets that have been sent behind them. -/
structure StreamedFile where
  type : Text
  length : Nat
  octets : List UInt8
deriving DecidableEq, Repr

/-- What the handlers ask of the file system, and what they answer. Files are named within the
directory. -/
inductive MediaQuestion
  | mkdir
  /-- Opens a file with the flags `wx`. -/
  | create (name : Text)
  /-- One `write` of what is left. -/
  | write (name : Text) (rest : List UInt8)
  | stat (name : Text)
  /-- One `read` of the stream. -/
  | read (name : Text) (offset : Nat)
  | uploaded (result : UploadResult)
  | served (file : StreamedFile)
  /-- The response breaks off. -/
  | cutOff (file : StreamedFile)

/-- Each question reads the member that belongs to it. -/
structure MediaReply where
  error : Option PlainError
  /-- How many octets were written. -/
  written : Nat
  /-- The size of the file, if there is one. -/
  size : Option Nat
  octets : List UInt8

abbrev MediaPromise (α : Type) := Program MediaQuestion MediaReply ThrownError α

section Handlers

variable (r : MediaRuntime)

def badRequest (message : String) : ThrownError := .httpException 400 message

def notFound : ThrownError := .notFound "Not Found"

/-- A question that throws where the file system fails. -/
def ask (question : MediaQuestion) : MediaPromise MediaReply := do
  let reply ← Program.ask question
  match reply.error with
  | some error => throw error.toThrown
  | none => return reply

/-- `buffer.subarray(4, 8).toString()` and the like, under the type that the client names. -/
def mediaExtension (buffer : List UInt8) (mime : Text) : Except ThrownError MediaExtension :=
  if mime = MediaExtension.jpg.mime ∧ buffer[0]? = some 255 ∧ buffer[1]? = some 216 ∧
      buffer[2]? = some 255 then .ok .jpg
  else if mime = MediaExtension.png.mime ∧ buffer.take 8 = [137, 80, 78, 71, 13, 10, 26, 10] then
    .ok .png
  else if mime = MediaExtension.mp4.mime ∧
      Utf8.decode ((buffer.drop 4).take 4) = "ftyp".toList then .ok .mp4
  else .error (badRequest "JPEG, PNG 또는 MP4 파일만 업로드할 수 있습니다.")

/-- `directory()`. -/
def directory : Except ThrownError Unit :=
  require (r.setting "MEDIA_STORAGE_DIR").isSome
    (.serviceUnavailable "MEDIA_STORAGE_DIR must point to persistent storage.")

/-- What `writeFile` does behind the opening: each round writes at least one octet, so that there
are at most as many rounds as octets. -/
def writeAll (name : Text) : Nat → List UInt8 → MediaPromise Unit
  | 0, _ => return
  | _, [] => return
  | rounds + 1, octet :: rest => do
    let reply ← ask (.write name (octet :: rest))
    writeAll name rounds ((octet :: rest).drop (max 1 reply.written))

def fileName (uuid : RandomUuid) (extension : MediaExtension) : Text :=
  uuid.text ++ '.' :: extension.text

/-- The checks of `upload`: the base of the URL and the extension of the file. -/
def checkUpload (user : Option ServiceJwtVerifier.AuthenticatedUser) (file : Option UploadedFile) :
    Except ThrownError (UploadedFile × Text × MediaExtension) := do
  require user.isSome (badRequest "Authentication required.")
  match file.filter fun file => !file.buffer.isEmpty with
  | none => throw (badRequest "파일을 선택하세요.")
  | some file =>
    let unconfigured := ThrownError.serviceUnavailable
      "MEDIA_PUBLIC_BASE_URL must be a public HTTPS /api/media/files URL."
    match r.setting "MEDIA_PUBLIC_BASE_URL" with
    | none => throw unconfigured
    | some base =>
      match r.urlProtocol base with
      | none => throw (.typeError "Invalid URL")
      | some protocol =>
        require (protocol = "https:".toList) unconfigured
        let extension ← mediaExtension file.buffer file.mimetype
        require (¬ (extension ≠ .mp4 ∧ file.buffer.length > 8 * 1024 * 1024))
          (badRequest "이미지는 8MB 이하여야 합니다.")
        directory r
        return (file, base, extension)

def upload (user : Option ServiceJwtVerifier.AuthenticatedUser) (file : Option UploadedFile)
    (uuid : RandomUuid) : MediaPromise Unit := do
  let (file, base, extension) ← checkUpload r user file
  let name := fileName uuid extension
  let _ ← ask .mkdir
  let _ ← ask (.create name)
  writeAll name file.buffer.length file.buffer
  let _ ← Program.ask (.uploaded {
    type := if extension = .mp4 then .video else .image
    url := withoutFinalSlash base ++ '/' :: name
    size := file.buffer.length })

def extensions : List MediaExtension := [.jpg, .png, .mp4]

/-- `/^[a-f0-9-]{36}\.(jpg|png|mp4)$/`. -/
def isStoredName (name : Text) : Bool :=
  (name.take 36).length = 36 ∧
    (name.take 36).all (fun c => ('a' ≤ c ∧ c ≤ 'f') ∨ ('0' ≤ c ∧ c ≤ '9') ∨ c = '-') ∧
    extensions.any fun extension => name.drop 36 = '.' :: extension.text

def servedType (name : Text) : Text :=
  if ".mp4".toList.isSuffixOf name then MediaExtension.mp4.mime
  else if ".png".toList.isSuffixOf name then MediaExtension.png.mime
  else MediaExtension.jpg.mime

/-- What a `StreamableFile` does behind its headers: it sends what the stream reads, until the
response is as long as its headers say or the file ends. Each round but the last reads at least one
octet, so that there are at most as many rounds as octets. -/
def sendAll (name : Text) : Nat → StreamedFile → MediaPromise StreamedFile
  | 0, streamed => return streamed
  | rounds + 1, streamed => do
    if streamed.length ≤ streamed.octets.length then return streamed
    let reply ← Program.ask (.read name streamed.octets.length)
    match reply.error with
    | some error =>
      let _ ← Program.ask (.cutOff streamed)
      throw error.toThrown
    | none =>
      if reply.octets.isEmpty then return streamed
      sendAll name rounds { streamed with
        octets := (streamed.octets ++ reply.octets).take streamed.length }

def file (name : Text) : MediaPromise Unit := do
  require (isStoredName name) notFound
  directory r
  let info ← Program.ask (.stat name)
  match info.error, info.size with
  | none, some size =>
    let streamed ← sendAll name size { type := servedType name, length := size, octets := [] }
    let _ ← Program.ask (.served streamed)
  | _, _ => throw notFound

end Handlers

/-! ## The directory -/

inductive MediaCall
  | upload (user : Option ServiceJwtVerifier.AuthenticatedUser) (uploaded : Option UploadedFile)
      (uuid : RandomUuid)
  | file (name : Text)

def MediaCall.program (r : MediaRuntime) : MediaCall → MediaPromise Unit
  | .upload user uploaded uuid => Media.upload r user uploaded uuid
  | .file name => Media.file r name

abbrev Directory := AList fun _ : Text => List UInt8

namespace Directory

/-- The system may fail, and it may write less than it was given, or read less than there is. -/
structure World where
  error : Option PlainError
  count : Nat

def exists? : PlainError := ⟨false, some "EEXIST", some "file already exists"⟩

def missing : PlainError := ⟨false, some "ENOENT", some "no such file or directory"⟩

def answer (files : Directory) (_ : Nat) (question : MediaQuestion) (world : World) :
    Option (MediaReply × Directory) :=
  match world.error with
  | some error => some (⟨some error, 0, none, []⟩, files)
  | none =>
    match question with
    | .create name => match files.lookup name with
      | some _ => some (⟨some exists?, 0, none, []⟩, files)
      | none => some (⟨none, 0, none, []⟩, files.insert name [])
    | .write name rest => match files.lookup name with
      | some octets =>
        let written := max 1 (min world.count rest.length)
        some (⟨none, written, none, []⟩, files.insert name (octets ++ rest.take written))
      | none => some (⟨some missing, 0, none, []⟩, files)
    | .stat name => some (⟨none, 0, (files.lookup name).map List.length, []⟩, files)
    | .read name offset => match files.lookup name with
      | some octets => some (⟨none, 0, none, (octets.drop offset).take (max 1 world.count)⟩, files)
      | none => some (⟨some missing, 0, none, []⟩, files)
    | _ => some (⟨none, 0, none, []⟩, files)

def machine : Machine Directory MediaQuestion MediaReply World Empty where
  answer := answer
  own _ event := event.elim

end Directory

abbrev MediaExchange := Exchange Directory MediaCall MediaQuestion MediaReply Directory.World

abbrev MediaState := State Directory MediaCall MediaQuestion MediaReply ThrownError Unit

/-- Every interleaving of uploads and downloads, with its record, from an empty directory on. -/
abbrev mediaSystem (r : MediaRuntime) :
    LTS.System (MediaState × List MediaExchange)
      (Processes.Event MediaCall Directory.World Empty) :=
  recorded Directory.machine (MediaCall.program r) fun files => files = ∅

end SocialPromotion.Media
