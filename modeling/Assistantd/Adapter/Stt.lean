import Assistantd.Config
import Assistantd.Adapter.Http

/-! stt_adapter.c -/
namespace Assistantd

open Calls
open CText (CString ascii)

structure SttAdapter where
  initialized : Bool
  apiBaseUrl : CString 511
  curlHandle : Option Nat

/-- An adapter with the caller's result record. -/
structure SttTask where
  adapter : SttAdapter
  transcript : CString 4095

namespace SttAdapter

def zeroed : SttAdapter := ⟨false, .empty 511, none⟩

abbrev SttCall (α : Type) := Call SttAdapter HttpEvent Status α

abbrev SttTaskCall (α : Type) := Call SttTask HttpEvent Status α

def writeCallback (w : Nat) (buffer : ResponseBuffer) (chunk : Chunk) :
    Option (Nat × ResponseBuffer) :=
  let required := (buffer.size + chunk.bytes.length + 1) % 2 ^ w
  if required > buffer.capacity then
    match doubleUntil w (fun c => c ≥ required) (if buffer.capacity = 0 then 4096 else buffer.capacity) with
    | none => none
    | some newCapacity =>
      if chunk.realloc then
        some (chunk.bytes.length, (buffer.resize newCapacity).append w chunk.bytes)
      else some (0, buffer)
  else some (chunk.bytes.length, buffer.append w chunk.bytes)

/-- The buffer as `transcribe` passes it to libcurl: one zero byte. -/
def emptyResponse : ResponseBuffer := ⟨some fun _ => 0, 0, 1⟩

/-- The steps of adding one part to the form. -/
structure PartAnswers where
  added : Bool
  named : Bool
  filled : Bool

def PartAnswers.built (answers : PartAnswers) : Bool :=
  answers.added && answers.named && answers.filled

/-- `returns` says that no write callback loops for ever. -/
structure Answers (w : Nat) where
  access : Bool
  malloc : Bool
  mimeInit : Bool
  file : PartAnswers
  responseFormat : PartAnswers
  language : PartAnswers
  chunks : List Chunk
  code : CurlCode
  httpStatus : Int
  returns : (collect (writeCallback w) emptyResponse chunks).isSome

def trimSpan (text : List UInt8) : List UInt8 := CText.trim text

def parseJsonResponse (p : Platform) (raw : List UInt8) : SttTaskCall Unit := do
  match p.cJSONParse raw with
  | none => fail .errIo
  | some root =>
    emit (.alloc .parsedJson)
    let text := (Json.valueString (Json.getObjectItem (some root) (ascii "text"))).map trimSpan
    emit (.free .parsedJson)
    match text with
    | none | some [] => fail .errIo
    | some (c :: rest) => modify fun t => { t with transcript := .copy 4095 (c :: rest) }

def buildInferenceUrl (baseUrl : CString 511) : CString 543 :=
  if baseUrl.bytes.getLast? = some 47 then .copy 543 (baseUrl.bytes ++ ascii "inference")
  else .copy 543 (baseUrl.bytes ++ ascii "/inference")

/-- `curl` is the handle `curl_easy_init` returned, none for NULL. -/
def init (config : Config) (curl : Option Nat) : SttCall Unit := do
  failIf (config.sttApiBaseUrl.isEmpty = true) .errConfig
  modify fun _ => { zeroed with apiBaseUrl := .copy 511 config.sttApiBaseUrl.bytes }
  match curl with
  | none => fail .errIo
  | some addr =>
    emit (.curl .acquire addr)
    modify fun a => { a with curlHandle := some addr, initialized := true }

/-- The transfer: its code, and what the write callback collected. -/
def perform {w : Nat} (answers : Answers w) : CurlCode × ResponseBuffer :=
  match (collect (writeCallback w) emptyResponse answers.chunks).get answers.returns with
  | (true, response) => (answers.code, response)
  | (false, response) => (.writeError, response)

/-- The part of `transcribe` between the checks and the parsing of the body. -/
def request (p : Platform) (addr : Nat) (utteranceWavPath : CString 511)
    (answers : Answers p.sizeBits) : SttTaskCall ResponseBuffer := do
  let t ← get
  emit (.curl .use addr)
  failIf (answers.malloc = false) .errIo
  emit (.alloc .response)
  if answers.mimeInit = false then
    emit (.free .response)
    fail .errIo
  else
    emit (.alloc .form)
    if answers.file.built = false ∨ answers.responseFormat.built = false ∨
        answers.language.built = false then
      emit (.free .form)
      emit (.free .response)
      fail .errIo
    else
      emit (.curl .use addr)
      emit (.upload (buildInferenceUrl t.adapter.apiBaseUrl) utteranceWavPath)
      let (code, response) := perform answers
      emit (.free .form)
      if code ≠ .ok ∨ answers.httpStatus ≠ 200 then
        emit (.free .response)
        fail .errIo
      else pure response

def transcribe (p : Platform) (utteranceWavPath : CString 511) (answers : Answers p.sizeBits) :
    SttTaskCall Unit := do
  let t ← get
  failIf (t.adapter.initialized = false ∨ utteranceWavPath.isEmpty = true) .errInvalidArgument
  match t.adapter.curlHandle with
  | none => fail .errInvalidArgument
  | some addr =>
    modify fun t => { t with transcript := .empty 4095 }
    failIf (answers.access = false) .errIo
    let response ← request p addr utteranceWavPath answers
    let parsed ← attempt (parseJsonResponse p response.text)
    emit (.free .response)
    match parsed with
    | .error status => fail status
    | .ok () => pure ()

def shutdown : SttCall Unit := do
  let a ← get
  match a.curlHandle with
  | none => modify fun _ => zeroed
  | some addr =>
    emit (.curl .release addr)
    modify fun _ => zeroed

/-! ## What the calls do -/

theorem shutdown_run (a : SttAdapter) : shutdown.run a =
    ⟨.ok (), .zeroed, a.curlHandle.toList.map (.curl .release)⟩ := by
  cases present : a.curlHandle <;> simp [shutdown, present]

/-- The `text` of an answer. -/
def textField (p : Platform) (raw : List UInt8) : Option (List UInt8) :=
  Json.valueString (Json.getObjectItem (p.cJSONParse raw) (ascii "text"))

/-- A field that is not blank is stored without the whitespace around it. Else the
result is left alone. -/
theorem parseJsonResponse_cases (p : Platform) (raw : List UInt8) (t : SttTask) :
    ∃ events, (events = [] ∨ events = [.alloc .parsedJson, .free .parsedJson]) ∧
    (((∀ text, textField p raw = some text → CText.trim text = []) ∧
        (parseJsonResponse p raw).run t = ⟨.error .errIo, t, events⟩) ∨
      ∃ text, textField p raw = some text ∧ CText.trim text ≠ [] ∧
        (parseJsonResponse p raw).run t =
          ⟨.ok (), { t with transcript := .copy 4095 (CText.trim text) }, events⟩) := by
  unfold parseJsonResponse
  cases parsed : p.cJSONParse raw with
  | none =>
    have missing : textField p raw = none := by
      simp [textField, parsed, Json.getObjectItem, Json.valueString]
    exact ⟨[], .inl rfl, .inl ⟨by simp [missing], rfl⟩⟩
  | some root =>
    refine ⟨[.alloc .parsedJson, .free .parsedJson], .inr rfl, ?_⟩
    cases found : Json.valueString (Json.getObjectItem (some root) (ascii "text")) with
    | none =>
      have missing : textField p raw = none := by simp only [textField, parsed, found]
      exact .inl ⟨by simp [missing], by simp [found]⟩
    | some text =>
      have present : textField p raw = some text := by simp only [textField, parsed, found]
      cases trimmed : CText.trim text with
      | nil => exact .inl ⟨by simp [present, trimmed], by simp [found, trimSpan, trimmed]⟩
      | cons c rest =>
        exact .inr ⟨text, present, by simp [trimmed], by simp [found, trimSpan, trimmed]⟩

/-- The events a request may leave: its own handle in use, its own URL. -/
def Permits (a : SttAdapter) : HttpEvent → Prop
  | .curl op addr => op = .use ∧ a.curlHandle = some addr
  | .alloc _ | .free _ => True
  | .upload url _ => url = buildInferenceUrl a.apiBaseUrl
  | .post _ _ | .poll _ _ => False

/-- A request does not change the adapter. -/
abbrev Confined (a : SttAdapter) : List HttpEvent → SttTask → Prop :=
  Within (fun t => t.adapter = a) a.Permits

theorem parseJsonResponse_confined (a : SttAdapter) (p : Platform) (raw : List UInt8)
    (t : SttTask) : Keeps (Confined a) (parseJsonResponse p raw) t := by
  unfold parseJsonResponse
  cases p.cJSONParse raw with
  | none => exact keeps_fail _
  | some root =>
    apply keeps_bind (emit_within (by trivial))
    intro _ _
    apply keeps_bind (emit_within (by trivial))
    intro _ _
    split
    · exact keeps_fail _
    · exact keeps_fail _
    · exact keeps_modify fun _ c => c

theorem request_confined (a : SttAdapter) (p : Platform) {addr : Nat}
    (own : a.curlHandle = some addr) (utteranceWavPath : CString 511)
    (answers : Answers p.sizeBits) (t : SttTask) :
    Keeps (Confined a) (request p addr utteranceWavPath answers) t := by
  have freed : ∀ (what : Owned) (t : SttTask),
      Keeps (Confined a) (do emit (.free what); fail .errIo : SttTaskCall ResponseBuffer) t :=
    fun what t => keeps_bind (emit_within (by trivial)) fun _ _ => keeps_fail _
  unfold request
  obtain ⟨code, response⟩ := perform answers
  refine keeps_get (keeps_given (t.adapter = a) (fun _ c => c.1) fun same => ?_)
  apply keeps_bind (emit_within (by exact ⟨rfl, own⟩))
  intro _ _
  refine keeps_bind (keeps_failIf _ _) fun _ _ => ?_
  apply keeps_bind (emit_within (by trivial))
  intro _ _
  split
  · exact freed _ _
  · apply keeps_bind (emit_within (by trivial))
    intro _ _
    split
    · exact keeps_bind (emit_within (by trivial)) fun _ _ => freed _ _
    · apply keeps_bind (emit_within (by exact ⟨rfl, own⟩))
      intro _ _
      apply keeps_bind (emit_within (by rw [same]; rfl))
      intro _ _
      apply keeps_bind (emit_within (by trivial))
      intro _ _
      split
      · exact freed _ _
      · exact keeps_pure _

theorem transcribe_confined (a : SttAdapter) (p : Platform) (utteranceWavPath : CString 511)
    (answers : Answers p.sizeBits) (t : SttTask) :
    Keeps (Confined a) (transcribe p utteranceWavPath answers) t := by
  unfold transcribe
  refine keeps_get (keeps_given (t.adapter = a) (fun _ c => c.1) fun same => ?_)
  refine keeps_bind (keeps_failIf _ _) fun _ _ => ?_
  split
  · exact keeps_fail _
  · rename_i addr present
    rw [same] at present
    refine keeps_bind (keeps_modify fun _ c => c) fun _ _ => ?_
    refine keeps_bind (keeps_failIf _ _) fun _ _ => ?_
    apply keeps_bind (request_confined a p present utteranceWavPath answers _)
    intro response _
    apply keeps_bind (keeps_attempt (parseJsonResponse_confined a p _ _))
    intro parsed _
    apply keeps_bind (emit_within (by trivial))
    intro _ _
    split
    · exact keeps_fail _
    · exact keeps_pure _

end SttAdapter

end Assistantd
