import Assistantd.Config
import Assistantd.Adapter.Http

/-! llm_adapter.c -/
namespace Assistantd

open Calls
open CText (CString ascii)

/-- What a `volatile sig_atomic_t *` designates: the flag the signal handler
sets, or some other variable. -/
inductive Flag where
  | shutdownRequested
  | other (value : Bool)
  deriving DecidableEq

def Flag.read (requested : Bool) : Flag → Bool
  | .shutdownRequested => requested
  | .other value => value

/-- `systemPrompt` is what was read into the array; a NUL follows it there. -/
structure LlmAdapter where
  initialized : Bool
  systemPrompt : List UInt8
  apiBaseUrl : CString 511
  modelName : CString 511
  shutdownFlag : Option Flag
  curlHandle : Option Nat

/-- An adapter with the caller's result record and the handler's flag. -/
structure LlmTask where
  adapter : LlmAdapter
  response : CString 8191
  shutdownRequested : Bool

namespace LlmAdapter

def zeroed : LlmAdapter := ⟨false, [], .empty 511, .empty 511, none, none⟩

abbrev LlmCall (α : Type) := Call LlmAdapter HttpEvent Status α

abbrev LlmTaskCall (α : Type) := Call LlmTask HttpEvent Status α

/-- The prompt file as `fread` delivers it: no call returns more than its entry
of `counts`, and after the last entry nothing comes any more. -/
structure PromptFile where
  content : List UInt8
  counts : List Nat
  readError : Bool

/-- The `fread` loop. -/
def readPrompt (content : List UInt8) : List UInt8 → List Nat → List UInt8
  | total, [] => total
  | total, count :: counts =>
    if total.length < 4095 then
      match (content.drop total.length).take (min count (4095 - total.length)) with
      | [] => total
      | piece => readPrompt content (total ++ piece) counts
    else total

def loadSystemPrompt (file : Option PromptFile) : LlmCall Unit :=
  match file with
  | none => fail .errIo
  | some file => do
    let total := readPrompt file.content [] file.counts
    modify fun a => { a with systemPrompt := total }
    failIf (file.readError = true) .errIo
    failIf (total = []) .errConfig

def writeCallback (w : Nat) (buffer : ResponseBuffer) (chunk : Chunk) :
    Option (Nat × ResponseBuffer) :=
  let required := (buffer.size + chunk.bytes.length) % 2 ^ w
  if required ≥ buffer.capacity then
    match doubleUntil w (fun c => c > required)
        (if buffer.capacity = 0 then 4096 else 2 * buffer.capacity % 2 ^ w) with
    | none => none
    | some newCapacity =>
      if chunk.realloc then
        some (chunk.bytes.length, (buffer.resize newCapacity).append w chunk.bytes)
      else some (0, buffer)
  else some (chunk.bytes.length, buffer.append w chunk.bytes)

def emptyResponse : ResponseBuffer := ⟨none, 0, 0⟩

def progressCallback (requested : Bool) (flag : Flag) : Int := if flag.read requested then 1 else 0

/-- The cJSON and curl allocations of `generate`, in their order. -/
structure BuildAnswers where
  root : Bool
  model : Bool
  messages : Bool
  systemMessage : Bool
  systemRole : Bool
  systemContent : Bool
  userMessage : Bool
  userRole : Bool
  userContent : Bool
  maxTokens : Bool
  temperature : Bool
  printed : Bool

/-- A member is left out where its allocation fails. -/
def member (added : Bool) (key : String) (value : Json) : List (List UInt8 × Json) :=
  if added then [(ascii key, value)] else []

def message (created role content : Bool) (speaker text : List UInt8) : List Json :=
  if created then
    [.object (member role "role" (.string speaker) ++ member content "content" (.string text))]
  else []

/-- None where `build_request_json` returns NULL. -/
def buildRequestJson (p : Platform) (answers : BuildAnswers) (prompt : List UInt8) :
    LlmTaskCall (List UInt8) := do
  let t ← get
  failIf (answers.root = false) .errIo
  emit (.alloc .requestJson)
  emit (.free .requestJson)
  failIf (answers.messages = false ∨ answers.printed = false) .errIo
  pure (p.cJSONPrint (.object
    (member answers.model "model" (.string t.adapter.modelName.bytes) ++
      member true "messages" (.array
        (message answers.systemMessage answers.systemRole answers.systemContent (ascii "system")
            (CText.upToNul t.adapter.systemPrompt) ++
          message answers.userMessage answers.userRole answers.userContent (ascii "user") prompt)) ++
      member answers.maxTokens "max_tokens" (.number (ascii "300")) ++
      member answers.temperature "temperature" (.number (ascii "0.7")))))

/-- What happens during a transfer, in order. `signal` says that SIGINT or
SIGTERM arrives before the poll. -/
inductive Activity where
  | chunk (chunk : Chunk)
  | poll (signal : Bool)

def Activity.chunks (activities : List Activity) : List Chunk :=
  activities.filterMap fun
    | .chunk c => some c
    | .poll _ => none

/-- `returns` says that no write callback loops for ever. -/
structure Answers (w : Nat) where
  build : BuildAnswers
  headers : Bool
  activities : List Activity
  code : CurlCode
  httpStatus : Int
  signal : Bool
  returns : (collect (writeCallback w) emptyResponse (Activity.chunks activities)).isSome

/-- The state a transfer ends in, and its progress polls. -/
structure Transfer where
  code : CurlCode
  requested : Bool
  response : ResponseBuffer
  polls : List HttpEvent

/-- `curl_easy_perform`: the progress callback is there only if the adapter has a flag. -/
def transfer (w : Nat) (flag : Option Flag) (code : CurlCode) :
    Bool → ResponseBuffer → List Activity → Transfer
  | requested, response, [] => ⟨code, requested, response, []⟩
  | requested, response, .poll signal :: rest =>
    let requested := requested || signal
    let result : Int := match flag with
      | none => 0
      | some flag => progressCallback requested flag
    if result ≠ 0 then ⟨.abortedByCallback, requested, response, [.poll requested false]⟩
    else
      let later := transfer w flag code requested response rest
      { later with polls := .poll requested true :: later.polls }
  | requested, response, .chunk c :: rest =>
    match writeCallback w response c with
    | some (taken, response) =>
      if taken = c.bytes.length then transfer w flag code requested response rest
      else ⟨.writeError, requested, response, []⟩
    | none => ⟨.writeError, requested, response, []⟩

def parseResponseJson (p : Platform) (raw : List UInt8) : LlmTaskCall Unit := do
  match p.cJSONParse raw with
  | none => fail .errIo
  | some root =>
    emit (.alloc .parsedJson)
    let first := Json.firstItem (Json.getObjectItem (some root) (ascii "choices"))
    let message := Json.getObjectItem first (ascii "message")
    let content := Json.valueString (Json.getObjectItem message (ascii "content"))
    emit (.free .parsedJson)
    match content with
    | none => fail .errIo
    | some text => modify fun t => { t with response := .copy 8191 text }

def chatUrl (apiBaseUrl : CString 511) : CString 543 :=
  .copy 543 (apiBaseUrl.bytes ++ ascii "/chat/completions")

/-- The request itself: its result is the transfer's code and what came back. -/
def post (p : Platform) (addr : Nat) (body : List UInt8) (answers : Answers p.sizeBits) :
    LlmTaskCall (CurlCode × ResponseBuffer) := do
  let t ← get
  emits (if answers.headers then [.alloc .headers] else [])
  emit (.curl .use addr)
  emit (.post (chatUrl t.adapter.apiBaseUrl) body)
  let done := transfer p.sizeBits t.adapter.shutdownFlag answers.code t.shutdownRequested
    emptyResponse answers.activities
  emits (done.polls ++ if done.response.data.isSome then [.alloc .response] else [])
  modify fun t => { t with shutdownRequested := done.requested || answers.signal }
  emits (if answers.headers then [.free .headers] else [])
  pure (done.code, done.response)

/-- What is left once the transfer is over. -/
def receive (p : Platform) (code : CurlCode) (httpStatus : Int) (response : ResponseBuffer) :
    LlmTaskCall Unit := do
  failIf (code ≠ .ok ∨ httpStatus ≠ 200) .errIo
  failIf (response.data.isNone = true ∨ response.size = 0) .errIo
  parseResponseJson p response.text

def generate (p : Platform) (prompt : List UInt8) (answers : Answers p.sizeBits) :
    LlmTaskCall Unit := do
  let t ← get
  failIf (t.adapter.initialized = false) .errInvalidArgument
  match t.adapter.curlHandle with
  | none => fail .errInvalidArgument
  | some addr =>
    modify fun t => { t with response := .empty 8191 }
    let body ← buildRequestJson p answers.build prompt
    emit (.alloc .body)
    emit (.curl .use addr)
    let (code, response) ← post p addr body answers
    emit (.free .body)
    let received ← attempt (receive p code answers.httpStatus response)
    emits (if response.data.isSome then [.free .response] else [])
    match received with
    | .error status => fail status
    | .ok () => pure ()

/-- `curl` is the handle `curl_easy_init` returned, none for NULL. -/
def init (config : Config) (file : Option PromptFile) (curl : Option Nat) : LlmCall Unit := do
  modify fun _ => zeroed
  loadSystemPrompt file
  modify fun a => { a with
    apiBaseUrl := .copy 511 config.llmApiBaseUrl.bytes
    modelName := .copy 511 config.llmModel.bytes }
  match curl with
  | none => fail .errIo
  | some addr =>
    emit (.curl .acquire addr)
    modify fun a => { a with curlHandle := some addr, initialized := true }

def shutdown : LlmCall Unit := do
  let a ← get
  match a.curlHandle with
  | none => modify fun _ => zeroed
  | some addr =>
    emit (.curl .release addr)
    modify fun _ => zeroed

/-- Nothing in the program calls it: only the adapter's tests do. -/
def setShutdownFlag (flag : Option Flag) : LlmCall Unit :=
  modify fun a => { a with shutdownFlag := flag }

/-! ## What the calls do -/

theorem loadSystemPrompt_run (file : Option PromptFile) (a : LlmAdapter) :
    ∃ (result : Except Status Unit) (systemPrompt : List UInt8),
      (loadSystemPrompt file).run a = ⟨result, { a with systemPrompt }, []⟩ := by
  cases file with
  | none => exact ⟨.error .errIo, a.systemPrompt, rfl⟩
  | some file =>
    by_cases broken : file.readError = true
    · exact ⟨.error .errIo, readPrompt file.content [] file.counts,
        by simp [loadSystemPrompt, broken]⟩
    · by_cases nothing : readPrompt file.content [] file.counts = []
      · exact ⟨.error .errConfig, [], by simp [loadSystemPrompt, broken, nothing]⟩
      · exact ⟨.ok (), readPrompt file.content [] file.counts,
          by simp [loadSystemPrompt, broken, nothing]⟩

theorem shutdown_run (a : LlmAdapter) : shutdown.run a =
    ⟨.ok (), .zeroed, a.curlHandle.toList.map (.curl .release)⟩ := by
  cases present : a.curlHandle <;> simp [shutdown, present]

/-- The `choices[0].message.content` of an answer. -/
def contentField (p : Platform) (raw : List UInt8) : Option (List UInt8) :=
  Json.valueString (Json.getObjectItem (Json.getObjectItem (Json.firstItem
    (Json.getObjectItem (p.cJSONParse raw) (ascii "choices"))) (ascii "message")) (ascii "content"))

/-- The field is stored where it is there. Else the result is left alone. -/
theorem parseResponseJson_cases (p : Platform) (raw : List UInt8) (t : LlmTask) :
    ∃ events, (events = [] ∨ events = [.alloc .parsedJson, .free .parsedJson]) ∧
    ((contentField p raw = none ∧ (parseResponseJson p raw).run t = ⟨.error .errIo, t, events⟩) ∨
      ∃ text, contentField p raw = some text ∧ (parseResponseJson p raw).run t =
        ⟨.ok (), { t with response := .copy 8191 text }, events⟩) := by
  unfold parseResponseJson
  cases parsed : p.cJSONParse raw with
  | none =>
    have missing : contentField p raw = none := by
      simp [contentField, parsed, Json.getObjectItem, Json.firstItem, Json.valueString]
    exact ⟨[], .inl rfl, .inl ⟨missing, rfl⟩⟩
  | some root =>
    refine ⟨[.alloc .parsedJson, .free .parsedJson], .inr rfl, ?_⟩
    cases found : contentField p raw with
    | none =>
      rw [contentField, parsed] at found
      exact .inl ⟨rfl, by simp [found]⟩
    | some text =>
      rw [contentField, parsed] at found
      exact .inr ⟨text, rfl, by simp [found]⟩

/-- Whether a progress poll stops the transfer: the flag the adapter watches is set. -/
def stopsAt (flag : Option Flag) (requested : Bool) : Bool :=
  match flag with
  | none => false
  | some flag => flag.read requested

/-- The events a request may leave: its own handle in use, its own URL, and
polls that go by the flag it watches. -/
def Permits (a : LlmAdapter) : HttpEvent → Prop
  | .curl op addr => op = .use ∧ a.curlHandle = some addr
  | .alloc _ | .free _ => True
  | .upload _ _ => False
  | .post url _ => url = chatUrl a.apiBaseUrl
  | .poll requested continues => continues = !stopsAt a.shutdownFlag requested

/-- A request does not change the adapter. -/
abbrev Confined (a : LlmAdapter) : List HttpEvent → LlmTask → Prop :=
  Within (fun t => t.adapter = a) a.Permits

theorem transfer_polls (a : LlmAdapter) (w : Nat) (code : CurlCode) (requested : Bool)
    (response : ResponseBuffer) (activities : List Activity) :
    ∀ e ∈ (transfer w a.shutdownFlag code requested response activities).polls, a.Permits e := by
  induction activities generalizing requested response with
  | nil => exact List.forall_mem_nil _
  | cons activity rest ih =>
    cases activity with
    | poll signal =>
      have stops : (match a.shutdownFlag with
          | none => 0
          | some flag => progressCallback (requested || signal) flag) ≠ (0 : Int) ↔
          stopsAt a.shutdownFlag (requested || signal) = true := by
        unfold stopsAt progressCallback
        cases a.shutdownFlag with
        | none => simp
        | some flag => simp
      simp only [transfer, stops]
      by_cases stopped : stopsAt a.shutdownFlag (requested || signal) = true
      · rw [if_pos stopped]
        intro e member
        rw [List.mem_singleton.mp member]
        simp [Permits, stopped]
      · rw [if_neg stopped]
        intro e member
        rcases List.mem_cons.mp member with rfl | later
        · simpa [Permits] using stopped
        · exact ih _ _ e later
    | chunk c =>
      simp only [transfer]
      split
      · split
        · exact ih _ _
        · exact List.forall_mem_nil _
      · exact List.forall_mem_nil _

theorem buildRequestJson_confined (a : LlmAdapter) (p : Platform) (answers : BuildAnswers)
    (prompt : List UInt8) (t : LlmTask) :
    Keeps (Confined a) (buildRequestJson p answers prompt) t := by
  unfold buildRequestJson
  refine keeps_get (keeps_bind (keeps_failIf _ _) fun _ _ => ?_)
  apply keeps_bind (emit_within (by trivial))
  intro _ _
  apply keeps_bind (emit_within (by trivial))
  intro _ _
  exact keeps_bind (keeps_failIf _ _) fun _ _ => keeps_pure _

theorem receive_confined (a : LlmAdapter) (p : Platform) (code : CurlCode) (httpStatus : Int)
    (response : ResponseBuffer) (t : LlmTask) :
    Keeps (Confined a) (receive p code httpStatus response) t := by
  unfold receive parseResponseJson
  refine keeps_bind (keeps_failIf _ _) fun _ _ => ?_
  refine keeps_bind (keeps_failIf _ _) fun _ _ => ?_
  split
  · exact keeps_fail _
  · apply keeps_bind (emit_within (by trivial))
    intro _ _
    apply keeps_bind (emit_within (by trivial))
    intro _ _
    split
    · exact keeps_fail _
    · exact keeps_modify fun _ c => c

theorem post_confined (a : LlmAdapter) (p : Platform) {addr : Nat}
    (own : a.curlHandle = some addr) (body : List UInt8) (answers : Answers p.sizeBits)
    (t : LlmTask) : Keeps (Confined a) (post p addr body answers) t := by
  unfold post
  refine keeps_get (keeps_given (t.adapter = a) (fun _ c => c.1) fun same => ?_)
  apply keeps_bind (emits_within (by split <;> simp [Permits]))
  intro _ _
  apply keeps_bind (emit_within (by exact ⟨rfl, own⟩))
  intro _ _
  apply keeps_bind (emit_within (by rw [same]; rfl))
  intro _ _
  refine keeps_bind (emits_within ?_) fun _ _ => ?_
  · intro e member
    rw [same] at member
    rcases List.mem_append.mp member with poll | allocated
    · exact transfer_polls a _ _ _ _ _ e poll
    · split at allocated
      · rw [List.mem_singleton.mp allocated]
        trivial
      · cases allocated
  refine keeps_bind (keeps_modify fun _ c => c) fun _ _ => ?_
  apply keeps_bind (emits_within (by split <;> simp [Permits]))
  intro _ _
  exact keeps_pure _

theorem generate_confined (a : LlmAdapter) (p : Platform) (prompt : List UInt8)
    (answers : Answers p.sizeBits) (t : LlmTask) :
    Keeps (Confined a) (generate p prompt answers) t := by
  unfold generate
  refine keeps_get (keeps_given (t.adapter = a) (fun _ c => c.1) fun same => ?_)
  refine keeps_bind (keeps_failIf _ _) fun _ _ => ?_
  split
  · exact keeps_fail _
  · rename_i addr present
    rw [same] at present
    refine keeps_bind (keeps_modify fun _ c => c) fun _ _ => ?_
    apply keeps_bind (buildRequestJson_confined a p _ _ _)
    intro body _
    apply keeps_bind (emit_within (by trivial))
    intro _ _
    apply keeps_bind (emit_within (by exact ⟨rfl, present⟩))
    intro _ _
    apply keeps_bind (post_confined a p present body answers _)
    intro posted _
    apply keeps_bind (emit_within (by trivial))
    intro _ _
    apply keeps_bind (keeps_attempt (receive_confined a p _ _ _ _))
    intro received _
    apply keeps_bind (emits_within (by split <;> simp [Permits]))
    intro _ _
    split
    · exact keeps_fail _
    · exact keeps_pure _

end LlmAdapter

end Assistantd
