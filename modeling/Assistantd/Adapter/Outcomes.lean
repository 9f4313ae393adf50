import Assistantd.Adapter.Llm
import Assistantd.Adapter.Transcript

/-! What a request of either adapter comes to: the whole text or nothing, and no
allocation left behind. -/
namespace Assistantd

open Calls
open CText (CString ascii)

/-- What happens to one of the call's objects. -/
def lifetime (what : Owned) (events : List HttpEvent) : List Ledger.Op :=
  events.filterMap fun
    | .alloc owned => if owned = what then some .acquire else none
    | .free owned => if owned = what then some .release else none
    | _ => none

/-- Whatever was allocated is freed once, and later. -/
def Released (events : List HttpEvent) : Prop :=
  ∀ what, lifetime what events = [] ∨ lifetime what events = [.acquire, .release]

@[simp] theorem lifetime_nil (what : Owned) : lifetime what [] = [] := rfl

@[simp] theorem lifetime_alloc (what owned : Owned) (events : List HttpEvent) :
    lifetime what (.alloc owned :: events) =
      if owned = what then .acquire :: lifetime what events else lifetime what events := by
  by_cases same : owned = what <;> simp [lifetime, same]

@[simp] theorem lifetime_free (what owned : Owned) (events : List HttpEvent) :
    lifetime what (.free owned :: events) =
      if owned = what then .release :: lifetime what events else lifetime what events := by
  by_cases same : owned = what <;> simp [lifetime, same]

@[simp] theorem lifetime_curl (what : Owned) (op : Ledger.Op) (addr : Nat)
    (events : List HttpEvent) :
    lifetime what (.curl op addr :: events) = lifetime what events := rfl

@[simp] theorem lifetime_upload (what : Owned) (url : CString 543) (file : CString 511)
    (events : List HttpEvent) :
    lifetime what (.upload url file :: events) = lifetime what events := rfl

@[simp] theorem lifetime_post (what : Owned) (url : CString 543) (body : List UInt8)
    (events : List HttpEvent) :
    lifetime what (.post url body :: events) = lifetime what events := rfl

@[simp] theorem lifetime_append (what : Owned) (xs ys : List HttpEvent) :
    lifetime what (xs ++ ys) = lifetime what xs ++ lifetime what ys :=
  List.filterMap_append

/-- The call either succeeds and writes `stored text` to the caller's record, or
leaves an empty string there. -/
structure AllOrNothing {σ α : Type} (o : Outcome σ HttpEvent Status Unit) (before : σ)
    (adapter : σ → α) (string : σ → List UInt8) (given : List UInt8 → Prop)
    (stored : List UInt8 → List UInt8) : Prop where
  succeeds : o.result = .ok () ↔ ∃ text, given text
  written : ∀ text, given text → string o.state = stored text
  cleared : o.result ≠ .ok () → string o.state = []
  unchanged : adapter o.state = adapter before
  released : Released o.events

section AllOrNothing

variable {σ α : Type} {o : Outcome σ HttpEvent Status Unit} {before : σ} {adapter : σ → α}
  {string : σ → List UInt8} {given : List UInt8 → Prop} {stored : List UInt8 → List UInt8}

theorem AllOrNothing.failure {status : Status} (failed : o.result = .error status)
    (nothing : ∀ text, ¬ given text) (cleared : string o.state = [])
    (unchanged : adapter o.state = adapter before) (released : Released o.events) :
    AllOrNothing o before adapter string given stored where
  succeeds := by
    rw [failed]
    exact iff_of_false nofun fun ⟨text, all⟩ => nothing text all
  written text all := absurd all (nothing text)
  cleared _ := cleared
  unchanged := unchanged
  released := released

theorem AllOrNothing.success {text : List UInt8} (done : o.result = .ok ()) (all : given text)
    (only : ∀ text', given text' → text' = text) (written : string o.state = stored text)
    (unchanged : adapter o.state = adapter before) (released : Released o.events) :
    AllOrNothing o before adapter string given stored where
  succeeds := iff_of_true done ⟨text, all⟩
  written text' all' := by rw [only text' all', written]
  cleared failed := absurd done failed
  unchanged := unchanged
  released := released

end AllOrNothing

namespace SttAdapter

/-- The form is built, the transfer succeeds and the server accepts it. -/
structure Accepted {w : Nat} (answers : Answers w) : Prop where
  malloc : answers.malloc = true
  mimeInit : answers.mimeInit = true
  file : answers.file.built = true
  responseFormat : answers.responseFormat.built = true
  language : answers.language.built = true
  transferred : (perform answers).1 = .ok
  status : answers.httpStatus = 200

/-- All that has to go well, for an answer with this text. -/
structure Succeeds (p : Platform) (answers : Answers p.sizeBits) (text : List UInt8) : Prop where
  access : answers.access = true
  accepted : Accepted answers
  found : textField p (perform answers).2.text = some text
  visible : CText.trim text ≠ []

theorem request_cases (p : Platform) (addr : Nat) (utteranceWavPath : CString 511)
    (answers : Answers p.sizeBits) (t : SttTask) :
    (¬ Accepted answers ∧ ∃ events, Released events ∧
      (request p addr utteranceWavPath answers).run t = ⟨.error .errIo, t, events⟩) ∨
    (Accepted answers ∧ (request p addr utteranceWavPath answers).run t =
      ⟨.ok (perform answers).2, t, [.curl .use addr, .alloc .response, .alloc .form,
        .curl .use addr, .upload (buildInferenceUrl t.adapter.apiBaseUrl) utteranceWavPath,
        .free .form]⟩) := by
  unfold request
  by_cases malloc : answers.malloc = true
  swap
  · refine .inl ⟨fun all => malloc all.malloc, [.curl .use addr], ?_, by simp [malloc]⟩
    intro what
    cases what <;> simp
  by_cases mimeInit : answers.mimeInit = true
  swap
  · refine .inl ⟨fun all => mimeInit all.mimeInit,
      [.curl .use addr, .alloc .response, .free .response], ?_, by simp [malloc, mimeInit]⟩
    intro what
    cases what <;> simp
  by_cases built : answers.file.built = true ∧ answers.responseFormat.built = true ∧
    answers.language.built = true
  swap
  · have unbuilt : answers.file.built = false ∨ answers.responseFormat.built = false ∨
        answers.language.built = false := by grind
    refine .inl ⟨fun all => built ⟨all.file, all.responseFormat, all.language⟩,
      [.curl .use addr, .alloc .response, .alloc .form, .free .form, .free .response], ?_,
      by simp [malloc, mimeInit, unbuilt]⟩
    intro what
    cases what <;> simp
  obtain ⟨file, responseFormat, language⟩ := built
  by_cases received : (perform answers).1 = .ok ∧ answers.httpStatus = 200
  swap
  · have refused : (perform answers).1 ≠ .ok ∨ answers.httpStatus ≠ 200 := by grind
    refine .inl ⟨fun all => received ⟨all.transferred, all.status⟩,
      [.curl .use addr, .alloc .response, .alloc .form, .curl .use addr,
        .upload (buildInferenceUrl t.adapter.apiBaseUrl) utteranceWavPath, .free .form,
        .free .response], ?_,
      by simp [malloc, mimeInit, file, responseFormat, language, refused]⟩
    intro what
    cases what <;> simp
  exact .inr ⟨⟨malloc, mimeInit, file, responseFormat, language, received.1, received.2⟩,
    by simp [malloc, mimeInit, file, responseFormat, language, received]⟩

/-- The trace of an accepted request, with what the parsing of its answer adds. -/
def answered (addr : Nat) (url : CString 543) (utteranceWavPath : CString 511)
    (parsing : List HttpEvent) : List HttpEvent :=
  [.curl .use addr, .alloc .response, .alloc .form, .curl .use addr, .upload url utteranceWavPath,
    .free .form] ++ (parsing ++ [.free .response])

theorem answered_released (addr : Nat) (url : CString 543) (utteranceWavPath : CString 511)
    {parsing : List HttpEvent}
    (parsed : parsing = [] ∨ parsing = [.alloc .parsedJson, .free .parsedJson]) :
    Released (answered addr url utteranceWavPath parsing) := by
  intro what
  rcases parsed with rfl | rfl <;> cases what <;> simp [answered]

theorem transcribe_cases (p : Platform) {utteranceWavPath : CString 511} {t : SttTask} {addr : Nat}
    (initialized : t.adapter.initialized = true) (handle : t.adapter.curlHandle = some addr)
    (named : utteranceWavPath.isEmpty = false) (answers : Answers p.sizeBits) :
    ((∀ text, ¬ Succeeds p answers text) ∧ ∃ events, Released events ∧
      (transcribe p utteranceWavPath answers).run t =
        ⟨.error .errIo, { t with transcript := .empty 4095 }, events⟩) ∨
    ∃ text events, Succeeds p answers text ∧ Released events ∧
      (transcribe p utteranceWavPath answers).run t =
        ⟨.ok (), { t with transcript := .copy 4095 (CText.trim text) }, events⟩ := by
  unfold transcribe
  by_cases access : answers.access = true
  swap
  · exact .inl ⟨fun text all => access all.access, [], fun what => .inl rfl,
      by simp [initialized, handle, named, access]⟩
  obtain ⟨refused, events, released, failed⟩ | ⟨accepted, requested⟩ :=
    request_cases p addr utteranceWavPath answers { t with transcript := .empty 4095 }
  · exact .inl ⟨fun text all => refused all.accepted, events, released,
      by simp [initialized, handle, named, access, failed]⟩
  obtain ⟨parsing, parsed, ⟨blank, failed⟩ | ⟨text, found, visible, done⟩⟩ :=
    parseJsonResponse_cases p (perform answers).2.text { t with transcript := .empty 4095 }
  · exact .inl ⟨fun text all => all.visible (blank text all.found), _,
      answered_released addr (buildInferenceUrl t.adapter.apiBaseUrl) utteranceWavPath parsed,
      by simp [initialized, handle, named, access, requested, failed, answered]⟩
  · exact .inr ⟨text, _, ⟨access, accepted, found, visible⟩,
      answered_released addr (buildInferenceUrl t.adapter.apiBaseUrl) utteranceWavPath parsed,
      by simp [initialized, handle, named, access, requested, done, answered]⟩

theorem transcribe_all_or_nothing (p : Platform) {utteranceWavPath : CString 511} {t : SttTask}
    {addr : Nat} (initialized : t.adapter.initialized = true)
    (handle : t.adapter.curlHandle = some addr) (named : utteranceWavPath.isEmpty = false)
    (answers : Answers p.sizeBits) :
    AllOrNothing ((transcribe p utteranceWavPath answers).run t) t SttTask.adapter
      (fun t => t.transcript.bytes) (Succeeds p answers)
      (fun text => (CText.trim text).take 4095) := by
  obtain ⟨nothing, events, released, failed⟩ | ⟨text, events, all, released, done⟩ :=
    transcribe_cases p initialized handle named answers
  · rw [failed]
    exact .failure rfl nothing rfl rfl released
  · have clean : 0 ∉ CText.trim text :=
      fun zero => Json.valueString_clean all.found (CText.mem_trim zero)
    rw [done]
    exact .success rfl all (fun text' all' => Option.some.inj (all'.found.symm.trans all.found))
      (CString.copy_take clean) rfl released

end SttAdapter

namespace LlmAdapter

/-- Where `build_request_json` does not return NULL. A member that finds no
memory is left out there and makes no difference. -/
structure BuildAnswers.Built (answers : BuildAnswers) : Prop where
  root : answers.root = true
  messages : answers.messages = true
  printed : answers.printed = true

/-- The transfer of a request that has been built. -/
def exchange (p : Platform) (t : LlmTask) (answers : Answers p.sizeBits) : Transfer :=
  transfer p.sizeBits t.adapter.shutdownFlag answers.code t.shutdownRequested emptyResponse
    answers.activities

/-- All that has to go well with what a transfer returns. -/
structure Receives (p : Platform) (code : CurlCode) (httpStatus : Int) (response : ResponseBuffer)
    (text : List UInt8) : Prop where
  transferred : code = .ok
  status : httpStatus = 200
  block : response.data ≠ none
  body : response.size ≠ 0
  found : contentField p response.text = some text

structure Succeeds (p : Platform) (t : LlmTask) (answers : Answers p.sizeBits)
    (text : List UInt8) : Prop where
  built : answers.build.Built
  received : Receives p (exchange p t answers).code answers.httpStatus
    (exchange p t answers).response text

theorem buildRequestJson_cases (p : Platform) (answers : BuildAnswers) (prompt : List UInt8)
    (t : LlmTask) :
    (¬ answers.Built ∧ ∃ events, Released events ∧
      (buildRequestJson p answers prompt).run t = ⟨.error .errIo, t, events⟩) ∨
    (answers.Built ∧ ∃ body, (buildRequestJson p answers prompt).run t =
      ⟨.ok body, t, [.alloc .requestJson, .free .requestJson]⟩) := by
  unfold buildRequestJson
  by_cases root : answers.root = true
  swap
  · exact .inl ⟨fun all => root all.root, [], fun what => .inl rfl, by simp [root]⟩
  by_cases whole : answers.messages = true ∧ answers.printed = true
  swap
  · have partly : answers.messages = false ∨ answers.printed = false := by grind
    refine .inl ⟨fun all => whole ⟨all.messages, all.printed⟩,
      [.alloc .requestJson, .free .requestJson], ?_, by simp [root, partly]⟩
    intro what
    cases what <;> simp
  · exact .inr ⟨⟨root, whole.1, whole.2⟩, _, by simp [root, whole]; rfl⟩

theorem receive_cases (p : Platform) (code : CurlCode) (httpStatus : Int)
    (response : ResponseBuffer) (t : LlmTask) :
    ∃ events, (events = [] ∨ events = [.alloc .parsedJson, .free .parsedJson]) ∧
    (((∀ text, ¬ Receives p code httpStatus response text) ∧
        (receive p code httpStatus response).run t = ⟨.error .errIo, t, events⟩) ∨
      ∃ text, Receives p code httpStatus response text ∧
        (receive p code httpStatus response).run t =
          ⟨.ok (), { t with response := .copy 8191 text }, events⟩) := by
  unfold receive
  by_cases accepted : code = .ok ∧ httpStatus = 200
  swap
  · have refused : code ≠ .ok ∨ httpStatus ≠ 200 := by grind
    exact ⟨[], .inl rfl, .inl ⟨fun text all => accepted ⟨all.transferred, all.status⟩,
      by simp [refused]⟩⟩
  by_cases some : response.data ≠ none ∧ response.size ≠ 0
  swap
  · have empty : response.data = none ∨ response.size = 0 := by grind
    exact ⟨[], .inl rfl, .inl ⟨fun text all => some ⟨all.block, all.body⟩,
      by simp [accepted, empty]⟩⟩
  have given : ¬ (response.data = none ∨ response.size = 0) := by grind
  obtain ⟨parsing, parsed, ⟨missing, failed⟩ | ⟨text, found, done⟩⟩ :=
    parseResponseJson_cases p response.text t
  · have nothing : ∀ text, ¬ Receives p code httpStatus response text :=
      fun text all => Option.some_ne_none text (all.found.symm.trans missing)
    exact ⟨parsing, parsed, .inl ⟨nothing, by simp [accepted, given, failed]⟩⟩
  · exact ⟨parsing, parsed, .inr ⟨text, ⟨accepted.1, accepted.2, some.1, some.2, found⟩,
      by simp [accepted, given, done]⟩⟩

theorem polls_lifetime (what : Owned) (w : Nat) (flag : Option Flag) (code : CurlCode)
    (requested : Bool) (response : ResponseBuffer) (activities : List Activity) :
    lifetime what (transfer w flag code requested response activities).polls = [] := by
  induction activities generalizing requested response with
  | nil => rfl
  | cons activity rest ih =>
    cases activity with
    | poll signal =>
      simp only [transfer]
      split_ifs
      · rfl
      · exact ih _ _
    | chunk c =>
      simp only [transfer]
      split
      · split
        · exact ih _ _
        · rfl
      · rfl

/-- The trace of the request itself. -/
def posted (addr : Nat) (url : CString 543) (body : List UInt8) (headers : Bool)
    (done : Transfer) : List HttpEvent :=
  (if headers then [.alloc .headers] else []) ++ [.curl .use addr, .post url body] ++
    (done.polls ++ if done.response.data.isSome then [.alloc .response] else []) ++
    if headers then [.free .headers] else []

/-- The trace of a request that has been built, with what is done with its answer. -/
def exchanged (addr : Nat) (url : CString 543) (body : List UInt8) (headers : Bool)
    (done : Transfer) (parsing : List HttpEvent) : List HttpEvent :=
  [.alloc .requestJson, .free .requestJson, .alloc .body, .curl .use addr] ++
    (posted addr url body headers done ++
      (.free .body :: parsing ++ if done.response.data.isSome then [.free .response] else []))

theorem exchanged_released (p : Platform) (addr : Nat) (url : CString 543) (body : List UInt8)
    (t : LlmTask) (answers : Answers p.sizeBits) {parsing : List HttpEvent}
    (parsed : parsing = [] ∨ parsing = [.alloc .parsedJson, .free .parsedJson]) :
    Released (exchanged addr url body answers.headers (exchange p t answers) parsing) := by
  intro what
  have quiet : lifetime what (exchange p t answers).polls = [] := polls_lifetime what _ _ _ _ _ _
  unfold exchanged posted
  generalize (exchange p t answers).response.data.isSome = block
  generalize answers.headers = headers
  rcases parsed with rfl | rfl <;> cases what <;> cases headers <;> cases block <;> simp [quiet]

theorem post_run (p : Platform) (addr : Nat) (body : List UInt8) (answers : Answers p.sizeBits)
    (t : LlmTask) : (post p addr body answers).run t =
      ⟨.ok ((exchange p t answers).code, (exchange p t answers).response),
        { t with shutdownRequested := (exchange p t answers).requested || answers.signal },
        posted addr (chatUrl t.adapter.apiBaseUrl) body answers.headers (exchange p t answers)⟩ := by
  unfold exchange posted
  simp [post]

theorem generate_cases (p : Platform) {t : LlmTask} {addr : Nat}
    (initialized : t.adapter.initialized = true) (handle : t.adapter.curlHandle = some addr)
    (prompt : List UInt8) (answers : Answers p.sizeBits) :
    ((∀ text, ¬ Succeeds p t answers text) ∧ ∃ events requested, Released events ∧
      (generate p prompt answers).run t =
        ⟨.error .errIo, ⟨t.adapter, .empty 8191, requested⟩, events⟩) ∨
    ∃ text events requested, Succeeds p t answers text ∧ Released events ∧
      (generate p prompt answers).run t =
        ⟨.ok (), ⟨t.adapter, .copy 8191 text, requested⟩, events⟩ := by
  unfold generate
  obtain ⟨unbuilt, events, released, failed⟩ | ⟨built, body, done⟩ :=
    buildRequestJson_cases p answers.build prompt { t with response := .empty 8191 }
  · exact .inl ⟨fun text all => unbuilt all.built, events, _, released,
      by simp [initialized, handle, failed]; rfl⟩
  have same : exchange p { t with response := .empty 8191 } answers = exchange p t answers := rfl
  obtain ⟨parsing, parsed, ⟨nothing, failed⟩ | ⟨text, received, stored⟩⟩ :=
    receive_cases p (exchange p t answers).code answers.httpStatus (exchange p t answers).response
      ⟨t.adapter, .empty 8191, (exchange p t answers).requested || answers.signal⟩
  · refine .inl ⟨fun text all => nothing text all.received, _,
      (exchange p t answers).requested || answers.signal,
      exchanged_released p addr (chatUrl t.adapter.apiBaseUrl) body t answers parsed, ?_⟩
    simp [initialized, handle, done, post_run, same, failed, exchanged]
  · refine .inr ⟨text, _, (exchange p t answers).requested || answers.signal, ⟨built, received⟩,
      exchanged_released p addr (chatUrl t.adapter.apiBaseUrl) body t answers parsed, ?_⟩
    simp [initialized, handle, done, post_run, same, stored, exchanged]

theorem generate_all_or_nothing (p : Platform) {t : LlmTask} {addr : Nat}
    (initialized : t.adapter.initialized = true) (handle : t.adapter.curlHandle = some addr)
    (prompt : List UInt8) (answers : Answers p.sizeBits) :
    AllOrNothing ((generate p prompt answers).run t) t LlmTask.adapter
      (fun t => t.response.bytes) (Succeeds p t answers) (fun text => text.take 8191) := by
  obtain ⟨nothing, events, requested, released, failed⟩ |
    ⟨text, events, requested, all, released, done⟩ :=
    generate_cases p initialized handle prompt answers
  · rw [failed]
    exact .failure rfl nothing rfl rfl released
  · have found := all.received.found
    rw [done]
    exact .success rfl all
      (fun text' all' => Option.some.inj (all'.received.found.symm.trans found))
      (CString.copy_take (Json.valueString_clean found)) rfl released

end LlmAdapter

/-- A transcription and an answer are each written whole or not at all, and the
calls keep nothing they allocated. -/
theorem requests_all_or_nothing (p : Platform) {t : SttTask} {u : LlmTask} {sttAddr llmAddr : Nat}
    (stt_ready : t.adapter.initialized = true) (stt_handle : t.adapter.curlHandle = some sttAddr)
    (llm_ready : u.adapter.initialized = true) (llm_handle : u.adapter.curlHandle = some llmAddr)
    {utteranceWavPath : CString 511} (named : utteranceWavPath.isEmpty = false)
    (prompt : List UInt8) (heard : SttAdapter.Answers p.sizeBits)
    (answered : LlmAdapter.Answers p.sizeBits) :
    AllOrNothing ((SttAdapter.transcribe p utteranceWavPath heard).run t) t SttTask.adapter
      (fun t => t.transcript.bytes) (SttAdapter.Succeeds p heard)
      (fun text => (CText.trim text).take 4095) ∧
    AllOrNothing ((LlmAdapter.generate p prompt answered).run u) u LlmTask.adapter
      (fun u => u.response.bytes) (LlmAdapter.Succeeds p u answered) (fun text => text.take 8191) :=
  ⟨SttAdapter.transcribe_all_or_nothing p stt_ready stt_handle named heard,
    LlmAdapter.generate_all_or_nothing p llm_ready llm_handle prompt answered⟩

section Sample

def partAdded : SttAdapter.PartAnswers := ⟨true, true, true⟩

/-- A transcription in which nothing goes wrong; the answer comes in two chunks. -/
def heardAnswers : SttAdapter.Answers SttAdapter.spacedPlatform.sizeBits :=
  ⟨true, true, true, partAdded, partAdded, partAdded,
    [⟨SttAdapter.spacedBody.take 5, true⟩, ⟨SttAdapter.spacedBody.drop 5, true⟩], .ok, 200,
    by decide⟩

/-- A server that cannot be reached. -/
def unreachedAnswers : LlmAdapter.Answers SttAdapter.spacedPlatform.sizeBits where
  build := ⟨true, true, true, true, true, true, true, true, true, true, true, true⟩
  headers := true
  activities := []
  code := .other
  httpStatus := 0
  signal := false
  returns := rfl

def sttInUse : SttTask := ⟨⟨true, .empty 511, some 1⟩, .empty 4095⟩

/-- Its record still holds the answer of an earlier call. -/
def llmInUse : LlmTask :=
  ⟨⟨true, ascii "p", .empty 511, .empty 511, none, some 2⟩, .copy 8191 (ascii "old"), false⟩

theorem requests_all_or_nothing_unreached :
    let heard := (SttAdapter.transcribe SttAdapter.spacedPlatform (.copy 511 (ascii "u"))
      heardAnswers).run sttInUse
    let answered := (LlmAdapter.generate SttAdapter.spacedPlatform [] unreachedAnswers).run llmInUse
    (heard.result = .ok () ∧ heard.state.transcript.bytes = ascii "a b" ∧ Released heard.events) ∧
      answered.result ≠ .ok () ∧ answered.state.response.bytes = [] ∧ Released answered.events := by
  intro heard answered
  have named : (CString.copy 511 (ascii "u")).isEmpty = false := by decide
  obtain ⟨stt, llm⟩ := requests_all_or_nothing SttAdapter.spacedPlatform (t := sttInUse)
    (u := llmInUse) rfl rfl rfl rfl named [] heardAnswers unreachedAnswers
  have all : SttAdapter.Succeeds SttAdapter.spacedPlatform heardAnswers (ascii " a b ") :=
    ⟨rfl, ⟨rfl, rfl, rfl, rfl, rfl, rfl, rfl⟩, by decide, by decide⟩
  have failed : answered.result ≠ .ok () := fun done => by
    obtain ⟨_, given⟩ := llm.succeeds.mp done
    cases given.received.transferred
  exact ⟨⟨stt.succeeds.mpr ⟨_, all⟩, (stt.written _ all).trans (by decide), stt.released⟩, failed,
    llm.cleared failed, llm.released⟩

end Sample

end Assistantd
