import Assistantd.Lib.Utf8
import Assistantd.Supervisor.Pipeline

/-! The copies a text goes through, each into an array of a fixed size. -/
namespace Assistantd

open Calls
open CText (CString ascii)
open Utf8 (Valid CutsWhole)

/-- Without an error `fread` returns less than it is asked for at the end of the file only. -/
structure LlmAdapter.PromptFile.Delivered (file : LlmAdapter.PromptFile) : Prop where
  noError : file.readError = false
  whole : min 4095 file.content.length ≤ file.counts.headD 0

theorem LlmAdapter.readPrompt_delivered {file : LlmAdapter.PromptFile}
    (delivered : file.Delivered) :
    readPrompt file.content [] file.counts = file.content.take 4095 := by
  have whole := delivered.whole
  cases counts : file.counts with
  | nil =>
    rw [counts, List.headD_nil] at whole
    have empty : file.content = [] := List.length_eq_zero_iff.mp (by omega)
    rw [empty]
    rfl
  | cons count later =>
    rw [counts, List.headD_cons] at whole
    have piece : file.content.take (min count 4095) = file.content.take 4095 := by
      rw [List.take_eq_take_iff]
      omega
    have settled : ∀ rest : List Nat,
        readPrompt file.content (file.content.take 4095) rest = file.content.take 4095 := by
      intro rest
      cases rest with
      | nil => rfl
      | cons next rest =>
        unfold readPrompt
        split
        · rename_i room
          rw [List.length_take] at room
          have read : file.content.drop (file.content.take 4095).length = [] := by
            rw [List.drop_eq_nil_iff, List.length_take]
            omega
          rw [read, List.take_nil]
        · rfl
    unfold readPrompt
    simp only [List.length_nil, Nat.zero_lt_succ, if_true, List.drop_zero, Nat.sub_zero, piece]
    split
    · rename_i nothing
      exact nothing.symm
    · rename_i some_bytes
      rw [List.nil_append]
      exact settled later

namespace Supervisor

variable {κ : Type} {p : Platform}

theorem systemPrompt_valid_iff {file : LlmAdapter.PromptFile} (delivered : file.Delivered)
    (valid : Valid file.content) (a : LlmAdapter) :
    Valid ((LlmAdapter.loadSystemPrompt (some file)).run a).state.systemPrompt ↔
      CutsWhole 4095 file.content := by
  have loaded : ((LlmAdapter.loadSystemPrompt (some file)).run a).state.systemPrompt =
      file.content.take 4095 := by
    by_cases empty : LlmAdapter.readPrompt file.content [] file.counts = []
    · simp [LlmAdapter.loadSystemPrompt, delivered.noError, empty,
        ← LlmAdapter.readPrompt_delivered delivered]
    · simp [LlmAdapter.loadSystemPrompt, delivered.noError, empty,
        ← LlmAdapter.readPrompt_delivered delivered]
  rw [loaded]
  exact Utf8.take_valid_iff valid 4095

/-- The `text` of an STT answer, as `parse_json_response` finds it. -/
def sttText (p : Platform) (raw : List UInt8) : Option (List UInt8) :=
  Json.valueString (Json.getObjectItem (p.cJSONParse raw) (ascii "text"))

/-- The `content` of an LLM answer, as `parse_response_json` finds it. -/
def llmContent (p : Platform) (raw : List UInt8) : Option (List UInt8) :=
  Json.valueString (Json.getObjectItem (Json.getObjectItem (Json.firstItem
    (Json.getObjectItem (p.cJSONParse raw) (ascii "choices"))) (ascii "message")) (ascii "content"))

theorem parseJsonResponse_run {raw text : List UInt8} (found : sttText p raw = some text)
    (t : SttTask) : ∃ events, (SttAdapter.parseJsonResponse p raw).run t =
      if CText.trim text = [] then ⟨.error .errIo, t, events⟩
      else ⟨.ok (), { t with transcript := .copy 4095 (CText.trim text) }, events⟩ := by
  obtain ⟨events, _, ⟨blank, failed⟩ | ⟨text', found', some, done⟩⟩ :=
    SttAdapter.parseJsonResponse_cases p raw t
  · exact ⟨events, by rw [if_pos (blank text found), failed]⟩
  · obtain rfl : text = text' := Option.some.inj (found.symm.trans found')
    exact ⟨events, by rw [if_neg some, done]⟩

theorem transcript_valid_iff {raw text : List UInt8} (found : sttText p raw = some text)
    (valid : Valid text) (t : SttTask) :
    (((SttAdapter.parseJsonResponse p raw).run t).result = .ok () →
      Valid ((SttAdapter.parseJsonResponse p raw).run t).state.transcript.bytes) ↔
      CutsWhole 4095 (CText.trim text) := by
  obtain ⟨events, run⟩ := parseJsonResponse_run found t
  have clean : 0 ∉ CText.trim text := fun zero => Json.valueString_clean found (CText.mem_trim zero)
  rw [run]
  by_cases nothing : CText.trim text = []
  · rw [if_pos nothing, nothing]
    exact iff_of_true (fun failed => by cases failed) (fun c inside => by cases inside)
  · simp only [if_neg nothing, CString.copy_take clean, forall_const]
    exact Utf8.take_valid_iff (Utf8.trim_valid valid) 4095

theorem parseResponseJson_run {raw text : List UInt8} (found : llmContent p raw = some text)
    (u : LlmTask) : ∃ events, (LlmAdapter.parseResponseJson p raw).run u =
      ⟨.ok (), { u with response := .copy 8191 text }, events⟩ := by
  obtain ⟨events, _, ⟨missing, _⟩ | ⟨text', found', done⟩⟩ :=
    LlmAdapter.parseResponseJson_cases p raw u
  · cases found.symm.trans missing
  · obtain rfl : text = text' := Option.some.inj (found.symm.trans found')
    exact ⟨events, done⟩

theorem response_valid_iff {raw text : List UInt8} (found : llmContent p raw = some text)
    (valid : Valid text) (u : LlmTask) :
    Valid ((LlmAdapter.parseResponseJson p raw).run u).state.response.bytes ↔
      CutsWhole 8191 text := by
  obtain ⟨events, run⟩ := parseResponseJson_run found u
  rw [run]
  simp only [CString.copy_take (Json.valueString_clean found)]
  exact Utf8.take_valid_iff valid 8191

/-- An entry of the queue carries the text it was given, where that fits. -/
theorem enqueued_text {sequenceId : UInt64} {text : CString 8191} {usedFallback : Int}
    {s : System κ} {queued : LlmResponse}
    (event : .responseQueued queued ∈
      ((enqueueLlmResponse sequenceId text.bytes usedFallback).run s).events) :
    queued.responseText = text := by
  unfold enqueueLlmResponse at event
  simp only [run_bind, run_get, andThen_ok, after_nil] at event
  split at event
  · simp at event
  · simp only [run_bind, run_modify, run_emit, andThen_ok, after_nil, List.mem_singleton,
      Event.responseQueued.injEq] at event
    rw [event]
    exact CString.copy_self text

/-- Every string the pipeline keeps of a prompt file and of two answers is UTF-8. -/
structure TextsValid (p : Platform) (file : LlmAdapter.PromptFile) (stt llm : List UInt8)
    (a : LlmAdapter) (t : SttTask) (u : LlmTask) (s : System κ) : Prop where
  systemPrompt : Valid ((LlmAdapter.loadSystemPrompt (some file)).run a).state.systemPrompt
  transcript : ((SttAdapter.parseJsonResponse p stt).run t).result = .ok () →
    Valid ((SttAdapter.parseJsonResponse p stt).run t).state.transcript.bytes
  response : Valid ((LlmAdapter.parseResponseJson p llm).run u).state.response.bytes
  queued : ∀ (sequenceId : UInt64) (usedFallback : Int) (queued : LlmResponse),
    .responseQueued queued ∈ ((enqueueLlmResponse sequenceId
      ((LlmAdapter.parseResponseJson p llm).run u).state.response.bytes usedFallback).run s).events →
    Valid queued.responseText.bytes

/-- The bounded copies keep UTF-8 exactly when none of them cuts inside a character. -/
theorem texts_valid_iff (p : Platform) (file : LlmAdapter.PromptFile) (delivered : file.Delivered)
    (stt llm text content : List UInt8) (found : sttText p stt = some text)
    (answered : llmContent p llm = some content) (prompt_valid : Valid file.content)
    (text_valid : Valid text) (content_valid : Valid content) (a : LlmAdapter) (t : SttTask)
    (u : LlmTask) (s : System κ) :
    TextsValid p file stt llm a t u s ↔ CutsWhole 4095 file.content ∧
      CutsWhole 4095 (CText.trim text) ∧ CutsWhole 8191 content := by
  have prompt := systemPrompt_valid_iff delivered prompt_valid a
  have transcript := transcript_valid_iff found text_valid t
  have response := response_valid_iff answered content_valid u
  constructor
  · rintro ⟨first, second, third, _⟩
    exact ⟨prompt.mp first, transcript.mp second, response.mp third⟩
  · rintro ⟨first, second, third⟩
    refine ⟨prompt.mpr first, transcript.mpr second, response.mpr third, ?_⟩
    intro sequenceId usedFallback queued event
    rw [enqueued_text event]
    exact response.mpr third

section Sample

/-- One JSON body that serves as both answers. -/
def answerBody (text content : List UInt8) : List UInt8 :=
  ascii "\x7b\"text\":\"" ++ text ++ ascii "\",\"choices\":[\x7b\"message\":\x7b\"content\":\"" ++
    content ++ ascii "\"\x7d\x7d]\x7d"

/-- A target that parses it. -/
def answerPlatform (text content : List UInt8) : Platform where
  sizeBits := 64
  wide := by decide
  longBits := 64
  cJSONParse raw :=
    if raw = answerBody text content then
      some (.object [(ascii "text", .string text), (ascii "choices", .array [
        .object [(ascii "message", .object [(ascii "content", .string content)])]])])
    else none
  cJSONPrint _ := []

theorem answer_texts {text content : List UInt8} (plain : 0 ∉ text) (clean : 0 ∉ content) :
    sttText (answerPlatform text content) (answerBody text content) = some text ∧
      llmContent (answerPlatform text content) (answerBody text content) = some content := by
  constructor
  · simp +decide [sttText, answerPlatform, Json.getObjectItem, Json.valueString,
      CText.upToNul_eq plain]
  · simp +decide [llmContent, answerPlatform, Json.getObjectItem, Json.firstItem,
      Json.valueString, CText.upToNul_eq clean]

/-- An h and an accented e. -/
def accented : List UInt8 := [104, 195, 169]

def accentedPrompt : LlmAdapter.PromptFile := ⟨accented, [3], false⟩

/-- Letters, and an accented one behind them. -/
def lettersThen (n : Nat) : List UInt8 := List.replicate n 97 ++ [195, 169]

theorem lettersThen_valid (n : Nat) : Valid (lettersThen n) := by
  apply Utf8.valid_append
  · refine ⟨List.replicate n 'a', ?_⟩
    have letters : (List.replicate n 'a').flatMap String.utf8EncodeChar = List.replicate n 97 := by
      induction n with
      | zero => rfl
      | succ n ih =>
        rw [List.replicate_succ, List.flatMap_cons, ih, List.replicate_succ]
        rfl
    rw [List.utf8Encode, letters]
  · exact ⟨['é'], rfl⟩

theorem lettersThen_trimmed (n : Nat) : CText.Trimmed (lettersThen n) := by
  constructor
  · intro c first
    have member := List.mem_of_mem_head? first
    simp only [lettersThen, List.mem_append, List.mem_replicate, List.mem_cons, List.not_mem_nil,
      or_false] at member
    rcases member with ⟨_, rfl⟩ | rfl | rfl <;> decide
  · intro c last
    rw [lettersThen, List.getLast?_append_of_ne_nil _ (by simp)] at last
    obtain rfl : 169 = c := by simpa using last
    decide

theorem lettersThen_clean (n : Nat) : 0 ∉ lettersThen n := by
  simp [lettersThen]

/-- The accented letter is cut off whole. -/
theorem lettersThen_cut (n : Nat) : CutsWhole n (lettersThen n) := by
  intro c inside
  obtain rfl : 195 = c := by simpa [lettersThen] using inside
  decide

def longPrompt : LlmAdapter.PromptFile := ⟨lettersThen 4095, [4095], false⟩

/-- Each text is one character too long, and the character takes two bytes. -/
theorem texts_valid_long :
    TextsValid (answerPlatform (lettersThen 4095) (lettersThen 8191)) longPrompt
      (answerBody (lettersThen 4095) (lettersThen 8191))
      (answerBody (lettersThen 4095) (lettersThen 8191)) .zeroed ⟨.zeroed, .empty 4095⟩
      ⟨.zeroed, .empty 8191, false⟩ (init Config.initDefaults : System Unit) := by
  obtain ⟨found, answered⟩ := answer_texts (lettersThen_clean 4095) (lettersThen_clean 8191)
  have trimmed : CutsWhole 4095 (CText.trim (lettersThen 4095)) :=
    (lettersThen_trimmed 4095).trim.symm ▸ lettersThen_cut 4095
  exact (texts_valid_iff _ longPrompt ⟨rfl, Nat.min_le_left _ _⟩ _ _ _ _ found answered
    (lettersThen_valid 4095) (lettersThen_valid 4095) (lettersThen_valid 8191) _ _ _ _).mpr
    ⟨lettersThen_cut 4095, trimmed, lettersThen_cut 8191⟩

/-- The accented letter lies across the end of the transcript's array. -/
def longText : List UInt8 := lettersThen 4094

theorem transcript_cut : Valid longText ∧
    ¬ TextsValid (answerPlatform longText accented) accentedPrompt (answerBody longText accented)
      (answerBody longText accented) .zeroed ⟨.zeroed, .empty 4095⟩ ⟨.zeroed, .empty 8191, false⟩
      (init Config.initDefaults : System Unit) := by
  have clean : 0 ∉ longText := by decide +kernel
  have trimmed : CText.trim longText = longText := (lettersThen_trimmed 4094).trim
  obtain ⟨found, _⟩ := answer_texts clean (by decide : 0 ∉ accented)
  refine ⟨lettersThen_valid 4094, ?_⟩
  intro valid
  have cut := (transcript_valid_iff found (lettersThen_valid 4094) _).mp valid.transcript
  rw [trimmed] at cut
  have inside : longText[4095]? = some 169 := by decide +kernel
  exact absurd (cut 169 inside) (by decide)

end Sample

end Supervisor

end Assistantd
