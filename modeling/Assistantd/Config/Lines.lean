import Assistantd.Config

/-! What the lines of a config file say, and what `load_file` makes of them. -/
namespace Assistantd.Config

open CText

/-- The settings a file may name. -/
inductive Key where
  | assistantMode
  | runtimeDir
  | audioCaptureDevice
  | audioPlaybackDevice
  | sttApiBaseUrl
  | llmApiBaseUrl
  | llmModel
  | llmSystemPromptPath
  | ttsBin
  | ttsVoicePath
  | vadAggressiveness
  | vadSilenceMs
  deriving DecidableEq

def Key.name : Key → List UInt8
  | .assistantMode => ascii "ASSISTANT_MODE"
  | .runtimeDir => ascii "RUNTIME_DIR"
  | .audioCaptureDevice => ascii "AUDIO_CAPTURE_DEVICE"
  | .audioPlaybackDevice => ascii "AUDIO_PLAYBACK_DEVICE"
  | .sttApiBaseUrl => ascii "STT_API_BASE_URL"
  | .llmApiBaseUrl => ascii "LLM_API_BASE_URL"
  | .llmModel => ascii "LLM_MODEL"
  | .llmSystemPromptPath => ascii "LLM_SYSTEM_PROMPT_PATH"
  | .ttsBin => ascii "TTS_BIN"
  | .ttsVoicePath => ascii "TTS_VOICE_PATH"
  | .vadAggressiveness => ascii "VAD_AGGRESSIVENESS"
  | .vadSilenceMs => ascii "VAD_SILENCE_MS"

def Key.set (longBits : Nat) (value : List UInt8) (c : Config) : Key → Config
  | .assistantMode => { c with assistantMode := .copy 15 value }
  | .runtimeDir => { c with runtimeDir := .copy 511 value }
  | .audioCaptureDevice => { c with audioCaptureDevice := .copy 511 value }
  | .audioPlaybackDevice => { c with audioPlaybackDevice := .copy 511 value }
  | .sttApiBaseUrl => { c with sttApiBaseUrl := .copy 511 value }
  | .llmApiBaseUrl => { c with llmApiBaseUrl := .copy 511 value }
  | .llmModel => { c with llmModel := .copy 511 value }
  | .llmSystemPromptPath => { c with llmSystemPromptPath := .copy 511 value }
  | .ttsBin => { c with ttsBin := .copy 511 value }
  | .ttsVoicePath => { c with ttsVoicePath := .copy 511 value }
  | .vadAggressiveness => { c with vadAggressiveness := atoi longBits value }
  | .vadSilenceMs => { c with vadSilenceMs := atoi longBits value }

theorem assign_name (longBits : Nat) (c : Config) (key : Key) (value : List UInt8) :
    c.assign longBits key.name value = key.set longBits value c := by
  cases key <;> simp +decide [assign, Key.set]

/-- The key and the value a line sets, if it sets any. -/
def setting (line : List UInt8) : Option (List UInt8 × List UInt8) :=
  let text := trim line
  if text = [] ∨ text.head? = some 35 ∨ 61 ∉ text then none
  else some (trim (text.takeWhile (· ≠ 61)), trim (text.dropWhile (· ≠ 61)).tail)

def obey (longBits : Nat) (c : Config) (line : List UInt8) : Config :=
  match setting line with
  | none => c
  | some (key, value) => c.assign longBits key value

/-- What the file says: its lines, one after the other. -/
def means (longBits : Nat) (c : Config) (content : List UInt8) : Config :=
  (content.splitOn 10).foldl (obey longBits) c

/-- Every line that could set something fits the buffer of `load_file`. -/
def Short (limit : Nat) (content : List UInt8) : Prop :=
  ∀ line ∈ content.splitOn 10, 61 ∈ line → line.length ≤ limit

theorem setting_plain {line : List UInt8} (plain : 61 ∉ line) : setting line = none := by
  have text : 61 ∉ trim line := fun member => plain (mem_trim member)
  simp [setting, text]

theorem setting_newline (line : List UInt8) : setting (line ++ [10]) = setting line := by
  unfold setting
  rw [trim_snoc (by decide)]

theorem mem_upToNul {bytes : List UInt8} {c : UInt8} (member : c ∈ upToNul bytes) : c ∈ bytes :=
  (List.takeWhile_prefix _).subset member

theorem setting_ended (line : List UInt8) :
    setting (upToNul (line ++ [10])) = setting (upToNul line) := by
  by_cases zero : 0 ∈ line
  · have stops : upToNul (line ++ [10]) = upToNul line := by
      obtain ⟨before, after, rfl, clean⟩ := List.eq_append_cons_of_mem zero
      have all : ∀ c ∈ before, decide (c ≠ 0) = true := by
        intro c member
        simp only [ne_eq, decide_eq_true_eq]
        rintro rfl
        exact clean member
      simp only [upToNul, List.append_assoc, List.cons_append,
        List.takeWhile_append_of_pos all]
      simp
    rw [stops]
  · have ended : 0 ∉ line ++ [10] := by simp [zero]
    rw [upToNul_eq ended, upToNul_eq zero, setting_newline]

theorem loadLine_obeys (longBits : Nat) (c : Config) (chunk : List UInt8) :
    c.loadLine longBits chunk = c.obey longBits (upToNul chunk) := by
  simp only [loadLine, obey, setting]
  by_cases blank : trim (upToNul chunk) = [] ∨ (trim (upToNul chunk)).head? = some 35
  · rw [if_pos blank, if_pos (by tauto)]
  · rw [if_neg blank]
    by_cases plain : 61 ∉ trim (upToNul chunk)
    · rw [if_pos plain, if_pos (by tauto)]
    · rw [if_neg plain, if_neg (by tauto)]

/-- What `load_file` takes for the lines: the chunks of `fgets`, up to a NUL in them. -/
def pieces (content : List UInt8) : List (List UInt8) := (fgetsChunks 1023 content).map upToNul

theorem load_pieces (longBits : Nat) (c : Config) (content : List UInt8) :
    loadFile longBits c (some content) = (.ok, (pieces content).foldl (obey longBits) c) := by
  have line : loadLine longBits = fun c chunk => c.obey longBits (upToNul chunk) := by
    funext c chunk
    exact loadLine_obeys longBits c chunk
  rw [loadFile, pieces, List.foldl_map, line]

/-- Only what they set matters of some lines. -/
theorem obey_settings (longBits : Nat) (c : Config) (lines : List (List UInt8)) :
    lines.foldl (obey longBits) c =
      (lines.filterMap setting).foldl (fun c entry => c.assign longBits entry.1 entry.2) c := by
  induction lines generalizing c with
  | nil => rfl
  | cons line lines ih =>
    rw [List.foldl_cons, ih, List.filterMap_cons, obey]
    cases setting line <;> rfl

section Pieces

variable {line : List UInt8}

/-- A line without an `=` sets nothing, however it is cut. -/
theorem settings_plain (plain : 61 ∉ line) : (pieces line).filterMap setting = [] := by
  have whole : (fgetsChunks 1023 line).flatten = line := fill_flatten 1023 1023 line
  apply List.filterMap_eq_nil_iff.mpr
  intro piece member
  obtain ⟨chunk, read, rfl⟩ := List.mem_map.mp member
  apply setting_plain
  intro equals
  exact plain (whole ▸ List.mem_flatten_of_mem read (mem_upToNul equals))

theorem settings_line (unbroken : 10 ∉ line) (short : 61 ∈ line → line.length ≤ 1023) :
    (pieces (line ++ [10])).filterMap setting = [upToNul line].filterMap setting := by
  have blank : setting (upToNul [10]) = none := by decide
  by_cases equals : 61 ∈ line
  · rcases Nat.lt_or_ge line.length 1023 with fits | full
    · rw [pieces, fgetsChunks, fill_fits unbroken fits, List.map_singleton,
        List.filterMap_cons, List.filterMap_cons, setting_ended]
    · have length : line.length = 1023 := Nat.le_antisymm (short equals) full
      rw [pieces, fgetsChunks, fill_full unbroken length (by decide), List.map_cons,
        List.map_singleton, List.filterMap_cons, List.filterMap_cons, List.filterMap_cons, blank]
  · have plain : setting (upToNul line) = none :=
      setting_plain fun member => equals (mem_upToNul member)
    rw [settings_plain (by simp [equals]), List.filterMap_cons, plain]
    rfl

theorem settings_end (unbroken : 10 ∉ line) (short : 61 ∈ line → line.length ≤ 1023) :
    (pieces line).filterMap setting = [upToNul line].filterMap setting := by
  by_cases equals : 61 ∈ line
  · have some_bytes : line ≠ [] := List.ne_nil_of_mem equals
    rw [pieces, fgetsChunks, fill_end unbroken some_bytes (short equals), List.map_singleton]
  · have plain : setting (upToNul line) = none :=
      setting_plain fun member => equals (mem_upToNul member)
    rw [settings_plain equals, List.filterMap_cons, plain]
    rfl

end Pieces

theorem splitOn_line {line : List UInt8} (unbroken : 10 ∉ line) (later : List UInt8) :
    (line ++ 10 :: later).splitOn 10 = line :: later.splitOn 10 := by
  have plain : ∀ c ∈ line, (c == 10) = false := by
    intro c member
    simp only [beq_eq_false_iff_ne, ne_eq]
    rintro rfl
    exact unbroken member
  rw [List.splitOn_eq_splitOnP, List.splitOn_eq_splitOnP,
    List.splitOnP_append_cons_of_forall_mem plain 10 (by decide)]

theorem splitOn_end {line : List UInt8} (unbroken : 10 ∉ line) : line.splitOn 10 = [line] := by
  rw [List.splitOn_eq_splitOnP]
  apply List.splitOnP_eq_singleton
  intro c member
  simp only [beq_eq_false_iff_ne, ne_eq]
  rintro rfl
  exact unbroken member

/-- A file is a line without a newline, or a line, its newline and a file. -/
theorem lines_induction {motive : List UInt8 → Prop}
    (ended : ∀ line, 10 ∉ line → motive line)
    (more : ∀ line later, 10 ∉ line → motive later → motive (line ++ 10 :: later))
    (content : List UInt8) : motive content := by
  induction length : content.length using Nat.strong_induction_on generalizing content with
  | _ n ih =>
    by_cases newline : 10 ∈ content
    · obtain ⟨line, later, rfl, unbroken⟩ := List.eq_append_cons_of_mem newline
      simp only [List.length_append, List.length_cons] at length
      exact more line later unbroken (ih later.length (by omega) later rfl)
    · exact ended content newline

/-- The lines as the string functions see them. -/
def said (content : List UInt8) : List (List UInt8) := (content.splitOn 10).map upToNul

theorem said_clean {content : List UInt8} (clean : 0 ∉ content) :
    said content = content.splitOn 10 := by
  unfold said
  induction content using lines_induction with
  | ended line unbroken => rw [splitOn_end unbroken, List.map_singleton, upToNul_eq clean]
  | more line later unbroken ih =>
    simp only [List.mem_append, List.mem_cons, not_or] at clean
    rw [splitOn_line unbroken, List.map_cons, upToNul_eq clean.1, ih clean.2.2]

/-- Lines that fit the buffer set what they say. -/
theorem settings_said {content : List UInt8} (short : Short 1023 content) :
    (pieces content).filterMap setting = (said content).filterMap setting := by
  unfold said
  induction content using lines_induction with
  | ended line unbroken =>
    simp only [Short, splitOn_end unbroken, List.forall_mem_singleton] at short
    rw [settings_end unbroken short, splitOn_end unbroken]
    rfl
  | more line later unbroken ih =>
    simp only [Short, splitOn_line unbroken, List.forall_mem_cons] at short
    have first := settings_line unbroken short.1
    have next := ih short.2
    rw [pieces, fgetsChunks] at first next
    rw [splitOn_line unbroken, pieces, fgetsChunks, fill_line unbroken, List.map_append,
      List.filterMap_append, first, next, List.map_cons, ← List.filterMap_append]
    rfl

theorem load_means (longBits : Nat) (c : Config) {content : List UInt8} (clean : 0 ∉ content)
    (short : Short 1023 content) :
    loadFile longBits c (some content) = (.ok, c.means longBits content) := by
  rw [load_pieces, obey_settings, settings_said short, said_clean clean, means, obey_settings]

/-- 1024 bytes, of which only the last one is in the second chunk. -/
def lateEquals : List UInt8 := Key.name .llmModel ++ List.replicate 1014 32 ++ [61]

theorem late_equals_missed (longBits : Nat) (c : Config) :
    (loadFile longBits c (some lateEquals)).2 = c := by
  have read : (pieces lateEquals).filterMap setting = [([], [])] := by decide +kernel
  have unknown : c.assign longBits [] [] = c := by simp +decide [assign]
  rw [load_pieces, obey_settings, read]
  exact unknown

theorem late_equals_means (longBits : Nat) (c : Config) :
    (c.means longBits lateEquals).llmModel = .empty 511 := by
  have line : setting lateEquals = some (Key.name .llmModel, []) := by decide +kernel
  rw [means, splitOn_end (by decide +kernel), List.foldl_cons, List.foldl_nil, obey, line]
  exact congrArg llmModel (assign_name longBits c .llmModel [])

/-- A file means what its lines say exactly as long as the lines with an `=`
leave room for the NUL in a buffer of 1024 bytes. -/
theorem lines_mean_iff (longBits limit : Nat) :
    (∀ (c : Config) (content : List UInt8), 0 ∉ content → Short limit content →
      loadFile longBits c (some content) = (.ok, c.means longBits content)) ↔ limit ≤ 1023 := by
  constructor
  · intro faithful
    by_contra longer
    have short : Short limit lateEquals := by
      intro line member _
      rw [splitOn_end (by decide +kernel), List.mem_singleton] at member
      have length : lateEquals.length = 1024 := by decide +kernel
      rw [member, length]
      omega
    have loaded := faithful initDefaults lateEquals (by decide +kernel) short
    have missed := late_equals_missed longBits initDefaults
    have model := late_equals_means longBits initDefaults
    rw [loaded] at missed
    dsimp only at missed
    rw [missed] at model
    exact absurd model (by decide)
  · intro small c content clean short
    apply load_means longBits c clean
    intro line member equals
    exact Nat.le_trans (short line member equals) small

/-- A comment of 1039 bytes; its last 16 are the second chunk. -/
def longComment : List UInt8 := 35 :: List.replicate 1022 120 ++ ascii "RUNTIME_DIR=/tmp"

theorem comment_obeyed : loadFile 64 initDefaults (some longComment) ≠
    (.ok, initDefaults.means 64 longComment) := by
  decide +kernel

end Assistantd.Config
