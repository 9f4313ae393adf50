import Assistantd.Config.Lines

/-! A dump loaded again: twelve lines printed, twelve lines read. -/
namespace Assistantd.Config

open CText

/-- The strings of a config. -/
def texts (c : Config) : List (List UInt8) :=
  [c.assistantMode.bytes, c.runtimeDir.bytes, c.audioCaptureDevice.bytes,
    c.audioPlaybackDevice.bytes, c.sttApiBaseUrl.bytes, c.llmApiBaseUrl.bytes, c.llmModel.bytes,
    c.llmSystemPromptPath.bytes, c.ttsBin.bytes, c.ttsVoicePath.bytes]

/-- A value that survives on a line: no NUL or newline inside, no whitespace at an end. -/
structure Printable (text : List UInt8) : Prop extends Trimmed text where
  clean : 0 ∉ text
  unbroken : 10 ∉ text

def Key.shown (c : Config) : Key → List UInt8
  | .assistantMode => c.assistantMode.bytes
  | .runtimeDir => c.runtimeDir.bytes
  | .audioCaptureDevice => c.audioCaptureDevice.bytes
  | .audioPlaybackDevice => c.audioPlaybackDevice.bytes
  | .sttApiBaseUrl => c.sttApiBaseUrl.bytes
  | .llmApiBaseUrl => c.llmApiBaseUrl.bytes
  | .llmModel => c.llmModel.bytes
  | .llmSystemPromptPath => c.llmSystemPromptPath.bytes
  | .ttsBin => c.ttsBin.bytes
  | .ttsVoicePath => c.ttsVoicePath.bytes
  | .vadAggressiveness => printInt c.vadAggressiveness
  | .vadSilenceMs => printInt c.vadSilenceMs

/-- The keys in the order of the dump. -/
def Key.all : List Key :=
  [.assistantMode, .runtimeDir, .audioCaptureDevice, .audioPlaybackDevice, .sttApiBaseUrl,
    .llmApiBaseUrl, .llmModel, .llmSystemPromptPath, .ttsBin, .ttsVoicePath, .vadAggressiveness,
    .vadSilenceMs]

/-- A line of the dump without its newline. -/
def Key.line (c : Config) (key : Key) : List UInt8 := key.name ++ 61 :: key.shown c

theorem dump_eq (c : Config) : c.dump = Key.all.flatMap fun key => key.line c ++ [10] := by
  have equals : ascii "=" = [61] := by decide
  have newline : ascii "\n" = [10] := by decide
  simp [dump, dumpLine, Key.all, Key.line, Key.name, Key.shown, equals, newline]

/-- What the reader relies on in a key. -/
structure PlainName (name : List UInt8) : Prop extends Trimmed name where
  clean : 0 ∉ name
  unbroken : 10 ∉ name
  unsplit : 61 ∉ name
  uncommented : name.head? ≠ some 35
  present : name ≠ []
  short : name.length ≤ 22

theorem name_plain (key : Key) : PlainName key.name := by
  cases key
  all_goals exact ⟨⟨by decide +kernel, by decide +kernel⟩, by decide, by decide, by decide,
    by decide, by decide, by decide⟩

/-- A line splits at its first `=`, wherever the value has others. -/
theorem setting_line {name value : List UInt8} (plain : PlainName name) (tidy : Trimmed value) :
    setting (name ++ 61 :: value) = some (name, value) := by
  have ends : Trimmed (name ++ 61 :: value) := by
    constructor
    · intro c first
      rw [List.head?_append_of_ne_nil _ plain.present] at first
      exact plain.starts c first
    · intro c last
      cases value with
      | nil =>
        rw [List.getLast?_append_of_ne_nil _ (by simp)] at last
        obtain rfl : 61 = c := by simpa using last
        decide
      | cons d value =>
        rw [List.getLast?_append_of_ne_nil _ (by simp), List.getLast?_cons_cons] at last
        exact tidy.ends c last
  have before : ∀ c ∈ name, decide (c ≠ 61) = true := by
    intro c member
    simp only [ne_eq, decide_eq_true_eq]
    rintro rfl
    exact plain.unsplit member
  have key : (name ++ 61 :: value).takeWhile (· ≠ 61) = name := by
    rw [List.takeWhile_append_of_pos before]
    simp
  have rest : (name ++ 61 :: value).dropWhile (· ≠ 61) = 61 :: value := by
    rw [List.dropWhile_append_of_pos before]
    simp
  have sets : ¬ (name ++ 61 :: value = [] ∨ (name ++ 61 :: value).head? = some 35 ∨
      61 ∉ name ++ 61 :: value) := by
    rw [List.head?_append_of_ne_nil _ plain.present]
    simp [plain.present, plain.uncommented]
  simp only [setting, ends.trim, if_neg sets, key, rest, List.tail_cons]
  rw [plain.toTrimmed.trim, tidy.trim]

theorem splitOn_lines {lines : List (List UInt8)} (unbroken : ∀ line ∈ lines, 10 ∉ line) :
    (lines.flatMap (· ++ [10])).splitOn 10 = lines ++ [[]] := by
  induction lines with
  | nil => rfl
  | cons line lines ih =>
    simp only [List.forall_mem_cons] at unbroken
    rw [List.flatMap_cons, List.append_assoc, List.singleton_append, splitOn_line unbroken.1,
      ih unbroken.2]
    rfl

theorem means_lines (longBits : Nat) (c : Config) {lines : List (List UInt8)}
    (unbroken : ∀ line ∈ lines, 10 ∉ line) :
    c.means longBits (lines.flatMap (· ++ [10])) = lines.foldl (obey longBits) c := by
  have blank : ∀ c : Config, c.obey longBits [] = c := fun c => rfl
  rw [means, splitOn_lines unbroken, List.foldl_append, List.foldl_cons, List.foldl_nil, blank]

section RoundTrip

variable {c : Config}

theorem shown_printable (tidy : ∀ text ∈ c.texts, Trimmed text ∧ 10 ∉ text) (key : Key) :
    Printable (key.shown c) := by
  have text : ∀ {n : Nat} (s : CString n), s.bytes ∈ c.texts → Printable s.bytes :=
    fun s member => ⟨(tidy _ member).1, s.clean, (tidy _ member).2⟩
  have number : ∀ n : Int, Printable (printInt n) := by
    intro n
    refine ⟨printInt_trimmed n, ?_, ?_⟩
    · intro zero
      rcases mem_printInt zero with sign | digit
      · exact absurd sign (by decide)
      · exact absurd digit (by decide)
    · intro newline
      exact absurd (printInt_plain newline) (by decide)
  cases key
  case vadAggressiveness | vadSilenceMs => exact number _
  all_goals exact text _ (by simp [texts])

theorem shown_length (accepted : c.Accepted) (key : Key) : (key.shown c).length ≤ 511 := by
  have text : ∀ s : Value, s.bytes.length ≤ 511 := fun s => s.fits
  have number : ∀ n : Int, 0 ≤ n ∧ n ≤ 5000 → (printInt n).length ≤ 511 := by
    intro n range
    have length : (printInt n).length ≤ 4 + 1 := printInt_length (by omega) (by decide)
    omega
  have aggressiveness := accepted.aggressiveness
  have silence := accepted.silence
  cases key
  case assistantMode => exact Nat.le_trans c.assistantMode.fits (by decide)
  case vadAggressiveness => exact number _ (by omega)
  case vadSilenceMs => exact number _ (by omega)
  all_goals exact text _

/-- The twelve assignments leave nothing of the config there was before. -/
theorem set_all {longBits : Nat} (long : 32 ≤ longBits) (accepted : c.Accepted) (c0 : Config) :
    Key.all.foldl (fun d key => key.set longBits (key.shown c) d) c0 = c := by
  have aggressiveness := accepted.aggressiveness
  have silence := accepted.silence
  have mode : atoi longBits (printInt c.vadAggressiveness) = c.vadAggressiveness :=
    atoi_numeral long (numeral_printInt _) (by omega)
  have limit : atoi longBits (printInt c.vadSilenceMs) = c.vadSilenceMs :=
    atoi_numeral long (numeral_printInt _) (by omega)
  simp only [Key.all, Key.set, Key.shown, List.foldl_cons, List.foldl_nil, CString.copy_self, mode,
    limit]

/-- Loading a dump gives back the config dumped, whatever was set before. -/
theorem load_dump (longBits : Nat) (long : 32 ≤ longBits) (c c0 : Config)
    (valid : c.validate = .ok) (tidy : ∀ text ∈ c.texts, Trimmed text ∧ 10 ∉ text) :
    loadFile longBits c0 (some c.dump) = (.ok, c) := by
  have accepted := validate_ok valid
  have printable := shown_printable tidy
  let lines := Key.all.map (Key.line c)
  have content : c.dump = lines.flatMap (· ++ [10]) := by
    rw [dump_eq, List.flatMap_map]
  have unbroken : ∀ line ∈ lines, 10 ∉ line := by
    intro line member
    obtain ⟨key, _, rfl⟩ := List.mem_map.mp member
    simp [Key.line, (name_plain key).unbroken, (printable key).unbroken]
  have clean : 0 ∉ c.dump := by
    rw [dump_eq]
    intro zero
    obtain ⟨key, _, inside⟩ := List.mem_flatMap.mp zero
    simp [Key.line, (name_plain key).clean, (printable key).clean] at inside
  have short : Short 1023 c.dump := by
    rw [content, Short, splitOn_lines unbroken]
    intro line member _
    rcases List.mem_append.mp member with printed | last
    · obtain ⟨key, _, rfl⟩ := List.mem_map.mp printed
      have name := (name_plain key).short
      have value := shown_length accepted key
      simp only [Key.line, List.length_append, List.length_cons]
      omega
    · rw [List.mem_singleton.mp last]
      exact Nat.zero_le _
  have obeyed : ∀ (d : Config) (key : Key), d.obey longBits (key.line c) =
      key.set longBits (key.shown c) d := by
    intro d key
    rw [obey, Key.line, setting_line (name_plain key) (printable key).toTrimmed]
    exact assign_name longBits d key _
  rw [load_means longBits c0 clean short, content, means_lines longBits c0 unbroken,
    List.foldl_map]
  simp only [obeyed, set_all long accepted c0]

theorem load_dump_defaults :
    loadFile 64 { initDefaults with vadSilenceMs := 100 } (some initDefaults.dump) =
      (.ok, initDefaults) :=
  load_dump 64 (by decide) initDefaults _ (by decide)
    (by
      have tidy : ∀ text ∈ initDefaults.texts, (∀ c ∈ text.head?, isspace c = false) ∧
          (∀ c ∈ text.getLast?, isspace c = false) ∧ 10 ∉ text := by
        decide +kernel
      intro text member
      obtain ⟨starts, ends, unbroken⟩ := tidy text member
      exact ⟨⟨starts, ends⟩, unbroken⟩)

end RoundTrip

end Assistantd.Config
