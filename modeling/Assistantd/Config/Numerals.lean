import Assistantd.Config.Lines

/-! The two numbers of a config file, which go through `atoi`. -/
namespace Assistantd.Config

open CText

/-- What the last line that names the key sets it to. -/
def lastValue (name : List UInt8) (lines : List (List UInt8)) : Option (List UInt8) :=
  (((lines.filterMap setting).filter fun entry => entry.1 = name).getLast?).map Prod.snd

theorem lastValue_snoc (name : List UInt8) (lines : List (List UInt8)) (line : List UInt8) :
    lastValue name (lines ++ [line]) = match setting line with
      | none => lastValue name lines
      | some (key, value) => if key = name then some value else lastValue name lines := by
  unfold lastValue
  rw [List.filterMap_append, List.filter_append]
  cases said : setting line with
  | none => simp [said]
  | some entry =>
    obtain ⟨key, value⟩ := entry
    by_cases same : key = name
    · simp [said, same]
    · simp [said, same]

section Number

variable {longBits : Nat} {number : Config → Int} {name : List UInt8}

/-- A number of the config after some lines, if an assignment sets it under its name only. -/
theorem obey_number (set : ∀ c key value, number (c.assign longBits key value) =
      if key = name then atoi longBits value else number c)
    (lines : List (List UInt8)) (c : Config) :
    number (lines.foldl (obey longBits) c) =
      ((lastValue name lines).map (atoi longBits)).getD (number c) := by
  induction lines using List.reverseRecOn with
  | nil => rfl
  | append_singleton lines line ih =>
    rw [List.foldl_append, List.foldl_cons, List.foldl_nil, lastValue_snoc, obey]
    cases setting line with
    | none => exact ih
    | some entry =>
      obtain ⟨key, value⟩ := entry
      dsimp only
      rw [set]
      by_cases same : key = name
      · rw [if_pos same, if_pos same]
        rfl
      · rw [if_neg same, if_neg same, ih]

end Number

theorem assign_aggressiveness (longBits : Nat) (c : Config) (key value : List UInt8) :
    (c.assign longBits key value).vadAggressiveness =
      if key = Key.name .vadAggressiveness then atoi longBits value else c.vadAggressiveness := by
  by_cases same : key = Key.name .vadAggressiveness
  · rw [if_pos same, same, assign_name]
    rfl
  · rw [if_neg same]
    simp only [Key.name] at same
    simp only [assign, if_neg same, apply_ite vadAggressiveness, ite_self]

theorem assign_silence (longBits : Nat) (c : Config) (key value : List UInt8) :
    (c.assign longBits key value).vadSilenceMs =
      if key = Key.name .vadSilenceMs then atoi longBits value else c.vadSilenceMs := by
  by_cases same : key = Key.name .vadSilenceMs
  · rw [if_pos same, same, assign_name]
    rfl
  · rw [if_neg same]
    simp only [Key.name] at same
    simp only [assign, if_neg same, apply_ite vadSilenceMs, ite_self]

/-- The number in the config is the default, or what the last value says as a numeral. -/
def Exact (name : List UInt8) (lines : List (List UInt8)) (default number : Int) : Prop :=
  match lastValue name lines with
  | none => number = default
  | some value => numeral value = some number

/-- The last value, if there is one, is a numeral for an `int`. -/
def WellFormed (name : List UInt8) (lines : List (List UInt8)) : Prop :=
  ∀ value, lastValue name lines = some value →
    ∃ n : Int, numeral value = some n ∧ -2 ^ 31 ≤ n ∧ n < 2 ^ 31

theorem exact_iff {longBits : Nat} (long : 32 ≤ longBits) {name : List UInt8}
    {lines : List (List UInt8)} {default number : Int}
    (set : number = ((lastValue name lines).map (atoi longBits)).getD default)
    (fits : -2 ^ 31 ≤ number ∧ number < 2 ^ 31) :
    Exact name lines default number ↔ WellFormed name lines := by
  unfold Exact WellFormed
  cases last : lastValue name lines with
  | none =>
    rw [last] at set
    exact iff_of_true set (fun value no => by cases no)
  | some value =>
    rw [last] at set
    constructor
    · rintro formed other same
      rw [← Option.some.inj same]
      exact ⟨number, formed, fits⟩
    · intro formed
      obtain ⟨n, numeral_n, small⟩ := formed value rfl
      show numeral value = some number
      rw [set, Option.map_some, Option.getD_some, atoi_numeral long numeral_n small]
      exact numeral_n

/-- Both numbers of a config are what the lines of its file say. -/
structure Faithful (lines : List (List UInt8)) (c : Config) : Prop where
  aggressiveness : Exact (Key.name .vadAggressiveness) lines 2 c.vadAggressiveness
  silence : Exact (Key.name .vadSilenceMs) lines 700 c.vadSilenceMs

/-- The lines it reads set what those of the file set, where none is cut. -/
theorem lastValue_pieces {content : List UInt8} (clean : 0 ∉ content) (short : Short 1023 content)
    (name : List UInt8) : lastValue name (pieces content) = lastValue name (content.splitOn 10) := by
  rw [lastValue, lastValue, settings_said short, said_clean clean]

/-- An accepted config has the numbers of its file exactly when the last value of each is a
numeral for an `int`, as long as `load_file` cuts no line with an `=`, at its length or
at a NUL. -/
theorem numerals_iff (longBits : Nat) (long : 32 ≤ longBits) (content : List UInt8) (c : Config)
    (loaded : loadFile longBits initDefaults (some content) = (.ok, c))
    (valid : c.validate = .ok) (clean : 0 ∉ content) (short : Short 1023 content) :
    Faithful (content.splitOn 10) c ↔
      WellFormed (Key.name .vadAggressiveness) (content.splitOn 10) ∧
        WellFormed (Key.name .vadSilenceMs) (content.splitOn 10) := by
  have accepted := validate_ok valid
  have aggressiveness := accepted.aggressiveness
  have silence := accepted.silence
  rw [load_pieces, Prod.mk.injEq] at loaded
  have first := obey_number (assign_aggressiveness longBits) (pieces content) initDefaults
  have second := obey_number (assign_silence longBits) (pieces content) initDefaults
  rw [loaded.2, lastValue_pieces clean short] at first second
  have exact_first := exact_iff long first (by omega)
  have exact_second := exact_iff long second (by omega)
  constructor
  · rintro ⟨mode, limit⟩
    exact ⟨exact_first.mp mode, exact_second.mp limit⟩
  · rintro ⟨mode, limit⟩
    exact ⟨exact_first.mpr mode, exact_second.mpr limit⟩

/-- The value may have a sign, and whitespace around it. -/
def slower : List UInt8 := ascii "VAD_SILENCE_MS = +100\n"

theorem numerals_slower :
    Faithful (slower.splitOn 10) { initDefaults with vadSilenceMs := 100 } := by
  have mode : lastValue (Key.name .vadAggressiveness) (slower.splitOn 10) = none := by
    decide +kernel
  have limit : lastValue (Key.name .vadSilenceMs) (slower.splitOn 10) = some (ascii "+100") := by
    decide +kernel
  have short : Short 1023 slower := fun line member _ =>
    (by decide +kernel : ∀ line ∈ slower.splitOn 10, line.length ≤ 1023) line member
  refine (numerals_iff 64 (by decide) slower _ (by decide +kernel) (by decide +kernel)
    (by decide +kernel) short).mpr ⟨?_, ?_⟩
  · intro value last
    rw [mode] at last
    cases last
  · intro value last
    rw [limit] at last
    rw [← Option.some.inj last]
    exact ⟨100, by decide +kernel, by decide, by decide⟩

/-- A word in the place of a number. -/
def garbage : List UInt8 := ascii "VAD_AGGRESSIVENESS=high\n"

theorem garbage_accepted :
    loadFile 64 initDefaults (some garbage) =
        (.ok, { initDefaults with vadAggressiveness := 0 }) ∧
      { initDefaults with vadAggressiveness := 0 }.validate = .ok ∧
      ¬ Faithful (garbage.splitOn 10) { initDefaults with vadAggressiveness := 0 } := by
  have last : lastValue (Key.name .vadAggressiveness) (garbage.splitOn 10) =
      some (ascii "high") := by
    decide +kernel
  refine ⟨by decide +kernel, by decide +kernel, ?_⟩
  rintro ⟨mode, _⟩
  rw [Exact, last] at mode
  exact absurd mode (by decide +kernel)

end Assistantd.Config
