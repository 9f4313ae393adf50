import Mathlib.Data.List.DropRight
import Mathlib.Data.List.Induction

/-! Hysteresis over a stream of flags: the output stays up for `short` steps after a flag,
and for `long` steps after more than `many` flags in a row. -/
namespace Hangover

/-- How many steps the output still stays up, and how many flags there were in a row. -/
structure State where
  hang : Nat
  streak : Nat
  deriving DecidableEq, Repr

variable (many short long : Nat)

def step (s : State) (flag : Bool) : Bool × State :=
  if flag then
    if s.streak + 1 > many then (true, ⟨long, many⟩) else (true, ⟨short, s.streak + 1⟩)
  else (decide (0 < s.hang), ⟨s.hang - 1, 0⟩)

def run (s : State) (flags : List Bool) : State :=
  flags.foldl (fun s flag => (step many short long s flag).2) s

/-- How many steps ago the last flag was. -/
def quiet (flags : List Bool) : Nat := (flags.rtakeWhile fun flag => !flag).length

/-- Everything up to the last flag. -/
def flagged (flags : List Bool) : List Bool := flags.rdropWhile fun flag => !flag

/-- How many flags there are in a row at the end. -/
def streak (flags : List Bool) : Nat := (flags.rtakeWhile id).length

/-- How long the output stays up after these flags, the last of which is up. -/
def hang (flags : List Bool) : Nat := if many < streak flags then long else short

/-- The output is up after a flag, and as long after it as it hangs. -/
def Up (flags : List Bool) : Prop :=
  flagged flags ≠ [] ∧ quiet flags ≤ hang many short long (flagged flags)

instance (flags : List Bool) : Decidable (Up many short long flags) :=
  inferInstanceAs (Decidable (_ ∧ _))

@[simp] theorem quiet_up (flags : List Bool) : quiet (flags ++ [true]) = 0 := by
  simp [quiet]

@[simp] theorem quiet_down (flags : List Bool) : quiet (flags ++ [false]) = quiet flags + 1 := by
  simp [quiet]

@[simp] theorem flagged_up (flags : List Bool) : flagged (flags ++ [true]) = flags ++ [true] := by
  simp [flagged]

@[simp] theorem flagged_down (flags : List Bool) : flagged (flags ++ [false]) = flagged flags := by
  simp [flagged]

@[simp] theorem streak_up (flags : List Bool) : streak (flags ++ [true]) = streak flags + 1 := by
  simp [streak]

@[simp] theorem streak_down (flags : List Bool) : streak (flags ++ [false]) = 0 := by
  simp [streak]

theorem run_snoc (s : State) (flags : List Bool) (flag : Bool) :
    run many short long s (flags ++ [flag]) =
      (step many short long (run many short long s flags) flag).2 := by
  rw [run, List.foldl_append]
  rfl

variable {many short long}

theorem step_bounded {s : State} {high : Nat} (hang : s.hang ≤ high)
    (kept : short ≤ high ∧ long ≤ high) (flag : Bool) :
    (step many short long s flag).2.hang ≤ high ∧ (step many short long s flag).2.streak ≤ many := by
  cases flag with
  | true =>
    simp only [step, if_true]
    split
    · exact ⟨kept.2, Nat.le_refl _⟩
    · exact ⟨kept.1, by dsimp only; omega⟩
  | false => exact ⟨Nat.le_trans (Nat.sub_le _ _) hang, Nat.zero_le _⟩

/-- What the state remembers of the flags. -/
theorem run_remembers (flags : List Bool) :
    run many short long ⟨0, 0⟩ flags =
      ⟨if flagged flags = [] then 0
        else hang many short long (flagged flags) - quiet flags, min many (streak flags)⟩ := by
  induction flags using List.reverseRecOn with
  | nil => simp [run, flagged, streak]
  | append_singleton flags flag ih =>
    rw [run_snoc, ih]
    cases flag with
    | true =>
      have some_flags : flags ++ [true] ≠ [] := List.append_ne_nil_of_right_ne_nil _ (by simp)
      simp only [step, if_true, flagged_up, quiet_up, streak_up, hang, if_neg some_flags]
      split
      · rename_i beyond
        rw [if_pos (by omega), State.mk.injEq]
        omega
      · rename_i under
        rw [if_neg (by omega), State.mk.injEq]
        omega
    | false =>
      simp only [step, Bool.false_eq_true, if_false, flagged_down, quiet_down, streak_down]
      split <;> (rw [State.mk.injEq]; omega)

theorem up_now (flags : List Bool) : Up many short long (flags ++ [true]) := by
  rw [Up, flagged_up, quiet_up]
  exact ⟨List.append_ne_nil_of_right_ne_nil _ (by simp), Nat.zero_le _⟩

theorem step_up (flags : List Bool) (flag : Bool) :
    (step many short long (run many short long ⟨0, 0⟩ flags) flag).1 = true ↔
      Up many short long (flags ++ [flag]) := by
  rw [run_remembers]
  cases flag with
  | true =>
    refine iff_of_true ?_ (up_now flags)
    simp only [step, if_true]
    split <;> rfl
  | false =>
    simp only [step, Bool.false_eq_true, if_false, decide_eq_true_eq, Up, flagged_down, quiet_down]
    split
    · rename_i never
      simp [never]
    · rename_i before
      simp only [ne_eq, before, not_false_eq_true, true_and]
      omega

variable (many short long) in
/-- The output at each step. -/
def reports (flags : List Bool) : List Bool :=
  (List.range flags.length).map fun n => decide (Up many short long (flags.take (n + 1)))

theorem reports_snoc (flags : List Bool) (flag : Bool) :
    reports many short long (flags ++ [flag]) =
      reports many short long flags ++ [decide (Up many short long (flags ++ [flag]))] := by
  unfold reports
  rw [List.length_append, List.length_singleton, List.range_succ, List.map_append]
  congr 1
  · refine List.map_congr_left fun n inside => ?_
    rw [List.take_append_of_le_length (by have := List.mem_range.mp inside; omega)]
  · simp [List.take_of_length_le]

theorem flagged_iff {flags : List Bool} : flagged flags ≠ [] ↔ true ∈ flags := by
  rw [flagged, ne_eq, List.rdropWhile_eq_nil_iff]
  simp

/-- The output is up at some step if there is a flag. -/
theorem mem_reports {flags : List Bool} :
    true ∈ reports many short long flags ↔ true ∈ flags := by
  constructor
  · intro up
    obtain ⟨n, -, reported⟩ := List.mem_map.mp up
    have flag := flagged_iff.mp (of_decide_eq_true reported).1
    exact List.mem_of_mem_take flag
  · intro flag
    obtain ⟨before, after, rfl⟩ := List.append_of_mem flag
    refine List.mem_map.mpr ⟨before.length, by simp, decide_eq_true ?_⟩
    rw [← List.singleton_append, ← List.append_assoc,
      List.take_left' (by rw [List.length_append, List.length_singleton])]
    exact up_now before

/-- The output goes down as many steps after the last flag as it hangs. -/
theorem quiet_reports {flags : List Bool} (some_flag : flagged flags ≠ []) :
    quiet (reports many short long flags) =
      quiet flags - hang many short long (flagged flags) := by
  induction flags using List.reverseRecOn with
  | nil => exact absurd rfl some_flag
  | append_singleton flags flag ih =>
    rw [reports_snoc]
    by_cases up : Up many short long (flags ++ [flag])
    · rw [decide_eq_true up, quiet_up]
      exact (Nat.sub_eq_zero_of_le up.2).symm
    · have late : ¬ quiet (flags ++ [flag]) ≤ hang many short long (flagged (flags ++ [flag])) :=
        fun soon => up ⟨some_flag, soon⟩
      rw [decide_eq_false up, quiet_down]
      cases flag with
      | true => exact absurd (Nat.zero_le _) (quiet_up flags ▸ late)
      | false =>
        rw [flagged_down] at some_flag
        rw [quiet_down, flagged_down] at late ⊢
        rw [ih some_flag]
        omega

end Hangover
