import Mathlib.Algebra.BigOperators.Group.List.Basic
import Mathlib.Algebra.Order.Ring.Int

/-! A quantity that the events of a trace move up and down. -/
namespace Level

variable {ε : Type} (delta : ε → Int)

def level (trace : List ε) : Int := (trace.map delta).sum

/-- From `start` on, the quantity stays between `low` and `high` all along the trace. -/
def Bounded (low high start : Int) (trace : List ε) : Prop :=
  ∀ before after, trace = before ++ after →
    low ≤ start + level delta before ∧ start + level delta before ≤ high

variable {delta} {low high start : Int}

@[simp] theorem level_nil : level delta [] = 0 := rfl

@[simp] theorem level_cons (e : ε) (trace : List ε) :
    level delta (e :: trace) = delta e + level delta trace := by
  simp [level]

@[simp] theorem level_append (xs ys : List ε) :
    level delta (xs ++ ys) = level delta xs + level delta ys := by
  simp [level]

theorem level_silent {trace : List ε} (silent : ∀ e ∈ trace, delta e = 0) :
    level delta trace = 0 := by
  induction trace with
  | nil => rfl
  | cons e trace ih =>
    rw [level_cons, silent e List.mem_cons_self, ih fun x member =>
      silent x (List.mem_cons_of_mem e member)]
    rfl

theorem level_filter {shown : ε → Bool} (silent : ∀ e, shown e = false → delta e = 0)
    (trace : List ε) : level delta (trace.filter shown) = level delta trace := by
  induction trace with
  | nil => rfl
  | cons e trace ih =>
    cases visible : shown e with
    | true => rw [List.filter_cons_of_pos visible, level_cons, level_cons, ih]
    | false => rw [List.filter_cons_of_neg (by simp [visible]), level_cons, silent e visible, ih,
        Int.zero_add]

theorem bounded_nil (inside : low ≤ start ∧ start ≤ high) :
    Bounded delta low high start [] := by
  intro before after split
  obtain ⟨rfl, -⟩ := List.append_eq_nil_iff.mp split.symm
  simpa using inside

theorem bounded_cons {e : ε} {trace : List ε} (inside : low ≤ start ∧ start ≤ high)
    (later : Bounded delta low high (start + delta e) trace) :
    Bounded delta low high start (e :: trace) := by
  intro before after split
  cases before with
  | nil => simpa using inside
  | cons x before =>
    obtain ⟨rfl, rest⟩ := List.cons.inj split
    have bounds := later before after rest
    rwa [level_cons, ← Int.add_assoc]

theorem bounded_append {xs ys : List ε} (first : Bounded delta low high start xs)
    (later : Bounded delta low high (start + level delta xs) ys) :
    Bounded delta low high start (xs ++ ys) := by
  induction xs generalizing start with
  | nil => simpa using later
  | cons x xs ih =>
    apply bounded_cons
    · simpa using first [] (x :: xs) rfl
    · apply ih
      · intro before after split
        have bounds := first (x :: before) after (by rw [split]; rfl)
        rwa [level_cons, ← Int.add_assoc] at bounds
      · rwa [Int.add_assoc, ← level_cons]

theorem bounded_silent {trace : List ε} (inside : low ≤ start ∧ start ≤ high)
    (silent : ∀ e ∈ trace, delta e = 0) : Bounded delta low high start trace := by
  rintro before after rfl
  rw [level_silent fun e member => silent e (List.mem_append_left after member)]
  simpa using inside

/-- Events that leave the quantity alone may be left out of the trace. -/
theorem bounded_filter {shown : ε → Bool} (silent : ∀ e, shown e = false → delta e = 0)
    {trace : List ε} (visible : Bounded delta low high start (trace.filter shown)) :
    Bounded delta low high start trace := by
  rintro before after rfl
  have bounds := visible (before.filter shown) (after.filter shown) (List.filter_append before after)
  rwa [level_filter silent] at bounds

end Level
