import Mathlib.Order.Bounds.Basic
import Mathlib.Tactic.Ring
import Mathlib.Tactic.Linarith

/-! A loop that doubles a number of `w` bits until it is at least `need`. -/

/-- What the loop ends with from a number on; none where one more doubling would wrap. -/
inductive Doubling (w need : Nat) : Nat → Option Nat → Prop where
  | done {c} : need ≤ c → Doubling w need c (some c)
  | beyond {c} : c < need → 2 ^ w ≤ 2 * c → Doubling w need c none
  | twice {c r} : c < need → 2 * c < 2 ^ w → Doubling w need (2 * c) r → Doubling w need c r

namespace Doubling

variable {w need c n : Nat}

/-- The loop ends. -/
theorem total (need : Nat) (positive : 0 < c) (small : c < 2 ^ w) : ∃ r, Doubling w need c r := by
  generalize gap : 2 ^ w - c = left
  induction left using Nat.strongRecOn generalizing c with
  | ind left ih =>
    by_cases enough : need ≤ c
    · exact ⟨some c, .done enough⟩
    by_cases fits : 2 * c < 2 ^ w
    · obtain ⟨r, ends⟩ := ih (2 ^ w - 2 * c) (by omega) (by omega) fits rfl
      exact ⟨r, .twice (by omega) fits ends⟩
    · exact ⟨none, .beyond (by omega) (by omega)⟩

/-- The numbers the loop could end with. -/
def doubled (need c : Nat) : Set Nat := {n | need ≤ n ∧ ∃ k, n = c * 2 ^ k}

theorem exists_least (need : Nat) (positive : 0 < c) : ∃ n, IsLeast (doubled need c) n := by
  classical
  have far : ∃ n, n ∈ doubled need c := by
    refine ⟨c * 2 ^ need, ?_, need, rfl⟩
    calc need ≤ 2 ^ need := Nat.le_of_lt Nat.lt_two_pow_self
      _ = 1 * 2 ^ need := (Nat.one_mul _).symm
      _ ≤ c * 2 ^ need := Nat.mul_le_mul_right _ positive
  exact ⟨Nat.find far, Nat.find_spec far, fun _ member => Nat.find_min' far member⟩

/-- Below `need` the loop has the number doubled still to come. -/
theorem least_twice (short : c < need) : IsLeast (doubled need c) n ↔
    IsLeast (doubled need (2 * c)) n := by
  have same : doubled need c = doubled need (2 * c) := by
    ext m
    constructor
    · rintro ⟨enough, k, rfl⟩
      cases k with
      | zero => omega
      | succ k => exact ⟨enough, k, by ring⟩
    · rintro ⟨enough, k, rfl⟩
      exact ⟨enough, k + 1, by ring⟩
  rw [same]

theorem least_le (least : IsLeast (doubled need c) n) : c ≤ n := by
  obtain ⟨⟨_, k, rfl⟩, _⟩ := least
  exact Nat.le_mul_of_pos_right c (Nat.two_pow_pos k)

/-- The loop ends with the least such number, or with none where that has no `w` bits. -/
theorem least {r : Option Nat} (h : Doubling w need c r) (small : c < 2 ^ w)
    (least : IsLeast (doubled need c) n) : r = if n < 2 ^ w then some n else none := by
  induction h with
  | @done c enough =>
    have first : n ≤ c := least.2 ⟨enough, 0, by simp⟩
    obtain rfl : n = c := Nat.le_antisymm first (least_le least)
    rw [if_pos small]
  | beyond short wraps =>
    have later := least_le ((least_twice short).mp least)
    rw [if_neg (by omega)]
  | twice short fits _ ih => exact ih fits ((least_twice short).mp least)

/-- From a power of two on, the loop stays below any larger one that is enough. -/
theorem within {r : Option Nat} {j m : Nat} (h : Doubling w need (2 ^ j) r) (start : j ≤ m)
    (fits : m < w) (enough : need ≤ 2 ^ m) : ∃ i, j ≤ i ∧ i ≤ m ∧ need ≤ 2 ^ i ∧ r = some (2 ^ i) := by
  have small : 2 ^ j < 2 ^ w := Nat.pow_lt_pow_right (by decide) (by omega)
  obtain ⟨n, least⟩ := exists_least need (Nat.two_pow_pos j)
  have ends := h.least small least
  have bound : n ≤ 2 ^ m :=
    least.2 ⟨enough, m - j, by rw [← Nat.pow_add, Nat.add_sub_cancel' start]⟩
  have room : 2 ^ m < 2 ^ w := Nat.pow_lt_pow_right (by decide) fits
  rw [if_pos (by omega)] at ends
  obtain ⟨⟨reached, k, rfl⟩, _⟩ := least
  rw [← Nat.pow_add] at reached bound ends
  exact ⟨j + k, by omega, (Nat.pow_le_pow_iff_right (by decide)).mp bound, reached, ends⟩

end Doubling
