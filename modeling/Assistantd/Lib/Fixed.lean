import Mathlib.Algebra.Order.Ring.Abs
import Mathlib.Algebra.Order.Ring.Int
import Mathlib.Data.Nat.Bitwise
import Mathlib.Tactic.Linarith
import Mathlib.Tactic.Ring

/-! Signed machine words as integers, and the position of a word's highest bit. -/
namespace Fixed

/-- What a signed word of `n` bits keeps of `x`. -/
def wrap (n : Nat) (x : Int) : Int := (x + 2 ^ (n - 1)) % 2 ^ n - 2 ^ (n - 1)

def Fits (n : Nat) (x : Int) : Prop := -2 ^ (n - 1) ≤ x ∧ x < 2 ^ (n - 1)

instance (n : Nat) (x : Int) : Decidable (Fits n x) := inferInstanceAs (Decidable (_ ∧ _))

abbrev int16 : Int → Int := wrap 16

abbrev int32 : Int → Int := wrap 32

theorem Fits.wrap {n : Nat} {x : Int} (positive : 0 < n) (h : Fits n x) : wrap n x = x := by
  obtain ⟨m, rfl⟩ : ∃ m, n = m + 1 := ⟨n - 1, by omega⟩
  have double : (2 : Int) ^ (m + 1) = 2 ^ m * 2 := pow_succ _ _
  obtain ⟨low, high⟩ := h
  simp only [Nat.add_sub_cancel] at low high
  simp only [Fixed.wrap, Nat.add_sub_cancel]
  rw [Int.emod_eq_of_lt (by omega) (by omega)]
  omega

theorem wrap_fits {n : Nat} (positive : 0 < n) (x : Int) : Fits n (wrap n x) := by
  obtain ⟨m, rfl⟩ : ∃ m, n = m + 1 := ⟨n - 1, by omega⟩
  have double : (2 : Int) ^ (m + 1) = 2 ^ m * 2 := pow_succ _ _
  have whole : (0 : Int) < 2 ^ (m + 1) := Int.pow_pos (by decide)
  have low := Int.emod_nonneg (x + 2 ^ m) whole.ne'
  have high := Int.emod_lt_of_pos (x + 2 ^ m) whole
  simp only [Fits, wrap, Nat.add_sub_cancel]
  constructor <;> omega

theorem int16_of_fits {x : Int} (low : -32768 ≤ x) (high : x < 32768) : int16 x = x :=
  Fits.wrap (by decide) ⟨low, high⟩

theorem int32_of_fits {x : Int} (low : -2147483648 ≤ x) (high : x < 2147483648) : int32 x = x :=
  Fits.wrap (by decide) ⟨low, high⟩

theorem int16_range (x : Int) : -32768 ≤ int16 x ∧ int16 x < 32768 := wrap_fits (by decide) x

theorem not_sub (x : Int) : ~~~x = -x - 1 := by
  cases x with
  | ofNat n =>
    change Int.negSucc n = -(n : Int) - 1
    omega
  | negSucc n =>
    change (n : Int) = _
    omega

/-- Products of bounded factors are bounded. -/
theorem mul_bounds {a b A B : Int} (left : -A ≤ a ∧ a ≤ A) (right : -B ≤ b ∧ b ≤ B) :
    -(A * B) ≤ a * b ∧ a * b ≤ A * B := by
  rw [← abs_le] at left right ⊢
  rw [abs_mul]
  exact mul_le_mul left right (abs_nonneg b) (le_trans (abs_nonneg a) left)

theorem mul_range {a b A B : Int} (left : 0 ≤ a ∧ a ≤ A) (right : 0 ≤ b ∧ b ≤ B) :
    0 ≤ a * b ∧ a * b ≤ A * B :=
  ⟨Int.mul_nonneg left.1 right.1, mul_le_mul left.2 right.2 right.1 (le_trans left.1 left.2)⟩

/-- A mask of ones that has `low` zeros behind it rounds down. -/
theorem mask_rounds {n low ones : Nat} (word : n < 2 ^ (ones + low)) :
    n &&& (2 ^ ones - 1) * 2 ^ low = n / 2 ^ low * 2 ^ low := by
  refine Nat.eq_of_testBit_eq fun i => ?_
  rw [Nat.testBit_and, Nat.testBit_mul_two_pow, Nat.testBit_mul_two_pow, Nat.testBit_div_two_pow,
    Nat.testBit_two_pow_sub_one]
  by_cases reached : low ≤ i
  · rw [Nat.sub_add_cancel reached]
    by_cases inside : i < ones + low
    · simp [reached, show i - low < ones by omega]
    · have zero : n.testBit i = false :=
        Nat.testBit_lt_two_pow (Nat.lt_of_lt_of_le word (Nat.pow_le_pow_right (by decide) (by omega)))
      simp [zero]
  · simp [reached]

/-! ## The highest bit -/

/-- Every bit below a set bit is set, as far as `2 ^ rounds` places down. -/
def fill : Nat → Nat → Nat
  | 0, n => n
  | rounds + 1, n => fill rounds n ||| fill rounds n >>> 2 ^ rounds

theorem fill_testBit (rounds n i : Nat) :
    (fill rounds n).testBit i = true ↔ ∃ j < 2 ^ rounds, n.testBit (i + j) = true := by
  induction rounds generalizing i with
  | zero => simp [fill]
  | succ rounds ih =>
    rw [fill, Nat.testBit_or, Nat.testBit_shiftRight, Bool.or_eq_true, ih, ih, Nat.pow_succ]
    constructor
    · rintro (⟨j, below, set⟩ | ⟨j, below, set⟩)
      · exact ⟨j, by omega, set⟩
      · exact ⟨2 ^ rounds + j, by omega, by rwa [show i + (2 ^ rounds + j) = 2 ^ rounds + i + j by omega]⟩
    · rintro ⟨j, below, set⟩
      by_cases near : j < 2 ^ rounds
      · exact .inl ⟨j, near, set⟩
      · refine .inr ⟨j - 2 ^ rounds, by omega, ?_⟩
        rwa [show 2 ^ rounds + i + (j - 2 ^ rounds) = i + j by omega]

/-- How many bits it takes to write a number. -/
def bits (n : Nat) : Nat := if n = 0 then 0 else n.log2 + 1

theorem bits_le {n k : Nat} : bits n ≤ k ↔ n < 2 ^ k := by
  unfold bits
  split
  · rename_i zero
    simp [zero]
  · rename_i positive
    rw [← Nat.log2_lt positive]
    exact Iff.rfl

theorem lt_bits {n k : Nat} : k < bits n ↔ 2 ^ k ≤ n := by
  rw [← not_iff_not, Nat.not_lt, Nat.not_le, bits_le]

theorem testBit_bits {n i : Nat} (set : n.testBit i = true) : i < bits n :=
  lt_bits.mpr (Nat.ge_two_pow_of_testBit set)

theorem top_set {n : Nat} (positive : n ≠ 0) : n.testBit (bits n - 1) = true := by
  obtain ⟨i, set, above⟩ := Nat.exists_most_significant_bit positive
  have within : i < bits n := testBit_bits set
  have below : n < 2 ^ (i + 1) := Nat.lt_pow_two_of_testBit n fun j far => above j (by omega)
  have short : bits n ≤ i + 1 := bits_le.mpr below
  rwa [show bits n - 1 = i by omega]

/-- Filled up, a number that has at most `2 ^ rounds` bits has nothing but ones. -/
theorem fill_ones {rounds n : Nat} (small : n < 2 ^ 2 ^ rounds) :
    fill rounds n = 2 ^ bits n - 1 := by
  have short : bits n ≤ 2 ^ rounds := bits_le.mpr small
  refine Nat.eq_of_testBit_eq fun i => ?_
  rw [Nat.testBit_two_pow_sub_one, Bool.eq_iff_iff, fill_testBit, decide_eq_true_iff]
  constructor
  · rintro ⟨j, _, set⟩
    have inside := testBit_bits set
    omega
  · intro inside
    have positive : n ≠ 0 := by
      rintro rfl
      exact Nat.not_lt_zero i inside
    refine ⟨bits n - 1 - i, by omega, ?_⟩
    rw [show i + (bits n - 1 - i) = bits n - 1 by omega]
    exact top_set positive

end Fixed
