import Mathlib.Algebra.Order.BigOperators.Group.List
import Mathlib.Data.List.GetD
import Mathlib.Data.List.Induction
import Assistantd.Lib.Fixed

/-! The signal processing library under libfvad: spl_inl.h, spl_inl.c, division_operations.c,
get_scaling_square.c and energy.c. A signed addition that overflows, which C leaves
undefined, wraps; a shift to the right of a signed number divides, and rounds down. -/
namespace Assistantd.WebRtcSpl

open Fixed

def countLeadingZeros32Table : List Int :=
  [32, 8, 17, -1, -1, 14, -1, -1, -1, 20, -1, -1, -1, 28, -1, 18,
    -1, -1, -1, -1, -1, -1, -1, -1, -1, -1, -1, -1, 0, 26, 25, 24,
    4, 11, 23, 31, 3, 7, 10, 16, 22, 30, -1, -1, 2, 6, 13, 9,
    -1, 15, -1, 21, -1, 29, 19, -1, -1, -1, -1, -1, 1, 27, 5, 12]

/-- `WebRtcSpl_CountLeadingZeros32_NotBuiltin` -/
def countLeadingZeros32NotBuiltin (n : Nat) : Int :=
  let n := n ||| n >>> 1
  let n := n ||| n >>> 2
  let n := n ||| n >>> 4
  let n := n ||| n >>> 8
  let n := n ||| n >>> 16
  countLeadingZeros32Table.getD ((n * 0x8c0b2891 % 2 ^ 32) >>> 26) 0

/-- `WebRtcSpl_CountLeadingZeros32`, with the builtin of the compiler. -/
def countLeadingZeros32 (n : Nat) : Int := if n = 0 then 32 else 31 - n.log2

def getSizeInBits (n : Nat) : Int := 32 - countLeadingZeros32 n

def normW32 (a : Int) : Int :=
  if a = 0 then 0 else countLeadingZeros32 (if a < 0 then ~~~a else a).toNat - 1

def normU32 (a : Nat) : Int := if a = 0 then 0 else countLeadingZeros32 a

/-- `WebRtcSpl_DivW32W16`. C divides towards zero. -/
def divW32W16 (num den : Int) : Int := if den ≠ 0 then int32 (num.tdiv den) else 0x7FFFFFFF

def getScalingSquare (inVector : List Int) (times : Nat) : Int :=
  let nbits := getSizeInBits (times % 2 ^ 32)
  let smax := inVector.foldl (fun smax x => max (if x > 0 then x else int16 (-x)) smax) (-1)
  let t := normW32 (smax * smax)
  if smax = 0 then 0 else if t > nbits then 0 else nbits - t

/-- `WebRtcSpl_Energy`: the energy and its scale factor. -/
def energy (vector : List Int) : Int × Int :=
  let scaling := getScalingSquare vector vector.length
  (vector.foldl (fun (en x : Int) => int32 (en + x * x / 2 ^ scaling.toNat)) 0, scaling)

/-! ## Leading zeros -/

theorem countLeadingZeros32_bits (n : Nat) : countLeadingZeros32 n = 32 - bits n := by
  unfold countLeadingZeros32 bits
  split <;> omega

/-- The multiplier sends the words that are all ones from some bit down to different places. -/
theorem table_ones {length : Nat} (fits : length ≤ 32) :
    countLeadingZeros32Table.getD (((2 ^ length - 1) * 0x8c0b2891 % 2 ^ 32) >>> 26) 0 =
      32 - length := by
  have all : ∀ length : Nat, length ≤ 32 → countLeadingZeros32Table.getD
      (((2 ^ length - 1) * 0x8c0b2891 % 2 ^ 32) >>> 26) 0 = 32 - (length : Int) := by decide
  exact all length fits

/-- The table finds what the builtin of the compiler does, in every word. -/
theorem leading_zeros_agree (n : Nat) (word : n < 2 ^ 32) :
    countLeadingZeros32NotBuiltin n = countLeadingZeros32 n := by
  have filled : countLeadingZeros32NotBuiltin n =
      countLeadingZeros32Table.getD ((fill 5 n * 0x8c0b2891 % 2 ^ 32) >>> 26) 0 := rfl
  have fits : bits n ≤ 32 := bits_le.mpr word
  rw [filled, @fill_ones 5 n word, table_ones fits, countLeadingZeros32_bits]

theorem leading_zeros_agree_middle :
    countLeadingZeros32NotBuiltin 0x12345 = countLeadingZeros32 0x12345 :=
  leading_zeros_agree 0x12345 (by decide)

theorem normW32_bits {a : Int} (positive : 0 < a) : normW32 a = 31 - bits a.toNat := by
  rw [normW32, if_neg positive.ne', if_neg (not_lt.mpr positive.le), countLeadingZeros32_bits]
  omega

/-! ## Energy -/

/-- The largest magnitude among the samples. -/
def peak (v : List Int) : Int := v.foldl (fun smax x => max |x| smax) (-1)

theorem peak_snoc (v : List Int) (x : Int) : peak (v ++ [x]) = max |x| (peak v) := by
  rw [peak, List.foldl_append]
  rfl

theorem le_peak {v : List Int} : ∀ x ∈ v, |x| ≤ peak v := by
  induction v using List.reverseRecOn with
  | nil => exact List.forall_mem_nil _
  | append_singleton v y ih =>
    intro x member
    rw [peak_snoc]
    rcases List.mem_append.mp member with inside | last
    · exact le_max_of_le_right (ih x inside)
    · rw [List.mem_singleton.mp last]
      exact le_max_left _ _

theorem peak_mem {v : List Int} (some_samples : v ≠ []) : ∃ x ∈ v, |x| = peak v := by
  induction v using List.reverseRecOn with
  | nil => exact absurd rfl some_samples
  | append_singleton v y ih =>
    rw [peak_snoc]
    by_cases larger : peak v ≤ |y|
    · exact ⟨y, List.mem_append_right _ List.mem_cons_self, (max_eq_left larger).symm⟩
    · have earlier : v ≠ [] := by
        rintro rfl
        exact larger (le_trans (by decide) (abs_nonneg y))
      obtain ⟨x, member, top⟩ := ih earlier
      exact ⟨x, List.mem_append_left _ member, by rw [top, max_eq_right (not_le.mp larger).le]⟩

/-- No sample but the least of them all has a magnitude that does not fit. -/
theorem getScalingSquare_peak {v : List Int} (samples : ∀ x ∈ v, -32768 < x ∧ x < 32768)
    (times : Nat) : getScalingSquare v times =
      if peak v = 0 then 0
      else if normW32 (peak v * peak v) > getSizeInBits (times % 2 ^ 32) then 0
      else getSizeInBits (times % 2 ^ 32) - normW32 (peak v * peak v) := by
  have magnitude : ∀ x ∈ v, (if x > 0 then x else int16 (-x)) = |x| := by
    intro x member
    obtain ⟨low, high⟩ := samples x member
    split
    · rename_i positive
      exact (abs_of_pos positive).symm
    · rw [int16_of_fits (by omega) (by omega), abs_of_nonpos (by omega)]
  have same : v.foldl (fun smax x => max (if x > 0 then x else int16 (-x)) smax) (-1) = peak v :=
    List.foldl_ext _ _ _ fun smax x member => by rw [magnitude x member]
  rw [getScalingSquare, same]

theorem foldl_exact {f : Int → Int} {v : List Int} {a : Int} (start : 0 ≤ a)
    (nonneg : ∀ x ∈ v, 0 ≤ f x) (total : a + (v.map f).sum < 2 ^ 31) :
    v.foldl (fun en x => int32 (en + f x)) a = a + (v.map f).sum := by
  induction v generalizing a with
  | nil => simp
  | cons x v ih =>
    have here := nonneg x List.mem_cons_self
    have later : ∀ y ∈ v, 0 ≤ f y := fun y member => nonneg y (List.mem_cons_of_mem _ member)
    have rest : 0 ≤ (v.map f).sum := List.sum_nonneg (List.forall_mem_map.mpr later)
    rw [List.map_cons, List.sum_cons] at total ⊢
    rw [List.foldl_cons, int32_of_fits (by omega) (by omega), ih (by omega) later (by omega)]
    omega

theorem sum_take_le {f : Int → Int} {v : List Int} (nonneg : ∀ x ∈ v, 0 ≤ f x) (k : Nat) :
    ((v.take k).map f).sum ≤ (v.map f).sum := by
  have rest : 0 ≤ ((v.drop k).map f).sum :=
    List.sum_nonneg (List.forall_mem_map.mpr fun x member => nonneg x (List.mem_of_mem_drop member))
  have split : (v.map f).sum = ((v.take k).map f).sum + ((v.drop k).map f).sum := by
    rw [← List.sum_append, ← List.map_append, List.take_append_drop]
  omega

/-- What the scale factor is chosen for. -/
theorem scaling_fits {v : List Int} (samples : ∀ x ∈ v, -32768 < x ∧ x < 32768)
    (short : v.length < 2 ^ 32) :
    ∃ scaling : Nat, getScalingSquare v v.length = scaling ∧
      (v.length * (peak v * peak v) < 2 ^ (31 + scaling)) ∧
      (0 < scaling → ∃ x ∈ v, 2 ^ (29 + scaling) ≤ v.length * (x * x)) := by
  rw [getScalingSquare_peak samples, Nat.mod_eq_of_lt short]
  by_cases none : v = []
  · subst none
    exact ⟨0, by decide, by decide, fun positive => absurd positive (lt_irrefl 0)⟩
  obtain ⟨x, member, top⟩ := peak_mem none
  have square : x * x = peak v * peak v := by rw [← top, abs_mul_abs_self]
  by_cases zero : peak v = 0
  · rw [if_pos zero, zero]
    exact ⟨0, rfl, by simp, fun positive => absurd positive (lt_irrefl 0)⟩
  have positive : 0 < peak v * peak v := mul_self_pos.mpr zero
  have below : |x| ≤ 32767 := abs_le.mpr ⟨by have := samples x member; omega, by
    have := samples x member; omega⟩
  have size : peak v * peak v ≤ 32767 * 32767 := by
    rw [← top]
    exact mul_le_mul below below (abs_nonneg x) (by decide)
  obtain ⟨p, same⟩ : ∃ p : Nat, peak v * peak v = p := Int.eq_ofNat_of_zero_le positive.le
  rw [same] at positive size ⊢
  have few : bits p ≤ 30 := bits_le.mpr (by omega)
  have norm : normW32 p = 31 - bits p := normW32_bits positive
  have width : getSizeInBits v.length = bits v.length := by
    rw [getSizeInBits, countLeadingZeros32_bits]
    omega
  have under : p < 2 ^ bits p := bits_le.mp le_rfl
  have count : v.length < 2 ^ bits v.length := bits_le.mp le_rfl
  rw [if_neg zero, norm, width]
  obtain ⟨scaling, value, least⟩ : ∃ scaling : Nat,
      (if (31 : Int) - bits p > bits v.length then (0 : Int)
        else bits v.length - (31 - bits p)) = scaling ∧
      scaling = bits v.length + bits p - 31 :=
    ⟨bits v.length + bits p - 31, by split <;> omega, rfl⟩
  refine ⟨scaling, value, ?_, fun scaled => ⟨x, member, ?_⟩⟩
  · have product := Nat.mul_lt_mul'' count under
    rw [← Nat.pow_add] at product
    have bounded : v.length * p < 2 ^ (31 + scaling) :=
      Nat.lt_of_lt_of_le product (Nat.pow_le_pow_right (by decide) (by omega))
    exact_mod_cast bounded
  · have some_samples : v.length ≠ 0 := fun empty => none (List.length_eq_zero_iff.mp empty)
    have tall : 0 < bits p := lt_bits.mpr (show 2 ^ 0 ≤ p by omega)
    have long : 0 < bits v.length := lt_bits.mpr (show 2 ^ 0 ≤ v.length by omega)
    have high : 2 ^ (bits p - 1) ≤ p := lt_bits.mp (by omega)
    have many : 2 ^ (bits v.length - 1) ≤ v.length := lt_bits.mp (by omega)
    have product : 2 ^ (29 + scaling) ≤ v.length * p := by
      rw [show 29 + scaling = bits v.length - 1 + (bits p - 1) by omega, Nat.pow_add]
      exact Nat.mul_le_mul many high
    rw [square, same]
    exact_mod_cast product

/-- However loud a band is, its energy is added up without an overflow, at a scale that
leaves at least 29 bits of it. -/
theorem energy_exact {vector : List Int} (samples : ∀ x ∈ vector, -32768 < x ∧ x < 32768)
    (short : vector.length < 2 ^ 32) :
    ∃ scaling : Nat, (energy vector).2 = scaling ∧
      (energy vector).1 = (vector.map fun x => x * x / 2 ^ scaling).sum ∧
      (∀ k, ((vector.take k).map fun x => x * x / 2 ^ scaling).sum < 2 ^ 31) ∧
      (0 < scaling → ∃ x ∈ vector, 2 ^ (29 + scaling) ≤ vector.length * (x * x)) := by
  obtain ⟨scaling, value, bounded, used⟩ := scaling_fits samples short
  have power : (0 : Int) < 2 ^ scaling := Int.pow_pos (by decide)
  have nonneg : ∀ x ∈ vector, 0 ≤ x * x / 2 ^ scaling := fun x _ =>
    Int.ediv_nonneg (mul_self_nonneg x) power.le
  have total : (vector.map fun x => x * x / 2 ^ scaling).sum < 2 ^ 31 := by
    have each : ∀ y ∈ vector.map fun x => x * x / 2 ^ scaling,
        y ≤ peak vector * peak vector / 2 ^ scaling := by
      refine List.forall_mem_map.mpr fun x member => Int.ediv_le_ediv power ?_
      rw [← abs_mul_abs_self]
      have inside := le_peak x member
      exact mul_le_mul inside inside (abs_nonneg x) (le_trans (abs_nonneg x) inside)
    have all := List.sum_le_card_nsmul _ _ each
    rw [List.length_map, nsmul_eq_mul] at all
    refine lt_of_le_of_lt all ?_
    have whole := Int.ediv_mul_le (peak vector * peak vector) power.ne'
    rw [Int.pow_add] at bounded
    refine lt_of_mul_lt_mul_right ?_ power.le
    refine lt_of_le_of_lt ?_ bounded
    rw [mul_assoc]
    exact mul_le_mul_of_nonneg_left whole (Int.natCast_nonneg _)
  refine ⟨scaling, value, ?_, fun k => lt_of_le_of_lt (sum_take_le nonneg k) total, used⟩
  have folded := foldl_exact (le_refl 0) nonneg (by rwa [zero_add])
  rw [zero_add] at folded
  rw [energy, value]
  simpa only [Int.toNat_natCast] using folded

theorem energy_exact_loud :
    ∃ scaling : Nat, (energy [32767, -32767, 5]).2 = scaling ∧
      (energy [32767, -32767, 5]).1 = (([32767, -32767, 5] : List Int).map fun x => x * x / 2 ^ scaling).sum ∧
      (∀ k, ((([32767, -32767, 5] : List Int).take k).map fun x => x * x / 2 ^ scaling).sum < 2 ^ 31) ∧
      (0 < scaling → ∃ x ∈ ([32767, -32767, 5] : List Int),
        2 ^ (29 + scaling) ≤ ([32767, -32767, 5] : List Int).length * (x * x)) :=
  energy_exact (by decide) (by decide)

/-- The least sample has no magnitude in a word, and two of them overflow. -/
example : (energy [-32768, -32768]).1 = -2147483648 := by decide

end Assistantd.WebRtcSpl
