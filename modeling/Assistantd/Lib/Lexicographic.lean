import Assistantd.Lib.CText

/-! The order of byte strings, and of numerals of one width in it. -/
namespace Assistantd.Lexicographic

open CText

theorem append_lt {α : Type} [LT α] {xs ys : List α} (same : xs.length = ys.length) (less : xs < ys)
    (zs zs' : List α) : xs ++ zs < ys ++ zs' := by
  induction xs generalizing ys with
  | nil =>
    rw [List.eq_nil_of_length_eq_zero same.symm] at less
    cases less
  | cons x xs ih =>
    cases ys with
    | nil => cases same
    | cons y ys =>
      rw [List.cons_append, List.cons_append, List.cons_lt_cons_iff]
      rcases List.cons_lt_cons_iff.mp less with first | ⟨rfl, later⟩
      · exact .inl first
      · exact .inr ⟨rfl, ih (by simpa using same) later⟩

/-- Bytes are compared by their values. -/
theorem lt_of_toNat {xs ys : List UInt8} (less : xs.map UInt8.toNat < ys.map UInt8.toNat) :
    xs < ys := by
  induction xs generalizing ys with
  | nil =>
    cases ys with
    | nil => cases less
    | cons y ys => exact .nil
  | cons x xs ih =>
    cases ys with
    | nil => cases less
    | cons y ys =>
      rw [List.map_cons, List.map_cons, List.cons_lt_cons_iff] at less
      rw [List.cons_lt_cons_iff]
      rcases less with first | ⟨same, later⟩
      · exact .inl (UInt8.lt_iff_toNat_lt.mpr first)
      · exact .inr ⟨UInt8.toNat_inj.mp same, ih later⟩

/-- Of two numbers of as many digits the lesser one is before the other, the first
digit being the most significant one. -/
theorem digits_lt {b : Nat} {xs ys : List Nat} (wide : 1 < b) (same : xs.length = ys.length)
    (small : ∀ d ∈ xs, d < b) (small' : ∀ d ∈ ys, d < b)
    (less : Nat.ofDigits b xs.reverse < Nat.ofDigits b ys.reverse) : xs < ys := by
  induction xs generalizing ys with
  | nil =>
    rw [List.eq_nil_of_length_eq_zero same.symm] at less
    exact absurd less (Nat.lt_irrefl _)
  | cons x xs ih =>
    cases ys with
    | nil => cases same
    | cons y ys =>
      obtain ⟨_, later⟩ := List.forall_mem_cons.mp small
      obtain ⟨_, later'⟩ := List.forall_mem_cons.mp small'
      have lengths : xs.length = ys.length := by simpa using same
      rw [Nat.ofDigits_reverse_cons, Nat.ofDigits_reverse_cons, ← lengths] at less
      rw [List.cons_lt_cons_iff]
      rcases Nat.lt_trichotomy x y with first | rfl | greater
      · exact .inl first
      · exact .inr ⟨rfl, ih lengths later later' (by omega)⟩
      · have bound : Nat.ofDigits b ys.reverse < b ^ xs.length := by
          rw [lengths, ← List.length_reverse]
          apply Nat.ofDigits_lt_base_pow_length wide
          exact fun d member => later' d (List.mem_reverse.mp member)
        have step : b ^ xs.length * (y + 1) ≤ b ^ xs.length * x := Nat.mul_le_mul_left _ greater
        rw [Nat.mul_succ] at step
        omega

theorem zeroPadded_lt {width m n : Nat} (less : m < n) (small : n < 10 ^ width) :
    zeroPadded width m < zeroPadded width n := by
  have values : ∀ n, (zeroPadded width n).map UInt8.toNat =
      (padded width n).reverse.map (48 + ·) := by
    intro n
    rw [zeroPadded, List.map_map]
    apply List.map_congr_left
    intro d member
    exact digit_toNat (padded_lt (List.mem_reverse.mp member))
  have digit : ∀ n, ∀ d ∈ (padded width n).reverse, d < 10 :=
    fun n d member => padded_lt (List.mem_reverse.mp member)
  have length : ∀ n, n < 10 ^ width → (padded width n).reverse.length = width := by
    intro n small
    have whole := zeroPadded_length small
    rwa [zeroPadded, List.length_map] at whole
  apply lt_of_toNat
  rw [values, values]
  apply List.map_lt fun _ _ first => Nat.add_lt_add_left first 48
  apply digits_lt (by decide) _ (digit m) (digit n)
  · rwa [List.reverse_reverse, List.reverse_reverse, padded_ofDigits, padded_ofDigits]
  · rw [length m (Nat.lt_trans less small), length n small]

end Assistantd.Lexicographic
