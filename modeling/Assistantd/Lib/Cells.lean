import Mathlib.Data.List.GetD
import Mathlib.Logic.Function.Basic

/-! A block of memory is a function from cell numbers. Its size, and that an
access stays inside it, belong to whoever owns the block. -/
namespace Cells

variable {α : Type}

/-- `memcpy` of `xs` over the cells from `off` on. -/
def copyIn (mem : Nat → α) (off : Nat) (xs : List α) : Nat → α := fun k =>
  if off ≤ k then xs.getD (k - off) (mem k) else mem k

/-- The `n` cells from `off` on. -/
def slice (mem : Nat → α) (off n : Nat) : List α := (List.range n).map fun i => mem (off + i)

@[simp] theorem slice_length (mem : Nat → α) (off n : Nat) : (slice mem off n).length = n := by
  simp [slice]

@[simp] theorem slice_zero (mem : Nat → α) (off : Nat) : slice mem off 0 = [] := rfl

@[simp] theorem slice_getElem (mem : Nat → α) (off n i : Nat) (h : i < (slice mem off n).length) :
    (slice mem off n)[i] = mem (off + i) := by
  simp [slice]

theorem copyIn_inside (mem : Nat → α) (off : Nat) (xs : List α) (i : Nat) (h : i < xs.length) :
    copyIn mem off xs (off + i) = xs[i] := by
  simp [copyIn, h]

theorem copyIn_outside (mem : Nat → α) (off : Nat) (xs : List α) (k : Nat)
    (h : k < off ∨ off + xs.length ≤ k) : copyIn mem off xs k = mem k := by
  unfold copyIn
  split
  · exact List.getD_eq_default _ _ (by omega)
  · rfl

@[simp] theorem copyIn_nil (mem : Nat → α) (off : Nat) : copyIn mem off [] = mem := by
  funext k
  exact copyIn_outside mem off [] k (by simp; omega)

theorem slice_copyIn_same (mem : Nat → α) (off : Nat) (xs : List α) :
    slice (copyIn mem off xs) off xs.length = xs := by
  apply List.ext_getElem (by simp)
  intro i _ h
  rw [slice_getElem, copyIn_inside mem off xs i h]

theorem slice_copyIn_before (mem : Nat → α) (off : Nat) (xs : List α) (start n : Nat)
    (h : start + n ≤ off) : slice (copyIn mem off xs) start n = slice mem start n := by
  apply List.ext_getElem (by simp)
  intro i hi _
  simp only [slice_length] at hi
  rw [slice_getElem, slice_getElem, copyIn_outside mem off xs _ (by omega)]

theorem slice_update_outside (mem : Nat → α) (off n k : Nat) (x : α) (h : k < off ∨ off + n ≤ k) :
    slice (Function.update mem k x) off n = slice mem off n := by
  apply List.map_congr_left
  intro i below
  rw [List.mem_range] at below
  exact Function.update_of_ne (by omega) _ _

theorem slice_append (mem : Nat → α) (off m n : Nat) :
    slice mem off (m + n) = slice mem off m ++ slice mem (off + m) n := by
  simp [slice, List.range_add, Nat.add_assoc]

/-- Copying `xs` right behind the first `n` cells appends it to what they hold. -/
theorem slice_copyIn_append (mem : Nat → α) (n : Nat) (xs : List α) :
    slice (copyIn mem n xs) 0 (n + xs.length) = slice mem 0 n ++ xs := by
  have copied := slice_copyIn_same mem n xs
  rw [slice_append, slice_copyIn_before mem n xs 0 n (by omega), Nat.zero_add, copied]

end Cells
