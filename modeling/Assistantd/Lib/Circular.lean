import Mathlib.Logic.Function.Basic
import Assistantd.Lib.Cells

/-! A window of a stream kept in the `cap` cells of a circular buffer: stream
position `p` lives in cell `p % cap`. -/
namespace Circular

variable {α : Type}

/-- The cells from stream position `start` on hold `xs`. -/
def Holds (mem : Nat → α) (cap start : Nat) (xs : List α) : Prop :=
  ∀ i (h : i < xs.length), mem ((start + i) % cap) = xs[i]

/-- Two positions of one window never share a cell. -/
theorem cell_ne {i j : Nat} (cap start : Nat) (hij : i < j) (hj : j < i + cap) :
    (start + i) % cap ≠ (start + j) % cap := by
  intro same
  have divides : cap ∣ (start + j) - (start + i) :=
    Nat.dvd_of_mod_eq_zero (Nat.sub_mod_eq_zero_of_mod_eq same.symm)
  have zero := Nat.eq_zero_of_dvd_of_lt divides (by omega)
  omega

/-- Where a cell lies once its offset in the window is known. -/
theorem cell_eq {cap pos i : Nat} (hpos : pos < cap) (hi : i < cap) :
    (pos + i) % cap = if pos + i < cap then pos + i else pos + i - cap := by
  split
  · exact Nat.mod_eq_of_lt (by assumption)
  · rw [Nat.mod_eq_sub_mod (by omega), Nat.mod_eq_of_lt (by omega)]

theorem holds_nil (mem : Nat → α) (cap start : Nat) : Holds mem cap start [] := by
  intro i h
  simp at h

theorem Holds.drop {mem : Nat → α} {cap start : Nat} {xs : List α} (h : Holds mem cap start xs)
    (n : Nat) : Holds mem cap (start + n) (xs.drop n) := by
  intro i hi
  have inside : n + i < xs.length := by simp at hi; omega
  have cell := h (n + i) inside
  rw [List.getElem_drop, Nat.add_assoc]
  exact cell

theorem Holds.take {mem : Nat → α} {cap start : Nat} {xs : List α} (h : Holds mem cap start xs)
    (n : Nat) : Holds mem cap start (xs.take n) := by
  intro i hi
  rw [List.getElem_take]
  exact h i _

/-- Only the cell a stream position falls into matters, not the position. -/
theorem Holds.shift {mem : Nat → α} {cap start start' : Nat} {xs : List α}
    (h : Holds mem cap start xs) (same : start % cap = start' % cap) :
    Holds mem cap start' xs := by
  intro i hi
  have cell : (start' + i) % cap = (start + i) % cap := by
    rw [← Nat.mod_add_mod start', ← same, Nat.mod_add_mod]
  rw [cell]
  exact h i hi

/-- Filling the next free cell extends the window by one. -/
theorem Holds.push {mem : Nat → α} {cap start : Nat} {xs : List α} (h : Holds mem cap start xs)
    (room : xs.length < cap) (x : α) :
    Holds (Function.update mem ((start + xs.length) % cap) x) cap start (xs ++ [x]) := by
  intro i hi
  by_cases last : i = xs.length
  · subst last
    simp
  · have inside : i < xs.length := by simp at hi; omega
    have other := cell_ne cap start inside (by omega)
    rw [Function.update_of_ne other, List.getElem_append_left inside]
    exact h i inside

/-- A cell outside the window can be overwritten freely. -/
theorem Holds.frame {mem mem' : Nat → α} {cap start : Nat} {xs : List α}
    (h : Holds mem cap start xs)
    (same : ∀ i < xs.length, mem' ((start + i) % cap) = mem ((start + i) % cap)) :
    Holds mem' cap start xs := by
  intro i hi
  rw [same i hi, h i hi]

/-- A copy of `xs` from cell `pos` on that goes round at the physical end. -/
def copyRound (cap : Nat) (mem : Nat → α) (pos : Nat) (xs : List α) : Nat → α :=
  Cells.copyIn (Cells.copyIn mem pos (xs.take (min xs.length (cap - pos)))) 0
    (xs.drop (min xs.length (cap - pos)))

theorem copyRound_inside {cap pos : Nat} (mem : Nat → α) {xs : List α} (hpos : pos < cap)
    (fits : xs.length ≤ cap) (i : Nat) (h : i < xs.length) :
    copyRound cap mem pos xs ((pos + i) % cap) = xs[i] := by
  rw [cell_eq hpos (by omega)]
  unfold copyRound
  split
  · -- the cell lies in the first chunk, which the second one does not reach
    have first : i < min xs.length (cap - pos) := by omega
    rw [Cells.copyIn_outside _ _ _ _ (by simp; omega),
      Cells.copyIn_inside _ _ _ i (by simp; omega), List.getElem_take]
  · have second : pos + i - cap = 0 + (i - min xs.length (cap - pos)) := by omega
    rw [second, Cells.copyIn_inside _ _ _ _ (by simp; omega), List.getElem_drop]
    congr 1
    omega

theorem copyRound_outside {cap pos : Nat} (mem : Nat → α) {xs : List α} (hpos : pos < cap)
    (j : Nat) (after : xs.length ≤ j) (hj : j < cap) :
    copyRound cap mem pos xs ((pos + j) % cap) = mem ((pos + j) % cap) := by
  rw [cell_eq hpos hj]
  unfold copyRound
  split
  · rw [Cells.copyIn_outside _ _ _ _ (by simp; omega),
      Cells.copyIn_outside _ _ _ _ (by simp; omega)]
  · rw [Cells.copyIn_outside _ _ _ _ (by simp; omega),
      Cells.copyIn_outside _ _ _ _ (by simp; omega)]

/-- No copy that goes round leaves the `cap` cells. -/
theorem copyRound_bounds {cap pos k : Nat} (mem : Nat → α) {xs : List α} (hpos : pos < cap)
    (fits : xs.length ≤ cap) (beyond : cap ≤ k) :
    copyRound cap mem pos xs k = mem k := by
  unfold copyRound
  rw [Cells.copyIn_outside _ _ _ _ (by simp; omega), Cells.copyIn_outside _ _ _ _ (by simp; omega)]

@[simp] theorem copyRound_nil (cap : Nat) (mem : Nat → α) (pos : Nat) :
    copyRound cap mem pos [] = mem := by
  simp [copyRound]

/-- A copy that goes round, one cell at a time. -/
theorem copyRound_push {cap pos : Nat} (mem : Nat → α) {xs : List α} (hpos : pos < cap)
    (room : xs.length < cap) (x : α) :
    copyRound cap mem pos (xs ++ [x]) =
      Function.update (copyRound cap mem pos xs) ((pos + xs.length) % cap) x := by
  have length : (xs ++ [x]).length = xs.length + 1 := by simp
  funext k
  by_cases beyond : cap ≤ k
  · have other : k ≠ (pos + xs.length) % cap := by
      have inside := Nat.mod_lt (pos + xs.length) (show 0 < cap by omega)
      omega
    rw [Function.update_of_ne other, copyRound_bounds mem hpos (by omega) beyond,
      copyRound_bounds mem hpos (by omega) beyond]
  · -- every cell is some offset `j` from the first one
    obtain ⟨j, hj, rfl⟩ : ∃ j < cap, k = (pos + j) % cap := by
      by_cases after : pos ≤ k
      · refine ⟨k - pos, by omega, ?_⟩
        rw [Nat.add_sub_cancel' after, Nat.mod_eq_of_lt (by omega)]
      · refine ⟨k + cap - pos, by omega, ?_⟩
        rw [Nat.add_sub_cancel' (by omega), Nat.add_mod_right, Nat.mod_eq_of_lt (by omega)]
    rcases Nat.lt_trichotomy j xs.length with old | rfl | later
    · have other := cell_ne cap pos old (by omega)
      rw [Function.update_of_ne other, copyRound_inside mem hpos (by omega) j (by omega),
        copyRound_inside mem hpos (by omega) j old, List.getElem_append_left old]
    · rw [Function.update_self, copyRound_inside mem hpos (by omega) _ (by omega)]
      simp
    · have other := (cell_ne cap pos later (by omega)).symm
      rw [Function.update_of_ne other, copyRound_outside mem hpos j (by omega) hj,
        copyRound_outside mem hpos j (by omega) hj]

/-- Copying `ys` behind a window extends it, as long as both fit. -/
theorem Holds.written {mem : Nat → α} {cap start : Nat} {xs ys : List α}
    (h : Holds mem cap start xs) (positive : 0 < cap) (fits : xs.length + ys.length ≤ cap) :
    Holds (copyRound cap mem ((start + xs.length) % cap) ys) cap start (xs ++ ys) := by
  have hpos : (start + xs.length) % cap < cap := Nat.mod_lt _ positive
  intro i hi
  simp only [List.length_append] at hi
  by_cases old : i < xs.length
  · -- counted from the end of the window, an old cell is `cap - (xs.length - i)` ahead
    have ahead : (start + i) % cap =
        ((start + xs.length) % cap + (cap - (xs.length - i))) % cap := by
      rw [Nat.mod_add_mod, show start + xs.length + (cap - (xs.length - i)) =
        start + i + cap by omega, Nat.add_mod_right]
    rw [List.getElem_append_left old, ← h i old, ahead]
    exact copyRound_outside mem hpos _ (by omega) (by omega)
  · have new : (start + i) % cap = ((start + xs.length) % cap + (i - xs.length)) % cap := by
      rw [Nat.mod_add_mod]
      congr 1
      omega
    rw [List.getElem_append_right (by omega), new]
    exact copyRound_inside mem hpos (by omega) _ (by omega)

/-- Reading `n` cells from `pos` on, going round at the physical end. -/
def sliceRound (cap : Nat) (mem : Nat → α) (pos n : Nat) : List α :=
  Cells.slice mem pos (min n (cap - pos)) ++ Cells.slice mem 0 (n - min n (cap - pos))

@[simp] theorem sliceRound_length (cap : Nat) (mem : Nat → α) (pos n : Nat) :
    (sliceRound cap mem pos n).length = n := by
  simp only [sliceRound, List.length_append, Cells.slice_length]
  omega

theorem sliceRound_getElem {cap pos n i : Nat} (mem : Nat → α) (hpos : pos < cap) (hn : n ≤ cap)
    (hi : i < n) (h : i < (sliceRound cap mem pos n).length) :
    (sliceRound cap mem pos n)[i] = mem ((pos + i) % cap) := by
  rw [cell_eq hpos (by omega)]
  simp only [sliceRound, List.getElem_append, Cells.slice_length, Cells.slice_getElem]
  split <;> split
  · rfl
  · omega
  · omega
  · congr 1
    omega

theorem sliceRound_push {cap pos n : Nat} (mem : Nat → α) (hpos : pos < cap) (room : n < cap) :
    sliceRound cap mem pos (n + 1) = sliceRound cap mem pos n ++ [mem ((pos + n) % cap)] := by
  apply List.ext_getElem (by simp)
  intro i hi hi'
  rw [sliceRound_length] at hi
  rw [sliceRound_getElem mem hpos (by omega) hi]
  by_cases old : i < n
  · rw [List.getElem_append_left (by simpa using old),
      sliceRound_getElem mem hpos (by omega) old]
  · obtain rfl : i = n := by omega
    simp [List.getElem_append_right]

theorem Holds.readBack {mem : Nat → α} {cap start : Nat} {xs : List α}
    (h : Holds mem cap start xs) (positive : 0 < cap) (fits : xs.length ≤ cap) {n : Nat}
    (hn : n ≤ xs.length) : sliceRound cap mem (start % cap) n = xs.take n := by
  apply List.ext_getElem
  · simp [hn]
  · intro i hi _
    have bound : i < n := by simpa using hi
    rw [sliceRound_getElem mem (Nat.mod_lt _ positive) (by omega) bound, Nat.mod_add_mod,
      List.getElem_take]
    exact h i (by omega)

end Circular
