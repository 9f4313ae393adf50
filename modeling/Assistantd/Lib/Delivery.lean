import Mathlib.Data.List.Basic

/-! A source that is read piece by piece into a room of fixed size, by a reader that
asks for all it has room for until nothing comes. -/
namespace Delivery

variable {α : Type}

/-- One answer to a read: what came, and whether reading failed in it. -/
structure Answer (α : Type) where
  piece : List α
  failed : Bool

/-- What an answer may be to a read of `requested` items with `rest` still to come. A
failure leaves the read short; nothing at all comes only at the end or on a failure. -/
structure Answer.Fits (rest : List α) (requested : Nat) (answer : Answer α) : Prop where
  ordered : answer.piece <+: rest
  fits : answer.piece.length ≤ requested
  ends : answer.piece = [] → rest = [] ∨ answer.failed = true
  short : answer.failed = true → answer.piece.length < requested

/-- What has come before the `k`th read. -/
def taken (answers : Nat → Answer α) (k : Nat) : List α :=
  (List.range k).flatMap fun i => (answers i).piece

/-- As long as there is room, every read is answered with the next piece. -/
def Delivers (content : List α) (room : Nat) (answers : Nat → Answer α) : Prop :=
  ∀ k, (taken answers k).length < room →
    (answers k).Fits (content.drop (taken answers k).length) (room - (taken answers k).length)

/-- The reader makes the `k`th read: something came each time, and there is room left. -/
def Made (room : Nat) (answers : Nat → Answer α) (k : Nat) : Prop :=
  (∀ j < k, (answers j).piece ≠ []) ∧ (taken answers k).length < room

instance (room : Nat) (answers : Nat → Answer α) (k : Nat) : Decidable (Made room answers k) :=
  inferInstanceAs (Decidable (_ ∧ _))

/-- The reader makes `n` reads. -/
structure Ends (room : Nat) (answers : Nat → Answer α) (n : Nat) : Prop where
  made : ∀ k < n, Made room answers k
  last : ¬ Made room answers n

/-- One of the reads that are made fails, before the room is full. -/
def Fails (room : Nat) (answers : Nat → Answer α) : Prop :=
  ∃ k, Made room answers k ∧ (answers k).failed = true ∧ (taken answers (k + 1)).length < room

variable {content : List α} {room : Nat} {answers : Nat → Answer α} {k n : Nat}

@[simp] theorem taken_zero (answers : Nat → Answer α) : taken answers 0 = [] := rfl

@[simp] theorem taken_succ (answers : Nat → Answer α) (k : Nat) :
    taken answers (k + 1) = taken answers k ++ (answers k).piece := by
  simp [taken, List.range_succ]

/-- Every read that brings something brings at least one item. -/
theorem taken_length (some : ∀ j < k, (answers j).piece ≠ []) : k ≤ (taken answers k).length := by
  induction k with
  | zero => exact Nat.zero_le _
  | succ k ih =>
    obtain ⟨earlier, last⟩ := Nat.forall_lt_succ_right.mp some
    have longer := ih earlier
    have more := List.length_pos_iff.mpr last
    rw [taken_succ, List.length_append]
    omega

theorem Made.lt (h : Made room answers k) : k < room := Nat.lt_of_le_of_lt (taken_length h.1) h.2

theorem Made.earlier (h : Made room answers k) {j : Nat} (before : j ≤ k) :
    Made room answers j := by
  refine ⟨fun i less => h.1 i (Nat.lt_of_lt_of_le less before), ?_⟩
  induction before with
  | refl => exact h.2
  | step _ ih =>
    refine ih ⟨fun i less => h.1 i (Nat.lt_succ_of_lt less), ?_⟩
    have longer := h.2
    rw [taken_succ, List.length_append] at longer
    omega

theorem Ends.le (h : Ends room answers n) : n ≤ room := by
  cases n with
  | zero => exact Nat.zero_le _
  | succ n => exact (h.made n (Nat.lt_succ_self n)).lt

theorem Ends.made_iff (h : Ends room answers n) : Made room answers k ↔ k < n := by
  constructor
  · intro made
    by_contra past
    exact h.last (made.earlier (Nat.le_of_not_lt past))
  · exact h.made k

/-- A read that fails is answered short, so it leaves room. -/
theorem Ends.fails_iff (h : Ends room answers n) (delivers : Delivers content room answers) :
    Fails room answers ↔ ∃ k < n, (answers k).failed = true := by
  constructor
  · rintro ⟨k, made, failed, _⟩
    exact ⟨k, h.made_iff.mp made, failed⟩
  · rintro ⟨k, less, failed⟩
    have made := h.made k less
    have short := (delivers k made.2).short failed
    refine ⟨k, made, failed, ?_⟩
    rw [taken_succ, List.length_append]
    omega

/-- What has come is the beginning of the content, and it has room. -/
theorem taken_prefix (delivers : Delivers content room answers)
    (made : ∀ k < n, Made room answers k) :
    taken answers n <+: content ∧ (taken answers n).length ≤ room := by
  induction n with
  | zero => exact ⟨List.nil_prefix, Nat.zero_le _⟩
  | succ n ih =>
    obtain ⟨earlier, last⟩ := Nat.forall_lt_succ_right.mp made
    obtain ⟨⟨rest, rfl⟩, _⟩ := ih earlier
    have room_left := last.2
    have next := delivers n room_left
    have fits := next.fits
    obtain ⟨later, more⟩ := next.ordered
    rw [List.drop_left] at more
    rw [taken_succ, List.length_append]
    exact ⟨⟨later, by rw [List.append_assoc, more]⟩, by omega⟩

/-- Without a failure the reader ends up with all there is room for, however it
came in pieces. -/
theorem Ends.whole (h : Ends room answers n) (delivers : Delivers content room answers)
    (sound : ¬ Fails room answers) : taken answers n = content.take room := by
  obtain ⟨start, fits⟩ := taken_prefix delivers h.made
  by_cases full : (taken answers n).length < room
  · have nothing : ∃ j < n, (answers j).piece = [] := by
      by_contra none
      push Not at none
      exact h.last ⟨none, full⟩
    obtain ⟨j, less, empty⟩ := nothing
    have made := h.made j less
    rcases (delivers j made.2).ends empty with all | failed
    · -- the empty answer is the last one, so nothing is left after it either
      have last : j + 1 = n := by
        by_contra other
        exact (h.made (j + 1) (by omega)).1 j (Nat.lt_succ_self j) empty
      rw [← last, taken_succ, empty, List.append_nil] at start full ⊢
      have same := List.IsPrefix.eq_of_length_le start (List.drop_eq_nil_iff.mp all)
      rw [same, List.take_of_length_le]
      rw [← same]
      exact Nat.le_of_lt full
    · exact absurd ((h.fails_iff delivers).mpr ⟨j, less, failed⟩) sound
  · have length : (taken answers n).length = room := by omega
    rw [List.prefix_iff_eq_take.mp start, length]

/-- Nothing comes of a content that is empty. -/
theorem Ends.empty_iff (h : Ends room answers n) (delivers : Delivers content room answers)
    (sound : ¬ Fails room answers) (positive : 0 < room) : taken answers n = [] ↔ content = [] := by
  rw [h.whole delivers sound, List.take_eq_nil_iff]
  exact or_iff_right (Nat.pos_iff_ne_zero.mp positive)

end Delivery
