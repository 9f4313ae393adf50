import Mathlib.Data.List.Basic
import Mathlib.Data.List.Induction
import Mathlib.Tactic.Common

/-! A stream that arrives in chunks of any size and is taken off in frames of
`size` items. -/
namespace Framing

variable {α : Type}

/-- The whole frames of a stream. -/
def frames (size : Nat) (xs : List α) : List (List α) :=
  (List.range (xs.length / size)).map fun i => (xs.drop (size * i)).take size

/-- What is too short for a frame as yet. -/
def rest (size : Nat) (xs : List α) : List α := xs.drop (size * (xs.length / size))

variable {size : Nat} {xs : List α}

@[simp] theorem frames_nil (size : Nat) : frames size ([] : List α) = [] := by
  simp [frames]

@[simp] theorem rest_nil (size : Nat) : rest size ([] : List α) = [] := by
  simp [rest]

theorem rest_length (size : Nat) (xs : List α) : (rest size xs).length = xs.length % size := by
  have whole := Nat.div_add_mod xs.length size
  rw [rest, List.length_drop]
  omega

theorem rest_short (positive : 0 < size) (xs : List α) : (rest size xs).length < size := by
  rw [rest_length]
  exact Nat.mod_lt _ positive

theorem frames_at {frame : List α} {i : Nat} : (frames size xs)[i]? = some frame ↔
    i < xs.length / size ∧ (xs.drop (size * i)).take size = frame := by
  simp [frames, List.getElem?_eq_some_iff]

theorem frame_length {frame : List α} (member : frame ∈ frames size xs) : frame.length = size := by
  obtain ⟨i, inside, rfl⟩ := List.mem_map.mp member
  have within : i + 1 ≤ xs.length / size := List.mem_range.mp inside
  have enough := Nat.le_trans (Nat.mul_le_mul_left size within) (Nat.mul_div_le xs.length size)
  rw [Nat.mul_add, Nat.mul_one] at enough
  rw [List.length_take, List.length_drop]
  omega

theorem mem_of_mem_frame {frame : List α} {x : α} (member : frame ∈ frames size xs)
    (inside : x ∈ frame) : x ∈ xs := by
  obtain ⟨i, _, rfl⟩ := List.mem_map.mp member
  exact List.mem_of_mem_drop (List.mem_of_mem_take inside)

/-- More items do not change the frames that are there. -/
theorem frames_append (xs chunk : List α) :
    (List.range (xs.length / size)).map (fun i => ((xs ++ chunk).drop (size * i)).take size) =
      frames size xs := by
  apply List.map_congr_left
  intro i inside
  have within : i + 1 ≤ xs.length / size := List.mem_range.mp inside
  have enough := Nat.le_trans (Nat.mul_le_mul_left size within) (Nat.mul_div_le xs.length size)
  rw [Nat.mul_add, Nat.mul_one] at enough
  rw [List.drop_append_of_le_length (by omega), List.take_append_of_le_length (by
    rw [List.length_drop]
    omega)]

theorem rest_append (xs chunk : List α) :
    (xs ++ chunk).drop (size * (xs.length / size)) = rest size xs ++ chunk :=
  List.drop_append_of_le_length (Nat.mul_div_le _ _)

/-- A chunk that completes no frame. -/
theorem append_short {xs chunk : List α}
    (few : (rest size xs ++ chunk).length < size) :
    frames size (xs ++ chunk) = frames size xs ∧ rest size (xs ++ chunk) = rest size xs ++ chunk := by
  have whole := Nat.div_add_mod xs.length size
  rw [List.length_append, rest_length] at few
  have same : (xs ++ chunk).length / size = xs.length / size := by
    rw [List.length_append]
    apply Nat.div_eq_of_lt_le
    · rw [Nat.mul_comm]
      omega
    · rw [Nat.succ_mul, Nat.mul_comm]
      omega
  constructor
  · rw [frames, same]
    exact frames_append xs chunk
  · rw [rest, same]
    exact rest_append xs chunk

/-- A chunk that completes one. -/
theorem append_frame (size : Nat) (xs chunk : List α)
    (enough : size ≤ (rest size xs ++ chunk).length)
    (one : (rest size xs ++ chunk).length < 2 * size) :
    frames size (xs ++ chunk) = frames size xs ++ [(rest size xs ++ chunk).take size] ∧
      rest size (xs ++ chunk) = (rest size xs ++ chunk).drop size := by
  have whole := Nat.div_add_mod xs.length size
  rw [List.length_append, rest_length] at enough one
  have next : (xs ++ chunk).length / size = xs.length / size + 1 := by
    rw [List.length_append]
    apply Nat.div_eq_of_lt_le
    · rw [Nat.succ_mul, Nat.mul_comm]
      omega
    · rw [Nat.succ_mul, Nat.succ_mul, Nat.mul_comm]
      omega
  constructor
  · rw [frames, next, List.range_succ, List.map_append, frames_append, List.map_singleton,
      rest_append]
  · rw [rest, next, Nat.mul_succ, ← List.drop_drop, rest_append]

theorem flatten_length {chunks : List (List α)} (sized : ∀ chunk ∈ chunks, chunk.length = size) :
    chunks.flatten.length = size * chunks.length := by
  induction chunks with
  | nil => rfl
  | cons chunk chunks ih =>
    obtain ⟨first, others⟩ := List.forall_mem_cons.mp sized
    rw [List.flatten_cons, List.length_append, first, ih others, List.length_cons, Nat.mul_succ,
      Nat.add_comm]

/-- Chunks of the size of a frame are the frames. -/
theorem frames_flatten (positive : 0 < size) {chunks : List (List α)}
    (sized : ∀ chunk ∈ chunks, chunk.length = size) :
    frames size chunks.flatten = chunks ∧ rest size chunks.flatten = [] := by
  induction chunks using List.reverseRecOn with
  | nil => simp
  | append_singleton chunks chunk ih =>
    rw [List.forall_mem_append, List.forall_mem_singleton] at sized
    obtain ⟨earlier, length⟩ := sized
    obtain ⟨same, nothing⟩ := ih earlier
    have next := append_frame size chunks.flatten chunk
    rw [nothing, List.nil_append, same, length] at next
    obtain ⟨more, left⟩ := next (Nat.le_refl _) (by omega)
    rw [List.flatten_append, List.flatten_singleton, more, left, ← length]
    simp

/-! ## A stream that is joined from parts -/

/-- Frame `i` of the joined stream lies in one part, at a frame's offset in it. -/
def InPart (size : Nat) (parts : List (List α)) (i : Nat) : Prop :=
  ∃ before part after k, parts = before ++ part :: after ∧
    size * i = before.flatten.length + size * k ∧ size * (k + 1) ≤ part.length

/-- A part starts with a frame, or after the last one. -/
def Cut (size : Nat) (parts : List (List α)) : Prop :=
  ∀ before part after, parts = before ++ part :: after →
    size ∣ before.flatten.length ∨
      parts.flatten.length < size * (before.flatten.length / size + 1)

theorem locate {parts : List (List α)} {n : Nat} (inside : n < parts.flatten.length) :
    ∃ before part after, parts = before ++ part :: after ∧
      before.flatten.length ≤ n ∧ n < before.flatten.length + part.length := by
  induction parts using List.reverseRecOn with
  | nil => simp at inside
  | append_singleton parts part ih =>
    by_cases earlier : n < parts.flatten.length
    · obtain ⟨before, found, after, rfl, from_here, to_here⟩ := ih earlier
      exact ⟨before, found, after ++ [part], by simp, from_here, to_here⟩
    · refine ⟨parts, part, [], rfl, by omega, ?_⟩
      simpa using inside

/-- Of two parts the one that starts first ends before the other starts. -/
theorem ends_before {before after before' after' : List (List α)} {part part' : List α}
    (same : before ++ part :: after = before' ++ part' :: after')
    (first : before.flatten.length < before'.flatten.length) :
    before.flatten.length + part.length ≤ before'.flatten.length := by
  rcases List.append_eq_append_iff.mp same with ⟨between, rfl, rest⟩ | ⟨between, rfl, _⟩
  · cases between with
    | nil => simp at first
    | cons next between =>
      obtain ⟨rfl, _⟩ := List.cons.inj rest
      simp
  · rw [List.flatten_append, List.length_append] at first
    omega

/-- No complete frame goes over the start of a part. -/
theorem Cut.boundary (positive : 0 < size) {parts before after : List (List α)} {part : List α}
    (cut : Cut size parts) (split : parts = before ++ part :: after) {i : Nat}
    (complete : size * (i + 1) ≤ parts.flatten.length) :
    (before.flatten.length ≤ size * i → size ∣ before.flatten.length) ∧
      (size * i < before.flatten.length → size * (i + 1) ≤ before.flatten.length) := by
  rcases cut before part after split with ⟨m, starts⟩ | short
  · rw [starts]
    refine ⟨fun _ => Nat.dvd_mul_right size m, ?_⟩
    intro less
    exact Nat.mul_le_mul_left size (Nat.lt_of_mul_lt_mul_left less)
  · have next : i < before.flatten.length / size :=
      Nat.lt_of_add_lt_add_right (Nat.lt_of_mul_lt_mul_left (Nat.lt_of_le_of_lt complete short))
    have most := Nat.mul_le_mul_left size (Nat.succ_le_of_lt next)
    have whole := Nat.mul_div_le before.flatten.length size
    rw [Nat.mul_succ] at most
    constructor
    · intro here
      omega
    · intro _
      rw [Nat.mul_succ]
      omega

theorem inPart_iff (positive : 0 < size) {parts : List (List α)} :
    (∀ i < parts.flatten.length / size, InPart size parts i) ↔ Cut size parts := by
  constructor
  · intro whole before' part' after' split
    by_contra cut
    obtain ⟨inside, more⟩ := not_or.mp cut
    have start := Nat.div_add_mod before'.flatten.length size
    have split_frame : before'.flatten.length % size ≠ 0 :=
      fun zero => inside (Nat.dvd_of_mod_eq_zero zero)
    have complete : before'.flatten.length / size < parts.flatten.length / size := by
      rw [Nat.lt_iff_add_one_le, Nat.le_div_iff_mul_le positive, Nat.mul_comm]
      omega
    obtain ⟨before, part, after, k, parted, offset, within⟩ := whole _ complete
    have ended := ends_before (parted ▸ split) (by omega)
    have short := Nat.mod_lt before'.flatten.length positive
    rw [Nat.mul_succ] at within
    omega
  · intro cut i complete
    have enough : size * (i + 1) ≤ parts.flatten.length := by
      have most := Nat.mul_le_mul_left size (Nat.succ_le_of_lt complete)
      exact Nat.le_trans most (Nat.mul_div_le _ _)
    obtain ⟨before, part, after, split, low, high⟩ :=
      locate (show size * i < parts.flatten.length by rw [Nat.mul_succ] at enough; omega)
    obtain ⟨m, starts⟩ := (cut.boundary positive split enough).1 low
    have within : size * (i + 1) ≤ before.flatten.length + part.length := by
      cases after with
      | nil =>
        rw [split] at enough
        simpa using enough
      | cons part' after =>
        have split' : parts = (before ++ [part]) ++ part' :: after := by simp [split]
        have ends := (cut.boundary positive split' enough).2
        rw [List.flatten_append, List.flatten_singleton, List.length_append] at ends
        exact ends high
    rw [starts] at low within
    have before_frame : m ≤ i := Nat.le_of_mul_le_mul_left low positive
    refine ⟨before, part, after, i - m, split, ?_, ?_⟩
    · rw [starts, ← Nat.mul_add, Nat.add_sub_cancel' before_frame]
    · rw [show i - m + 1 = i + 1 - m by omega, Nat.mul_sub]
      omega

theorem inPart_slice {parts before after : List (List α)} {part : List α} {i k : Nat}
    (split : parts = before ++ part :: after) (offset : size * i = before.flatten.length + size * k)
    (within : size * (k + 1) ≤ part.length) :
    (parts.flatten.drop (size * i)).take size = (part.drop (size * k)).take size := by
  rw [Nat.mul_succ] at within
  rw [split, List.flatten_append, List.flatten_cons, offset, ← List.drop_drop, List.drop_left,
    List.drop_append_of_le_length (by omega),
    List.take_append_of_le_length (by rw [List.length_drop]; omega)]

/-- Frame `i` of those handed on is at `size * i` in the joined stream; all of
it comes from one part, and from a frame's offset in that part. -/
def FromOne (size : Nat) (parts handed : List (List α)) : Prop :=
  ∀ i frame, handed[i]? = some frame → ∃ before part after k,
    parts = before ++ part :: after ∧ size * i = before.flatten.length + size * k ∧
      size * (k + 1) ≤ part.length ∧ frame = (part.drop (size * k)).take size

theorem fromOne_iff (positive : 0 < size) {parts : List (List α)} :
    FromOne size parts (frames size parts.flatten) ↔ Cut size parts := by
  rw [← inPart_iff positive]
  constructor
  · intro whole i inside
    obtain ⟨before, part, after, k, split, offset, within, _⟩ :=
      whole i _ (frames_at.mpr ⟨inside, rfl⟩)
    exact ⟨before, part, after, k, split, offset, within⟩
  · intro whole i frame present
    obtain ⟨inside, rfl⟩ := frames_at.mp present
    obtain ⟨before, part, after, k, split, offset, within⟩ := whole i inside
    exact ⟨before, part, after, k, split, offset, within, inPart_slice split offset within⟩

end Framing
