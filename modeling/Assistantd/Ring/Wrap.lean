import Assistantd.Ring.Buffer

/-! The ring across the point where its free-running counters reach `2 ^ w`. -/
namespace Assistantd.Wrap

open RingBuffer (usedSnapshot Stores)

inductive Op where
  | write (input : List UInt8)
  | read (length : Nat)

/-- A ring with the bytes it has accepted and not yet returned. -/
structure Traced where
  ring : RingBuffer
  unread : List UInt8

/-- What the calls themselves report decides which bytes count as accepted and returned. -/
def Traced.step (w : Nat) (t : Traced) : Op → Traced
  | .write input =>
    ⟨(t.ring.write w input).2, t.unread ++ input.take (t.ring.write w input).1⟩
  | .read length =>
    ⟨(t.ring.read w length).2, t.unread.drop (t.ring.read w length).1.length⟩

/-- `available` counts the unread bytes, the modular difference does too, they
lie in consecutive cells from the tail's on, and the head's cell is the next. -/
structure Faithful (w : Nat) (t : Traced) : Prop where
  available : t.ring.available = t.unread.length
  counters : (t.ring.head + 2 ^ w - t.ring.tail) % 2 ^ w = t.unread.length
  cells : ∃ data, t.ring.data = some data ∧
    Circular.Holds data.bytes t.ring.capacity (t.ring.tail % t.ring.capacity) t.unread
  next : t.ring.head % t.ring.capacity =
    (t.ring.tail % t.ring.capacity + t.unread.length) % t.ring.capacity

/-- A write leaves every unread byte where it was; a read returns the oldest ones. -/
def Traced.Keeps (w : Nat) (t : Traced) : Op → Prop
  | .write input => ∃ data, (t.ring.write w input).2.data = some data ∧
      Circular.Holds data.bytes t.ring.capacity (t.ring.tail % t.ring.capacity) t.unread
  | .read length => (t.ring.read w length).1 = t.unread.take length

/-- Every state of the run is faithful and every call of it keeps the unread bytes. -/
def Survives (w : Nat) : Traced → List Op → Prop
  | t, [] => Faithful w t
  | t, op :: ops => Faithful w t ∧ t.Keeps w op ∧ Survives w (t.step w op) ops

/-- How many bytes a bounded buffer of this capacity accepts over a run, from
`unread` bytes on. -/
def accepted (capacity : Nat) : Nat → List Op → Nat
  | _, [] => 0
  | unread, .write input :: ops =>
    min input.length (capacity - unread) +
      accepted capacity (unread + min input.length (capacity - unread)) ops
  | unread, .read length :: ops => accepted capacity (unread - length) ops

theorem stores_faithful {w : Nat} {t : Traced} (h : Stores w t.ring t.unread) : Faithful w t := by
  obtain ⟨data, present, holds⟩ := h.block
  have counters := h.counters
  have bounded := h.bounded
  have fresh : t.ring.head + 2 ^ w - t.ring.tail = t.unread.length + 2 ^ w := by omega
  refine ⟨h.available, ?_, ⟨data, present, holds.shift (Nat.mod_mod _ _).symm⟩, ?_⟩
  · rw [fresh, Nat.add_mod_right, Nat.mod_eq_of_lt (by omega)]
  · rw [counters, Nat.mod_add_mod]

theorem write_takes {w : Nat} {b : RingBuffer} {unread : List UInt8} (h : Stores w b unread)
    (input : List UInt8) : (b.write w input).1 = b.writeCount input.length := by
  obtain ⟨data, present, _⟩ := h.block
  rw [RingBuffer.write_spec w present h.bounded]

theorem write_frame {w : Nat} {b : RingBuffer} {unread : List UInt8} (h : Stores w b unread)
    (input : List UInt8) :
    (b.write w input).2.tail = b.tail ∧ (b.write w input).2.capacity = b.capacity := by
  obtain ⟨data, present, _⟩ := h.block
  rw [RingBuffer.write_spec w present h.bounded]
  exact ⟨rfl, rfl⟩

theorem read_length {w : Nat} {b : RingBuffer} {unread : List UInt8} (h : Stores w b unread)
    (length : Nat) : unread.drop (b.read w length).1.length = unread.drop length := by
  rw [(h.read length).1, List.length_take]
  by_cases less : length ≤ unread.length
  · rw [Nat.min_eq_left less]
  · rw [Nat.min_eq_right (by omega), List.drop_length, List.drop_eq_nil_of_le (by omega)]

/-- A call that does not wrap the head keeps the ring's bytes and its own promise. -/
theorem step_stores {w : Nat} {t : Traced} (h : Stores w t.ring t.unread) (op : Op)
    (unwrapped : ∀ input, op = .write input →
      t.ring.head + t.ring.writeCount input.length < 2 ^ w) :
    Stores w (t.step w op).ring (t.step w op).unread ∧ t.Keeps w op := by
  cases op with
  | write input =>
    have stored := h.write input (unwrapped input rfl)
    obtain ⟨data, present, holds⟩ := stored.block
    obtain ⟨tail, capacity⟩ := write_frame h input
    refine ⟨by simpa only [Traced.step, write_takes h input] using stored, data, present, ?_⟩
    rw [tail, capacity] at holds
    have old := holds.take t.unread.length
    rw [List.take_left] at old
    exact old.shift (Nat.mod_mod _ _).symm
  | read length =>
    obtain ⟨output, rest⟩ := h.read length
    exact ⟨by simpa only [Traced.step, read_length h length] using rest, output⟩

/-- Right after the head wraps it lies below the tail, so `available` reads 0
although the bytes just accepted are unread. -/
theorem wrapped_unfaithful {w : Nat} {t : Traced} (h : Stores w t.ring t.unread)
    (representable : t.ring.capacity < 2 ^ w) (input : List UInt8)
    (wraps : 2 ^ w ≤ t.ring.head + t.ring.writeCount input.length) :
    ¬ Faithful w (t.step w (.write input)) := by
  intro faithful
  obtain ⟨data, present, _⟩ := h.block
  have counters := h.counters
  have bounded := h.bounded
  have fits := h.fits
  have count := h.writeCount input.length
  have head : (t.ring.head + t.ring.writeCount input.length) % 2 ^ w =
      t.ring.head + t.ring.writeCount input.length - 2 ^ w := by
    rw [Nat.mod_eq_sub_mod wraps, Nat.mod_eq_of_lt (by omega)]
  have reported := faithful.available
  have accepted : (t.unread ++ input.take (t.ring.writeCount input.length)).length =
      t.unread.length + t.ring.writeCount input.length := by
    simp only [List.length_append, List.length_take]
    omega
  simp only [Traced.step, RingBuffer.write_spec w present bounded, RingBuffer.available, accepted,
    usedSnapshot, head] at reported
  rw [if_pos (by omega)] at reported
  omega

theorem survives_iff {w : Nat} {t : Traced} (h : Stores w t.ring t.unread)
    (representable : t.ring.capacity < 2 ^ w) (ops : List Op) :
    Survives w t ops ↔
      t.ring.head + accepted t.ring.capacity t.unread.length ops < 2 ^ w := by
  induction ops generalizing t with
  | nil => exact iff_of_true (stores_faithful h) h.bounded
  | cons op ops ih =>
    have faithful := stores_faithful h
    obtain ⟨data, present, _⟩ := h.block
    cases op with
    | read length =>
      obtain ⟨stored, keeps⟩ := step_stores h (.read length) (by intro _ no; cases no)
      have frame : (t.step w (.read length)).ring.capacity = t.ring.capacity ∧
          (t.step w (.read length)).ring.head = t.ring.head := by
        simp only [Traced.step, RingBuffer.read_spec w present h.tail_lt, and_self]
      have unread : (t.step w (.read length)).unread.length = t.unread.length - length := by
        simp only [Traced.step, read_length h, List.length_drop]
      have rest := ih stored (by rw [frame.1]; exact representable)
      rw [frame.1, frame.2, unread] at rest
      simp only [Survives, accepted, faithful, keeps, true_and, rest]
    | write input =>
      have count := h.writeCount input.length
      rw [accepted, ← count, ← Nat.add_assoc]
      by_cases fits : t.ring.head + t.ring.writeCount input.length < 2 ^ w
      · obtain ⟨stored, keeps⟩ := step_stores h (.write input) (by
          intro _ same
          cases same
          exact fits)
        have head : (t.step w (.write input)).ring.head =
            t.ring.head + t.ring.writeCount input.length := by
          simp only [Traced.step, RingBuffer.write_spec w present h.bounded]
          exact Nat.mod_eq_of_lt fits
        have capacity : (t.step w (.write input)).ring.capacity = t.ring.capacity :=
          (write_frame h input).2
        have unread : (t.step w (.write input)).unread.length =
            t.unread.length + t.ring.writeCount input.length := by
          simp only [Traced.step, write_takes h, List.length_append, List.length_take]
          omega
        have rest := ih stored (by rw [capacity]; exact representable)
        rw [head, capacity, unread] at rest
        simp only [Survives, faithful, keeps, true_and, rest]
      · refine iff_of_false ?_ (by omega)
        rintro ⟨_, _, later⟩
        have broken := wrapped_unfaithful h representable input (by omega)
        cases ops with
        | nil => exact absurd later broken
        | cons op ops => exact absurd later.1 broken

/-- Over any run of calls on a fresh ring, `available` stays exact and no byte
is overwritten or misread if and only if fewer than `2 ^ w` bytes are accepted. -/
theorem wraparound (w capacity addr : Nat) (b : RingBuffer) (positive : 0 < capacity)
    (representable : capacity < 2 ^ w) (ops : List Op) :
    Survives w ⟨(b.init capacity (some addr)).2, []⟩ ops ↔ accepted capacity 0 ops < 2 ^ w := by
  let fresh : Traced := ⟨(b.init capacity (some addr)).2, []⟩
  have stored : Stores w fresh.ring fresh.unread := RingBuffer.init_stores w b positive addr
  have nonzero : capacity ≠ 0 := by omega
  have ring : fresh.ring.capacity = capacity ∧ fresh.ring.head = 0 := by
    simp only [fresh, RingBuffer.init, nonzero, if_false, and_self]
  have iff := survives_iff stored (by rw [ring.1]; exact representable) ops
  rw [ring.1, ring.2, Nat.zero_add] at iff
  exact iff

theorem wraparound_short :
    Survives 32 ⟨(RingBuffer.zeroed.init 64000 (some 7)).2, []⟩ [.write [1, 2, 3], .read 2] :=
  (wraparound 32 64000 7 .zeroed (by decide) (by decide) _).mpr (by decide)

/-- `n` chunks written and read back, and one more chunk written. -/
def rounds (chunk : List UInt8) : Nat → List Op
  | 0 => [.write chunk]
  | n + 1 => .write chunk :: .read chunk.length :: rounds chunk n

theorem accepted_rounds {capacity : Nat} (chunk : List UInt8) (room : chunk.length ≤ capacity)
    (n : Nat) : accepted capacity 0 (rounds chunk n) = chunk.length * (n + 1) := by
  induction n with
  | zero => simp [rounds, accepted, room]
  | succ n ih =>
    have emptied : 0 + min chunk.length (capacity - 0) - chunk.length = 0 := by omega
    simp only [rounds, accepted, emptied, ih]
    rw [Nat.sub_zero, Nat.min_eq_left room, Nat.mul_succ _ (n + 1), Nat.add_comm]

/-- With a 32-bit `size_t`, the first chunk after about 37 hours of audio. -/
theorem wraparound_lost :
    ¬ Survives 32 ⟨(RingBuffer.zeroed.init 64000 (some 7)).2, []⟩
      (rounds (List.replicate 640 0) 6710886) := by
  let fresh : Traced := ⟨(RingBuffer.zeroed.init 64000 (some 7)).2, []⟩
  have stored : Stores 32 fresh.ring fresh.unread :=
    RingBuffer.init_stores 32 .zeroed (by decide) 7
  have total : accepted 64000 0 (rounds (List.replicate 640 0) 6710886) = 640 * 6710887 := by
    rw [accepted_rounds _ (by rw [List.length_replicate]; decide), List.length_replicate]
  intro survives
  have fits : 0 + accepted 64000 0 (rounds (List.replicate 640 0) 6710886) < 2 ^ 32 :=
    (survives_iff stored (by decide) _).mp survives
  rw [total] at fits
  exact absurd fits (by decide)

end Assistantd.Wrap
