import Assistantd.Ring.Buffer

/-! The ring as the supervisor uses it: chunks and frames of 640 bytes. None of
this needs the counters not to have wrapped. -/
namespace Assistantd.RingBuffer

/-- Initialised for the supervisor, nothing lost so far, and fewer than `limit`
bytes to read. -/
structure Steady (w limit : Nat) (b : RingBuffer) : Prop where
  block : ∃ data, b.data = some data
  capacity : b.capacity = 64000
  head : b.head < 2 ^ w
  tail : b.tail < 2 ^ w
  few : b.head < b.tail + limit
  overflow : b.overflow = 0
  underflow : b.underflow = 0

variable {w limit : Nat} {b : RingBuffer}

theorem init_steady (w : Nat) (b : RingBuffer) (addr : Nat) :
    Steady w 640 (b.init 64000 (some addr)).2 :=
  ⟨⟨_, rfl⟩, rfl, Nat.two_pow_pos w, Nat.two_pow_pos w, show 0 < 0 + 640 by decide, rfl, rfl⟩

theorem usedSnapshot_eq {head tail capacity : Nat} (close : head ≤ tail + capacity) :
    usedSnapshot head tail capacity = head - tail := by
  unfold usedSnapshot
  by_cases below : head < tail
  · rw [if_pos below]
    omega
  · rw [if_neg below, if_neg (by omega)]

theorem Steady.available (h : Steady w limit b) (small : limit ≤ 64000) :
    b.available = b.head - b.tail := by
  obtain ⟨data, present⟩ := h.block
  have capacity := h.capacity
  have few := h.few
  rw [available_eq present, usedSnapshot_eq (by omega)]

/-- Room for a chunk remains, so a write takes all of it. -/
theorem Steady.write (h : Steady w 640 b) (wide : 16 ≤ w) {input : List UInt8}
    (short : input.length ≤ 640) :
    (b.write w input).1 = input.length ∧ Steady w 1280 (b.write w input).2 := by
  obtain ⟨data, present⟩ := h.block
  have capacity := h.capacity
  have head := h.head
  have tail := h.tail
  have few := h.few
  have large : 2 ^ 16 ≤ 2 ^ w := Nat.pow_le_pow_right (by decide) wide
  have count : b.writeCount input.length = input.length := by
    rw [writeCount, usedSnapshot_eq (by omega)]
    omega
  rw [write_spec w present head, count]
  refine ⟨rfl, ⟨_, rfl⟩, capacity, Nat.mod_lt _ (by omega), tail, ?_, ?_, h.underflow⟩
  · -- where the head wraps it lands below the tail, which reads as empty
    have landed := Nat.mod_le (b.head + input.length) (2 ^ w)
    show (b.head + input.length) % 2 ^ w < b.tail + 1280
    omega
  · show (if input.length < input.length then _ else b.overflow) = 0
    rw [if_neg (Nat.lt_irrefl _)]
    exact h.overflow

/-- A frame that is there is read without a wrap. -/
theorem Steady.ready (h : Steady w 1280 b) (ready : 640 ≤ b.available) :
    b.readCount 640 = 640 ∧ b.tail + 640 < 2 ^ w := by
  have capacity := h.capacity
  have head := h.head
  have few := h.few
  rw [h.available (by decide)] at ready
  refine ⟨?_, by omega⟩
  rw [readCount, usedSnapshot_eq (by omega)]
  omega

theorem Steady.read_tail (h : Steady w 1280 b) (ready : 640 ≤ b.available) :
    (b.read w 640).2.tail = b.tail + 640 := by
  obtain ⟨data, present⟩ := h.block
  obtain ⟨count, next⟩ := h.ready ready
  rw [read_spec w present h.tail, count]
  exact Nat.mod_eq_of_lt next

/-- A frame that is there is read in full, and no second one is left. -/
theorem Steady.read (h : Steady w 1280 b) (ready : 640 ≤ b.available) :
    (b.read w 640).1.length = 640 ∧ Steady w 640 (b.read w 640).2 := by
  obtain ⟨data, present⟩ := h.block
  obtain ⟨count, next⟩ := h.ready ready
  have few := h.few
  rw [read_spec w present h.tail, count, Nat.mod_eq_of_lt next]
  refine ⟨Circular.sliceRound_length _ _ _ _, ⟨data, present⟩, h.capacity, h.head, next, ?_,
    h.overflow, ?_⟩
  · show b.head < b.tail + 640 + 640
    omega
  · exact h.underflow

theorem Steady.strengthen (h : Steady w 1280 b) (short : b.available < 640) : Steady w 640 b :=
  { h with few := by rw [h.available (by decide)] at short; omega }

theorem write_tail (w : Nat) (b : RingBuffer) (input : List UInt8) :
    (b.write w input).2.tail = b.tail := by
  unfold write
  split
  · rfl
  · simp only
    split <;> split <;> rfl

theorem write_addr (w : Nat) (b : RingBuffer) (input : List UInt8) :
    (b.write w input).2.data.map Block.addr = b.data.map Block.addr := by
  unfold write
  split
  · rfl
  · rename_i present
    simp only
    split <;> split <;> simp [present]

theorem read_addr (w : Nat) (b : RingBuffer) (length : Nat) :
    (b.read w length).2.data.map Block.addr = b.data.map Block.addr := by
  unfold read
  split
  · rfl
  · rename_i present
    simp only
    split <;> split <;> simp [present]

end Assistantd.RingBuffer
