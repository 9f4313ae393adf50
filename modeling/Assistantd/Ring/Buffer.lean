import Mathlib.Algebra.Ring.Nat
import Assistantd.Lib.Circular
import Assistantd.Status

/-! ring_buffer.c, one call at a time. `w` is the width of `size_t`: the counters
run freely modulo `2 ^ w`. -/
namespace Assistantd

structure RingBuffer where
  data : Option Block
  capacity : Nat
  head : Nat
  tail : Nat
  overflow : Nat
  underflow : Nat

namespace RingBuffer

def zeroed : RingBuffer := ⟨none, 0, 0, 0, 0, 0⟩

def usedSnapshot (head tail capacity : Nat) : Nat :=
  if head < tail then 0
  else if head - tail > capacity then capacity
  else head - tail

/-- `calloc` is the address it returned, none for NULL. -/
def init (b : RingBuffer) (capacity : Nat) (calloc : Option Nat) : Status × RingBuffer :=
  if capacity = 0 then (.errInvalidArgument, b)
  else match calloc with
    | none => (.errIo, { b with data := none })
    | some addr =>
      (.ok, { data := some ⟨addr, fun _ => 0⟩, capacity, head := 0, tail := 0,
              overflow := 0, underflow := 0 })

def free (_ : RingBuffer) : RingBuffer := zeroed

/-- How much of a write of `length` bytes is taken. -/
def writeCount (b : RingBuffer) (length : Nat) : Nat :=
  min length (b.capacity - usedSnapshot b.head b.tail b.capacity)

def readCount (b : RingBuffer) (length : Nat) : Nat :=
  min length (usedSnapshot b.head b.tail b.capacity)

def write (w : Nat) (b : RingBuffer) (input : List UInt8) : Nat × RingBuffer :=
  match b.data with
  | none => (0, b)
  | some data =>
    let toWrite := b.writeCount input.length
    let stored :=
      if toWrite > 0 then
        let writePos := b.head % b.capacity
        let firstChunk := min toWrite (b.capacity - writePos)
        let bytes := Cells.copyIn data.bytes writePos (input.take firstChunk)
        let bytes :=
          if toWrite > firstChunk then
            Cells.copyIn bytes 0 ((input.drop firstChunk).take (toWrite - firstChunk))
          else bytes
        { b with data := some { data with bytes }, head := (b.head + toWrite) % 2 ^ w }
      else b
    (toWrite,
      if toWrite < input.length then
        { stored with overflow := (stored.overflow + (input.length - toWrite)) % 2 ^ w }
      else stored)

/-- The bytes read are what the call leaves at the start of `output`. -/
def read (w : Nat) (b : RingBuffer) (length : Nat) : List UInt8 × RingBuffer :=
  match b.data with
  | none => ([], b)
  | some data =>
    let toRead := b.readCount length
    let readPos := b.tail % b.capacity
    let firstChunk := min toRead (b.capacity - readPos)
    let output :=
      if toRead > 0 then
        Cells.slice data.bytes readPos firstChunk ++
          (if toRead > firstChunk then Cells.slice data.bytes 0 (toRead - firstChunk) else [])
      else []
    let taken := if toRead > 0 then { b with tail := (b.tail + toRead) % 2 ^ w } else b
    (output,
      if toRead < length then
        { taken with underflow := (taken.underflow + (length - toRead)) % 2 ^ w }
      else taken)

def available (b : RingBuffer) : Nat :=
  match b.data with
  | none => 0
  | some _ => usedSnapshot b.head b.tail b.capacity

def space (b : RingBuffer) : Nat :=
  match b.data with
  | none => 0
  | some _ => if b.available > b.capacity then 0 else b.capacity - b.available

theorem usedSnapshot_le (head tail capacity : Nat) :
    usedSnapshot head tail capacity ≤ capacity := by
  unfold usedSnapshot
  split
  · exact Nat.zero_le _
  · split <;> omega

theorem available_eq {b : RingBuffer} {data : Block} (h : b.data = some data) :
    b.available = usedSnapshot b.head b.tail b.capacity := by
  simp [available, h]

theorem space_eq {b : RingBuffer} {data : Block} (h : b.data = some data) :
    b.space = b.capacity - usedSnapshot b.head b.tail b.capacity := by
  have bound := usedSnapshot_le b.head b.tail b.capacity
  simp only [space, h, available_eq h]
  exact if_neg (by omega)

/-! ## What one write and one read do -/

/-- Both chunks together are one copy that goes round the physical end. -/
theorem write_chunks (capacity pos n : Nat) (bytes : Nat → UInt8) (input : List UInt8)
    (hn : n ≤ input.length) :
    (if n > min n (capacity - pos) then
      Cells.copyIn (Cells.copyIn bytes pos (input.take (min n (capacity - pos)))) 0
        ((input.drop (min n (capacity - pos))).take (n - min n (capacity - pos)))
    else Cells.copyIn bytes pos (input.take (min n (capacity - pos)))) =
      Circular.copyRound capacity bytes pos (input.take n) := by
  have length : (input.take n).length = n := by simp [hn]
  have chunk : (input.take n).take (min n (capacity - pos)) =
      input.take (min n (capacity - pos)) := by simp [List.take_take]
  simp only [Circular.copyRound, length, chunk, List.drop_take]
  split
  · rfl
  · have rest : n - min n (capacity - pos) = 0 := by omega
    simp [rest]

theorem read_chunks (capacity pos n : Nat) (bytes : Nat → UInt8) :
    Cells.slice bytes pos (min n (capacity - pos)) ++
      (if n > min n (capacity - pos) then Cells.slice bytes 0 (n - min n (capacity - pos)) else []) =
      Circular.sliceRound capacity bytes pos n := by
  unfold Circular.sliceRound
  split
  · rfl
  · have rest : n - min n (capacity - pos) = 0 := by omega
    simp [rest]

/-- A write takes a prefix of its input, stores it from the head on and counts the rest. -/
theorem write_spec (w : Nat) {b : RingBuffer} {data : Block} (h : b.data = some data)
    (bounded : b.head < 2 ^ w) (input : List UInt8) :
    write w b input = (b.writeCount input.length,
      { b with
        data := some { data with
          bytes := Circular.copyRound b.capacity data.bytes (b.head % b.capacity)
            (input.take (b.writeCount input.length)) }
        head := (b.head + b.writeCount input.length) % 2 ^ w
        overflow := if b.writeCount input.length < input.length then
          (b.overflow + (input.length - b.writeCount input.length)) % 2 ^ w else b.overflow }) := by
  have short : b.writeCount input.length ≤ input.length := Nat.min_le_left _ _
  simp only [write, h]
  by_cases any : b.writeCount input.length > 0
  · simp only [any, if_true, write_chunks b.capacity _ _ data.bytes input short]
    split <;> rfl
  · have nothing : b.writeCount input.length = 0 := by omega
    simp only [nothing, Nat.lt_irrefl, if_false, List.take_zero, Nat.add_zero,
      Nat.mod_eq_of_lt bounded, Circular.copyRound, List.take_nil, List.drop_nil, Cells.copyIn_nil]
    split <;> simp [← h]

theorem read_spec (w : Nat) {b : RingBuffer} {data : Block} (h : b.data = some data)
    (bounded : b.tail < 2 ^ w) (length : Nat) :
    read w b length =
      (Circular.sliceRound b.capacity data.bytes (b.tail % b.capacity) (b.readCount length),
      { b with
        tail := (b.tail + b.readCount length) % 2 ^ w
        underflow := if b.readCount length < length then
          (b.underflow + (length - b.readCount length)) % 2 ^ w else b.underflow }) := by
  simp only [read, h]
  by_cases any : b.readCount length > 0
  · simp only [any, if_true, read_chunks b.capacity _ _ data.bytes]
    split <;> rfl
  · have nothing : b.readCount length = 0 := by omega
    simp only [nothing, Nat.lt_irrefl, if_false, Nat.add_zero, Nat.mod_eq_of_lt bounded,
      Circular.sliceRound, Nat.zero_min, Nat.sub_self, Cells.slice_zero, List.append_nil]
    split <;> simp [← h]

theorem write_nil (w : Nat) (b : RingBuffer) : b.write w [] = (0, b) := by
  unfold write
  split
  · rfl
  · simp [writeCount]

/-! ## The bytes a ring stores -/

/-- The ring stores `unread`, its counters not having wrapped. -/
structure Stores (w : Nat) (b : RingBuffer) (unread : List UInt8) : Prop where
  block : ∃ data, b.data = some data ∧ Circular.Holds data.bytes b.capacity b.tail unread
  positive : 0 < b.capacity
  fits : unread.length ≤ b.capacity
  counters : b.head = b.tail + unread.length
  bounded : b.head < 2 ^ w

theorem init_stores (w : Nat) (b : RingBuffer) {capacity : Nat} (positive : 0 < capacity)
    (addr : Nat) : Stores w (init b capacity (some addr)).2 [] := by
  have nonzero : capacity ≠ 0 := by omega
  simp only [init, nonzero, if_false]
  exact ⟨⟨_, rfl, Circular.holds_nil _ _ _⟩, positive, Nat.zero_le _, rfl, Nat.two_pow_pos w⟩

theorem Stores.tail_lt {w : Nat} {b : RingBuffer} {unread : List UInt8} (h : Stores w b unread) :
    b.tail < 2 ^ w := by
  have counters := h.counters
  have bounded := h.bounded
  omega

theorem Stores.used {w : Nat} {b : RingBuffer} {unread : List UInt8} (h : Stores w b unread) :
    usedSnapshot b.head b.tail b.capacity = unread.length := by
  have fits := h.fits
  have counters := h.counters
  unfold usedSnapshot
  rw [if_neg (by omega), if_neg (by omega)]
  omega

theorem Stores.available {w : Nat} {b : RingBuffer} {unread : List UInt8}
    (h : Stores w b unread) : b.available = unread.length := by
  obtain ⟨data, present, _⟩ := h.block
  rw [available_eq present, h.used]

theorem Stores.writeCount {w : Nat} {b : RingBuffer} {unread : List UInt8}
    (h : Stores w b unread) (n : Nat) :
    b.writeCount n = min n (b.capacity - unread.length) := by
  simp only [RingBuffer.writeCount, h.used]

theorem Stores.readCount {w : Nat} {b : RingBuffer} {unread : List UInt8}
    (h : Stores w b unread) (n : Nat) : b.readCount n = min n unread.length := by
  simp only [RingBuffer.readCount, h.used]

/-- As long as the head does not wrap, a write appends what it takes. -/
theorem Stores.write {w : Nat} {b : RingBuffer} {unread : List UInt8} (h : Stores w b unread)
    (input : List UInt8) (unwrapped : b.head + b.writeCount input.length < 2 ^ w) :
    Stores w (RingBuffer.write w b input).2
      (unread ++ input.take (b.writeCount input.length)) := by
  obtain ⟨data, present, holds⟩ := h.block
  have fits := h.fits
  have count := h.writeCount input.length
  have taken : (input.take (b.writeCount input.length)).length = b.writeCount input.length := by
    simp only [List.length_take]
    omega
  rw [write_spec w present h.bounded, Nat.mod_eq_of_lt unwrapped]
  refine ⟨⟨_, rfl, ?_⟩, h.positive, ?_, ?_, unwrapped⟩
  · rw [h.counters]
    exact holds.written h.positive (by omega)
  · simp only [List.length_append, taken]
    omega
  · simp only [List.length_append, taken, h.counters]
    omega

/-- A read returns the oldest bytes and removes them. -/
theorem Stores.read {w : Nat} {b : RingBuffer} {unread : List UInt8} (h : Stores w b unread)
    (n : Nat) : (RingBuffer.read w b n).1 = unread.take n ∧
      Stores w (RingBuffer.read w b n).2 (unread.drop n) := by
  obtain ⟨data, present, holds⟩ := h.block
  have fits := h.fits
  have counters := h.counters
  have bounded := h.bounded
  have count := h.readCount n
  have unwrapped : b.tail + b.readCount n < 2 ^ w := by omega
  have dropped : unread.drop (b.readCount n) = unread.drop n := by
    rw [count]
    by_cases less : n ≤ unread.length
    · rw [Nat.min_eq_left less]
    · rw [Nat.min_eq_right (by omega), List.drop_length, List.drop_eq_nil_of_le (by omega)]
  rw [read_spec w present h.tail_lt, Nat.mod_eq_of_lt unwrapped]
  refine ⟨?_, ⟨_, present, ?_⟩, h.positive, ?_, ?_, bounded⟩
  · have back := holds.readBack h.positive fits (show b.readCount n ≤ unread.length by omega)
    rw [back, count, ← List.take_eq_take_min]
  · rw [← dropped]
    exact holds.drop _
  · simp only [List.length_drop]
    omega
  · simp only [List.length_drop]
    omega

end RingBuffer

end Assistantd
