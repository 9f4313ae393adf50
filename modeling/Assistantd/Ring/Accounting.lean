import Assistantd.Lib.Fifo
import Assistantd.Ring.Buffer

/-! Any sequence of calls on a ring, against the bounded queue it stands for. -/
namespace Assistantd.RingBuffer

open Calls Fifo

/-- `read` with the caller's memory: the two copies it makes into `output`. -/
def readInto (w : Nat) (b : RingBuffer) (output : Nat → UInt8) (length : Nat) :
    Nat × (Nat → UInt8) × RingBuffer :=
  match b.data with
  | none => (0, output, b)
  | some data =>
    let toRead := b.readCount length
    let readPos := b.tail % b.capacity
    let firstChunk := min toRead (b.capacity - readPos)
    let filled :=
      if toRead > 0 then
        let first := Cells.copyIn output 0 (Cells.slice data.bytes readPos firstChunk)
        if toRead > firstChunk then
          Cells.copyIn first firstChunk (Cells.slice data.bytes 0 (toRead - firstChunk))
        else first
      else output
    (toRead, filled, (b.read w length).2)

/-- The four calls of the header. -/
def serve (w : Nat) (b : RingBuffer) : Op UInt8 → Answer UInt8 × RingBuffer
  | .write input => (⟨(b.write w input).1, none⟩, (b.write w input).2)
  | .read output length =>
    let r := b.readInto w output length
    (⟨r.1, some r.2.1⟩, r.2.2)
  | .available => (⟨b.available, none⟩, b)
  | .space => (⟨b.space, none⟩, b)

theorem copyIn_append {α : Type} (mem : Nat → α) (xs ys : List α) :
    Cells.copyIn (Cells.copyIn mem 0 xs) xs.length ys = Cells.copyIn mem 0 (xs ++ ys) := by
  funext k
  rcases Nat.lt_or_ge k xs.length with first | later
  · have old := Cells.copyIn_inside mem 0 xs k first
    have new := Cells.copyIn_inside mem 0 (xs ++ ys) k (by simp; omega)
    simp only [Nat.zero_add] at old new
    rw [Cells.copyIn_outside _ _ _ _ (by omega), old, new, List.getElem_append_left first]
  · simp only [Cells.copyIn, later, if_true, Nat.zero_le, Nat.sub_zero]
    rw [List.getD_append_right _ _ _ _ later, List.getD_eq_default _ _ later]

/-- The copies put the bytes that `read` returns at the start of `output`. -/
theorem readInto_eq (w : Nat) (b : RingBuffer) (output : Nat → UInt8) (length : Nat) :
    b.readInto w output length = ((b.read w length).1.length,
      Cells.copyIn output 0 (b.read w length).1, (b.read w length).2) := by
  unfold readInto
  cases present : b.data with
  | none => simp [read, present]
  | some data =>
    by_cases any : b.readCount length > 0
    · by_cases both : b.readCount length >
          min (b.readCount length) (b.capacity - b.tail % b.capacity)
      · have joined := copyIn_append output
          (Cells.slice data.bytes (b.tail % b.capacity)
            (min (b.readCount length) (b.capacity - b.tail % b.capacity)))
          (Cells.slice data.bytes 0 (b.readCount length -
            min (b.readCount length) (b.capacity - b.tail % b.capacity)))
        rw [Cells.slice_length] at joined
        simp only [read, present, any, both, if_true, joined, List.length_append,
          Cells.slice_length]
        rw [Nat.add_sub_cancel' (Nat.min_le_left _ _)]
      · have whole : min (b.readCount length) (b.capacity - b.tail % b.capacity) =
            b.readCount length := by omega
        simp [read, present, any, whole]
    · have nothing : b.readCount length = 0 := by omega
      simp [read, present, nothing]

/-- The ring stores the queue, and its counters say what the totals say. -/
structure Refines (w capacity : Nat) (b : RingBuffer) (queue : List UInt8) (t : Totals) :
    Prop where
  stores : Stores w b queue
  capacity : b.capacity = capacity
  head : b.head = t.accepted
  overflow : b.overflow = t.offered - t.accepted
  underflow : b.underflow = t.requested - t.returned

/-- No counter reaches `2 ^ w`. -/
structure Counted (w : Nat) (t : Totals) : Prop where
  accepted : t.accepted < 2 ^ w
  overflow : t.offered - t.accepted < 2 ^ w
  underflow : t.requested - t.returned < 2 ^ w

theorem Counted.before {w : Nat} {t u : Totals} (h : Counted w u) (grows : t.Grows u) :
    Counted w t :=
  ⟨Nat.lt_of_le_of_lt grows.accepted h.accepted, Nat.lt_of_le_of_lt grows.refused h.overflow,
    Nat.lt_of_le_of_lt grows.missing h.underflow⟩

/-- A call on the ring returns what the queue returns, as long as no counter wraps. -/
theorem serve_refines {w capacity : Nat} {b : RingBuffer} {queue : List UInt8} {t : Totals}
    (h : Refines w capacity b queue t) (kept : Conserved capacity queue t) (op : Op UInt8)
    (counted : Counted w (t.add (op, (step capacity queue op).1))) :
    (b.serve w op).1 = (step capacity queue op).1 ∧
      Refines w capacity (b.serve w op).2 (step capacity queue op).2
        (t.add (op, (step capacity queue op).1)) := by
  obtain ⟨stores, room, head, overflow, underflow⟩ := h
  obtain ⟨data, present, _⟩ := stores.block
  obtain ⟨bounded, _, offered, requested⟩ := kept
  obtain ⟨accepted, refused, missing⟩ := counted
  cases op with
  | write input =>
    have count : b.writeCount input.length = min input.length (capacity - queue.length) := by
      rw [stores.writeCount, room]
    simp only [step, Totals.add] at accepted refused missing ⊢
    have stored := stores.write input (by omega)
    have taken : input.take (b.writeCount input.length) = input.take (capacity - queue.length) := by
      rw [count, List.take_eq_take_iff]
      omega
    rw [taken] at stored
    simp only [serve, write_spec w present stores.bounded, count] at stored ⊢
    refine ⟨trivial, stored, room, ?_, ?_, underflow⟩
    · simp only [head, Nat.mod_eq_of_lt accepted]
    · simp only [overflow]
      split
      · rw [Nat.mod_eq_of_lt (by omega)]
        omega
      · omega
  | read output length =>
    have count : b.readCount length = min length queue.length := stores.readCount length
    obtain ⟨bytes, rest⟩ := stores.read length
    simp only [step, Totals.add] at accepted refused missing ⊢
    simp only [serve, readInto_eq, bytes, List.length_take]
    rw [read_spec w present stores.tail_lt, count, underflow] at rest ⊢
    refine ⟨trivial, rest, room, head, overflow, ?_⟩
    dsimp only
    split
    · rw [Nat.mod_eq_of_lt (by omega)]
      omega
    · omega
  | available =>
    exact ⟨by simp only [serve, step, stores.available], stores, room, head, overflow, underflow⟩
  | space =>
    refine ⟨?_, stores, room, head, overflow, underflow⟩
    rw [serve, space_eq present, stores.used, room, step]

/-- What one can read off a ring of this capacity, and off what its calls returned so far. -/
structure Accounted (capacity : Nat) (b : RingBuffer) (t : Totals) : Prop where
  room : b.available + b.space = capacity
  offered : t.offered = t.accepted + b.overflow
  requested : t.requested = t.returned + b.underflow
  stored : t.accepted = t.returned + b.available

theorem Refines.accounted {w capacity : Nat} {b : RingBuffer} {queue : List UInt8} {t : Totals}
    (h : Refines w capacity b queue t) (kept : Conserved capacity queue t) :
    Accounted capacity b t := by
  obtain ⟨stores, room, _, overflow, underflow⟩ := h
  obtain ⟨data, present, _⟩ := stores.block
  obtain ⟨bounded, stored, offered, requested⟩ := kept
  constructor
  · rw [stores.available, space_eq present, stores.used, room]
    omega
  · omega
  · omega
  · rw [stores.available]
    exact stored

/-- The calls of a run on a ring just initialised, with their answers. -/
abbrev served (w capacity addr : Nat) (b : RingBuffer) (ops : List (Op UInt8)) :
    RingBuffer × List (Op UInt8 × Answer UInt8) :=
  play (record (serve w)) (b.init capacity (some addr)).2 ops

theorem served_refines {w capacity : Nat} (addr : Nat) (b : RingBuffer) (positive : 1 ≤ capacity)
    {ops : List (Op UInt8)} (counted : Counted w (totals (outcome capacity ops).2)) :
    (served w capacity addr b ops).2 = (outcome capacity ops).2 ∧
      Refines w capacity (served w capacity addr b ops).1 (outcome capacity ops).1
        (totals (outcome capacity ops).2) := by
  induction ops using List.reverseRecOn with
  | nil =>
    have nonzero : capacity ≠ 0 := by omega
    refine ⟨rfl, init_stores w b positive addr, ?_, ?_, ?_, ?_⟩
    all_goals simp [init, nonzero]
  | append_singleton ops op ih =>
    have kept := outcome_conserved capacity ops
    simp only [outcome, play_snoc, record_run, totals_snoc] at counted kept ⊢
    obtain ⟨same, refines⟩ := ih (counted.before (step_grows kept op))
    obtain ⟨answer, next⟩ := serve_refines refines kept op counted
    exact ⟨by rw [same, answer], next⟩

/-- Every call of a run returns what the bounded queue returns, and after each
of them the ring's own numbers account for all the bytes. -/
theorem fifo_accounted (w capacity addr : Nat) (b : RingBuffer) (positive : 1 ≤ capacity)
    (ops : List (Op UInt8)) (counted : Counted w (totals (outcome capacity ops).2)) :
    (served w capacity addr b ops).2 = (outcome capacity ops).2 ∧
      ∀ n, Accounted capacity (served w capacity addr b (ops.take n)).1
        (totals (served w capacity addr b (ops.take n)).2) := by
  refine ⟨(served_refines addr b positive counted).1, ?_⟩
  intro n
  have earlier : Counted w (totals (outcome capacity (ops.take n)).2) := by
    rw [← List.take_append_drop n ops] at counted
    exact counted.before (outcome_grows capacity (ops.take n) (ops.drop n))
  obtain ⟨same, refines⟩ := served_refines addr b positive earlier
  rw [same]
  exact refines.accounted (outcome_conserved capacity (ops.take n))

theorem fifo_accounted_short :
    (served 32 4 7 .zeroed [.write [1, 2, 3, 4, 5], .read (fun _ => 0) 6]).2 =
      (outcome 4 [.write [1, 2, 3, 4, 5], .read (fun _ => 0) 6]).2 ∧
      ∀ n, Accounted 4
        (served 32 4 7 .zeroed ([.write [1, 2, 3, 4, 5], .read (fun _ => 0) 6].take n)).1
        (totals (served 32 4 7 .zeroed
          ([.write [1, 2, 3, 4, 5], .read (fun _ => 0) 6].take n)).2) :=
  fifo_accounted 32 4 7 .zeroed (by decide) _ ⟨by decide, by decide, by decide⟩

end Assistantd.RingBuffer
