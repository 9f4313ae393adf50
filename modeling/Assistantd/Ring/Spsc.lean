import Mathlib
import Assistantd.Ring.Interleave

/-! What one producer and one consumer can rely on, however their steps interleave. -/
namespace Assistantd.Spsc

open RingBuffer (usedSnapshot)

/-- The bytes accepted and not yet behind the tail. -/
def World.unread (s : World) : List UInt8 := s.accepted.drop s.ring.tail

/-- The bytes of a write in progress that are already in their cells. -/
def Producer.written : Producer → List UInt8
  | .copyIn input _ _ copied => input.take copied
  | _ => []

/-- The bytes of a read in progress that are already behind the tail. -/
def Consumer.taken : Consumer → List UInt8
  | .account _ output => output
  | _ => []

/-- A stale head is the head, since only the producer stores it; a stale tail
may only underestimate the room. -/
def Producer.Fits (head tail capacity : Nat) : Producer → Prop
  | .writeTail _ seen => seen = head
  | .copyIn input seen toWrite copied =>
    seen = head ∧ copied ≤ toWrite ∧ toWrite ≤ input.length ∧ head + toWrite ≤ tail + capacity
  | .account input toWrite => toWrite ≤ input.length
  | .spaceTail seen => seen = head
  | _ => True

def Consumer.Fits (head tail : Nat) (unread : List UInt8) : Consumer → Prop
  | .readHead _ seen => seen = tail
  | .copyOut length seen toRead output =>
    seen = tail ∧ toRead ≤ length ∧ tail + toRead ≤ head ∧ output.length ≤ toRead ∧
      output <+: unread
  | .account length output => output.length ≤ length
  | .availableTail seen => seen ≤ head
  | _ => True

structure Inv (s : World) : Prop where
  positive : 0 < s.ring.capacity
  head : s.ring.head = s.accepted.length
  ordered : s.ring.tail ≤ s.ring.head
  room : s.ring.head ≤ s.ring.tail + s.ring.capacity
  block : ∃ data, s.ring.data = some data ∧
    Circular.Holds data.bytes s.ring.capacity s.ring.tail (s.unread ++ s.producer.written)
  returned : s.returned ++ s.consumer.taken = s.accepted.take s.ring.tail
  producer : s.producer.Fits s.ring.head s.ring.tail s.ring.capacity
  consumer : s.consumer.Fits s.ring.head s.ring.tail s.unread

theorem Inv.unread_length {s : World} (h : Inv s) :
    s.unread.length = s.ring.head - s.ring.tail := by
  rw [World.unread, List.length_drop, h.head]

theorem Producer.Fits.advance {p : Producer} {head tail tail' capacity : Nat}
    (h : p.Fits head tail capacity) (less : tail ≤ tail') : p.Fits head tail' capacity := by
  cases p with
  | copyIn input seen toWrite copied =>
    obtain ⟨same, done, short, room⟩ := h
    exact ⟨same, done, short, by omega⟩
  | idle | writeHead | writeTail | account | spaceHead | spaceTail => exact h

theorem Consumer.Fits.publish {c : Consumer} {head head' tail : Nat} {unread : List UInt8}
    (h : c.Fits head tail unread) (more : List UInt8) (less : head ≤ head') :
    c.Fits head' tail (unread ++ more) := by
  cases c with
  | copyOut length seen toRead output =>
    obtain ⟨same, short, room, done, oldest⟩ := h
    exact ⟨same, short, by omega, done, oldest.trans (List.prefix_append _ _)⟩
  | availableTail seen => exact Nat.le_trans h less
  | idle | readTail | readHead | account | availableHead => exact h

theorem start_inv {capacity : Nat} (positive : 0 < capacity) (addr : Nat) :
    Inv (start capacity addr) := by
  have nonzero : capacity ≠ 0 := by omega
  have ring : (start capacity addr).ring =
      { data := some ⟨addr, fun _ => 0⟩, capacity, head := 0, tail := 0,
        overflow := 0, underflow := 0 } := by
    simp [start, RingBuffer.init, nonzero]
  have unread : (start capacity addr).unread = [] := by simp [World.unread, start]
  constructor <;> simp only [ring]
  · exact positive
  · rfl
  · exact Nat.le_refl _
  · omega
  · rw [unread]
    exact ⟨_, rfl, Circular.holds_nil _ _ _⟩
  · rfl
  · exact trivial
  · exact trivial

/-- A step of the producer that neither copies nor publishes. -/
theorem Inv.withProducer {s : World} (h : Inv s) (p : Producer)
    (same : p.written = s.producer.written)
    (fits : p.Fits s.ring.head s.ring.tail s.ring.capacity) (overflow granted : Nat) :
    Inv { s with ring := { s.ring with overflow }, producer := p, granted } := by
  obtain ⟨data, shared, holds⟩ := h.block
  rw [← same] at holds
  exact { h with block := ⟨data, shared, holds⟩, producer := fits }

/-- A step of the consumer that does not store the tail. -/
theorem Inv.withConsumer {s : World} (h : Inv s) (c : Consumer) {returned : List UInt8}
    (same : returned ++ c.taken = s.returned ++ s.consumer.taken)
    (fits : c.Fits s.ring.head s.ring.tail s.unread) (underflow promised : Nat) :
    Inv { s with
      ring := { s.ring with underflow }, consumer := c, returned, promised } :=
  { h with returned := same.trans h.returned, consumer := fits }

theorem Inv.used {s : World} (h : Inv s) :
    usedSnapshot s.ring.head s.ring.tail s.ring.capacity = s.ring.head - s.ring.tail := by
  have ordered := h.ordered
  have room := h.room
  unfold usedSnapshot
  rw [if_neg (by omega), if_neg (by omega)]

/-- One byte copied in extends the window behind the published bytes. -/
theorem Inv.copyIn {s : World} (h : Inv s) {input : List UInt8} {head toWrite copied : Nat}
    {byte : UInt8} {data : Block} (here : s.producer = .copyIn input head toWrite copied)
    (more : copied < toWrite) (next : input[copied]? = some byte)
    (shared : s.ring.data = some data) :
    Inv { s with
      ring := { s.ring with
        data := some { data with
          bytes := Function.update data.bytes
            (chunkCell s.ring.capacity head toWrite copied) byte } }
      producer := .copyIn input head toWrite (copied + 1) } := by
  obtain ⟨same, _, short, room⟩ : head = s.ring.head ∧ copied ≤ toWrite ∧
      toWrite ≤ input.length ∧ s.ring.head + toWrite ≤ s.ring.tail + s.ring.capacity := by
    simpa only [here, Producer.Fits] using h.producer
  obtain ⟨data', shared', holds⟩ := h.block
  obtain rfl : data = data' := by
    rw [shared] at shared'
    exact Option.some.inj shared'
  have ordered := h.ordered
  have length : (s.unread ++ input.take copied).length = s.ring.head - s.ring.tail + copied := by
    rw [List.length_append, h.unread_length, List.length_take]
    omega
  have cell : chunkCell s.ring.capacity head toWrite copied =
      (s.ring.tail + (s.unread ++ input.take copied).length) % s.ring.capacity := by
    rw [chunkCell_eq head h.positive (by omega) more, length, same]
    congr 1
    omega
  have extended : (s.unread ++ input.take copied) ++ [byte] =
      s.unread ++ input.take (copied + 1) := by
    rw [List.take_add_one, next, List.append_assoc]
    rfl
  rw [here] at holds
  refine { h with block := ⟨_, rfl, ?_⟩, producer := ⟨same, more, short, room⟩ }
  have window : Circular.Holds data.bytes s.ring.capacity s.ring.tail
      (s.unread ++ input.take copied) := holds
  have pushed := window.push (by omega) byte
  rw [← cell, extended] at pushed
  exact pushed

/-- Storing the head makes the copied bytes readable. -/
theorem Inv.publish {w : Nat} {s : World} (h : Inv s) {input : List UInt8} {head toWrite : Nat}
    (here : s.producer = .copyIn input head toWrite toWrite)
    (few : (s.accepted ++ input.take toWrite).length < 2 ^ w) :
    Inv { s with
      ring := { s.ring with head := (head + toWrite) % 2 ^ w }
      producer := .account input toWrite
      accepted := s.accepted ++ input.take toWrite } := by
  obtain ⟨same, _, short, room⟩ : head = s.ring.head ∧ toWrite ≤ toWrite ∧
      toWrite ≤ input.length ∧ s.ring.head + toWrite ≤ s.ring.tail + s.ring.capacity := by
    simpa only [here, Producer.Fits] using h.producer
  have ordered := h.ordered
  have counted := h.head
  have length : (s.accepted ++ input.take toWrite).length = s.ring.head + toWrite := by
    rw [List.length_append, List.length_take, counted]
    omega
  have stored : (head + toWrite) % 2 ^ w = s.ring.head + toWrite := by
    rw [same, Nat.mod_eq_of_lt (by omega)]
  have grown : (s.accepted ++ input.take toWrite).drop s.ring.tail =
      s.unread ++ input.take toWrite := by
    rw [List.drop_append_of_le_length (by omega)]
    rfl
  obtain ⟨data, shared, holds⟩ := h.block
  rw [here] at holds
  rw [stored]
  refine { h with
    head := length.symm, ordered := ?_, room := room, block := ⟨data, shared, ?_⟩
    returned := ?_, producer := short, consumer := ?_ }
  · show s.ring.tail ≤ s.ring.head + toWrite
    omega
  · simp only [World.unread, grown, Producer.written, List.append_nil]
    exact holds
  · show s.returned ++ s.consumer.taken = (s.accepted ++ input.take toWrite).take s.ring.tail
    rw [List.take_append_of_le_length (by omega)]
    exact h.returned
  · simp only [World.unread, grown]
    exact h.consumer.publish _ (by omega)

/-- A byte copied out is the next unread one. -/
theorem Inv.copyOut {s : World} (h : Inv s) {length tail toRead : Nat} {output : List UInt8}
    {data : Block} (here : s.consumer = .copyOut length tail toRead output)
    (more : output.length < toRead) (shared : s.ring.data = some data) :
    output ++ [data.bytes (chunkCell s.ring.capacity tail toRead output.length)] <+: s.unread := by
  obtain ⟨same, _, room, _, oldest⟩ : tail = s.ring.tail ∧ toRead ≤ length ∧
      s.ring.tail + toRead ≤ s.ring.head ∧ output.length ≤ toRead ∧ output <+: s.unread := by
    simpa only [here, Consumer.Fits] using h.consumer
  obtain ⟨data', shared', holds⟩ := h.block
  obtain rfl : data = data' := by
    rw [shared] at shared'
    exact Option.some.inj shared'
  have full := h.room
  have inside : output.length < s.unread.length := by
    rw [h.unread_length]
    omega
  have cell := holds output.length (by rw [List.length_append]; omega)
  rw [List.getElem_append_left inside] at cell
  rw [chunkCell_eq tail h.positive (by omega) more, same, cell]
  have extended : output ++ [s.unread[output.length]] = s.unread.take (output.length + 1) := by
    rw [List.take_succ_eq_append_getElem inside, ← List.prefix_iff_eq_take.mp oldest]
  rw [extended]
  exact List.take_prefix _ _

/-- Storing the tail hands the copied bytes over to the read's result. -/
theorem Inv.consume {w : Nat} {s : World} (h : Inv s) {length tail toRead : Nat}
    {output : List UInt8} (here : s.consumer = .copyOut length tail toRead output)
    (done : output.length = toRead) (few : s.accepted.length < 2 ^ w) :
    Inv { s with
      ring := { s.ring with tail := (tail + toRead) % 2 ^ w }
      consumer := .account length output } := by
  obtain ⟨same, short, room, _, oldest⟩ : tail = s.ring.tail ∧ toRead ≤ length ∧
      s.ring.tail + toRead ≤ s.ring.head ∧ output.length ≤ toRead ∧ output <+: s.unread := by
    simpa only [here, Consumer.Fits] using h.consumer
  have counted := h.head
  have full := h.room
  have stored : (tail + toRead) % 2 ^ w = s.ring.tail + toRead := by
    rw [same, Nat.mod_eq_of_lt (by omega)]
  have read : output = s.unread.take toRead := by
    rw [← done]
    exact List.prefix_iff_eq_take.mp oldest
  obtain ⟨data, shared, holds⟩ := h.block
  rw [stored]
  refine { h with
    ordered := room, room := ?_, block := ⟨data, shared, ?_⟩, returned := ?_
    producer := h.producer.advance (Nat.le_add_right _ _)
    consumer := by rw [← done] at short; exact short }
  · show s.ring.head ≤ s.ring.tail + toRead + s.ring.capacity
    omega
  · have rest := holds.drop toRead
    rw [List.drop_append_of_le_length (by rw [h.unread_length]; omega), World.unread,
      List.drop_drop] at rest
    exact rest
  · have before : s.returned ++ [] = s.accepted.take s.ring.tail := by
      rw [← h.returned, here]
      rfl
    rw [List.append_nil] at before
    show s.returned ++ output = s.accepted.take (s.ring.tail + toRead)
    rw [before, read, World.unread, List.take_add]

/-- Every step keeps the invariant as long as the head has not wrapped. -/
theorem step_inv {w : Nat} {s t : World} (h : Step w s t) (few : t.accepted.length < 2 ^ w)
    (inv : Inv s) : Inv t := by
  have producer := inv.producer
  have consumer := inv.consumer
  have used := inv.used
  have ordered := inv.ordered
  have room := inv.room
  cases h with
  | callWrite input ready =>
    exact inv.withProducer (.writeHead input) (by rw [ready]; rfl) trivial _ _
  | writeLoadHead input here =>
    exact inv.withProducer (.writeTail input _) (by rw [here]; rfl) rfl _ _
  | writeLoadTail input head toWrite here count =>
    rw [here] at producer
    obtain rfl : head = s.ring.head := producer
    rw [used] at count
    refine inv.withProducer _ ?_ ?_ _ _
    · rw [here]
      split <;> rfl
    · split
      · exact ⟨rfl, Nat.zero_le _, by omega, by omega⟩
      · show toWrite ≤ input.length
        omega
  | copyInByte input head toWrite copied byte data here more next shared =>
    exact inv.copyIn here more next shared
  | storeHead input head toWrite here => exact inv.publish here few
  | writeReturn input toWrite here =>
    exact inv.withProducer .idle (by rw [here]; rfl) trivial _ _
  | callSpace ready => exact inv.withProducer .spaceHead (by rw [ready]; rfl) trivial _ _
  | spaceLoadHead here => exact inv.withProducer (.spaceTail _) (by rw [here]; rfl) rfl _ _
  | spaceLoadTail head here => exact inv.withProducer .idle (by rw [here]; rfl) trivial _ _
  | callRead length ready => exact inv.withConsumer (.readTail length) (by rw [ready]; rfl) trivial _ _
  | readLoadTail length here =>
    exact inv.withConsumer (.readHead length _) (by rw [here]; rfl) rfl _ _
  | readLoadHead length tail toRead here count =>
    rw [here] at consumer
    obtain rfl : tail = s.ring.tail := consumer
    rw [used] at count
    refine inv.withConsumer _ ?_ ?_ _ _
    · rw [here]
      split <;> rfl
    · split
      · exact ⟨rfl, by omega, by omega, Nat.zero_le _, List.nil_prefix⟩
      · exact Nat.zero_le _
  | copyOutByte length tail toRead output data here more shared =>
    have oldest := inv.copyOut here more shared
    rw [here] at consumer
    obtain ⟨same, short, bound, _, _⟩ := consumer
    refine inv.withConsumer (.copyOut length tail toRead _) (by rw [here]; rfl)
      ⟨same, short, bound, ?_, oldest⟩ _ _
    rw [List.length_append, List.length_singleton]
    omega
  | storeTail length tail toRead output here done => exact inv.consume here done few
  | readReturn length output here =>
    refine inv.withConsumer .idle ?_ trivial _ _
    rw [here]
    exact List.append_nil _
  | callAvailable ready => exact inv.withConsumer .availableHead (by rw [ready]; rfl) trivial _ _
  | availableLoadHead here =>
    exact inv.withConsumer (.availableTail _) (by rw [here]; rfl) (Nat.le_refl s.ring.head) _ _
  | availableLoadTail head here => exact inv.withConsumer .idle (by rw [here]; rfl) trivial _ _

theorem step_accepted {w : Nat} {s t : World} (h : Step w s t) :
    s.accepted.length ≤ t.accepted.length := by
  cases h with
  | storeHead input head toWrite here =>
    rw [List.length_append]
    omega
  | callWrite | writeLoadHead | writeLoadTail | copyInByte | writeReturn | callSpace
  | spaceLoadHead | spaceLoadTail | callRead | readLoadTail | readLoadHead | copyOutByte
  | storeTail | readReturn | callAvailable | availableLoadHead | availableLoadTail =>
    exact Nat.le_refl _

theorem reachable_inv {w capacity addr : Nat} (positive : 0 < capacity) {s : World}
    (h : Reachable w capacity addr s) (few : s.accepted.length < 2 ^ w) : Inv s := by
  refine Reach.Reachable.within (fun s => s.accepted.length < 2 ^ w) ?_ ?_ ?_ h few
  · rintro s rfl
    exact start_inv positive addr
  · intro s t step fewer
    exact Nat.lt_of_le_of_lt (step_accepted step) fewer
  · intro s t inv step fewer
    exact step_inv step fewer inv

/-- The cells a write in progress copies into. -/
def World.writing (s : World) : Set Nat :=
  match s.producer with
  | .copyIn _ head toWrite _ =>
    {k | ∃ i < toWrite, k = chunkCell s.ring.capacity head toWrite i}
  | _ => ∅

/-- The cells a read in progress copies out of. -/
def World.reading (s : World) : Set Nat :=
  match s.consumer with
  | .copyOut _ tail toRead _ =>
    {k | ∃ i < toRead, k = chunkCell s.ring.capacity tail toRead i}
  | _ => ∅

/-- The two copies lie in one window of at most `capacity` positions, the read's
before the head and the write's from it on. -/
theorem Inv.disjoint {s : World} (h : Inv s) : Disjoint s.writing s.reading := by
  rw [Set.disjoint_left]
  intro k writes reads
  have producer := h.producer
  have consumer := h.consumer
  have room := h.room
  unfold World.writing at writes
  unfold World.reading at reads
  split at writes
  · rename_i input head toWrite copied here
    split at reads
    · rename_i length tail toRead output here'
      rw [here] at producer
      rw [here'] at consumer
      obtain ⟨sameHead, _, _, fits⟩ := producer
      obtain ⟨sameTail, _, behind, _, _⟩ := consumer
      obtain ⟨i, hi, rfl⟩ := writes
      obtain ⟨j, hj, same⟩ := reads
      rw [chunkCell_eq head h.positive (by omega) hi,
        chunkCell_eq tail h.positive (by omega) hj, sameHead, sameTail] at same
      have apart := Circular.cell_ne s.ring.capacity 0
        (show s.ring.tail + j < s.ring.head + i by omega) (by omega)
      rw [Nat.zero_add, Nat.zero_add] at apart
      exact apart same.symm
    · exact reads
  · exact writes

/-- Under every interleaving of the two threads the counters stay within a
capacity of each other, the two copies never touch the same cell, and what
reads return is what writes accepted, in order and without loss. -/
theorem spsc_safe {w capacity addr : Nat} (positive : 0 < capacity) {s : World}
    (h : Reachable w capacity addr s) (few : s.accepted.length < 2 ^ w) :
    s.ring.tail ≤ s.ring.head ∧ s.ring.head ≤ s.ring.tail + s.ring.capacity ∧
    Disjoint s.writing s.reading ∧ s.returned <+: s.accepted ∧
    (s.producer = .idle → s.consumer = .idle → s.ring.available = 0 →
      s.returned = s.accepted) := by
  have inv := reachable_inv positive h few
  have returned := inv.returned
  refine ⟨inv.ordered, inv.room, inv.disjoint, ?_, ?_⟩
  · exact (List.prefix_append _ _).trans (returned ▸ List.take_prefix _ _)
  · intro _ quiet drained
    obtain ⟨data, shared, _⟩ := inv.block
    rw [RingBuffer.available_eq shared, inv.used] at drained
    rw [quiet, show Consumer.idle.taken = [] from rfl, List.append_nil] at returned
    rw [returned, List.take_of_length_le]
    have counted := inv.head
    omega

theorem spsc_safe_short :
    (((start 4 7).soloWrite 32 [1, 2, 3]).soloRead 32 2).returned <+:
      (((start 4 7).soloWrite 32 [1, 2, 3]).soloRead 32 2).accepted :=
  (spsc_safe (by decide)
    (soloRead_reachable
      (soloWrite_reachable (.start rfl) rfl rfl (by decide) (by decide) _)
      rfl rfl (by decide) (by decide) _)
    (by decide)).2.2.2.1

end Assistantd.Spsc
