import Assistantd.Lib.Reach
import Assistantd.Ring.Buffer

/-! The ring shared by one producer and one consumer thread. Every load and
store of a counter and every byte copied is a step of its own; a call that runs
alone is the function of `Buffer`. -/
namespace Assistantd.Spsc

open RingBuffer (usedSnapshot)

/-- Where the producer stands inside `write` or `space`, with its local variables. -/
inductive Producer where
  | idle
  | writeHead (input : List UInt8)
  | writeTail (input : List UInt8) (head : Nat)
  | copyIn (input : List UInt8) (head toWrite copied : Nat)
  | account (input : List UInt8) (toWrite : Nat)
  | spaceHead
  | spaceTail (head : Nat)

/-- Where the consumer stands inside `read` or `available`. -/
inductive Consumer where
  | idle
  | readTail (length : Nat)
  | readHead (length tail : Nat)
  | copyOut (length tail toRead : Nat) (output : List UInt8)
  | account (length : Nat) (output : List UInt8)
  | availableHead
  | availableTail (head : Nat)

/-- The history fields are not in the program: `accepted` grows when a write
publishes its head, `returned` when a read returns. `granted` is what `space`
returned last, until the next write has returned; `promised` likewise. -/
structure World where
  ring : RingBuffer
  producer : Producer
  consumer : Consumer
  accepted : List UInt8
  returned : List UInt8
  granted : Nat
  promised : Nat

/-- The cell byte `i` of an `n`-byte copy goes to or comes from: the second
chunk starts over at cell 0. -/
def chunkCell (capacity counter n i : Nat) : Nat :=
  let pos := counter % capacity
  let firstChunk := min n (capacity - pos)
  if i < firstChunk then pos + i else i - firstChunk

inductive Step (w : Nat) : World → World → Prop where
  | callWrite (s : World) (input : List UInt8) (ready : s.producer = .idle) :
      Step w s { s with producer := .writeHead input }
  | writeLoadHead (s : World) (input : List UInt8) (here : s.producer = .writeHead input) :
      Step w s { s with producer := .writeTail input s.ring.head }
  | writeLoadTail (s : World) (input : List UInt8) (head toWrite : Nat)
      (here : s.producer = .writeTail input head)
      (count : toWrite = min input.length
        (s.ring.capacity - usedSnapshot head s.ring.tail s.ring.capacity)) :
      Step w s { s with
        producer := if toWrite > 0 then .copyIn input head toWrite 0 else .account input toWrite }
  | copyInByte (s : World) (input : List UInt8) (head toWrite copied : Nat) (byte : UInt8)
      (data : Block) (here : s.producer = .copyIn input head toWrite copied)
      (more : copied < toWrite) (next : input[copied]? = some byte)
      (shared : s.ring.data = some data) :
      Step w s { s with
        ring := { s.ring with
          data := some { data with
            bytes := Function.update data.bytes
              (chunkCell s.ring.capacity head toWrite copied) byte } }
        producer := .copyIn input head toWrite (copied + 1) }
  | storeHead (s : World) (input : List UInt8) (head toWrite : Nat)
      (here : s.producer = .copyIn input head toWrite toWrite) :
      Step w s { s with
        ring := { s.ring with head := (head + toWrite) % 2 ^ w }
        producer := .account input toWrite
        accepted := s.accepted ++ input.take toWrite }
  | writeReturn (s : World) (input : List UInt8) (toWrite : Nat)
      (here : s.producer = .account input toWrite) :
      Step w s { s with
        ring := { s.ring with
          overflow := if toWrite < input.length then
            (s.ring.overflow + (input.length - toWrite)) % 2 ^ w else s.ring.overflow }
        producer := .idle
        granted := 0 }
  | callSpace (s : World) (ready : s.producer = .idle) :
      Step w s { s with producer := .spaceHead }
  | spaceLoadHead (s : World) (here : s.producer = .spaceHead) :
      Step w s { s with producer := .spaceTail s.ring.head }
  | spaceLoadTail (s : World) (head : Nat) (here : s.producer = .spaceTail head) :
      Step w s { s with
        producer := .idle
        granted := s.ring.capacity - usedSnapshot head s.ring.tail s.ring.capacity }
  | callRead (s : World) (length : Nat) (ready : s.consumer = .idle) :
      Step w s { s with consumer := .readTail length }
  | readLoadTail (s : World) (length : Nat) (here : s.consumer = .readTail length) :
      Step w s { s with consumer := .readHead length s.ring.tail }
  | readLoadHead (s : World) (length tail toRead : Nat)
      (here : s.consumer = .readHead length tail)
      (count : toRead = min length (usedSnapshot s.ring.head tail s.ring.capacity)) :
      Step w s { s with
        consumer := if toRead > 0 then .copyOut length tail toRead [] else .account length [] }
  | copyOutByte (s : World) (length tail toRead : Nat) (output : List UInt8) (data : Block)
      (here : s.consumer = .copyOut length tail toRead output)
      (more : output.length < toRead) (shared : s.ring.data = some data) :
      Step w s { s with
        consumer := .copyOut length tail toRead
          (output ++ [data.bytes (chunkCell s.ring.capacity tail toRead output.length)]) }
  | storeTail (s : World) (length tail toRead : Nat) (output : List UInt8)
      (here : s.consumer = .copyOut length tail toRead output) (done : output.length = toRead) :
      Step w s { s with
        ring := { s.ring with tail := (tail + toRead) % 2 ^ w }
        consumer := .account length output }
  | readReturn (s : World) (length : Nat) (output : List UInt8)
      (here : s.consumer = .account length output) :
      Step w s { s with
        ring := { s.ring with
          underflow := if output.length < length then
            (s.ring.underflow + (length - output.length)) % 2 ^ w else s.ring.underflow }
        consumer := .idle
        returned := s.returned ++ output
        promised := 0 }
  | callAvailable (s : World) (ready : s.consumer = .idle) :
      Step w s { s with consumer := .availableHead }
  | availableLoadHead (s : World) (here : s.consumer = .availableHead) :
      Step w s { s with consumer := .availableTail s.ring.head }
  | availableLoadTail (s : World) (head : Nat) (here : s.consumer = .availableTail head) :
      Step w s { s with
        consumer := .idle
        promised := usedSnapshot head s.ring.tail s.ring.capacity }

/-- A ring fresh from `init`, both threads outside its functions. -/
def start (capacity addr : Nat) : World where
  ring := (RingBuffer.zeroed.init capacity (some addr)).2
  producer := .idle
  consumer := .idle
  accepted := []
  returned := []
  granted := 0
  promised := 0

def Reachable (w capacity addr : Nat) : World → Prop :=
  Reach.Reachable (· = start capacity addr) (Step w)

theorem chunkCell_eq {capacity n i : Nat} (counter : Nat) (positive : 0 < capacity)
    (hn : n ≤ capacity) (hi : i < n) :
    chunkCell capacity counter n i = (counter + i) % capacity := by
  have inside : counter % capacity < capacity := Nat.mod_lt counter positive
  have cell := Circular.cell_eq inside (show i < capacity by omega)
  rw [Nat.mod_add_mod] at cell
  rw [cell, chunkCell]
  by_cases first : i < min n (capacity - counter % capacity)
  · rw [if_pos first, if_pos (by omega)]
  · rw [if_neg first, if_neg (show ¬ counter % capacity + i < capacity by omega)]
    omega

/-- A whole `write` while the consumer rests. -/
def World.soloWrite (w : Nat) (s : World) (input : List UInt8) : World :=
  { s with
    ring := (s.ring.write w input).2
    accepted := s.accepted ++ input.take (s.ring.write w input).1
    granted := 0 }

/-- A whole `read` while the producer rests. -/
def World.soloRead (w : Nat) (s : World) (length : Nat) : World :=
  { s with
    ring := (s.ring.read w length).2
    returned := s.returned ++ (s.ring.read w length).1
    promised := 0 }

variable {w capacity addr : Nat} {s : World} {data : Block}

/-- The copy loop of a write that meets no other step. -/
theorem copiesIn (shared : s.ring.data = some data) (positive : 0 < s.ring.capacity)
    {input : List UInt8} {head toWrite : Nat} (room : toWrite ≤ s.ring.capacity)
    (short : toWrite ≤ input.length)
    (h : Reachable w capacity addr { s with producer := .copyIn input head toWrite 0 })
    (n : Nat) (done : n ≤ toWrite) :
    Reachable w capacity addr { s with
      ring := { s.ring with
        data := some { data with
          bytes := Circular.copyRound s.ring.capacity data.bytes (head % s.ring.capacity)
            (input.take n) } }
      producer := .copyIn input head toWrite n } := by
  induction n with
  | zero =>
    simp only [List.take_zero, Circular.copyRound_nil, ← shared]
    exact h
  | succ n ih =>
    have here := ih (by omega)
    have next : input[n]? = some input[n] := List.getElem?_eq_getElem (by omega)
    have copied := Reach.Reachable.next here
      (Step.copyInByte _ input head toWrite n input[n] _ rfl (by omega) next rfl)
    have cell : chunkCell s.ring.capacity head toWrite n =
        (head % s.ring.capacity + n) % s.ring.capacity := by
      rw [chunkCell_eq head positive room (by omega), Nat.mod_add_mod]
    rw [List.take_succ_eq_append_getElem (by omega), Circular.copyRound_push _
      (Nat.mod_lt head positive) (by rw [List.length_take]; omega), List.length_take,
      Nat.min_eq_left (by omega), ← cell]
    exact copied

theorem soloWrite_reachable (h : Reachable w capacity addr s) (ready : s.producer = .idle)
    (shared : s.ring.data = some data) (positive : 0 < s.ring.capacity)
    (bounded : s.ring.head < 2 ^ w) (input : List UInt8) :
    Reachable w capacity addr (s.soloWrite w input) := by
  have called := Reach.Reachable.next h (Step.callWrite s input ready)
  have loaded := Reach.Reachable.next (called.next (Step.writeLoadHead _ input rfl))
    (Step.writeLoadTail _ input _ (s.ring.writeCount input.length) rfl rfl)
  have short : s.ring.writeCount input.length ≤ input.length := Nat.min_le_left _ _
  have room : s.ring.writeCount input.length ≤ s.ring.capacity :=
    Nat.le_trans (Nat.min_le_right _ _) (Nat.sub_le _ _)
  have returns : ∀ ring accepted,
      Reachable w capacity addr { s with
        ring, accepted, producer := .account input (s.ring.writeCount input.length) } →
      Reachable w capacity addr { s with
        ring := { ring with
          overflow := if s.ring.writeCount input.length < input.length then
            (ring.overflow + (input.length - s.ring.writeCount input.length)) % 2 ^ w
            else ring.overflow }
        accepted, granted := 0 } := by
    intro ring accepted before
    have after := before.next (Step.writeReturn _ input _ rfl)
    rw [← ready] at after
    exact after
  unfold World.soloWrite
  rw [RingBuffer.write_spec w shared bounded]
  by_cases any : s.ring.writeCount input.length > 0
  · simp only [any, if_true] at loaded
    have copied := copiesIn shared positive room short loaded _ (Nat.le_refl _)
    exact returns _ _ (copied.next (Step.storeHead _ input _ _ rfl))
  · have nothing : s.ring.writeCount input.length = 0 := by omega
    simp only [nothing, Nat.lt_irrefl, if_false] at loaded returns
    have after := returns s.ring s.accepted loaded
    simp only [nothing, List.take_zero, Circular.copyRound_nil, Nat.add_zero,
      Nat.mod_eq_of_lt bounded, List.append_nil, ← shared]
    exact after

/-- The copy loop of a read that meets no other step. -/
theorem copiesOut (shared : s.ring.data = some data) (positive : 0 < s.ring.capacity)
    {length tail toRead : Nat} (room : toRead ≤ s.ring.capacity)
    (h : Reachable w capacity addr { s with consumer := .copyOut length tail toRead [] })
    (n : Nat) (done : n ≤ toRead) :
    Reachable w capacity addr { s with
      consumer := .copyOut length tail toRead
        (Circular.sliceRound s.ring.capacity data.bytes (tail % s.ring.capacity) n) } := by
  induction n with
  | zero => exact h
  | succ n ih =>
    have here := ih (by omega)
    have copied := Reach.Reachable.next here
      (Step.copyOutByte _ length tail toRead _ data rfl (by rw [Circular.sliceRound_length]; omega)
        shared)
    have cell : chunkCell s.ring.capacity tail toRead n =
        (tail % s.ring.capacity + n) % s.ring.capacity := by
      rw [chunkCell_eq tail positive room (by omega), Nat.mod_add_mod]
    rw [Circular.sliceRound_length, cell] at copied
    rw [Circular.sliceRound_push _ (Nat.mod_lt tail positive) (by omega)]
    exact copied

theorem soloRead_reachable (h : Reachable w capacity addr s) (ready : s.consumer = .idle)
    (shared : s.ring.data = some data) (positive : 0 < s.ring.capacity)
    (bounded : s.ring.tail < 2 ^ w) (length : Nat) :
    Reachable w capacity addr (s.soloRead w length) := by
  have called := Reach.Reachable.next h (Step.callRead s length ready)
  have loaded := Reach.Reachable.next (called.next (Step.readLoadTail _ length rfl))
    (Step.readLoadHead _ length _ (s.ring.readCount length) rfl rfl)
  have room : s.ring.readCount length ≤ s.ring.capacity :=
    Nat.le_trans (Nat.min_le_right _ _) (RingBuffer.usedSnapshot_le _ _ _)
  have returns : ∀ ring output, output.length = s.ring.readCount length →
      Reachable w capacity addr { s with ring, consumer := .account length output } →
      Reachable w capacity addr { s with
        ring := { ring with
          underflow := if s.ring.readCount length < length then
            (ring.underflow + (length - s.ring.readCount length)) % 2 ^ w else ring.underflow }
        returned := s.returned ++ output, promised := 0 } := by
    intro ring output count before
    have after := before.next (Step.readReturn _ length output rfl)
    rw [← ready, count] at after
    exact after
  unfold World.soloRead
  rw [RingBuffer.read_spec w shared bounded]
  by_cases any : s.ring.readCount length > 0
  · simp only [any, if_true] at loaded
    have copied := copiesOut shared positive room loaded _ (Nat.le_refl _)
    have count := Circular.sliceRound_length s.ring.capacity data.bytes
      (s.ring.tail % s.ring.capacity) (s.ring.readCount length)
    exact returns _ _ count (copied.next (Step.storeTail _ length _ _ _ rfl count))
  · have nothing : s.ring.readCount length = 0 := by omega
    simp only [nothing, Nat.lt_irrefl, if_false] at loaded returns
    have after := returns s.ring [] rfl loaded
    simp only [nothing, Nat.add_zero, Nat.mod_eq_of_lt bounded]
    exact after

end Assistantd.Spsc
