import Assistantd.Ring.Spsc

/-! What `available` and `space` return is still there, or still free, when the
caller comes back for it. -/
namespace Assistantd.Spsc

open RingBuffer (usedSnapshot)
open Reach

def readReturns (s t : World) : Prop :=
  (∃ length output, s.consumer = .account length output) ∧ t.consumer = .idle

def writeReturns (s t : World) : Prop :=
  (∃ input toWrite, s.producer = .account input toWrite) ∧ t.producer = .idle

/-- As long as the tail is not stored, `n` bytes stay unread; from there on the
read in progress has got them. -/
def Consumer.Promised (n head tail : Nat) : Consumer → Prop
  | .copyOut length _ toRead _ => min length n ≤ toRead ∧ n + tail ≤ head
  | .account length output => min length n ≤ output.length
  | _ => n + tail ≤ head

def Producer.Granted (n head tail capacity : Nat) : Producer → Prop
  | .copyIn input _ toWrite _ => min input.length n ≤ toWrite ∧ head + n ≤ tail + capacity
  | .account input toWrite => min input.length n ≤ toWrite
  | _ => head + n ≤ tail + capacity

variable {w capacity addr n : Nat} {s t u : World}

theorem Consumer.Promised.publish {c : Consumer} {head head' tail : Nat}
    (h : c.Promised n head tail) (less : head ≤ head') : c.Promised n head' tail := by
  cases c with
  | copyOut => exact ⟨h.1, Nat.le_trans h.2 less⟩
  | account => exact h
  | idle | readTail | readHead | availableHead | availableTail => exact Nat.le_trans h less

theorem Producer.Granted.advance {p : Producer} {head tail tail' : Nat}
    (h : p.Granted n head tail capacity) (less : tail ≤ tail') :
    p.Granted n head tail' capacity := by
  have room := Nat.add_le_add_right less capacity
  cases p with
  | copyIn => exact ⟨h.1, Nat.le_trans h.2 room⟩
  | account => exact h
  | idle | writeHead | writeTail | spaceHead | spaceTail => exact Nat.le_trans h room

/-- The counters only grow while the head has not wrapped. -/
theorem step_head (h : Step w s t) (inv : Inv s) (next : Inv t) : s.ring.head ≤ t.ring.head := by
  rw [inv.head, next.head]
  exact step_accepted h

theorem step_tail (h : Step w s t) (inv : Inv s) (few : s.accepted.length < 2 ^ w) :
    s.ring.tail ≤ t.ring.tail := by
  cases h with
  | storeTail length tail toRead output here done =>
    have consumer := inv.consumer
    rw [here] at consumer
    obtain ⟨same, _, behind, _, _⟩ := consumer
    have counted := inv.head
    show s.ring.tail ≤ (tail + toRead) % 2 ^ w
    rw [Nat.mod_eq_of_lt (by omega)]
    omega
  | callWrite | writeLoadHead | writeLoadTail | copyInByte | storeHead | writeReturn | callSpace
  | spaceLoadHead | spaceLoadTail | callRead | readLoadTail | readLoadHead | copyOutByte
  | readReturn | callAvailable | availableLoadHead | availableLoadTail => exact Nat.le_refl _

/-- A step keeps a promise made to the consumer until its next read returns. -/
theorem step_promised (h : Step w s t) (inv : Inv s) (next : Inv t) (goes : ¬ readReturns s t)
    (kept : s.consumer.Promised n s.ring.head s.ring.tail) :
    t.consumer.Promised n t.ring.head t.ring.tail := by
  have grows := step_head h inv next
  have consumer := inv.consumer
  have used := inv.used
  cases h with
  | callWrite | writeLoadHead | writeLoadTail | copyInByte | storeHead | writeReturn | callSpace
  | spaceLoadHead | spaceLoadTail => exact kept.publish grows
  | callRead length ready | callAvailable ready =>
    rw [ready] at kept
    exact kept
  | readLoadTail length here | availableLoadHead here =>
    rw [here] at kept
    exact kept
  | availableLoadTail head here =>
    rw [here] at kept
    exact kept
  | readLoadHead length tail toRead here count =>
    rw [here] at kept consumer
    obtain rfl : tail = s.ring.tail := consumer
    have unread : n + s.ring.tail ≤ s.ring.head := kept
    rw [used] at count
    show Consumer.Promised n s.ring.head s.ring.tail (if toRead > 0 then _ else _)
    split
    · exact ⟨by omega, unread⟩
    · show min length n ≤ 0
      omega
  | copyOutByte length tail toRead output data here more shared =>
    rw [here] at kept
    exact kept
  | storeTail length tail toRead output here done =>
    rw [here] at kept
    show min length n ≤ output.length
    rw [done]
    exact kept.1
  | readReturn length output here => exact absurd ⟨⟨length, output, here⟩, rfl⟩ goes

/-- A step keeps a grant made to the producer until its next write returns. -/
theorem step_granted (h : Step w s t) (inv : Inv s) (few : s.accepted.length < 2 ^ w)
    (goes : ¬ writeReturns s t)
    (kept : s.producer.Granted n s.ring.head s.ring.tail s.ring.capacity) :
    t.producer.Granted n t.ring.head t.ring.tail t.ring.capacity := by
  have grows := step_tail h inv few
  have producer := inv.producer
  have used := inv.used
  cases h with
  | callRead | readLoadTail | readLoadHead | copyOutByte | storeTail | readReturn | callAvailable
  | availableLoadHead | availableLoadTail => exact kept.advance grows
  | callWrite input ready =>
    rw [ready] at kept
    exact kept
  | callSpace ready =>
    rw [ready] at kept
    exact kept
  | writeLoadHead input here =>
    rw [here] at kept
    exact kept
  | spaceLoadHead here =>
    rw [here] at kept
    exact kept
  | spaceLoadTail head here =>
    rw [here] at kept
    exact kept
  | writeLoadTail input head toWrite here count =>
    rw [here] at kept producer
    obtain rfl : head = s.ring.head := producer
    have room : s.ring.head + n ≤ s.ring.tail + s.ring.capacity := kept
    have ordered := inv.ordered
    rw [used] at count
    show Producer.Granted n s.ring.head s.ring.tail s.ring.capacity (if toWrite > 0 then _ else _)
    split
    · exact ⟨by omega, room⟩
    · show min input.length n ≤ toWrite
      omega
  | copyInByte input head toWrite copied byte data here more next shared =>
    rw [here] at kept
    exact kept
  | storeHead input head toWrite here =>
    rw [here] at kept
    exact kept.1
  | writeReturn input toWrite here => exact absurd ⟨⟨input, toWrite, here⟩, rfl⟩ goes

theorem step_underflow (h : Step w s t) (goes : ¬ readReturns s t) :
    t.ring.underflow = s.ring.underflow := by
  cases h with
  | readReturn length output here => exact absurd ⟨⟨length, output, here⟩, rfl⟩ goes
  | callWrite | writeLoadHead | writeLoadTail | copyInByte | storeHead | writeReturn | callSpace
  | spaceLoadHead | spaceLoadTail | callRead | readLoadTail | readLoadHead | copyOutByte
  | storeTail | callAvailable | availableLoadHead | availableLoadTail => rfl

theorem step_overflow (h : Step w s t) (goes : ¬ writeReturns s t) :
    t.ring.overflow = s.ring.overflow := by
  cases h with
  | writeReturn input toWrite here => exact absurd ⟨⟨input, toWrite, here⟩, rfl⟩ goes
  | callWrite | writeLoadHead | writeLoadTail | copyInByte | storeHead | callSpace | spaceLoadHead
  | spaceLoadTail | callRead | readLoadTail | readLoadHead | copyOutByte | storeTail | readReturn
  | callAvailable | availableLoadHead | availableLoadTail => rfl

/-- A full read or write returns without counting anything. -/
theorem account_underflow {length : Nat} {output : List UInt8} (h : Step w s t)
    (here : s.consumer = .account length output) (full : output.length = length) :
    t.ring.underflow = s.ring.underflow := by
  cases h with
  | readReturn length' output' here' =>
    rw [here] at here'
    cases here'
    exact if_neg (by omega)
  | callWrite | writeLoadHead | writeLoadTail | copyInByte | storeHead | writeReturn | callSpace
  | spaceLoadHead | spaceLoadTail | callRead | readLoadTail | readLoadHead | copyOutByte
  | storeTail | callAvailable | availableLoadHead | availableLoadTail => rfl

theorem account_overflow {input : List UInt8} {toWrite : Nat} (h : Step w s t)
    (here : s.producer = .account input toWrite) (full : toWrite = input.length) :
    t.ring.overflow = s.ring.overflow := by
  cases h with
  | writeReturn input' toWrite' here' =>
    rw [here] at here'
    cases here'
    exact if_neg (by omega)
  | callWrite | writeLoadHead | writeLoadTail | copyInByte | storeHead | callSpace | spaceLoadHead
  | spaceLoadTail | callRead | readLoadTail | readLoadHead | copyOutByte | storeTail | readReturn
  | callAvailable | availableLoadHead | availableLoadTail => rfl

/-- The last load of `available`: the head it saw may be stale, which makes the
number too small at worst. -/
theorem available_returns {head : Nat} (h : Step w s t) (inv : Inv s)
    (here : s.consumer = .availableTail head) (returned : t.consumer = .idle) :
    t.consumer.Promised t.promised t.ring.head t.ring.tail := by
  have consumer := inv.consumer
  have ordered := inv.ordered
  rw [here] at consumer
  have stale : head ≤ s.ring.head := consumer
  cases h with
  | availableLoadTail head' here' =>
    rw [here] at here'
    cases here'
    show usedSnapshot head s.ring.tail s.ring.capacity + s.ring.tail ≤ s.ring.head
    unfold usedSnapshot
    split
    · omega
    · split <;> omega
  | callWrite | writeLoadHead | writeLoadTail | copyInByte | storeHead | writeReturn | callSpace
  | spaceLoadHead | spaceLoadTail => simp [here] at returned
  | callRead _ other | callAvailable other => simp [here] at other
  | readLoadTail _ other | availableLoadHead other => simp [here] at other
  | readLoadHead _ _ _ other | copyOutByte _ _ _ _ _ other | storeTail _ _ _ _ other
  | readReturn _ _ other => simp [here] at other

theorem space_returns {head : Nat} (h : Step w s t) (inv : Inv s)
    (here : s.producer = .spaceTail head) (returned : t.producer = .idle) :
    t.producer.Granted t.granted t.ring.head t.ring.tail t.ring.capacity := by
  have producer := inv.producer
  have used := inv.used
  have ordered := inv.ordered
  have room := inv.room
  rw [here] at producer
  obtain rfl : head = s.ring.head := producer
  cases h with
  | spaceLoadTail head' here' =>
    rw [here] at here'
    cases here'
    show s.ring.head + (s.ring.capacity - usedSnapshot s.ring.head s.ring.tail s.ring.capacity) ≤
      s.ring.tail + s.ring.capacity
    omega
  | callRead | readLoadTail | readLoadHead | copyOutByte | storeTail | readReturn | callAvailable
  | availableLoadHead | availableLoadTail => simp [here] at returned
  | callWrite _ other | callSpace other => simp [here] at other
  | writeLoadHead _ other | spaceLoadHead other => simp [here] at other
  | writeLoadTail _ _ _ other | copyInByte _ _ _ _ _ _ other | storeHead _ _ _ other
  | writeReturn _ _ other => simp [here] at other

theorem until_promised (positive : 0 < capacity) (h : Reachable w capacity addr t)
    (promised : t.consumer.Promised n t.ring.head t.ring.tail)
    (later : Until (Step w) readReturns t u) (few : u.accepted.length < 2 ^ w) :
    u.consumer.Promised n u.ring.head u.ring.tail ∧ u.ring.underflow = t.ring.underflow := by
  refine later.within
    (I := fun u => u.consumer.Promised n u.ring.head u.ring.tail ∧
      u.ring.underflow = t.ring.underflow)
    (fun u => u.accepted.length < 2 ^ w) ⟨promised, rfl⟩ ?_ ?_ few
  · intro s t step fewer
    exact Nat.lt_of_le_of_lt (step_accepted step) fewer
  · rintro s v earlier ⟨kept, same⟩ step goes fewer
    have now := h.until earlier
    have inv := reachable_inv positive now (Nat.lt_of_le_of_lt (step_accepted step) fewer)
    have next := reachable_inv positive (now.next step) fewer
    exact ⟨step_promised step inv next goes kept, (step_underflow step goes).trans same⟩

theorem until_granted (positive : 0 < capacity) (h : Reachable w capacity addr t)
    (granted : t.producer.Granted n t.ring.head t.ring.tail t.ring.capacity)
    (later : Until (Step w) writeReturns t u) (few : u.accepted.length < 2 ^ w) :
    u.producer.Granted n u.ring.head u.ring.tail u.ring.capacity ∧
      u.ring.overflow = t.ring.overflow := by
  refine later.within
    (I := fun u => u.producer.Granted n u.ring.head u.ring.tail u.ring.capacity ∧
      u.ring.overflow = t.ring.overflow)
    (fun u => u.accepted.length < 2 ^ w) ⟨granted, rfl⟩ ?_ ?_ few
  · intro s t step fewer
    exact Nat.lt_of_le_of_lt (step_accepted step) fewer
  · rintro s v earlier ⟨kept, same⟩ step goes fewer
    have before := Nat.lt_of_le_of_lt (step_accepted step) fewer
    have inv := reachable_inv positive (h.until earlier) before
    exact ⟨step_granted step inv before goes kept, (step_overflow step goes).trans same⟩

theorem until_accepted {stop : World → World → Prop} (later : Until (Step w) stop t u) :
    t.accepted.length ≤ u.accepted.length := by
  induction later with
  | here => exact Nat.le_refl _
  | next _ step _ ih => exact Nat.le_trans ih (step_accepted step)

/-- In `t` the call has just returned its number. The next read or write of at
most so much, wherever its steps fall among the other side's, is complete when
it returns and has counted nothing. -/
theorem snapshots_kept (positive : 0 < capacity) (h : Reachable w capacity addr s)
    (step : Step w s t) :
    (∀ head, s.consumer = .availableTail head → t.consumer = .idle →
      ∀ u, Until (Step w) readReturns t u → u.accepted.length < 2 ^ w →
      ∀ length output, u.consumer = .account length output → length ≤ t.promised →
        output.length = length ∧ ∀ v, Step w u v → v.ring.underflow = t.ring.underflow) ∧
    (∀ head, s.producer = .spaceTail head → t.producer = .idle →
      ∀ u, Until (Step w) writeReturns t u → u.accepted.length < 2 ^ w →
      ∀ input toWrite, u.producer = .account input toWrite → input.length ≤ t.granted →
        toWrite = input.length ∧ ∀ v, Step w u v → v.ring.overflow = t.ring.overflow) := by
  have grows := step_accepted step
  constructor
  · intro head here returned u later few length output done short
    have before := until_accepted later
    have inv := reachable_inv positive h (by omega)
    obtain ⟨kept, same⟩ := until_promised positive (h.next step)
      (available_returns step inv here returned) later few
    have last := (reachable_inv positive ((h.next step).until later) few).consumer
    rw [done] at kept last
    have enough : min length t.promised ≤ output.length := kept
    have bounded : output.length ≤ length := last
    have full : output.length = length := by omega
    exact ⟨full, fun v next => (account_underflow next done full).trans same⟩
  · intro head here returned u later few input toWrite done short
    have before := until_accepted later
    have inv := reachable_inv positive h (by omega)
    obtain ⟨kept, same⟩ := until_granted positive (h.next step)
      (space_returns step inv here returned) later few
    have last := (reachable_inv positive ((h.next step).until later) few).producer
    rw [done] at kept last
    have enough : min input.length t.granted ≤ toWrite := kept
    have bounded : toWrite ≤ input.length := last
    have full : toWrite = input.length := by omega
    exact ⟨full, fun v next => (account_overflow next done full).trans same⟩

/-- Three bytes are there when `available` is called, and a read of two gets two. -/
theorem snapshots_kept_short : ∃ u output, Reachable 32 4 7 u ∧
    u.consumer = .account 2 output ∧ output.length = 2 := by
  let s := (start 4 7).soloWrite 32 [1, 2, 3]
  have written : Reachable 32 4 7 s :=
    soloWrite_reachable (.start rfl) rfl rfl (by decide) (by decide) _
  have loaded : Reachable 32 4 7 { s with consumer := .availableTail 3 } :=
    (written.next (.callAvailable _ rfl)).next (.availableLoadHead _ rfl)
  have step : Step 32 { s with consumer := .availableTail 3 } { s with promised := 3 } :=
    .availableLoadTail _ 3 rfl
  have reading : Until (Step 32) readReturns { s with promised := 3 }
      { s with promised := 3, consumer := .copyOut 2 0 2 [] } :=
    ((Until.here.next (.callRead _ 2 rfl) nofun).next (.readLoadTail _ 2 rfl) nofun).next
      (.readLoadHead _ 2 0 2 rfl rfl) nofun
  have copied := (reading.next (.copyOutByte _ 2 0 2 [] _ rfl (by decide) rfl) nofun).next
    (.copyOutByte _ 2 0 2 _ _ rfl (by decide) rfl) nofun
  have stored := copied.next (.storeTail _ 2 0 2 _ rfl rfl) nofun
  refine ⟨_, _, (loaded.next step).until stored, rfl, ?_⟩
  exact ((snapshots_kept (by decide) loaded step).1 3 rfl rfl _ stored (by decide) 2 _ rfl
    (by decide)).1

end Assistantd.Spsc
