import Assistantd.Lib.Circular

/-! A bounded first-in first-out queue in a ring of slots. A slot that is taken
from is blanked. -/
structure SlotQueue (α : Type) where
  items : Nat → α
  head : Nat
  tail : Nat
  size : Nat

namespace SlotQueue

variable {α : Type}

def init (blank : α) : SlotQueue α := ⟨fun _ => blank, 0, 0, 0⟩

def enqueue (capacity : Nat) (q : SlotQueue α) (item : α) : Bool × SlotQueue α :=
  if q.size ≥ capacity then (false, q)
  else
    (true, { items := Function.update q.items q.tail item, head := q.head,
             tail := (q.tail + 1) % capacity, size := q.size + 1 })

def dequeue (capacity : Nat) (blank : α) (q : SlotQueue α) : Option α × SlotQueue α :=
  if q.size = 0 then (none, q)
  else
    (some (q.items q.head), { items := Function.update q.items q.head blank,
                              head := (q.head + 1) % capacity, tail := q.tail, size := q.size - 1 })

/-- The queue holds `xs`, oldest first. -/
structure Stores (capacity : Nat) (q : SlotQueue α) (xs : List α) : Prop where
  window : Circular.Holds q.items capacity q.head xs
  inside : q.head < capacity
  fits : xs.length ≤ capacity
  tail : q.tail = (q.head + xs.length) % capacity
  size : q.size = xs.length

theorem init_stores {capacity : Nat} (positive : 0 < capacity) (blank : α) :
    Stores capacity (init blank) [] where
  window := Circular.holds_nil _ _ _
  inside := positive
  fits := Nat.zero_le _
  tail := (Nat.zero_mod _).symm
  size := rfl

theorem Stores.enqueue {capacity : Nat} {q : SlotQueue α} {xs : List α}
    (h : Stores capacity q xs) (room : xs.length < capacity) (x : α) :
    (SlotQueue.enqueue capacity q x).1 = true ∧
      Stores capacity (SlotQueue.enqueue capacity q x).2 (xs ++ [x]) := by
  have free : ¬ q.size ≥ capacity := by
    have size := h.size
    omega
  simp only [SlotQueue.enqueue, if_neg free, true_and]
  constructor
  · rw [h.tail]
    exact h.window.push room x
  · exact h.inside
  · rw [List.length_append]
    exact room
  · rw [h.tail, Nat.mod_add_mod, List.length_append, Nat.add_assoc]
    rfl
  · rw [h.size, List.length_append]
    rfl

theorem Stores.full {capacity : Nat} {q : SlotQueue α} {xs : List α} (h : Stores capacity q xs)
    (full : xs.length = capacity) (x : α) : SlotQueue.enqueue capacity q x = (false, q) := by
  have size := h.size
  exact if_pos (by omega)

theorem Stores.dequeue {capacity : Nat} {q : SlotQueue α} {x : α} {xs : List α}
    (h : Stores capacity q (x :: xs)) (blank : α) :
    (SlotQueue.dequeue capacity blank q).1 = some x ∧
      Stores capacity (SlotQueue.dequeue capacity blank q).2 xs := by
  have size := h.size
  have fits := h.fits
  rw [List.length_cons] at size fits
  have oldest := h.window 0 (Nat.zero_lt_succ _)
  rw [Nat.add_zero, Nat.mod_eq_of_lt h.inside] at oldest
  simp only [SlotQueue.dequeue, if_neg (show ¬ q.size = 0 by omega), oldest]
  refine ⟨rfl, ?_, Nat.mod_lt _ (by omega), by omega, ?_, ?_⟩
  · -- blanking the head's slot leaves the later window alone
    have rest : Circular.Holds q.items capacity ((q.head + 1) % capacity) xs :=
      (h.window.drop 1).shift (Nat.mod_mod _ _).symm
    apply rest.frame
    intro i hi
    rw [Nat.mod_add_mod]
    apply Function.update_of_ne
    have apart := Circular.cell_ne capacity q.head (show 0 < 1 + i by omega) (by omega)
    rw [Nat.add_zero, Nat.mod_eq_of_lt h.inside, ← Nat.add_assoc] at apart
    exact apart.symm
  · rw [h.tail, List.length_cons, Nat.mod_add_mod]
    congr 1
    omega
  · show q.size - 1 = xs.length
    omega

theorem Stores.empty {capacity : Nat} {q : SlotQueue α} (h : Stores capacity q []) (blank : α) :
    SlotQueue.dequeue capacity blank q = (none, q) :=
  if_pos h.size

end SlotQueue
