import Assistantd.Lib.Simulation
import Assistantd.Lib.SlotQueue

/-! Runs of calls on a slot queue, against the bounded list it stands for and
against a queue of other items. -/
namespace SlotQueue

open Calls

variable {α β : Type}

inductive Op (α : Type) where
  | enqueue (item : α)
  | dequeue (out : α)
  | size

/-- The number a call returns, and what a dequeue leaves in the caller's item. -/
structure Reply (α : Type) where
  value : Nat
  out : Option α

/-- The bounded list, the oldest item first. -/
def listed (capacity : Nat) (xs : List α) : Op α → Reply α × List α
  | .enqueue item =>
    if xs.length < capacity then (⟨1, none⟩, xs ++ [item]) else (⟨0, none⟩, xs)
  | .dequeue out =>
    match xs with
    | [] => (⟨0, some out⟩, [])
    | x :: rest => (⟨1, some x⟩, rest)
  | .size => (⟨xs.length, none⟩, xs)

def served (capacity : Nat) (blank : α) (q : SlotQueue α) : Op α → Reply α × SlotQueue α
  | .enqueue item =>
    (⟨(enqueue capacity q item).1.toNat, none⟩, (enqueue capacity q item).2)
  | .dequeue out =>
    (⟨(dequeue capacity blank q).1.isSome.toNat, some ((dequeue capacity blank q).1.getD out)⟩,
      (dequeue capacity blank q).2)
  | .size => (⟨q.size, none⟩, q)

/-- Every slot behind the window is blank. -/
def Clean (capacity : Nat) (blank : α) (q : SlotQueue α) : Prop :=
  ∀ i, q.size ≤ i → i < capacity → q.items ((q.head + i) % capacity) = blank

theorem init_clean (capacity : Nat) (blank : α) : Clean capacity blank (init blank) :=
  fun _ _ _ => rfl

theorem Clean.enqueue {capacity : Nat} {blank : α} {q : SlotQueue α} {xs : List α}
    (h : Clean capacity blank q) (stores : Stores capacity q xs) (x : α) :
    Clean capacity blank (SlotQueue.enqueue capacity q x).2 := by
  unfold SlotQueue.enqueue
  split
  · exact h
  · intro i after inside
    simp only at after ⊢
    have other := Circular.cell_ne capacity q.head (show q.size < i by omega) (by omega)
    rw [stores.tail, ← stores.size, Function.update_of_ne other.symm]
    exact h i (by omega) inside

theorem Clean.dequeue {capacity : Nat} {blank : α} {q : SlotQueue α} {xs : List α}
    (h : Clean capacity blank q) (stores : Stores capacity q xs) :
    Clean capacity blank (SlotQueue.dequeue capacity blank q).2 := by
  unfold SlotQueue.dequeue
  split
  · exact h
  · intro i after inside
    simp only at after ⊢
    rw [Nat.mod_add_mod, Nat.add_assoc]
    by_cases last : 1 + i = capacity
    · -- all the way round: the slot that was taken from
      rw [last, Nat.add_mod_right, Nat.mod_eq_of_lt stores.inside, Function.update_self]
    · have other := Circular.cell_ne capacity q.head (show 0 < 1 + i by omega) (by omega)
      rw [Nat.add_zero, Nat.mod_eq_of_lt stores.inside] at other
      rw [Function.update_of_ne other.symm]
      exact h (1 + i) (by omega) (by omega)

/-- The queue holds `xs` and nothing else. -/
structure Matches (capacity : Nat) (blank : α) (q : SlotQueue α) (xs : List α) : Prop where
  stores : Stores capacity q xs
  clean : Clean capacity blank q

theorem served_matches {capacity : Nat} {blank : α} {q : SlotQueue α} {xs : List α}
    (h : Matches capacity blank q xs) (op : Op α) :
    (served capacity blank q op).1 = (listed capacity xs op).1 ∧
      Matches capacity blank (served capacity blank q op).2 (listed capacity xs op).2 := by
  obtain ⟨stores, clean⟩ := h
  have fits := stores.fits
  cases op with
  | enqueue item =>
    by_cases room : xs.length < capacity
    · obtain ⟨accepted, longer⟩ := stores.enqueue room item
      simp only [served, listed, if_pos room, accepted, Bool.toNat_true, true_and]
      exact ⟨longer, clean.enqueue stores item⟩
    · have full := stores.full (by omega) item
      simp only [served, listed, if_neg room, full, Bool.toNat_false, true_and]
      exact ⟨stores, clean⟩
  | dequeue out =>
    cases xs with
    | nil =>
      simp only [served, listed, stores.empty, Option.isSome_none, Bool.toNat_false,
        Option.getD_none, true_and]
      exact ⟨stores, clean⟩
    | cons x rest =>
      obtain ⟨oldest, shorter⟩ := stores.dequeue blank
      simp only [served, listed, oldest, Option.isSome_some, Bool.toNat_true, Option.getD_some,
        true_and]
      exact ⟨shorter, clean.dequeue stores⟩
  | size => exact ⟨by simp only [served, listed, stores.size], stores, clean⟩

/-- Every run of calls returns what the bounded list returns. -/
theorem play_matches {capacity : Nat} (positive : 0 < capacity) (blank : α) (ops : List (Op α)) :
    Matches capacity blank (play (answering (served capacity blank)) (init blank) ops).1
        (play (answering (listed capacity)) [] ops).1 ∧
      (play (answering (served capacity blank)) (init blank) ops).2 =
        (play (answering (listed capacity)) [] ops).2 := by
  apply answering_same
  · intro q xs op related
    obtain ⟨same, next⟩ := served_matches related op
    exact ⟨next, same⟩
  · exact ⟨init_stores positive blank, init_clean capacity blank⟩

/-- A call that returns 0 leaves the queue as it is. -/
theorem served_unchanged {capacity : Nat} {blank : α} {q : SlotQueue α} {op : Op α}
    (refused : (served capacity blank q op).1.value = 0) : (served capacity blank q op).2 = q := by
  cases op with
  | enqueue item =>
    by_cases full : q.size ≥ capacity
    · simp only [served, enqueue, if_pos full]
    · simp [served, enqueue, if_neg full] at refused
  | dequeue out =>
    by_cases empty : q.size = 0
    · simp only [served, dequeue, if_pos empty]
    · simp [served, dequeue, if_neg empty] at refused
  | size => rfl

/-- A bounded first-in first-out queue, as seen by any run of its calls. -/
structure Bounded (capacity : Nat) (blank : α) (serve : SlotQueue α → Op α → Reply α × SlotQueue α)
    (ops : List (Op α)) : Prop where
  answers : (play (answering serve) (init blank) ops).2 = (play (answering (listed capacity)) [] ops).2
  holds : Matches capacity blank (play (answering serve) (init blank) ops).1
    (play (answering (listed capacity)) [] ops).1
  refused : ∀ op, (serve (play (answering serve) (init blank) ops).1 op).1.value = 0 →
    (serve (play (answering serve) (init blank) ops).1 op).2 =
      (play (answering serve) (init blank) ops).1

theorem served_bounded {capacity : Nat} (positive : 0 < capacity) (blank : α) (ops : List (Op α)) :
    Bounded capacity blank (served capacity blank) ops := by
  obtain ⟨holds, answers⟩ := play_matches positive blank ops
  exact ⟨answers, holds, fun _ => served_unchanged⟩

/-! ## Queues of other items -/

/-- The same calls, with items that stand for each other. -/
inductive Op.Alike (R : α → β → Prop) : Op α → Op β → Prop where
  | enqueue {x y} : R x y → Alike R (.enqueue x) (.enqueue y)
  | dequeue {x y} : R x y → Alike R (.dequeue x) (.dequeue y)
  | size : Alike R .size .size

structure Reply.Alike (R : α → β → Prop) (a : Reply α) (b : Reply β) : Prop where
  value : a.value = b.value
  out : Option.Rel R a.out b.out

structure Alike (R : α → β → Prop) (q : SlotQueue α) (p : SlotQueue β) : Prop where
  items : ∀ i, R (q.items i) (p.items i)
  head : q.head = p.head
  tail : q.tail = p.tail
  size : q.size = p.size

theorem update_alike {R : α → β → Prop} {f : Nat → α} {g : Nat → β} (h : ∀ i, R (f i) (g i))
    {x : α} {y : β} (same : R x y) (k i : Nat) :
    R (Function.update f k x i) (Function.update g k y i) := by
  by_cases hit : i = k
  · subst hit
    rwa [Function.update_self, Function.update_self]
  · rw [Function.update_of_ne hit, Function.update_of_ne hit]
    exact h i

theorem served_alike {R : α → β → Prop} {capacity : Nat} {blank : α} {blank' : β}
    (blanks : R blank blank') {q : SlotQueue α} {p : SlotQueue β} (h : Alike R q p)
    {a : Op α} {b : Op β} (same : Op.Alike R a b) :
    Alike R (served capacity blank q a).2 (served capacity blank' p b).2 ∧
      Reply.Alike R (served capacity blank q a).1 (served capacity blank' p b).1 := by
  obtain ⟨items, head, tail, size⟩ := h
  cases same with
  | @enqueue x y item =>
    simp only [served, enqueue, head, tail, size]
    split
    · exact ⟨⟨items, head, tail, size⟩, rfl, .none⟩
    · exact ⟨⟨update_alike items item p.tail, rfl, rfl, rfl⟩, rfl, .none⟩
  | @dequeue x y out =>
    simp only [served, dequeue, head, tail, size]
    split
    · exact ⟨⟨items, head, tail, size⟩, rfl, .some out⟩
    · exact ⟨⟨update_alike items blanks p.head, rfl, rfl, rfl⟩, rfl, .some (items p.head)⟩
  | size => exact ⟨⟨items, head, tail, size⟩, size, .none⟩

/-- Two queues do the same on runs of calls with items that stand for each other. -/
def Agree (R : α → β → Prop) (blank : α) (blank' : β)
    (serve : SlotQueue α → Op α → Reply α × SlotQueue α)
    (serve' : SlotQueue β → Op β → Reply β × SlotQueue β) : Prop :=
  ∀ ops ops', List.Forall₂ (Op.Alike R) ops ops' →
    Alike R (play (answering serve) (init blank) ops).1
        (play (answering serve') (init blank') ops').1 ∧
      List.Forall₂ (Reply.Alike R) (play (answering serve) (init blank) ops).2
        (play (answering serve') (init blank') ops').2

theorem served_agree {R : α → β → Prop} (capacity : Nat) {blank : α} {blank' : β}
    (blanks : R blank blank') :
    Agree R blank blank' (served capacity blank) (served capacity blank') := by
  intro ops ops' same
  apply play_related (R := Alike R) (E := Reply.Alike R) _ same
  · exact ⟨fun _ => blanks, rfl, rfl, rfl⟩
  · intro q p a b related alike
    obtain ⟨next, reply⟩ := served_alike blanks related alike
    exact ⟨next, .cons reply .nil⟩

end SlotQueue
