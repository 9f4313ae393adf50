import Assistantd.Lib.Calls
import Assistantd.Lib.Cells

/-! A bounded first-in first-out queue, its calls with what they return, and
the totals of a trace of calls. -/
namespace Fifo

open Calls

variable {α σ : Type}

inductive Op (α : Type) where
  | write (input : List α)
  | read (output : Nat → α) (length : Nat)
  | available
  | space

/-- Every call returns a number; a read also leaves the caller's memory changed. -/
structure Answer (α : Type) where
  count : Nat
  memory : Option (Nat → α)

/-- The queue of at most `capacity` elements, the oldest first. -/
def step (capacity : Nat) (queue : List α) : Op α → Answer α × List α
  | .write input =>
    (⟨min input.length (capacity - queue.length), none⟩,
      queue ++ input.take (capacity - queue.length))
  | .read output length =>
    (⟨min length queue.length, some (Cells.copyIn output 0 (queue.take length))⟩,
      queue.drop length)
  | .available => (⟨queue.length, none⟩, queue)
  | .space => (⟨capacity - queue.length, none⟩, queue)

/-- A call of any such component, recorded with its answer. -/
def record (step : σ → Op α → Answer α × σ) (op : Op α) : Call σ (Op α × Answer α) Empty Unit :=
  ⟨fun s => ⟨.ok (), (step s op).2, [(op, (step s op).1)]⟩⟩

@[simp] theorem record_run (step : σ → Op α → Answer α × σ) (op : Op α) (s : σ) :
    (record step op).run s = ⟨.ok (), (step s op).2, [(op, (step s op).1)]⟩ := rfl

structure Totals where
  offered : Nat
  accepted : Nat
  requested : Nat
  returned : Nat

def Totals.add (t : Totals) : Op α × Answer α → Totals
  | (.write input, answer) =>
    { t with offered := t.offered + input.length, accepted := t.accepted + answer.count }
  | (.read _ length, answer) =>
    { t with requested := t.requested + length, returned := t.returned + answer.count }
  | (.available, _) | (.space, _) => t

def totals (trace : List (Op α × Answer α)) : Totals := trace.foldl Totals.add ⟨0, 0, 0, 0⟩

@[simp] theorem totals_nil : totals ([] : List (Op α × Answer α)) = ⟨0, 0, 0, 0⟩ := rfl

@[simp] theorem totals_snoc (trace : List (Op α × Answer α)) (e : Op α × Answer α) :
    totals (trace ++ [e]) = (totals trace).add e := by
  simp [totals]

/-- What a run of the queue from empty returns. -/
abbrev outcome (capacity : Nat) (ops : List (Op α)) : List α × List (Op α × Answer α) :=
  play (record (step capacity)) [] ops

/-- Nothing is lost or made up: what was accepted was returned or is stored,
and no call does more than it is asked to. -/
structure Conserved (capacity : Nat) (queue : List α) (t : Totals) : Prop where
  bounded : queue.length ≤ capacity
  stored : t.accepted = t.returned + queue.length
  offered : t.accepted ≤ t.offered
  requested : t.returned ≤ t.requested

theorem step_conserved {capacity : Nat} {queue : List α} {t : Totals}
    (h : Conserved capacity queue t) (op : Op α) :
    Conserved capacity (step capacity queue op).2 (t.add (op, (step capacity queue op).1)) := by
  obtain ⟨bounded, stored, offered, requested⟩ := h
  cases op with
  | write input =>
    constructor
    all_goals simp only [step, Totals.add, List.length_append, List.length_take]
    all_goals omega
  | read output length =>
    constructor
    all_goals simp only [step, Totals.add, List.length_drop]
    all_goals omega
  | available | space => exact ⟨bounded, stored, offered, requested⟩

theorem outcome_conserved (capacity : Nat) (ops : List (Op α)) :
    Conserved capacity (outcome capacity ops).1 (totals (outcome capacity ops).2) := by
  induction ops using List.reverseRecOn with
  | nil => exact ⟨Nat.zero_le _, rfl, Nat.le_refl _, Nat.le_refl _⟩
  | append_singleton ops op ih =>
    simp only [outcome, play_snoc, record_run, totals_snoc]
    exact step_conserved ih op

/-- What was accepted, refused and missing up to here stays so. -/
structure Totals.Grows (t u : Totals) : Prop where
  accepted : t.accepted ≤ u.accepted
  refused : t.offered - t.accepted ≤ u.offered - u.accepted
  missing : t.requested - t.returned ≤ u.requested - u.returned

theorem step_grows {capacity : Nat} {queue : List α} {t : Totals}
    (h : Conserved capacity queue t) (op : Op α) :
    t.Grows (t.add (op, (step capacity queue op).1)) := by
  have offered := h.offered
  have requested := h.requested
  cases op with
  | write input =>
    constructor
    all_goals simp only [step, Totals.add]
    all_goals omega
  | read output length =>
    constructor
    all_goals simp only [step, Totals.add]
    all_goals omega
  | available | space => exact ⟨Nat.le_refl _, Nat.le_refl _, Nat.le_refl _⟩

theorem Totals.Grows.trans {t u v : Totals} (h : t.Grows u) (k : u.Grows v) : t.Grows v :=
  ⟨Nat.le_trans h.accepted k.accepted, Nat.le_trans h.refused k.refused,
    Nat.le_trans h.missing k.missing⟩

theorem outcome_grows (capacity : Nat) (ops later : List (Op α)) :
    (totals (outcome capacity ops).2).Grows (totals (outcome capacity (ops ++ later)).2) := by
  induction later using List.reverseRecOn with
  | nil =>
    rw [List.append_nil]
    exact ⟨Nat.le_refl _, Nat.le_refl _, Nat.le_refl _⟩
  | append_singleton later op ih =>
    apply ih.trans
    rw [← List.append_assoc]
    simp only [outcome, play_snoc, record_run, totals_snoc]
    exact step_grows (outcome_conserved capacity (ops ++ later)) op

end Fifo
