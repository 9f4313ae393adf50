import Assistantd.Lib.Ledger

/-! Blocks of memory: acquired with a size, touched inside it, released. -/
namespace Blocks

inductive Event where
  | acquire (addr size : Nat)
  | touch (addr start count : Nat)
  | release (addr : Nat)
  deriving DecidableEq

def Event.entry : Event → Ledger.Entry Unit
  | .acquire addr _ => ⟨.acquire, (), addr⟩
  | .touch addr _ _ => ⟨.use, (), addr⟩
  | .release addr => ⟨.release, (), addr⟩

/-- Whatever is touched lies in a block as large as that. -/
def Inside (trace : List Event) : Prop :=
  ∀ addr start count, .touch addr start count ∈ trace →
    ∃ size, .acquire addr size ∈ trace ∧ start + count ≤ size

/-- The trace of an owner that has one block at most, given by address and size. -/
structure Owned (trace : List Event) (next : Nat) (block : Option (Nat × Nat)) : Prop where
  balance : Ledger.Balance (trace.map Event.entry) next fun _ => block.map Prod.fst
  inside : Inside trace
  sized : ∀ addr size, block = some (addr, size) → .acquire addr size ∈ trace

variable {trace : List Event} {next addr size : Nat} {block : Option (Nat × Nat)}

theorem Inside.snoc (inside : Inside trace) {e : Event}
    (fits : ∀ addr start count, e = .touch addr start count →
      ∃ size, .acquire addr size ∈ trace ∧ start + count ≤ size) : Inside (trace ++ [e]) := by
  intro addr start count member
  have touched : ∃ size, .acquire addr size ∈ trace ∧ start + count ≤ size := by
    rcases List.mem_append.mp member with old | new
    · exact inside addr start count old
    · exact fits addr start count (List.mem_singleton.mp new).symm
  obtain ⟨size, acquired, room⟩ := touched
  exact ⟨size, List.mem_append_left _ acquired, room⟩

/-- With one slot, what is on record after an update is what it is updated to. -/
theorem update_unit (handle : Unit → Option Nat) (now : Option Nat) :
    Function.update handle () now = fun _ => now :=
  funext fun _ => Function.update_self ..

theorem Owned.start (next : Nat) : Owned [] next none where
  balance := .start next
  inside := by simp [Inside]
  sized := nofun

theorem Owned.touch (h : Owned trace next (some (addr, size))) {start count : Nat}
    (room : start + count ≤ size) :
    Owned (trace ++ [.touch addr start count]) next (some (addr, size)) where
  balance := by
    rw [List.map_append]
    exact h.balance.use rfl
  inside := h.inside.snoc fun _ _ _ same => by
    cases same
    exact ⟨size, h.sized addr size rfl, room⟩
  sized addr' size' same := List.mem_append_left _ (h.sized addr' size' same)

theorem Owned.acquire (h : Owned trace next none) (size : Nat) :
    Owned (trace ++ [.acquire next size]) (next + 1) (some (next, size)) where
  balance := by
    have taken := h.balance.acquire () rfl
    rw [update_unit] at taken
    rw [List.map_append]
    exact taken
  inside := h.inside.snoc nofun
  sized addr' size' same := by
    cases same
    exact List.mem_append_right _ (List.mem_singleton_self _)

theorem Owned.release (h : Owned trace next (some (addr, size))) :
    Owned (trace ++ [.release addr]) next none where
  balance := by
    have present : (some (addr, size)).map Prod.fst = some addr := rfl
    have given := @Ledger.Balance.release _ _ _ _ _ h.balance () addr present
    rw [update_unit] at given
    rw [List.map_append]
    exact given
  inside := h.inside.snoc nofun
  sized := nofun

theorem Owned.mono (h : Owned trace next block) {next' : Nat} (le : next ≤ next') :
    Owned trace next' block :=
  { h with balance := h.balance.mono le }

end Blocks
