import Mathlib.Data.List.Basic
import Mathlib.Logic.Function.Basic

/-! What a trace of acquisitions, uses and releases owes: nothing is touched
before it is acquired or after it is released. Each acquisition has an address
of its own. -/
namespace Ledger

inductive Op where
  | acquire
  | use
  | release
  deriving DecidableEq

structure Entry (κ : Type) where
  op : Op
  slot : κ
  addr : Nat
  deriving DecidableEq

variable {κ : Type}

def Held (trace : List (Entry κ)) (slot : κ) (addr : Nat) : Prop :=
  ⟨.acquire, slot, addr⟩ ∈ trace ∧ ⟨.release, slot, addr⟩ ∉ trace

/-- What an entry may rely on, given the trace before it. -/
def Entry.Allowed (before : List (Entry κ)) (e : Entry κ) : Prop :=
  match e.op with
  | .acquire => ∀ op, ⟨op, e.slot, e.addr⟩ ∉ before
  | .use | .release => Held before e.slot e.addr

/-- Every entry is allowed where it stands. -/
inductive Sound : List (Entry κ) → Prop where
  | nil : Sound []
  | snoc {trace e} : Sound trace → e.Allowed trace → Sound (trace ++ [e])

theorem Sound.at {trace : List (Entry κ)} (h : Sound trace) {before after : List (Entry κ)}
    {e : Entry κ} (split : trace = before ++ e :: after) : e.Allowed before := by
  induction h generalizing after with
  | nil => simp at split
  | snoc _ allowed ih =>
    rename_i trace last _
    rcases List.eq_nil_or_concat after with rfl | ⟨rest, x, rfl⟩
    · obtain ⟨rfl, same⟩ := List.append_inj' split rfl
      cases same
      exact allowed
    · rw [List.concat_eq_append, ← List.cons_append, ← List.append_assoc] at split
      exact ih (List.append_inj' split rfl).1

theorem Sound.release_count [DecidableEq κ] {trace : List (Entry κ)} (h : Sound trace) (slot : κ)
    (addr : Nat) : trace.count ⟨.release, slot, addr⟩ ≤ 1 := by
  induction h with
  | nil => exact Nat.zero_le _
  | snoc _ allowed ih =>
    rename_i trace e _
    rw [List.count_append, List.count_singleton]
    by_cases same : e = ⟨.release, slot, addr⟩
    · subst same
      have first : trace.count ⟨.release, slot, addr⟩ = 0 := List.count_eq_zero.mpr allowed.2
      simp [first]
    · simp only [beq_iff_eq, same, if_false]
      exact ih

/-- Whatever was acquired and is not held was released exactly once. -/
theorem Sound.released_once [DecidableEq κ] {trace : List (Entry κ)} (h : Sound trace) {slot : κ}
    {addr : Nat} (acquired : ⟨.acquire, slot, addr⟩ ∈ trace) (gone : ¬ Held trace slot addr) :
    trace.count ⟨.release, slot, addr⟩ = 1 := by
  have released : ⟨.release, slot, addr⟩ ∈ trace := by
    by_contra missing
    exact gone ⟨acquired, missing⟩
  have once : 0 < trace.count ⟨.release, slot, addr⟩ := List.count_pos_iff.mpr released
  have most := h.release_count slot addr
  omega

/-- A sound trace whose held addresses are exactly those on record, with all
addresses below `next` used up. -/
structure Balance (trace : List (Entry κ)) (next : Nat) (handle : κ → Option Nat) : Prop where
  sound : Sound trace
  known : ∀ e ∈ trace, e.addr < next
  held : ∀ slot addr, Held trace slot addr ↔ handle slot = some addr

section Balance

variable {trace : List (Entry κ)} {next : Nat} {handle : κ → Option Nat}

theorem Balance.start (next : Nat) : Balance ([] : List (Entry κ)) next fun _ => none where
  sound := .nil
  known := by simp
  held := by simp [Held]

theorem Balance.mono (h : Balance trace next handle) {next' : Nat} (le : next ≤ next') :
    Balance trace next' handle :=
  { h with known := fun e member => Nat.lt_of_lt_of_le (h.known e member) le }

theorem Balance.addr_lt (h : Balance trace next handle) {slot : κ} {addr : Nat}
    (present : handle slot = some addr) : addr < next :=
  h.known _ ((h.held slot addr).mpr present).1

theorem Balance.known_snoc (h : Balance trace next handle) {e : Entry κ} (small : e.addr < next) :
    ∀ x ∈ trace ++ [e], x.addr < next := by
  intro x member
  rcases List.mem_append.mp member with old | new
  · exact h.known x old
  · rw [List.mem_singleton.mp new]
    exact small

theorem held_snoc {e : Entry κ} {slot : κ} {addr : Nat} (other : e.slot ≠ slot) :
    Held (trace ++ [e]) slot addr ↔ Held trace slot addr := by
  have apart : ∀ op, (⟨op, slot, addr⟩ : Entry κ) ≠ e := fun op same => other (same ▸ rfl)
  simp [Held, apart]

theorem Balance.use (h : Balance trace next handle) {slot : κ} {addr : Nat}
    (present : handle slot = some addr) : Balance (trace ++ [⟨.use, slot, addr⟩]) next handle := by
  refine ⟨h.sound.snoc ((h.held slot addr).mpr present), h.known_snoc (h.addr_lt present), ?_⟩
  intro slot' addr'
  rw [← h.held]
  simp [Held]

variable [DecidableEq κ]

theorem Balance.acquire (h : Balance trace next handle) (slot : κ) (free : handle slot = none) :
    Balance (trace ++ [⟨.acquire, slot, next⟩]) (next + 1)
      (Function.update handle slot (some next)) := by
  have fresh : ∀ op slot', (⟨op, slot', next⟩ : Entry κ) ∉ trace :=
    fun op slot' member => Nat.lt_irrefl _ (h.known _ member)
  refine ⟨h.sound.snoc fun op => fresh op slot,
    (h.mono (Nat.le_succ next)).known_snoc (Nat.lt_succ_self next), ?_⟩
  intro slot' addr
  by_cases same : slot = slot'
  · subst same
    rw [Function.update_self, Option.some.injEq]
    constructor
    · rintro ⟨acquired, unreleased⟩
      by_contra other
      have old : (⟨.acquire, slot, addr⟩ : Entry κ) ∈ trace := by
        simpa [Ne.symm other] using acquired
      have stale := (h.held slot addr).mp ⟨old, fun gone => unreleased (by simp [gone])⟩
      rw [free] at stale
      cases stale
    · rintro rfl
      exact ⟨by simp, by simpa using fresh .release slot⟩
  · rw [held_snoc (by exact same), Function.update_of_ne (Ne.symm same)]
    exact h.held slot' addr

theorem Balance.release (h : Balance trace next handle) {slot : κ} {addr : Nat}
    (present : handle slot = some addr) :
    Balance (trace ++ [⟨.release, slot, addr⟩]) next (Function.update handle slot none) := by
  refine ⟨h.sound.snoc ((h.held slot addr).mpr present), h.known_snoc (h.addr_lt present), ?_⟩
  intro slot' addr'
  by_cases same : slot = slot'
  · subst same
    rw [Function.update_self]
    refine iff_of_false ?_ (by simp)
    rintro ⟨acquired, unreleased⟩
    have old : (⟨.acquire, slot, addr'⟩ : Entry κ) ∈ trace := by simpa using acquired
    have stale := (h.held slot addr').mp ⟨old, fun gone => unreleased (by simp [gone])⟩
    rw [present] at stale
    cases stale
    exact unreleased (by simp)
  · rw [held_snoc (by exact same), Function.update_of_ne (Ne.symm same)]
    exact h.held slot' addr'

end Balance

end Ledger
