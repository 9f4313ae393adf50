import Mathlib.Data.List.DropRight
import Mathlib.Logic.Relation
import Assistantd.Lib.Cells

/-! Cutting both ends off a span of memory with two pointers. -/
namespace Span

variable {α : Type} (space : α → Bool) (mem : Nat → α)

/-- Where the first pointer stops. The span's length bounds the rounds. -/
def skipStart (stop : Nat) : (rounds start : Nat) → Nat
  | 0, start => start
  | rounds + 1, start =>
    if start < stop ∧ space (mem start) = true then skipStart stop rounds (start + 1) else start

/-- Where the second pointer stops. -/
def skipEnd (start : Nat) : (rounds stop : Nat) → Nat
  | 0, stop => stop
  | rounds + 1, stop =>
    if stop > start ∧ space (mem (stop - 1)) = true then skipEnd start rounds (stop - 1) else stop

/-- A pass of one of the two loops. -/
inductive Pass : Nat × Nat → Nat × Nat → Prop where
  | start {start stop} : start < stop → space (mem start) = true → Pass (start, stop) (start + 1, stop)
  | stop {start stop} : stop > start → space (mem (stop - 1)) = true →
      Pass (start, stop) (start, stop - 1)

variable {space : α → Bool} {mem : Nat → α} {start stop rounds : Nat}

/-! ## Pointers -/

theorem skipStart_passes (stop rounds start : Nat) : Relation.ReflTransGen (Pass space mem)
    (start, stop) (skipStart space mem stop rounds start, stop) := by
  induction rounds generalizing start with
  | zero => exact .refl
  | succ rounds ih =>
    unfold skipStart
    split
    · rename_i more
      exact .head (.start more.1 more.2) (ih (start + 1))
    · exact .refl

theorem skipEnd_passes (start rounds stop : Nat) : Relation.ReflTransGen (Pass space mem)
    (start, stop) (start, skipEnd space mem start rounds stop) := by
  induction rounds generalizing stop with
  | zero => exact .refl
  | succ rounds ih =>
    unfold skipEnd
    split
    · rename_i more
      exact .head (.stop more.1 more.2) (ih (stop - 1))
    · exact .refl

/-- The pointers stay in the span, and one does not pass the other. -/
theorem passes_within {p q : Nat × Nat} (passes : Relation.ReflTransGen (Pass space mem) p q)
    (ordered : p.1 ≤ p.2) : p.1 ≤ q.1 ∧ q.1 ≤ q.2 ∧ q.2 ≤ p.2 := by
  induction passes with
  | refl => exact ⟨Nat.le_refl _, ordered, Nat.le_refl _⟩
  | tail _ pass ih =>
    obtain ⟨after, inside, before⟩ := ih
    cases pass with
    | start less _ => exact ⟨Nat.le_succ_of_le after, less, before⟩
    | stop less _ => exact ⟨after, Nat.le_sub_one_of_lt less, Nat.le_trans (Nat.sub_le _ _) before⟩

/-- The first loop ends where there is no more space, or no more span. -/
theorem skipStart_ends (enough : stop ≤ start + rounds) :
    ¬ (skipStart space mem stop rounds start < stop ∧
      space (mem (skipStart space mem stop rounds start)) = true) := by
  induction rounds generalizing start with
  | zero =>
    rintro ⟨less, _⟩
    unfold skipStart at less
    omega
  | succ rounds ih =>
    unfold skipStart
    split
    · exact ih (by omega)
    · assumption

theorem skipEnd_ends (enough : stop ≤ start + rounds) :
    ¬ (skipEnd space mem start rounds stop > start ∧
      space (mem (skipEnd space mem start rounds stop - 1)) = true) := by
  induction rounds generalizing stop with
  | zero =>
    rintro ⟨greater, _⟩
    unfold skipEnd at greater
    omega
  | succ rounds ih =>
    unfold skipEnd
    split
    · exact ih (by omega)
    · assumption

theorem skipStart_stays (ends : ¬ (start < stop ∧ space (mem start) = true)) (rounds : Nat) :
    skipStart space mem stop rounds start = start := by
  cases rounds with
  | zero => rfl
  | succ rounds => exact if_neg ends

theorem skipEnd_stays (ends : ¬ (stop > start ∧ space (mem (stop - 1)) = true)) (rounds : Nat) :
    skipEnd space mem start rounds stop = stop := by
  cases rounds with
  | zero => rfl
  | succ rounds => exact if_neg ends

/-! ## What is left -/

theorem slice_cons (mem : Nat → α) (start n : Nat) :
    Cells.slice mem start (n + 1) = mem start :: Cells.slice mem (start + 1) n := by
  rw [Nat.add_comm, Cells.slice_append]
  rfl

theorem slice_snoc (mem : Nat → α) (start n : Nat) :
    Cells.slice mem start (n + 1) = Cells.slice mem start n ++ [mem (start + n)] := by
  rw [Cells.slice_append]
  rfl

theorem skipStart_slice (n : Nat) :
    Cells.slice mem (skipStart space mem (start + n) n start)
        (start + n - skipStart space mem (start + n) n start) =
      (Cells.slice mem start n).dropWhile space := by
  induction n generalizing start with
  | zero => simp [skipStart]
  | succ n ih =>
    rw [slice_cons]
    unfold skipStart
    by_cases blank : space (mem start) = true
    · have next := @ih (start + 1)
      rw [show start + 1 + n = start + (n + 1) by omega] at next
      rw [if_pos ⟨by omega, blank⟩, List.dropWhile_cons_of_pos blank, next]
    · rw [if_neg (fun more => blank more.2), List.dropWhile_cons_of_neg blank, ← slice_cons,
        Nat.add_sub_cancel_left]

theorem skipEnd_slice (n : Nat) :
    Cells.slice mem start (skipEnd space mem start n (start + n) - start) =
      (Cells.slice mem start n).rdropWhile space := by
  induction n with
  | zero => simp [skipEnd]
  | succ n ih =>
    have last : start + (n + 1) - 1 = start + n := by omega
    rw [slice_snoc]
    unfold skipEnd
    rw [last]
    by_cases blank : space (mem (start + n)) = true
    · rw [if_pos ⟨by omega, blank⟩, ih, List.rdropWhile_concat_pos _ _ _ blank]
    · rw [if_neg (fun more => blank more.2), List.rdropWhile_concat_neg _ _ _ blank, ← slice_snoc,
        Nat.add_sub_cancel_left]

/-- What is left of a text without the space at both ends. -/
structure Stripped (space : α → Bool) (text core : List α) : Prop where
  parts : ∃ before after, text = before ++ core ++ after ∧ (∀ c ∈ before, space c = true) ∧
    ∀ c ∈ after, space c = true
  starts : ∀ c ∈ core.head?, space c = false
  ends : ∀ c ∈ core.getLast?, space c = false

theorem rdropWhile_append {xs ys : List α} (all : ∀ c ∈ ys, space c = true) :
    (xs ++ ys).rdropWhile space = xs.rdropWhile space := by
  rw [List.rdropWhile, List.reverse_append,
    List.dropWhile_append_of_pos fun c member => all c (List.mem_reverse.mp member)]
  rfl

theorem stripped (space : α → Bool) (text : List α) :
    Stripped space text ((text.dropWhile space).rdropWhile space) where
  parts := by
    refine ⟨text.takeWhile space, (text.dropWhile space).rtakeWhile space, ?_, ?_, ?_⟩
    · rw [List.append_assoc, List.rdropWhile_append_rtakeWhile, List.takeWhile_append_dropWhile]
    · exact fun c => List.mem_takeWhile_imp
    · exact fun c => List.mem_rtakeWhile_imp
  starts := by
    intro c first
    obtain ⟨rest, whole⟩ := List.rdropWhile_prefix space (text.dropWhile space)
    have head : c ∈ (text.dropWhile space).head? := by
      rw [← whole, List.head?_append, Option.mem_def.mp first]
      rfl
    have none := List.head?_dropWhile_not space text
    rw [Option.mem_def.mp head] at none
    simpa using none
  ends := by
    intro c last
    have some : (text.dropWhile space).rdropWhile space ≠ [] := by
      intro nothing
      rw [nothing] at last
      cases last
    have none := List.rdropWhile_last_not space _ some
    rw [List.getLast?_eq_some_getLast some] at last
    cases last
    simpa using none

theorem stripped_nil_iff {text : List α} :
    (text.dropWhile space).rdropWhile space = [] ↔ ∀ c ∈ text, space c = true := by
  constructor
  · intro nothing
    obtain ⟨before, after, whole, allBefore, allAfter⟩ := (stripped space text).parts
    rw [nothing, List.append_nil] at whole
    rw [whole]
    exact List.forall_mem_append.mpr ⟨allBefore, allAfter⟩
  · intro blank
    rw [List.dropWhile_eq_nil_iff.mpr blank, List.rdropWhile_nil]

/-- There is only one way to strip a text. -/
theorem Stripped.unique {text core : List α} (h : Stripped space text core) :
    core = (text.dropWhile space).rdropWhile space := by
  obtain ⟨before, after, rfl, allBefore, allAfter⟩ := h.parts
  cases core with
  | nil =>
    rw [List.append_nil]
    exact (stripped_nil_iff.mpr (List.forall_mem_append.mpr ⟨allBefore, allAfter⟩)).symm
  | cons c core =>
    have first := h.starts c rfl
    have kept : (c :: (core ++ after)).dropWhile space = c :: (core ++ after) :=
      List.dropWhile_cons_of_neg (by simp [first])
    rw [List.append_assoc, List.dropWhile_append_of_pos allBefore, List.cons_append, kept,
      ← List.cons_append, rdropWhile_append allAfter, List.rdropWhile_eq_self_iff.mpr]
    intro some blank
    rw [h.ends _ (List.getLast?_eq_some_getLast some)] at blank
    cases blank

end Span
