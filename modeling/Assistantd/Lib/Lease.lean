import Mathlib.Data.List.Basic

/-! Names that are granted, used and given back, and may then be granted again,
such as file descriptors and process ids. At most `room` are out at a time. -/
namespace Lease

inductive Move (κ : Type) where
  | grant (k : κ)
  | use (k : κ)
  | back (k : κ)
  deriving DecidableEq

variable {κ : Type} [DecidableEq κ] {room : Nat}

/-- What is held after a move; a move that is out of order has no result. -/
def Move.apply (room : Nat) (held : List κ) : Move κ → Option (List κ)
  | .grant k => if k ∉ held ∧ held.length < room then some (k :: held) else none
  | .use k => if k ∈ held then some held else none
  | .back k => if k ∈ held then some (held.erase k) else none

theorem apply_grant {held next : List κ} {k : κ} : (Move.grant k).apply room held = some next ↔
    (k ∉ held ∧ held.length < room) ∧ k :: held = next := by
  simp [Move.apply]

theorem apply_use {held next : List κ} {k : κ} :
    (Move.use k).apply room held = some next ↔ k ∈ held ∧ held = next := by
  simp [Move.apply]

theorem apply_back {held next : List κ} {k : κ} :
    (Move.back k).apply room held = some next ↔ k ∈ held ∧ held.erase k = next := by
  simp [Move.apply]

def follow (room : Nat) (held : List κ) (moves : List (Move κ)) : Option (List κ) :=
  moves.foldlM (Move.apply room) held

@[simp] theorem follow_nil (held : List κ) : follow room held [] = some held := rfl

@[simp] theorem follow_cons (held : List κ) (m : Move κ) (moves : List (Move κ)) :
    follow room held (m :: moves) = (m.apply room held).bind fun next => follow room next moves :=
  rfl

theorem follow_append (held : List κ) (xs ys : List (Move κ)) :
    follow room held (xs ++ ys) = (follow room held xs).bind fun next => follow room next ys :=
  List.foldlM_append

theorem follow_uses {held : List κ} {moves : List (Move κ)}
    (uses : ∀ m ∈ moves, ∃ k ∈ held, m = .use k) : follow room held moves = some held := by
  induction moves with
  | nil => rfl
  | cons m moves ih =>
    obtain ⟨k, present, rfl⟩ := uses m (by simp)
    have rest := ih fun m' member => uses m' (List.mem_cons_of_mem _ member)
    simp [Move.apply, present, rest]

/-- Every grant has been given back once, but for what is held. -/
theorem follow_counts {held held' : List κ} {moves : List (Move κ)}
    (done : follow room held moves = some held') (k : κ) :
    moves.count (.grant k) + held.count k = moves.count (.back k) + held'.count k := by
  induction moves generalizing held with
  | nil =>
    cases done
    rfl
  | cons m moves ih =>
    obtain ⟨next, now, later⟩ := Option.bind_eq_some_iff.mp done
    have rest := ih later
    cases m with
    | grant j =>
      obtain ⟨_, rfl⟩ := apply_grant.mp now
      by_cases same : j = k
      · subst same
        simp only [List.count_cons_self, List.count_cons_of_ne (show Move.grant j ≠ .back j by simp)]
          at rest ⊢
        omega
      · simpa [List.count_cons, same] using rest
    | use j =>
      obtain ⟨_, rfl⟩ := apply_use.mp now
      simpa [List.count_cons] using rest
    | back j =>
      obtain ⟨present, rfl⟩ := apply_back.mp now
      by_cases same : j = k
      · subst same
        have out : 0 < held.count j := List.count_pos_iff.mpr present
        rw [List.count_erase_self] at rest
        simp only [List.count_cons_self, List.count_cons_of_ne (show Move.back j ≠ .grant j by simp)]
        omega
      · rw [List.count_erase_of_ne (Ne.symm same)] at rest
        simpa [List.count_cons, same] using rest

/-- A name that is not held is not touched before it is granted. -/
theorem follow_absent {held held' : List κ} {moves : List (Move κ)} {k : κ} (absent : k ∉ held)
    (done : follow room held moves = some held') (ungranted : .grant k ∉ moves) :
    .use k ∉ moves ∧ .back k ∉ moves := by
  induction moves generalizing held with
  | nil => simp
  | cons m moves ih =>
    obtain ⟨next, now, later⟩ := Option.bind_eq_some_iff.mp done
    obtain ⟨first, rest⟩ := not_or.mp (mt List.mem_cons.mpr ungranted)
    cases m with
    | grant j =>
      obtain ⟨_, rfl⟩ := apply_grant.mp now
      have other : k ∉ j :: held := by
        rintro (_ | _)
        · exact first rfl
        · contradiction
      simpa using ih other later rest
    | use j =>
      obtain ⟨present, rfl⟩ := apply_use.mp now
      have apart : k ≠ j := by
        rintro rfl
        exact absent present
      simpa [apart] using ih absent later rest
    | back j =>
      obtain ⟨present, rfl⟩ := apply_back.mp now
      have apart : k ≠ j := by
        rintro rfl
        exact absent present
      have still : k ∉ held.erase j := mt List.mem_of_mem_erase absent
      simpa [apart] using ih still later rest

theorem apply_nodup {held next : List κ} {m : Move κ} (unique : held.Nodup)
    (done : m.apply room held = some next) : next.Nodup := by
  cases m with
  | grant k =>
    obtain ⟨⟨absent, _⟩, rfl⟩ := apply_grant.mp done
    exact List.nodup_cons.mpr ⟨absent, unique⟩
  | use k =>
    obtain ⟨_, rfl⟩ := apply_use.mp done
    exact unique
  | back k =>
    obtain ⟨_, rfl⟩ := apply_back.mp done
    exact unique.erase k

theorem follow_nodup {held held' : List κ} {moves : List (Move κ)} (unique : held.Nodup)
    (done : follow room held moves = some held') : held'.Nodup := by
  induction moves generalizing held with
  | nil =>
    cases done
    exact unique
  | cons m moves ih =>
    obtain ⟨next, now, later⟩ := Option.bind_eq_some_iff.mp done
    exact ih (apply_nodup unique now) later

/-- What was given back is not touched again before it is granted again. -/
theorem follow_returned {held held' : List κ} {before after : List (Move κ)} {k : κ}
    (unique : held.Nodup) (done : follow room held (before ++ .back k :: after) = some held')
    (ungranted : .grant k ∉ after) : .use k ∉ after ∧ .back k ∉ after := by
  rw [follow_append] at done
  obtain ⟨mid, first, rest⟩ := Option.bind_eq_some_iff.mp done
  obtain ⟨next, now, later⟩ := Option.bind_eq_some_iff.mp rest
  obtain ⟨_, rfl⟩ := apply_back.mp now
  have gone : k ∉ mid.erase k := (follow_nodup unique first).not_mem_erase
  exact follow_absent gone later ungranted

end Lease
