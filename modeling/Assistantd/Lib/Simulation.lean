import Mathlib.Data.List.Forall2
import Assistantd.Lib.Calls

/-! Two components that are called side by side. -/
namespace Calls

variable {σ τ ε δ χ ξ α β ι κ ρ : Type}

/-- A function that only returns something: its answer is its event. -/
def answering (step : σ → ι → ρ × σ) (i : ι) : Call σ ρ Empty Unit :=
  ⟨fun s => ⟨.ok (), (step s i).2, [(step s i).1]⟩⟩

@[simp] theorem answering_run (step : σ → ι → ρ × σ) (i : ι) (s : σ) :
    (answering step i).run s = ⟨.ok (), (step s i).2, [(step s i).1]⟩ := rfl

/-- Where alike calls in related states leave related states and alike events, so do runs. -/
theorem play_related {R : σ → τ → Prop} {I : ι → κ → Prop} {E : ε → δ → Prop}
    {m : ι → Call σ ε χ α} {k : κ → Call τ δ ξ β}
    (kept : ∀ s t i j, R s t → I i j → R ((m i).run s).state ((k j).run t).state ∧
      List.Forall₂ E ((m i).run s).events ((k j).run t).events)
    {inputs : List ι} {inputs' : List κ} (alike : List.Forall₂ I inputs inputs') {s : σ} {t : τ}
    (start : R s t) : R (play m s inputs).1 (play k t inputs').1 ∧
      List.Forall₂ E (play m s inputs).2 (play k t inputs').2 := by
  induction alike generalizing s t with
  | nil => exact ⟨start, .nil⟩
  | cons same _ ih =>
    obtain ⟨next, now⟩ := kept s t _ _ start same
    obtain ⟨last, later⟩ := ih next
    rw [play_cons, play_cons]
    exact ⟨last, List.rel_append now later⟩

/-- The same for equal calls and equal events. -/
theorem play_same {R : σ → τ → Prop} {m : ι → Call σ ε χ α} {k : ι → Call τ ε ξ β}
    (kept : ∀ s t i, R s t → R ((m i).run s).state ((k i).run t).state ∧
      ((m i).run s).events = ((k i).run t).events)
    (inputs : List ι) {s : σ} {t : τ} (start : R s t) :
    R (play m s inputs).1 (play k t inputs).1 ∧ (play m s inputs).2 = (play k t inputs).2 := by
  have each : ∀ s t i j, R s t → i = j → R ((m i).run s).state ((k j).run t).state ∧
      List.Forall₂ Eq ((m i).run s).events ((k j).run t).events := by
    rintro s t i _ related rfl
    rw [List.forall₂_eq_eq_eq]
    exact kept s t i related
  have alike : List.Forall₂ Eq inputs inputs := by rw [List.forall₂_eq_eq_eq]
  have both := play_related each alike start
  rwa [List.forall₂_eq_eq_eq] at both

/-- Two functions that return the same in related states. -/
theorem answering_same {R : σ → τ → Prop} {f : σ → ι → ρ × σ} {g : τ → ι → ρ × τ}
    (kept : ∀ s t i, R s t → R (f s i).2 (g t i).2 ∧ (f s i).1 = (g t i).1) (inputs : List ι)
    {s : σ} {t : τ} (start : R s t) :
    R (play (answering f) s inputs).1 (play (answering g) t inputs).1 ∧
      (play (answering f) s inputs).2 = (play (answering g) t inputs).2 := by
  apply play_same _ inputs start
  intro s t i related
  obtain ⟨next, same⟩ := kept s t i related
  exact ⟨next, congrArg (fun answer => [answer]) same⟩

end Calls
