/-! Reachability in a transition system, and its induction rules. -/
namespace Reach

variable {σ : Type} {init : σ → Prop} {step : σ → σ → Prop}

inductive Reachable (init : σ → Prop) (step : σ → σ → Prop) : σ → Prop where
  | start {s} : init s → Reachable init step s
  | next {s t} : Reachable init step s → step s t → Reachable init step t

/-- An invariant that is kept only while a budget lasts holds of every state
within budget, as spending is never undone. -/
theorem Reachable.within {I : σ → Prop} (budget : σ → Prop) (start : ∀ s, init s → I s)
    (spent : ∀ s t, step s t → budget t → budget s)
    (next : ∀ s t, I s → step s t → budget t → I t) {s : σ} (h : Reachable init step s)
    (hb : budget s) : I s := by
  induction h with
  | start hi => exact start _ hi
  | next _ hs ih => exact next _ _ (ih (spent _ _ hs hb)) hs hb

/-- What is reached from `s` by steps of which none is a `stop`. -/
inductive Until (step stop : σ → σ → Prop) (s : σ) : σ → Prop where
  | here : Until step stop s s
  | next {t u} : Until step stop s t → step t u → ¬ stop t u → Until step stop s u

theorem Reachable.until {stop : σ → σ → Prop} {s t : σ} (h : Reachable init step s)
    (later : Until step stop s t) : Reachable init step t := by
  induction later with
  | here => exact h
  | next _ hs _ ih => exact .next ih hs

/-- The rule of `within`, from a state on and up to a stop. -/
theorem Until.within {stop : σ → σ → Prop} {I : σ → Prop} (budget : σ → Prop) {s t : σ}
    (h : Until step stop s t) (start : I s)
    (spent : ∀ t u, step t u → budget u → budget t)
    (next : ∀ t u, Until step stop s t → I t → step t u → ¬ stop t u → budget u → I u)
    (hb : budget t) : I t := by
  induction h with
  | here => exact start
  | next earlier hs goes ih => exact next _ _ earlier (ih (spent _ _ hs hb)) hs goes hb

end Reach
