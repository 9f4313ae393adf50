import Mathlib.Data.List.Induction

/-! C functions over a record, with early return: a call has a result or an
error status, leaves the record changed, and causes events on the way. -/
namespace Calls

variable {σ τ ε δ χ α β : Type}

structure Outcome (σ ε χ α : Type) where
  result : Except χ α
  state : σ
  events : List ε

structure Call (σ ε χ α : Type) where
  run : σ → Outcome σ ε χ α

/-- The events of an earlier part of the same call come first. -/
def Outcome.after (earlier : List ε) (o : Outcome σ ε χ α) : Outcome σ ε χ α :=
  { o with events := earlier ++ o.events }

/-- An error returns at once; only a result goes on. -/
def Outcome.andThen (o : Outcome σ ε χ α) (f : α → Call σ ε χ β) : Outcome σ ε χ β :=
  match o.result with
  | .ok a => ((f a).run o.state).after o.events
  | .error e => ⟨.error e, o.state, o.events⟩

instance : Monad (Call σ ε χ) where
  pure a := ⟨fun s => ⟨.ok a, s, []⟩⟩
  bind m f := ⟨fun s => (m.run s).andThen f⟩

def fail (e : χ) : Call σ ε χ α := ⟨fun s => ⟨.error e, s, []⟩⟩

/-- The early return behind a check. -/
def failIf (c : Prop) [Decidable c] (e : χ) : Call σ ε χ Unit :=
  if c then fail e else pure ()

/-- A step that is taken only under a condition. -/
def doIf (c : Prop) [Decidable c] (m : Call σ ε χ Unit) : Call σ ε χ Unit :=
  if c then m else pure ()

def get : Call σ ε χ σ := ⟨fun s => ⟨.ok s, s, []⟩⟩

def modify (f : σ → σ) : Call σ ε χ Unit := ⟨fun s => ⟨.ok (), f s, []⟩⟩

def emit (e : ε) : Call σ ε χ Unit := ⟨fun s => ⟨.ok (), s, [e]⟩⟩

def emits (es : List ε) : Call σ ε χ Unit := ⟨fun s => ⟨.ok (), s, es⟩⟩

/-- A call on a part of a larger record. -/
def on (read : τ → σ) (write : σ → τ → τ) (tag : ε → δ) (m : Call σ ε χ α) : Call τ δ χ α :=
  ⟨fun t => ⟨(m.run (read t)).result, write (m.run (read t)).state t,
    (m.run (read t)).events.map tag⟩⟩

/-- The caller looks at the status itself instead of passing an error on. -/
def attempt (m : Call σ ε χ α) : Call σ ε χ (Except χ α) :=
  ⟨fun s => ⟨.ok (m.run s).result, (m.run s).state, (m.run s).events⟩⟩

/-- An error is passed on only after `cleanup`. -/
def onError (m : Call σ ε χ α) (cleanup : Call σ ε χ Unit) : Call σ ε χ α := do
  match ← attempt m with
  | .ok a => pure a
  | .error e =>
    cleanup
    fail e

@[simp] theorem run_bind (m : Call σ ε χ α) (f : α → Call σ ε χ β) (s : σ) :
    (m >>= f).run s = (m.run s).andThen f := rfl

@[simp] theorem run_pure (a : α) (s : σ) : (pure a : Call σ ε χ α).run s = ⟨.ok a, s, []⟩ := rfl

@[simp] theorem run_fail (e : χ) (s : σ) :
    (fail e : Call σ ε χ α).run s = ⟨.error e, s, []⟩ := rfl

@[simp] theorem run_get (s : σ) : (get : Call σ ε χ σ).run s = ⟨.ok s, s, []⟩ := rfl

@[simp] theorem run_modify (f : σ → σ) (s : σ) :
    (modify f : Call σ ε χ Unit).run s = ⟨.ok (), f s, []⟩ := rfl

@[simp] theorem run_emit (e : ε) (s : σ) :
    (emit e : Call σ ε χ Unit).run s = ⟨.ok (), s, [e]⟩ := rfl

@[simp] theorem run_emits (es : List ε) (s : σ) :
    (emits es : Call σ ε χ Unit).run s = ⟨.ok (), s, es⟩ := rfl

@[simp] theorem run_on (read : τ → σ) (write : σ → τ → τ) (tag : ε → δ) (m : Call σ ε χ α)
    (t : τ) : (on read write tag m).run t =
      ⟨(m.run (read t)).result, write (m.run (read t)).state t,
        (m.run (read t)).events.map tag⟩ := rfl

@[simp] theorem run_attempt (m : Call σ ε χ α) (s : σ) :
    (attempt m).run s = ⟨.ok (m.run s).result, (m.run s).state, (m.run s).events⟩ := rfl

@[simp] theorem run_failIf (c : Prop) [Decidable c] (e : χ) (s : σ) :
    (failIf c e : Call σ ε χ Unit).run s = if c then ⟨.error e, s, []⟩ else ⟨.ok (), s, []⟩ := by
  unfold failIf
  split <;> rfl

@[simp] theorem run_doIf (c : Prop) [Decidable c] (m : Call σ ε χ Unit) (s : σ) :
    (doIf c m).run s = if c then m.run s else ⟨.ok (), s, []⟩ := by
  unfold doIf
  split <;> rfl

@[simp] theorem andThen_ok (a : α) (s : σ) (es : List ε) (f : α → Call σ ε χ β) :
    (Outcome.mk (.ok a) s es).andThen f = ((f a).run s).after es := rfl

@[simp] theorem andThen_error (e : χ) (s : σ) (es : List ε) (f : α → Call σ ε χ β) :
    (Outcome.mk (.error e) s es).andThen f = ⟨.error e, s, es⟩ := rfl

@[simp] theorem after_mk (earlier es : List ε) (r : Except χ α) (s : σ) :
    (Outcome.mk r s es).after earlier = ⟨r, s, earlier ++ es⟩ := rfl

@[simp] theorem after_nil (o : Outcome σ ε χ α) : o.after [] = o := rfl

@[simp] theorem andThen_pure (o : Outcome σ ε χ Unit) : (o.andThen fun _ => pure ()) = o := by
  obtain ⟨result, s, es⟩ := o
  cases result <;> simp

@[simp] theorem after_after (o : Outcome σ ε χ α) (xs ys : List ε) :
    (o.after ys).after xs = o.after (xs ++ ys) := by
  simp [Outcome.after]

theorem after_andThen (o : Outcome σ ε χ α) (earlier : List ε) (f : α → Call σ ε χ β) :
    (o.after earlier).andThen f = (o.andThen f).after earlier := by
  obtain ⟨result, s, es⟩ := o
  cases result <;> simp

theorem andThen_andThen {γ : Type} (o : Outcome σ ε χ α) (f : α → Call σ ε χ β)
    (g : β → Call σ ε χ γ) : (o.andThen f).andThen g = o.andThen fun a => f a >>= g := by
  obtain ⟨result, s, es⟩ := o
  cases result with
  | ok a => exact after_andThen _ _ _
  | error e => rfl

/-- Calls in sequence may be grouped at will. -/
theorem bind_bind {γ : Type} (m : Call σ ε χ α) (f : α → Call σ ε χ β) (g : β → Call σ ε χ γ) :
    (m >>= f) >>= g = m >>= fun a => f a >>= g :=
  congrArg Call.mk (funext fun s => andThen_andThen (m.run s) f g)

theorem onError_ok {m : Call σ ε χ α} {cleanup : Call σ ε χ Unit} {s t : σ} {a : α} {es : List ε}
    (done : m.run s = ⟨.ok a, t, es⟩) : (onError m cleanup).run s = ⟨.ok a, t, es⟩ := by
  simp [onError, done]

theorem onError_error {m : Call σ ε χ α} {cleanup : Call σ ε χ Unit} {s t u : σ} {e : χ}
    {es fs : List ε} (failed : m.run s = ⟨.error e, t, es⟩)
    (cleaned : cleanup.run t = ⟨.ok (), u, fs⟩) :
    (onError m cleanup).run s = ⟨.error e, u, es ++ fs⟩ := by
  simp [onError, failed, cleaned]

theorem onError_fails {m : Call σ ε χ α} {cleanup : Call σ ε χ Unit} {s t : σ} {e : χ}
    {es : List ε} (failed : m.run s = ⟨.error e, t, es⟩) (f : α → Call σ ε χ β) (b : β) :
    (((onError m cleanup).run s).andThen f).result ≠ .ok b := by
  rcases cleaned : cleanup.run t with ⟨result, u, fs⟩
  cases result with
  | ok _ => simp [onError, failed, cleaned]
  | error _ => simp [onError, failed, cleaned]

/-! ## Invariants -/

section Keeps

variable {I : List ε → σ → Prop} {s : σ}

/-- The call keeps a property of the state and of the events up to it, also
where it returns an error. -/
def Keeps (I : List ε → σ → Prop) (m : Call σ ε χ α) (s : σ) : Prop :=
  ∀ h, I h s → I (h ++ (m.run s).events) (m.run s).state

/-- Behind a call that has been made. -/
theorem andThen_keeps {h : List ε} {o : Outcome σ ε χ α} {f : α → Call σ ε χ β}
    (now : I (h ++ o.events) o.state)
    (next : ∀ a, o.result = .ok a → Keeps I (f a) o.state) :
    I (h ++ (o.andThen f).events) (o.andThen f).state := by
  unfold Outcome.andThen
  split
  · rename_i a done
    have later := next a done _ now
    simp only [Outcome.after, ← List.append_assoc]
    exact later
  · exact now

theorem keeps_bind {m : Call σ ε χ α} {f : α → Call σ ε χ β} (first : Keeps I m s)
    (next : ∀ a, (m.run s).result = .ok a → Keeps I (f a) (m.run s).state) :
    Keeps I (m >>= f) s :=
  fun h inv => andThen_keeps (first h inv) next

theorem keeps_pure (a : α) : Keeps I (pure a : Call σ ε χ α) s := by
  intro h inv
  simpa using inv

theorem keeps_fail (e : χ) : Keeps I (fail e : Call σ ε χ α) s := by
  intro h inv
  simpa using inv

theorem keeps_failIf (c : Prop) [Decidable c] (e : χ) :
    Keeps I (failIf c e : Call σ ε χ Unit) s := by
  unfold failIf
  split
  · exact keeps_fail e
  · exact keeps_pure ()

theorem keeps_doIf {c : Prop} [Decidable c] {m : Call σ ε χ Unit} (taken : c → Keeps I m s) :
    Keeps I (doIf c m) s := by
  unfold doIf
  split
  · rename_i holds
    exact taken holds
  · exact keeps_pure ()

theorem keeps_get {f : σ → Call σ ε χ β} (next : Keeps I (f s) s) :
    Keeps I ((get : Call σ ε χ σ) >>= f) s := next

theorem keeps_modify {f : σ → σ} (kept : ∀ h, I h s → I h (f s)) :
    Keeps I (modify f : Call σ ε χ Unit) s := by
  intro h inv
  simpa using kept h inv

theorem keeps_emits {es : List ε} (kept : ∀ h, I h s → I (h ++ es) s) :
    Keeps I (emits es : Call σ ε χ Unit) s := kept

theorem keeps_emit {e : ε} (kept : ∀ h, I h s → I (h ++ [e]) s) :
    Keeps I (emit e : Call σ ε χ Unit) s := kept

theorem keeps_attempt {m : Call σ ε χ α} (kept : Keeps I m s) : Keeps I (attempt m) s := kept

theorem keeps_onError {m : Call σ ε χ α} {cleanup : Call σ ε χ Unit} (kept : Keeps I m s)
    (cleaned : Keeps I cleanup (m.run s).state) : Keeps I (onError m cleanup) s := by
  apply keeps_bind (keeps_attempt kept)
  intro result _
  cases result with
  | ok a => exact keeps_pure a
  | error e => exact keeps_bind cleaned fun _ _ => keeps_fail e

/-- What the invariant says now may be used for the call to come. -/
theorem keeps_given (known : Prop) {m : Call σ ε χ α} (fact : ∀ h, I h s → known)
    (kept : known → Keeps I m s) : Keeps I m s :=
  fun h inv => kept (fact h inv) h inv

/-- The state stays in `P`, and only events in `A` happen. -/
def Within (P : σ → Prop) (A : ε → Prop) (h : List ε) (s : σ) : Prop := P s ∧ ∀ e ∈ h, A e

theorem emits_within {P : σ → Prop} {A : ε → Prop} {es : List ε} (allowed : ∀ e ∈ es, A e) :
    Keeps (Within P A) (emits es : Call σ ε χ Unit) s := by
  rintro h ⟨inside, old⟩
  refine ⟨inside, ?_⟩
  intro e member
  rcases List.mem_append.mp member with earlier | new
  · exact old e earlier
  · exact allowed e new

theorem emit_within {P : σ → Prop} {A : ε → Prop} {e : ε} (allowed : A e) :
    Keeps (Within P A) (emit e : Call σ ε χ Unit) s :=
  emits_within (by simpa using allowed)

end Keeps

/-! ## Runs of calls -/

section Play

variable {ι : Type}

/-- A run of whole calls: after one that failed the next is made all the same. -/
def play (m : ι → Call σ ε χ α) (s : σ) (inputs : List ι) : σ × List ε :=
  inputs.foldl (fun r i => (((m i).run r.1).state, r.2 ++ ((m i).run r.1).events)) (s, [])

@[simp] theorem play_nil (m : ι → Call σ ε χ α) (s : σ) : play m s [] = (s, []) := rfl

@[simp] theorem play_snoc (m : ι → Call σ ε χ α) (s : σ) (inputs : List ι) (i : ι) :
    play m s (inputs ++ [i]) =
      (((m i).run (play m s inputs).1).state,
        (play m s inputs).2 ++ ((m i).run (play m s inputs).1).events) := by
  simp [play]

theorem play_cons (m : ι → Call σ ε χ α) (s : σ) (i : ι) (inputs : List ι) :
    play m s (i :: inputs) = ((play m ((m i).run s).state inputs).1,
      ((m i).run s).events ++ (play m ((m i).run s).state inputs).2) := by
  induction inputs using List.reverseRecOn with
  | nil => simp [play]
  | append_singleton inputs j ih =>
    rw [← List.cons_append, play_snoc, ih, play_snoc]
    simp

/-- A property of the trace and the state after each call of a run. -/
def Throughout (I : List ε → σ → Prop) (m : ι → Call σ ε χ α) (s : σ) (inputs : List ι) : Prop :=
  ∀ n, I (play m s (inputs.take n)).2 (play m s (inputs.take n)).1

theorem throughout_nil {I : List ε → σ → Prop} {m : ι → Call σ ε χ α} {s : σ} :
    Throughout I m s [] ↔ I [] s := by
  simp [Throughout]

theorem throughout_snoc {I : List ε → σ → Prop} {m : ι → Call σ ε χ α} {s : σ} {inputs : List ι}
    {i : ι} : Throughout I m s (inputs ++ [i]) ↔ Throughout I m s inputs ∧
      I (play m s (inputs ++ [i])).2 (play m s (inputs ++ [i])).1 := by
  constructor
  · intro every
    constructor
    · intro n
      have earlier := every (min n inputs.length)
      rw [List.take_append_of_le_length (Nat.min_le_right _ _), ← List.take_eq_take_min] at earlier
      exact earlier
    · have last := every (inputs ++ [i]).length
      rwa [List.take_length] at last
  · rintro ⟨earlier, last⟩ n
    by_cases within : n ≤ inputs.length
    · rw [List.take_append_of_le_length within]
      exact earlier n
    · rw [List.take_of_length_le (by simp; omega)]
      exact last

theorem Throughout.last {I : List ε → σ → Prop} {m : ι → Call σ ε χ α} {s : σ} {inputs : List ι}
    (h : Throughout I m s inputs) : I (play m s inputs).2 (play m s inputs).1 := by
  have last := h inputs.length
  rwa [List.take_length] at last

/-- A property of each call of a run and of the state it is made in. -/
def AtEach (P : σ → ι → Prop) (m : ι → Call σ ε χ α) (s : σ) (inputs : List ι) : Prop :=
  ∀ n i, inputs[n]? = some i → P (play m s (inputs.take n)).1 i

theorem atEach_nil {P : σ → ι → Prop} {m : ι → Call σ ε χ α} {s : σ} : AtEach P m s [] := by
  simp [AtEach]

theorem atEach_snoc {P : σ → ι → Prop} {m : ι → Call σ ε χ α} {s : σ} {inputs : List ι} {i : ι} :
    AtEach P m s (inputs ++ [i]) ↔ AtEach P m s inputs ∧ P (play m s inputs).1 i := by
  constructor
  · intro every
    constructor
    · intro n j present
      have within : n < inputs.length := (List.getElem?_eq_some_iff.mp present).1
      have earlier := every n j (by rwa [List.getElem?_append_left within])
      rwa [List.take_append_of_le_length (Nat.le_of_lt within)] at earlier
    · have last := every inputs.length i (by simp)
      rwa [List.take_left] at last
  · rintro ⟨earlier, last⟩ n j present
    by_cases within : n < inputs.length
    · rw [List.getElem?_append_left within] at present
      rw [List.take_append_of_le_length (Nat.le_of_lt within)]
      exact earlier n j present
    · obtain ⟨bound, rfl⟩ := List.getElem?_eq_some_iff.mp present
      have at_end : n = inputs.length := by
        rw [List.length_append, List.length_singleton] at bound
        omega
      subst at_end
      simpa using last

/-- A property that every call keeps holds after every run. -/
theorem play_keeps {I : List ε → σ → Prop} {m : ι → Call σ ε χ α} {s : σ} (start : I [] s)
    (kept : ∀ i s, Keeps I (m i) s) (inputs : List ι) :
    I (play m s inputs).2 (play m s inputs).1 := by
  induction inputs using List.reverseRecOn with
  | nil => exact start
  | append_singleton inputs i ih =>
    rw [play_snoc]
    exact kept i _ _ ih

end Play

end Calls
