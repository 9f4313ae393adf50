import Assistantd.Capture.Effects

/-! Whether a child that was started has been collected: only a wait that
returned its pid or `ECHILD` collects it. -/
namespace Assistantd.AudioCapture

open Calls

def Sys.Reaps (pid : Int) : Sys → Prop
  | .waitpid p _ result => p = pid ∧ result.Final
  | _ => False

instance (pid : Int) (e : Sys) : Decidable (e.Reaps pid) :=
  match e with
  | .waitpid p _ result => inferInstanceAs (Decidable (p = pid ∧ result.Final))
  | .access | .pipe _ | .fork _ | .fcntl _ | .read _ | .close _ | .kill _ _ =>
    inferInstanceAs (Decidable False)

def Reaping (pid : Int) (h : List Sys) : Prop := ∃ e ∈ h, e.Reaps pid

instance (pid : Int) (h : List Sys) : Decidable (Reaping pid h) :=
  inferInstanceAs (Decidable (∃ e ∈ h, e.Reaps pid))

/-- Each child was reaped after it was started. -/
def Reaped (h : List Sys) : Prop :=
  ∀ before pid after, h = before ++ .fork (some pid) :: after → Reaping pid after

def NoZombies (h : List Sys) (c : AudioCapture) : Prop := c.active = false → Reaped h

/-- The wait that blocks, where the call comes to it, collects the child. -/
def Collects (c : AudioCapture) (i : Request) : Prop := ∀ w ∈ blockingWait c i, w.Final

/-! ## Children that have not been reaped -/

@[simp] theorem reaping_nil (pid : Int) : ¬ Reaping pid [] := by simp [Reaping]

@[simp] theorem reaping_cons (pid : Int) (e : Sys) (h : List Sys) :
    Reaping pid (e :: h) ↔ e.Reaps pid ∨ Reaping pid h := by
  simp [Reaping]

@[simp] theorem reaping_append (pid : Int) (xs ys : List Sys) :
    Reaping pid (xs ++ ys) ↔ Reaping pid xs ∨ Reaping pid ys := by
  simp [Reaping, or_and_right, exists_or]

def Unreaped (pid : Int) : List Sys → Prop
  | [] => False
  | e :: h => (e = .fork (some pid) ∧ ¬ Reaping pid h) ∨ Unreaped pid h

theorem unreaped_append {pid : Int} {xs ys : List Sys} : Unreaped pid (xs ++ ys) ↔
    (Unreaped pid xs ∧ ¬ Reaping pid ys) ∨ Unreaped pid ys := by
  induction xs with
  | nil => simp [Unreaped]
  | cons e xs ih =>
    simp only [List.cons_append, Unreaped, ih, reaping_append]
    tauto

theorem unreaped_split {pid : Int} {h : List Sys} (unreaped : Unreaped pid h) : ∃ before after,
    h = before ++ .fork (some pid) :: after ∧ ¬ Reaping pid after := by
  induction h with
  | nil => cases unreaped
  | cons e h ih =>
    rcases unreaped with ⟨rfl, kept⟩ | later
    · exact ⟨[], h, rfl, kept⟩
    · obtain ⟨before, after, rfl, kept⟩ := ih later
      exact ⟨e :: before, after, rfl, kept⟩

theorem reaped_iff {h : List Sys} : Reaped h ↔ ∀ pid, ¬ Unreaped pid h := by
  constructor
  · intro reaped pid unreaped
    obtain ⟨before, after, split, kept⟩ := unreaped_split unreaped
    exact kept (reaped before pid after split)
  · rintro none before pid after rfl
    by_contra kept
    exact none pid (unreaped_append.mpr (.inr (.inl ⟨rfl, kept⟩)))

theorem unreaped_unforked {pid : Int} {h : List Sys} (unforked : .fork (some pid) ∉ h) :
    ¬ Unreaped pid h := by
  intro unreaped
  obtain ⟨before, after, rfl, _⟩ := unreaped_split unreaped
  exact unforked (by simp)

theorem polled_unreaped (pid p : Int) (n : Nat) (last : Option WaitResult) :
    ¬ Unreaped pid (polled p n last) := by
  apply unreaped_unforked
  intro member
  rcases List.mem_append.mp member with running | final
  · cases List.eq_of_mem_replicate running
  · obtain ⟨_, _, wait⟩ := List.mem_map.mp final
    cases wait

theorem polled_reaping {pid p : Int} {n : Nat} {last : Option WaitResult} :
    Reaping pid (polled p n last) ↔ p = pid ∧ ∃ w ∈ last, w.Final := by
  constructor
  · rintro ⟨e, member, reaps⟩
    rcases List.mem_append.mp member with running | final
    · rw [List.eq_of_mem_replicate running] at reaps
      simp [Sys.Reaps, WaitResult.Final] at reaps
    · obtain ⟨w, answer, rfl⟩ := List.mem_map.mp final
      exact ⟨reaps.1, w, Option.mem_toList.mp answer, reaps.2⟩
  · rintro ⟨same, w, answer, final⟩
    refine ⟨.waitpid p false w, ?_, same, final⟩
    exact List.mem_append_right _ (List.mem_map_of_mem (Option.mem_toList.mpr answer))

theorem fcntl_unreaped (pid fd : Int) (n : Nat) :
    ¬ Unreaped pid (List.replicate n (.fcntl fd)) := by
  apply unreaped_unforked
  intro member
  cases List.eq_of_mem_replicate member

theorem fcntl_reaping (pid fd : Int) (n : Nat) :
    ¬ Reaping pid (List.replicate n (.fcntl fd)) := by
  rintro ⟨e, member, reaps⟩
  rw [List.eq_of_mem_replicate member] at reaps
  exact reaps

/-- The one child that may be left is the one on record. -/
def OnRecord (h : List Sys) (c : AudioCapture) : Prop :=
  ∀ pid, Unreaped pid h ↔ c.active = true ∧ c.childPid = pid

section

variable {c c' : AudioCapture} {wait : Option WaitResult} {events : List Sys}

/-- What a call that collects leaves, given that the child on record was left. -/
theorem Effect.collects (effect : Effect c wait events c') (collects : ∀ w ∈ wait, w.Final)
    (pid : Int) : ((c.active = true ∧ c.childPid = pid) ∧ ¬ Reaping pid events) ∨
      Unreaped pid events ↔ c'.active = true ∧ c'.childPid = pid := by
  cases effect with
  | nothing => simp [Unreaped]
  | unavailable idle => simp [Unreaped, idle, blank]
  | noPipe idle => simp [Unreaped, idle, blank]
  | noFork idle => simp [Unreaped, idle, blank]
  | @unwatched idle r w child ends started n wait =>
    have final : wait.Final := collects wait rfl
    simp [unreaped_append, Unreaped, Sys.Reaps, fcntl_unreaped, idle, blank, final]
    tauto
  | started idle => simp [Unreaped, idle, Sys.Reaps]
  | received => simp [Unreaped, Sys.Reaps]
  | waited busy kept => simp [Unreaped, Sys.Reaps, kept]
  | collected busy final => simp [Unreaped, Sys.Reaps, final, busy, blank]
  | @exited busy n w final =>
    simp [Unreaped, busy, blank, polled_unreaped, polled_reaping, final]
    tauto
  | @killed busy n last failed wait =>
    have final : wait.Final := collects wait rfl
    simp [unreaped_append, Unreaped, Sys.Reaps, busy, blank, polled_unreaped, final]
    tauto

/-- A wait that blocks and does not collect is never made up for. -/
theorem Effect.leaves (effect : Effect c wait events c') {w : WaitResult} (blocked : w ∈ wait)
    (left : ¬ w.Final) : c'.active = false ∧ ∃ pid,
      ((c.active = true ∧ c.childPid = pid) ∧ ¬ Reaping pid events) ∨ Unreaped pid events := by
  cases effect with
  | @unwatched idle r _ pid ends started n wait =>
    obtain rfl : wait = w := by simpa using blocked
    refine ⟨rfl, pid, .inr ?_⟩
    simp [unreaped_append, Unreaped, Sys.Reaps, fcntl_unreaped, fcntl_reaping, left]
  | @killed busy n last failed wait =>
    obtain rfl : wait = w := by simpa using blocked
    refine ⟨rfl, c.childPid, .inl ⟨⟨busy, rfl⟩, ?_⟩⟩
    have unfinished : ∀ w ∈ last, ¬ w.Final := by
      intro w answer
      rw [failed w answer]
      simp [WaitResult.Final]
    simpa [Sys.Reaps, left, polled_reaping] using unfinished
  | _ => simp at blocked

end

/-! ## Every run -/

section

variable {h : List Sys} {c : AudioCapture} {i : Request}

theorem request_onRecord (live : Live c) (left : OnRecord h c) (collects : Collects c i) :
    OnRecord (h ++ ((request i).run c).events) ((request i).run c).state := by
  intro pid
  rw [unreaped_append, left pid]
  exact (request_effect live i).collects collects pid

theorem OnRecord.reaped (left : OnRecord h c) : NoZombies h c := by
  intro idle
  apply reaped_iff.mpr
  intro pid unreaped
  rw [((left pid).mp unreaped).1] at idle
  cases idle

theorem request_forgets (live : Live c) (left : OnRecord h c) (uncollected : ¬ Collects c i) :
    ¬ NoZombies (h ++ ((request i).run c).events) ((request i).run c).state := by
  obtain ⟨w, blocked, unfinished⟩ : ∃ w ∈ blockingWait c i, ¬ w.Final := by
    simpa [Collects] using uncollected
  obtain ⟨idle, pid, forgotten⟩ := (request_effect live i).leaves blocked unfinished
  intro reaped
  apply reaped_iff.mp (reaped idle) pid
  rw [unreaped_append, left pid]
  exact forgotten

theorem request_live (i : Request) (c : AudioCapture) :
    Keeps (fun _ c => Live c) (request i) c :=
  fun _ live => (request_effect live i).live live

theorem run_onRecord (idle : c.active = false) (requests : List Request) :
    AtEach Collects request c requests →
      OnRecord (play request c requests).2 (play request c requests).1 := by
  induction requests using List.reverseRecOn with
  | nil => simp [OnRecord, Unreaped, idle]
  | append_singleton requests i ih =>
    intro collects
    obtain ⟨earlier, now⟩ := atEach_snoc.mp collects
    rw [play_snoc]
    have live : Live (play request c requests).1 :=
      play_keeps (by simp [Live, idle]) request_live requests
    exact request_onRecord live (ih earlier) now

/-- A child is forgotten by the first call whose last wait does not collect it,
and by no other. -/
theorem no_zombies_iff (idle : c.active = false) (requests : List Request) :
    Throughout NoZombies request c requests ↔ AtEach Collects request c requests := by
  induction requests using List.reverseRecOn with
  | nil =>
    rw [throughout_nil]
    exact iff_of_true (fun _ => reaped_iff.mpr fun _ => id) atEach_nil
  | append_singleton requests i ih =>
    rw [throughout_snoc, atEach_snoc, ih, play_snoc]
    apply and_congr_right
    intro earlier
    have left := run_onRecord idle requests earlier
    have live : Live (play request c requests).1 :=
      play_keeps (by simp [Live, idle]) request_live requests
    constructor
    · intro reaped
      by_contra uncollected
      exact request_forgets live left uncollected reaped
    · intro collects
      exact (request_onRecord live left collects).reaped

end

/-- A child that outlives its SIGTERM, and a signal that comes during the last wait. -/
def interrupted : List Request :=
  [sampleStart, .stop ⟨.sent, fun _ => .running, .sent, .failed⟩]

theorem no_zombies_iff_interrupted : zeroed.active = false ∧
    (Throughout NoZombies request zeroed interrupted ↔ AtEach Collects request zeroed interrupted) :=
  ⟨rfl, no_zombies_iff rfl interrupted⟩

theorem child_forgotten : ¬ Throughout NoZombies request zeroed interrupted := by
  intro every
  have reaped := every.last (by decide) ((play request zeroed interrupted).2.take 2) 200
    ((play request zeroed interrupted).2.drop 3) rfl
  revert reaped
  decide +kernel

end Assistantd.AudioCapture
