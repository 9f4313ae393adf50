import Assistantd.Config
import Assistantd.Lib.Calls

/-! playback.c: one aplay process a call. The kernel's answers are inputs, the
calls made are the events. -/
namespace Assistantd.Playback

open Calls
open CText (ascii)

inductive ChildEnd where
  | exited (status : UInt8)
  | signaled (signal : Nat)
  deriving DecidableEq

inductive WaitResult where
  | running
  | ended (child : ChildEnd)
  | noChild
  | failed
  deriving DecidableEq

/-- The only signal sent is SIGTERM. `sent` says whether `kill` returned 0. -/
inductive Sys where
  | fork (args : List (List UInt8)) (child : Option Int)
  | waitpid (pid : Int) (hang : Bool) (result : WaitResult)
  | kill (pid : Int) (sent : Bool)
  deriving DecidableEq

structure Answers where
  fork : Option {pid : Int // 0 < pid}
  polls : Nat → WaitResult
  kill : Bool
  wait : WaitResult

abbrev PlaybackCall (α : Type) := Call Unit Sys Status α

/-- Polls 50 ms apart until `PLAYBACK_TIMEOUT_MS`. -/
def attempts : Nat := 30000 / 50

/-- What `playback_wait` returns on an answer other than 0. -/
def waitStatus : WaitResult → Status
  | .ended child => if child = .exited 0 then .ok else .errChildProcess
  | .noChild => .ok
  | .running | .failed => .errChildProcess

/-- `left` polls remain, and `polls` holds their answers. -/
def playbackWait (pid : Int) : Nat → (Nat → WaitResult) → PlaybackCall Status
  | 0, _ => pure .errChildProcess
  | left + 1, polls => do
    emit (.waitpid pid false (polls 0))
    if polls 0 = .running then playbackWait pid left (fun n => polls (n + 1))
    else pure (waitStatus (polls 0))

/-- What the child runs. -/
def args (config : Config) (wavPath : List UInt8) : List (List UInt8) :=
  [ascii "aplay", ascii "-D", config.audioPlaybackDevice.bytes, wavPath]

def playWav (config : Config) (wavPath : List UInt8) (answers : Answers) :
    PlaybackCall Unit := do
  emit (.fork (args config wavPath) (answers.fork.map Subtype.val))
  match answers.fork with
  | none => fail .errChildProcess
  | some pid =>
    let result ← playbackWait pid attempts answers.polls
    if result = .ok then pure ()
    else
      emit (.kill pid answers.kill)
      doIf (answers.kill = true) (emit (.waitpid pid true answers.wait))
      fail .errChildProcess

/-! ## The polling loop -/

def Unfinished (polls : Nat → WaitResult) (n : Nat) : Prop := ∀ i < n, polls i = .running

theorem unfinished_succ {polls : Nat → WaitResult} {n : Nat} (now : polls 0 = .running) :
    Unfinished polls (n + 1) ↔ Unfinished (fun i => polls (i + 1)) n := by
  constructor
  · intro h i less
    exact h (i + 1) (by omega)
  · intro h i less
    cases i with
    | zero => exact now
    | succ i => exact h i (by omega)

theorem unfinished_unique {polls : Nat → WaitResult} {m n : Nat} (before : Unfinished polls m)
    (first : polls m ≠ .running) (earlier : Unfinished polls n) (answer : polls n ≠ .running) :
    m = n := by
  rcases Nat.lt_trichotomy m n with less | rfl | more
  · exact absurd (earlier m less) first
  · rfl
  · exact absurd (before n more) answer

theorem playbackWait_run (pid : Int) (left : Nat) (polls : Nat → WaitResult) :
    (Unfinished polls left ∧ (playbackWait pid left polls).run () =
      ⟨.ok .errChildProcess, (), List.replicate left (.waitpid pid false .running)⟩) ∨
    ∃ n < left, Unfinished polls n ∧ polls n ≠ .running ∧ (playbackWait pid left polls).run () =
      ⟨.ok (waitStatus (polls n)), (),
        List.replicate n (.waitpid pid false .running) ++ [.waitpid pid false (polls n)]⟩ := by
  induction left generalizing polls with
  | zero => exact .inl ⟨by intro i less; omega, rfl⟩
  | succ left ih =>
    by_cases now : polls 0 = .running
    · rcases ih (fun n => polls (n + 1)) with ⟨timeout, run⟩ | ⟨n, less, before, answer, run⟩
      · refine .inl ⟨(unfinished_succ now).mpr timeout, ?_⟩
        simp [playbackWait, now, run, List.replicate_succ]
      · refine .inr ⟨n + 1, by omega, (unfinished_succ now).mpr before, answer, ?_⟩
        simp [playbackWait, now, run, List.replicate_succ]
    · refine .inr ⟨0, by omega, by intro i less; omega, now, ?_⟩
      simp [playbackWait, now]

/-! ## A pid that was reaped -/

def Sys.Reaps (pid : Int) : Sys → Prop
  | .waitpid p _ (.ended _) => p = pid
  | _ => False

def Sys.Targets (pid : Int) : Sys → Prop
  | .waitpid p _ _ => p = pid
  | .kill p _ => p = pid
  | .fork _ _ => False

/-- The kernel may give the pid to another process once `waitpid` has returned it. -/
structure SparesReaped (pid : Int) (polls : Nat → WaitResult) (calls : List Sys) : Prop where
  spared : calls.Pairwise fun earlier later => earlier.Reaps pid → ¬ later.Targets pid
  signaled : ∀ sent, .kill pid sent ∈ calls → Unfinished polls attempts ∨
    ∃ n < attempts, Unfinished polls n ∧ polls n = .failed

theorem pairwise_unreaped {pid : Int} {before after : List Sys}
    (unreaped : ∀ e ∈ before, ¬ e.Reaps pid)
    (spared : after.Pairwise fun earlier later => earlier.Reaps pid → ¬ later.Targets pid) :
    (before ++ after).Pairwise fun earlier later => earlier.Reaps pid → ¬ later.Targets pid := by
  apply List.pairwise_append.mpr
  refine ⟨?_, spared, ?_⟩
  · apply List.pairwise_of_forall_mem_list
    intro e member _ _ reaped
    exact absurd reaped (unreaped e member)
  · intro e member _ _ reaped
    exact absurd reaped (unreaped e member)

/-- What `play_wav` does about a child that did not end well by itself. -/
def escalation (pid : Int) (kill : Bool) (wait : WaitResult) : List Sys :=
  .kill pid kill :: if kill then [.waitpid pid true wait] else []

theorem escalation_pairwise (pid : Int) (kill : Bool) (wait : WaitResult) :
    (escalation pid kill wait).Pairwise fun earlier later =>
      earlier.Reaps pid → ¬ later.Targets pid := by
  cases kill <;> simp [escalation, Sys.Reaps]

theorem playWav_run (config : Config) (wavPath : List UInt8) (pid : {pid : Int // 0 < pid})
    (polls : Nat → WaitResult) (kill : Bool) (wait : WaitResult) {status : Status}
    {waits : List Sys}
    (waited : (playbackWait pid attempts polls).run () = ⟨.ok status, (), waits⟩) :
    ((playWav config wavPath ⟨some pid, polls, kill, wait⟩).run ()).events =
      .fork (args config wavPath) (some pid) ::
        (waits ++ if status = .ok then [] else escalation pid kill wait) := by
  by_cases well : status = .ok
  · simp [playWav, waited, well]
  · by_cases sent : kill = true
    · simp [playWav, waited, well, escalation, sent]
    · simp [playWav, waited, well, escalation, sent]

/-- A child whose end is noticed has ended with status 0. -/
def EndsClean (polls : Nat → WaitResult) : Prop :=
  ∀ n < attempts, Unfinished polls n → ∀ child, polls n = .ended child → child = .exited 0

theorem polled_unreaped (pid : Int) (n : Nat) :
    ∀ e ∈ List.replicate n (Sys.waitpid pid false .running), ¬ e.Reaps pid := by
  intro e member
  rw [List.eq_of_mem_replicate member]
  exact not_false

/-- Behind the polls that found the child running, only what follows counts. -/
theorem spared_iff (pid : Int) (args : List (List UInt8)) (child : Option Int) (n : Nat)
    (last : List Sys) :
    (.fork args child :: (List.replicate n (.waitpid pid false .running) ++ last)).Pairwise
        (fun earlier later => earlier.Reaps pid → ¬ later.Targets pid) ↔
      last.Pairwise fun earlier later => earlier.Reaps pid → ¬ later.Targets pid := by
  constructor
  · intro spared
    exact spared.sublist ((List.sublist_append_right _ _).trans (List.sublist_cons_self _ _))
  · intro spared
    apply List.pairwise_cons.mpr
    exact ⟨fun _ _ reaped => reaped.elim, pairwise_unreaped (polled_unreaped pid n) spared⟩

theorem endsClean_iff {polls : Nat → WaitResult} {n : Nat} (less : n < attempts)
    (before : Unfinished polls n) (answer : polls n ≠ .running) :
    EndsClean polls ↔ ∀ child, polls n = .ended child → child = .exited 0 := by
  constructor
  · intro clean child ended
    exact clean n less before child ended
  · intro clean m _ earlier child ended
    have same : n = m := unfinished_unique before answer earlier (by simp [ended])
    exact clean child (same ▸ ended)

theorem play_wav_spares (config : Config) (wavPath : List UInt8) (pid : {pid : Int // 0 < pid})
    (polls : Nat → WaitResult) (kill : Bool) (wait : WaitResult) :
    SparesReaped pid polls
        ((playWav config wavPath ⟨some pid, polls, kill, wait⟩).run ()).events ↔
      EndsClean polls := by
  rcases playbackWait_run pid attempts polls with ⟨timeout, waited⟩ | ⟨n, less, before, answer, waited⟩
  · rw [playWav_run config wavPath pid polls kill wait waited]
    constructor
    · intro _ n less _ child ended
      rw [timeout n less] at ended
      cases ended
    · intro _
      refine ⟨?_, fun _ _ => .inl timeout⟩
      rw [if_neg (by decide), spared_iff]
      exact escalation_pairwise pid kill wait
  rw [playWav_run config wavPath pid polls kill wait waited, endsClean_iff less before answer]
  -- the last wait decides: nothing follows a clean end, the escalation any other answer
  have quiet : waitStatus (polls n) = .ok → SparesReaped pid polls (.fork (args config wavPath)
      (some pid) :: (List.replicate n (.waitpid pid false .running) ++ [.waitpid pid false (polls n)] ++
          if waitStatus (polls n) = .ok then [] else escalation pid kill wait)) := by
    intro well
    constructor
    · simp only [if_pos well, List.append_nil, spared_iff]
      exact List.pairwise_singleton _ _
    · intro sent called
      simp [well] at called
  cases found : polls n with
  | running => exact absurd found answer
  | noChild =>
    rw [found] at quiet
    exact iff_of_true (quiet rfl) (fun child ended => by cases ended)
  | failed =>
    refine iff_of_true ⟨?_, fun _ _ => .inr ⟨n, less, before, found⟩⟩ (fun child ended => by cases ended)
    rw [List.append_assoc, spared_iff]
    refine pairwise_unreaped ?_ (escalation_pairwise pid kill wait)
    intro e member
    rw [List.mem_singleton.mp member]
    exact not_false
  | ended child =>
    by_cases clean : child = .exited 0
    · rw [found] at quiet
      apply iff_of_true (quiet (if_pos clean))
      intro other ended
      rw [← WaitResult.ended.inj ended]
      exact clean
    · refine iff_of_false ?_ (fun all => clean (all child rfl))
      intro spares
      have last := spares.spared
      rw [List.append_assoc, spared_iff] at last
      simp [waitStatus, clean, escalation, Sys.Reaps, Sys.Targets] at last

/-- The child exits with 1 at once, and its pid already belongs to another process. -/
theorem reaped_signaled : ¬ SparesReaped 7 (fun _ => .ended (.exited 1))
    ((playWav Config.initDefaults (ascii "u.wav")
      ⟨some ⟨7, by decide⟩, fun _ => .ended (.exited 1), true, .running⟩).run ()).events := by
  intro spares
  have last := spares.spared
  simp [playWav, playbackWait, attempts, waitStatus, Sys.Reaps, Sys.Targets] at last

end Assistantd.Playback
