import Assistantd.Supervisor.Requests
import Assistantd.Supervisor.Runs

/-! main.c behind its command line, with the signal handler of shutdown.c. -/
namespace Assistantd

open Calls Supervisor
open CText (CString ascii)

variable {κ : Type}

/-- One pass of the loop. A signal may arrive before run_once and while main
sleeps; inside run_once the answers say when. -/
structure Pass (p : Platform) where
  arrives : Bool
  answers : RunAnswers p
  rests : Bool

/-- `passes` is as far as the run is followed; the loop may end earlier. -/
structure Session (p : Platform) where
  file : Option (List UInt8)
  handlers : Bool
  arrives : Bool
  start : StartAnswers
  passes : List (Pass p)
  stop : StopAnswers

namespace Main

/-- `assistantd_on_signal`, if a signal arrives here. -/
def onSignal (arrives : Bool) : SupervisorCall κ Unit :=
  modify fun s => { s with shutdownRequested := s.shutdownRequested || arrives }

def loop (p : Platform) (core : VadCore κ) : List (Pass p) → SupervisorCall κ Unit
  | [] => pure ()
  | pass :: passes => do
    let s ← get
    if s.shutdownRequested = true then pure ()
    else
      onSignal pass.arrives
      match ← attempt (runOnce p core pass.answers) with
      | .error _ => pure ()
      | .ok () =>
        onSignal pass.rests
        loop p core passes

/-- From the handlers to the end of the loop. -/
def serve (p : Platform) (core : VadCore κ) (session : Session p) : SupervisorCall κ Unit := do
  onSignal session.arrives
  Supervisor.start core session.start
  loop p core session.passes

def configured (longBits : Nat) (file : Option (List UInt8)) : Except Status Config :=
  match Config.loadFile longBits Config.initDefaults file with
  | (.ok, config) => if config.validate = .ok then .ok config else .error config.validate
  | (status, _) => .error status

/-- The exit status, and what the supervisor did. -/
def main (p : Platform) (core : VadCore κ) (session : Session p) : Status × List Event :=
  match configured p.longBits session.file with
  | .error status => (status, [])
  | .ok config =>
    if session.handlers = false then (.errIo, [])
    else
      let served := (serve p core session).run (init config)
      let stopped := (Supervisor.stop session.stop).run served.state
      (match served.result with
        | .ok () => .ok
        | .error status => status,
        served.events ++ stopped.events)

/-! ## What holds all along -/

section Serve

variable {p : Platform} {config : Config}

/-- A signal changes nothing else. -/
theorem seen_signal {s : System κ} (h : Seen p config s) (requested : Bool) :
    Seen p config { s with shutdownRequested := requested } := by
  cases h with
  | ready fresh =>
    obtain ⟨aggressiveness, silenceMs, eq⟩ := fresh
    refine .ready ⟨aggressiveness, silenceMs, ?_⟩
    rw [eq]
    rfl
  | running running =>
    obtain ⟨⟨state, ring, artifacts, responses⟩, configured, vad, stt, llm⟩ := running
    exact .running ⟨⟨state, ring, artifacts, responses⟩, configured, vad, stt, llm⟩
  | stopped stopped =>
    obtain ⟨state, free, inactive, artifacts, responses⟩ := stopped
    exact .stopped ⟨state, free, inactive, artifacts, responses⟩

theorem onSignal_follows (arrives : Bool) (s : System κ) :
    Keeps (Within (Seen p config) (Event.Follows config)) (onSignal arrives) s :=
  keeps_modify fun _ within => ⟨seen_signal within.1 _, within.2⟩

theorem loop_follows (core : VadCore κ) (passes : List (Pass p)) (s : System κ) :
    Keeps (Within (Seen p config) (Event.Follows config)) (loop p core passes) s := by
  induction passes generalizing s with
  | nil => exact keeps_pure ()
  | cons pass passes ih =>
    apply keeps_get
    split
    · exact keeps_pure ()
    · apply keeps_bind (onSignal_follows _ _)
      intro _ _
      apply keeps_bind (keeps_attempt (call_follows p core (.runOnce pass.answers) _))
      intro result _
      cases result with
      | error _ => exact keeps_pure ()
      | ok _ => exact keeps_bind (onSignal_follows _ _) fun _ _ => ih _

theorem serve_follows (core : VadCore κ) (session : Session p) (s : System κ) :
    Keeps (Within (Seen p config) (Event.Follows config)) (serve p core session) s :=
  keeps_bind (onSignal_follows _ _) fun _ _ =>
    keeps_bind (call_follows p core (.start session.start) _) fun _ _ => loop_follows core _ _

theorem serve_within (core : VadCore κ) (session : Session p) (config : Config) :
    let o := (serve p core session).run (init config)
    Within (Seen p config) (Event.Follows config) o.events o.state := by
  have kept : Keeps (Within (Seen p config) (Event.Follows config)) (serve p core session)
      (init config) := serve_follows core session _
  simpa using kept [] ⟨.ready (init_fresh config), List.forall_mem_nil _⟩

/-- Every request of a run follows the config that was accepted. -/
theorem main_follows (core : VadCore κ) (session : Session p) {config : Config}
    (accepted : configured p.longBits session.file = .ok config) :
    ∀ e ∈ (main p core session).2, e.Follows config := by
  obtain ⟨seen, follows⟩ := serve_within core session config
  unfold main
  rw [accepted]
  dsimp only
  split
  · exact List.forall_mem_nil _
  · have stopped := (call_follows p core (.stop session.stop) _) _ ⟨seen, follows⟩
    exact stopped.2

end Serve

/-! ## Shutdown -/

/-- The adapter never watches the flag, so no poll stops a request. -/
theorem cancelled (p : Platform) (core : VadCore κ) (session : Session p) :
    ((∀ requested continues, .llm (.poll requested continues) ∈ (main p core session).2 →
        requested = true → continues = false) ↔
      ∀ requested continues, .llm (.poll requested continues) ∈ (main p core session).2 →
        requested = false) ∧
    ∀ config, configured p.longBits session.file = .ok config →
      let s := ((serve p core session).run (init config)).state
      s.state = .running → s.llm.shutdownFlag = none := by
  have continued : ∀ requested continues,
      .llm (.poll requested continues) ∈ (main p core session).2 → continues = true := by
    intro requested continues polled
    cases accepted : configured p.longBits session.file with
    | error status => simp [main, accepted] at polled
    | ok config => exact main_follows core session accepted _ polled
  refine ⟨⟨?_, ?_⟩, ?_⟩
  · intro stops requested continues polled
    by_contra arrived
    have stopped := stops requested continues polled (by simpa using arrived)
    rw [continued requested continues polled] at stopped
    cases stopped
  · intro never requested continues polled arrived
    rw [never requested continues polled] at arrived
    cases arrived
  · intro config accepted s running
    obtain ⟨_, _, llm⟩ := ((serve_within core session config).1.running_of running).llm
    rw [llm]

/-- A signal that arrives while the LLM server is asked. -/
def sampleSession : Session samplePlatform where
  file := some (ascii "VAD_SILENCE_MS=100\n")
  handlers := true
  arrives := false
  start := sampleStart
  passes := ⟨false, sampleTick (List.replicate 640 1) .ok true, false⟩ ::
    List.replicate 5 ⟨false, sampleTick (List.replicate 640 0) .ok true, false⟩
  stop := sampleStart.cleanup

theorem request_continues :
    ¬ ∀ requested continues, .llm (.poll requested continues) ∈
      (main samplePlatform VadStream.byteCore sampleSession).2 →
        requested = true → continues = false := by
  intro stops
  have polled : (main samplePlatform VadStream.byteCore sampleSession).2.any
      (fun | .llm (.poll true true) => true | _ => false) = true := by decide +kernel
  obtain ⟨e, member, found⟩ := List.any_eq_true.mp polled
  split at found
  · cases stops true true member rfl
  · cases found

end Main

end Assistantd
