import Assistantd.Lib.Simulation
import Assistantd.Vad.Stream

/-! A detector behind a reset, against one that has just been initialised. -/
namespace Assistantd.VadDetector

open Calls VadStream

variable {κ : Type} (core : VadCore κ)

/-- What a call returns; `reset` returns nothing. -/
def serve (d : VadDetector κ) : Request → Option (Except Status VadEvent) × VadDetector κ
  | .processFrame pcm sampleCount frameDurationMs event =>
    let o := (processFrame core pcm sampleCount frameDurationMs event).run d
    (some o.result, o.state)
  | .reset => (none, ((reset core).run d).state)

/-- Detectors that differ in nothing but the address of the instance. -/
inductive Alike : VadDetector κ → VadDetector κ → Prop where
  | mk aggressiveness silenceMs accumulatedSilenceMs speechActive k rateIdx addr addr' :
      Alike ⟨aggressiveness, silenceMs, accumulatedSilenceMs, speechActive, some ⟨k, rateIdx, addr⟩⟩
        ⟨aggressiveness, silenceMs, accumulatedSilenceMs, speechActive, some ⟨k, rateIdx, addr'⟩⟩

theorem process_alike (vad : Fvad κ) (addr : Nat) (frame : List UInt8) (length : Nat) :
    Fvad.process core { vad with addr } frame length =
      ((vad.process core frame length).1, { (vad.process core frame length).2 with addr }) := by
  unfold Fvad.process
  split <;> rfl

theorem advance_alike {d e : VadDetector κ} (h : Alike d e) (speech : Bool)
    (frameDurationMs : Int) :
    (d.advance speech frameDurationMs).1 = (e.advance speech frameDurationMs).1 ∧
      Alike (d.advance speech frameDurationMs).2 (e.advance speech frameDurationMs).2 := by
  obtain ⟨a, limit, accumulated, active, k, rateIdx, addr, addr'⟩ := h
  cases active with
  | false => cases speech <;> exact ⟨rfl, ⟨_, _, _, _, _, _, _, _⟩⟩
  | true =>
    cases speech with
    | true => exact ⟨rfl, ⟨_, _, _, _, _, _, _, _⟩⟩
    | false =>
      by_cases lasts : limit ≤ accumulated + frameDurationMs
      · rw [advance_closes rfl lasts, advance_closes rfl lasts]
        exact ⟨rfl, ⟨_, _, _, _, _, _, _, _⟩⟩
      · rw [advance_waits rfl (by exact not_le.mp lasts), advance_waits rfl (by exact not_le.mp lasts)]
        exact ⟨rfl, ⟨_, _, _, _, _, _, _, _⟩⟩

theorem reset_alike {d e : VadDetector κ} (h : Alike d e) :
    Alike ((reset core).run d).state ((reset core).run e).state := by
  obtain ⟨a, limit, accumulated, active, k, rateIdx, addr, addr'⟩ := h
  by_cases mode : 0 ≤ a ∧ a ≤ 3
  · simp only [reset, resetBackend, run_bind, run_get, andThen_ok, run_emit, run_modify, after_mk,
      Fvad.setMode, mode]
    exact ⟨_, _, _, _, _, _, _, _⟩
  · simp only [reset, resetBackend, run_bind, run_get, andThen_ok, run_emit, run_modify, after_mk,
      Fvad.setMode, mode, if_false]
    exact ⟨_, _, _, _, _, _, _, _⟩

/-- Such detectors answer alike, and stay alike. -/
theorem serve_alike {d e : VadDetector κ} (h : Alike d e) (request : Request) :
    Alike (d.serve core request).2 (e.serve core request).2 ∧
      (d.serve core request).1 = (e.serve core request).1 := by
  cases request with
  | reset => exact ⟨reset_alike core h, rfl⟩
  | processFrame pcm sampleCount frameDurationMs event =>
    by_cases good : Admissible pcm sampleCount frameDurationMs event
    · obtain ⟨frame, rfl⟩ := Option.ne_none_iff_exists'.mp good.pcm
      obtain ⟨a, limit, accumulated, active, k, rateIdx, addr, addr'⟩ := h
      have same := process_alike core ⟨k, rateIdx, addr⟩ addr' frame sampleCount
      obtain ⟨k', kept⟩ : ∃ k', ((Fvad.mk k rateIdx addr).process core frame sampleCount).2 =
          ⟨k', rateIdx, addr⟩ := by
        unfold Fvad.process
        split <;> exact ⟨_, rfl⟩
      simp only [serve]
      rw [processFrame_admitted good rfl, processFrame_admitted good rfl, same, kept]
      split
      · exact ⟨⟨_, _, _, _, _, _, _, _⟩, rfl⟩
      · obtain ⟨events, next⟩ := advance_alike
          (Alike.mk a limit accumulated active k' rateIdx addr addr')
          (((Fvad.mk k rateIdx addr).process core frame sampleCount).1 = 1) frameDurationMs
        exact ⟨next, congrArg (fun emitted => some (Except.ok emitted)) events⟩
    · simp only [serve, processFrame_refused good, and_true]
      exact h

/-! ## Any run -/

/-- A mode may be anything that `set_mode` establishes and that classifying at
16 kHz keeps. -/
def InMode (mode : Int) (k : κ) : Prop :=
  ∀ M : κ → Prop, M (core.setMode mode core.initCore) →
    (∀ k frame length, M k → M (core.calcVad 1 k frame length).2) → M k

/-- The detector as the config wants it. -/
structure Configured (config : Config) (d : VadDetector κ) : Prop where
  aggressiveness : d.aggressiveness = config.vadAggressiveness
  silenceMs : d.silenceMs = config.vadSilenceMs
  backend : ∃ k addr, d.backend = some ⟨k, 1, addr⟩ ∧ InMode core config.vadAggressiveness k

theorem InMode.set (mode : Int) : InMode core mode (core.setMode mode core.initCore) :=
  fun _ start _ => start

theorem InMode.classify {mode : Int} {k : κ} (h : InMode core mode k) (frame : List UInt8)
    (length : Nat) : InMode core mode (core.calcVad 1 k frame length).2 :=
  fun M start next => next _ _ _ (h M start next)

theorem advance_settings (d : VadDetector κ) (speech : Bool) (frameDurationMs : Int) :
    (d.advance speech frameDurationMs).2.aggressiveness = d.aggressiveness ∧
      (d.advance speech frameDurationMs).2.silenceMs = d.silenceMs := by
  unfold advance
  split_ifs <;> exact ⟨rfl, rfl⟩

theorem serve_configured {config : Config} {d : VadDetector κ}
    (mode : 0 ≤ config.vadAggressiveness ∧ config.vadAggressiveness ≤ 3)
    (h : Configured core config d) (request : Request) :
    Configured core config (d.serve core request).2 := by
  obtain ⟨aggressiveness, silenceMs, k, addr, present, inMode⟩ := h
  cases request with
  | reset =>
    refine ⟨?_, ?_, core.setMode config.vadAggressiveness core.initCore, addr, ?_, InMode.set core _⟩
    · simpa [serve, reset, resetBackend, present] using aggressiveness
    · simpa [serve, reset, resetBackend, present] using silenceMs
    · simp [serve, reset, resetBackend, present, aggressiveness, Fvad.setMode, mode]
      rfl
  | processFrame pcm sampleCount frameDurationMs event =>
    by_cases good : Admissible pcm sampleCount frameDurationMs event
    · obtain ⟨frame, rfl⟩ := Option.ne_none_iff_exists'.mp good.pcm
      have heard : ((Fvad.mk k 1 addr).process core frame sampleCount).2 =
          ⟨(core.calcVad 1 k frame sampleCount).2, 1, addr⟩ := by
        rw [Fvad.process, if_pos (admitted_length good)]
      have next := InMode.classify core inMode frame sampleCount
      simp only [serve]
      rw [processFrame_admitted good present, heard]
      split
      · exact ⟨aggressiveness, silenceMs, _, addr, rfl, next⟩
      · obtain ⟨same, limit⟩ := advance_settings { d with
          backend := some ⟨(core.calcVad 1 k frame sampleCount).2, 1, addr⟩ }
          (((Fvad.mk k 1 addr).process core frame sampleCount).1 = 1) frameDurationMs
        exact ⟨same.trans aggressiveness, limit.trans silenceMs, _, addr,
          advance_backend _ _ _, next⟩
    · simp only [serve, processFrame_refused good]
      exact ⟨aggressiveness, silenceMs, k, addr, present, inMode⟩

theorem init_configured {config : Config} {addr : Nat} {d : VadDetector κ}
    (done : ((init core config (some addr)).run d).result = .ok ()) :
    (0 ≤ config.vadAggressiveness ∧ config.vadAggressiveness ≤ 3) ∧
      ((init core config (some addr)).run d).state =
        ⟨config.vadAggressiveness, config.vadSilenceMs, 0, false,
          some (ready core config.vadAggressiveness addr)⟩ := by
  rw [init_run] at done ⊢
  split at done
  · cases done
  · rename_i fine
    exact ⟨by omega, by rw [if_neg fine]⟩

theorem run_configured {config : Config} {addr : Nat} {d : VadDetector κ}
    (done : ((init core config (some addr)).run d).result = .ok ()) (history : List Request) :
    Configured core config
      (play (answering (serve core)) ((init core config (some addr)).run d).state history).1 := by
  obtain ⟨mode, state⟩ := init_configured core done
  induction history using List.reverseRecOn with
  | nil =>
    rw [state]
    exact ⟨rfl, rfl, _, addr, rfl, InMode.set core _⟩
  | append_singleton history request ih =>
    rw [play_snoc]
    exact serve_configured core mode ih request

/-- A detector that is reset is the one `init` makes. -/
theorem Configured.reset {config : Config} {d : VadDetector κ}
    (mode : 0 ≤ config.vadAggressiveness ∧ config.vadAggressiveness ≤ 3)
    (h : Configured core config d) (addr' : Nat) :
    Alike ((VadDetector.reset core).run d).state ⟨config.vadAggressiveness, config.vadSilenceMs, 0,
      false, some (ready core config.vadAggressiveness addr')⟩ := by
  obtain ⟨aggressiveness, silenceMs, k, addr, present, _⟩ := h
  have state : ((VadDetector.reset core).run d).state = ⟨config.vadAggressiveness,
      config.vadSilenceMs, 0, false, some (ready core config.vadAggressiveness addr)⟩ := by
    simp [VadDetector.reset, resetBackend, present, aggressiveness, silenceMs, Fvad.setMode, mode]
    rfl
  rw [state]
  exact .mk _ _ _ _ _ _ _ _

/-- What the classifier is given for a frame that passes the checks, and the one
reason for which the call may still fail. -/
structure Sampled (config : Config) (d : VadDetector κ) : Prop where
  configured : Configured core config d
  length : ∀ frame sampleCount frameDurationMs event,
    Admissible (some frame) sampleCount frameDurationMs event →
    ∃ vad, d.backend = some vad ∧ Fvad.validRates[vad.rateIdx]? = some 16 ∧
      Fvad.validLength vad.rateIdx sampleCount = true ∧
      ∀ status, ((processFrame core (some frame) sampleCount frameDurationMs event).run d).result =
        .error status → (core.calcVad vad.rateIdx vad.core frame sampleCount).1 < 0

theorem Configured.sampled {config : Config} {d : VadDetector κ} (h : Configured core config d) :
    Sampled core config d := by
  refine ⟨h, ?_⟩
  intro frame sampleCount frameDurationMs event good
  obtain ⟨_, _, k, addr, present, _⟩ := h
  have fits := admitted_length good
  refine ⟨_, present, rfl, fits, ?_⟩
  intro status failed
  rw [processFrame_admitted good present] at failed
  by_cases negative : ((Fvad.mk k 1 addr).process core frame sampleCount).1 < 0
  · rw [Fvad.process, if_pos fits] at negative
    simp only at negative ⊢
    split at negative
    · omega
    · exact negative
  · rw [if_neg negative] at failed
    cases failed

/-- Whatever came before, a reset detector answers any calls as one does that has
just been initialised, and it always classifies at 16 kHz in the configured mode. -/
theorem reset_renews {config : Config} {addr addr' : Nat} {d d' : VadDetector κ}
    (done : ((init core config (some addr)).run d).result = .ok ()) (history later : List Request) :
    let start := ((init core config (some addr)).run d).state
    let fresh := ((init core config (some addr')).run d').state
    let used := (play (answering (serve core)) start history).1
    let renewed := ((VadDetector.reset core).run used).state
    (play (answering (serve core)) renewed later).2 = (play (answering (serve core)) fresh later).2 ∧
      Alike (play (answering (serve core)) renewed later).1
        (play (answering (serve core)) fresh later).1 ∧
      Sampled core config used := by
  intro start fresh used renewed
  have configured : Configured core config used := run_configured core done history
  obtain ⟨mode, _⟩ := init_configured core done
  have started : fresh = ⟨config.vadAggressiveness, config.vadSilenceMs, 0, false,
      some (ready core config.vadAggressiveness addr')⟩ := by
    have again : ((init core config (some addr')).run d').result = .ok () := by
      rw [init_run] at done ⊢
      split at done
      · cases done
      · rename_i fine
        rw [if_neg fine]
    exact (init_configured core again).2
  have alike : Alike renewed fresh := started ▸ configured.reset core mode addr'
  obtain ⟨last, same⟩ := answering_same (R := Alike) (f := serve core) (g := serve core)
    (fun _ _ request related => serve_alike core related request) later alike
  exact ⟨same, last, configured.sampled core⟩

/-- A detector reset in the middle of an utterance. -/
theorem reset_renews_speaking :
    let spoken : Request := .processFrame (some (List.replicate 640 1)) 320 20 true
    let start := ((init byteCore Config.initDefaults (some 7)).run zeroed).state
    let renewed := ((VadDetector.reset byteCore).run (start.serve byteCore spoken).2).state
    let fresh := ((init byteCore Config.initDefaults (some 8)).run zeroed).state
    (renewed.serve byteCore spoken).1 = (fresh.serve byteCore spoken).1 := by
  intro spoken start renewed fresh
  have same := (@reset_renews _ byteCore Config.initDefaults 7 8 zeroed zeroed rfl [spoken] [spoken]).1
  exact List.head_eq_of_cons_eq same

end Assistantd.VadDetector
