import Assistantd.Config
import Assistantd.Lib.Calls
import Assistantd.Lib.Ledger

/-! vad_detector.c over libfvad. The signal processing of the WebRTC core is a
parameter: a state, and a verdict on each frame that may depend on it. -/
namespace Assistantd

open Calls

/-- vad_core.c. `setMode` is called for modes 0 to 3 only. -/
structure VadCore (κ : Type) where
  initCore : κ
  setMode : Int → κ → κ
  calcVad : (rateIdx : Nat) → κ → List UInt8 → (length : Nat) → Int × κ

/-- fvad.c. `addr` is where `fvad_new` allocated the instance. -/
structure Fvad (κ : Type) where
  core : κ
  rateIdx : Nat
  addr : Nat

namespace Fvad

variable {κ : Type} (core : VadCore κ)

def validRates : List Nat := [8, 16, 32, 48]

def validFrameTimes : List Nat := [10, 20, 30]

def reset (inst : Fvad κ) : Fvad κ := { inst with core := core.initCore, rateIdx := 0 }

def new (addr : Nat) : Fvad κ := ⟨core.initCore, 0, addr⟩

def setMode (inst : Fvad κ) (mode : Int) : Int × Fvad κ :=
  if 0 ≤ mode ∧ mode ≤ 3 then (0, { inst with core := core.setMode mode inst.core })
  else (-1, inst)

def setSampleRate (inst : Fvad κ) (sampleRate : Nat) : Int × Fvad κ :=
  match validRates.findIdx? fun rate => rate * 1000 = sampleRate with
  | some i => (0, { inst with rateIdx := i })
  | none => (-1, inst)

def validLength (rateIdx length : Nat) : Bool :=
  validFrameTimes.any fun time => time * validRates.getD rateIdx 0 = length

def process (inst : Fvad κ) (frame : List UInt8) (length : Nat) : Int × Fvad κ :=
  if validLength inst.rateIdx length then
    let (rv, after) := core.calcVad inst.rateIdx inst.core frame length
    (if rv > 0 then 1 else rv, { inst with core := after })
  else (-1, inst)

end Fvad

inductive VadEvent where
  | none
  | speechStart
  | speechContinue
  | speechEnd
  deriving DecidableEq, Repr

structure VadDetector (κ : Type) where
  aggressiveness : Int
  silenceMs : Int
  accumulatedSilenceMs : Int
  speechActive : Bool
  backend : Option (Fvad κ)

namespace VadDetector

variable {κ : Type}

def zeroed : VadDetector κ := ⟨0, 0, 0, false, none⟩

/-- What the detector does to its backend: the operation and the instance. -/
abbrev Touch := Ledger.Op × Nat

abbrev VadCall (κ α : Type) := Call (VadDetector κ) Touch Status α

/-- `malloc` is the address `fvad_new` obtained, none where it failed. -/
def init (core : VadCore κ) (config : Config) (malloc : Option Nat) : VadCall κ Unit := do
  failIf (config.vadAggressiveness < 0 ∨ config.vadAggressiveness > 3) .errConfig
  failIf (config.vadSilenceMs ≤ 0) .errConfig
  modify fun d => { d with
    aggressiveness := config.vadAggressiveness
    silenceMs := config.vadSilenceMs
    accumulatedSilenceMs := 0
    speechActive := false }
  match malloc with
  | none => fail .errIo
  | some addr =>
    emit (.acquire, addr)
    let (modeSet, vad) := (Fvad.new core addr).setMode core config.vadAggressiveness
    if modeSet ≠ 0 then
      emit (.release, addr)
      fail .errConfig
    else
      let (rateSet, vad) := vad.setSampleRate 16000
      if rateSet ≠ 0 then
        emit (.release, addr)
        fail .errConfig
      else modify fun d => { d with backend := some vad }

def isValidFrameDuration (frameDurationMs : Int) : Bool :=
  frameDurationMs = 10 ∨ frameDurationMs = 20 ∨ frameDurationMs = 30

def expectedSampleCount (frameDurationMs : Int) : Nat := (16000 / 1000 * frameDurationMs).toNat

/-- The state machine behind the classifier: one accepted frame. -/
def advance (d : VadDetector κ) (frameHasSpeech : Bool) (frameDurationMs : Int) :
    VadEvent × VadDetector κ :=
  if !d.speechActive then
    if frameHasSpeech then
      (.speechStart, { d with speechActive := true, accumulatedSilenceMs := 0 })
    else (.none, d)
  else if frameHasSpeech then (.speechContinue, { d with accumulatedSilenceMs := 0 })
  else if d.accumulatedSilenceMs + frameDurationMs ≥ d.silenceMs then
    (.speechEnd, { d with speechActive := false, accumulatedSilenceMs := 0 })
  else
    (.speechContinue,
      { d with accumulatedSilenceMs := d.accumulatedSilenceMs + frameDurationMs })

/-- The part behind the argument checks. -/
def classify (core : VadCore κ) (vad : Fvad κ) (frame : List UInt8) (sampleCount : Nat)
    (frameDurationMs : Int) : VadCall κ VadEvent := do
  emit (.use, vad.addr)
  let (speechResult, vad) := vad.process core frame sampleCount
  modify fun d => { d with backend := some vad }
  failIf (speechResult < 0) .errIo
  let d ← get
  let (event, d) := d.advance (speechResult = 1) frameDurationMs
  modify fun _ => d
  pure event

/-- `pcm` is none for NULL, and `event` says whether the out parameter is there. -/
def processFrame (core : VadCore κ) (pcm : Option (List UInt8)) (sampleCount : Nat)
    (frameDurationMs : Int) (event : Bool) : VadCall κ VadEvent := do
  failIf (pcm = none ∨ event = false ∨ sampleCount = 0) .errInvalidArgument
  failIf (isValidFrameDuration frameDurationMs = false) .errInvalidArgument
  failIf (sampleCount ≠ expectedSampleCount frameDurationMs) .errInvalidArgument
  let d ← get
  match pcm, d.backend with
  | some frame, some vad => classify core vad frame sampleCount frameDurationMs
  | _, _ => fail .errInvalidArgument

def freeBackend : VadCall κ Unit := do
  let d ← get
  match d.backend with
  | none => pure ()
  | some vad =>
    emit (.release, vad.addr)
    modify fun d => { d with backend := none }

def shutdown : VadCall κ Unit := do
  freeBackend
  modify fun d => { d with accumulatedSilenceMs := 0, speechActive := false }

def resetBackend (core : VadCore κ) : VadCall κ Unit := do
  let d ← get
  match d.backend with
  | none => pure ()
  | some vad =>
    emit (.use, vad.addr)
    let vad := ((vad.reset core).setMode core d.aggressiveness).2
    modify fun d => { d with backend := some (vad.setSampleRate 16000).2 }

def reset (core : VadCore κ) : VadCall κ Unit := do
  resetBackend core
  modify fun d => { d with accumulatedSilenceMs := 0, speechActive := false }

/-! ## What the calls do -/

/-- An instance set up the way `init` and `reset` leave it. -/
def ready (core : VadCore κ) (aggressiveness : Int) (addr : Nat) : Fvad κ :=
  ⟨core.setMode aggressiveness core.initCore, 1, addr⟩

/-- libfvad accepts every mode and the rate, so `init` fails only on the config
and on allocation. -/
theorem init_run (core : VadCore κ) (config : Config) (malloc : Option Nat) (d : VadDetector κ) :
    (init core config malloc).run d =
      if config.vadAggressiveness < 0 ∨ config.vadAggressiveness > 3 ∨ config.vadSilenceMs ≤ 0 then
        ⟨.error .errConfig, d, []⟩
      else match malloc with
        | none => ⟨.error .errIo, ⟨config.vadAggressiveness, config.vadSilenceMs, 0, false,
            d.backend⟩, []⟩
        | some addr => ⟨.ok (), ⟨config.vadAggressiveness, config.vadSilenceMs, 0, false,
            some (ready core config.vadAggressiveness addr)⟩, [(.acquire, addr)]⟩ := by
  unfold init
  by_cases range : config.vadAggressiveness < 0 ∨ config.vadAggressiveness > 3
  · rw [if_pos (by tauto)]
    simp [range]
  · by_cases silent : config.vadSilenceMs ≤ 0
    · rw [if_pos (by tauto)]
      simp [range, silent]
    · have mode : 0 ≤ config.vadAggressiveness ∧ config.vadAggressiveness ≤ 3 := by omega
      rw [if_neg (by tauto)]
      cases malloc with
      | none => simp [range, silent]
      | some addr =>
        have rate : (Fvad.mk (core.setMode config.vadAggressiveness core.initCore) 0 addr).setSampleRate
            16000 = (0, ready core config.vadAggressiveness addr) := rfl
        simp [range, silent, Fvad.new, Fvad.setMode, mode, rate]

theorem shutdown_run (d : VadDetector κ) : shutdown.run d =
    ⟨.ok (), { d with backend := none, accumulatedSilenceMs := 0, speechActive := false },
      d.backend.toList.map fun vad => (.release, vad.addr)⟩ := by
  cases present : d.backend <;> simp [shutdown, freeBackend, present]

theorem reset_run (core : VadCore κ) (d : VadDetector κ) : ∃ backend events,
    (reset core).run d =
      ⟨.ok (), { d with backend, accumulatedSilenceMs := 0, speechActive := false }, events⟩ := by
  cases present : d.backend with
  | none => exact ⟨none, [], by simp [reset, resetBackend, present]⟩
  | some vad => exact ⟨_, _, by simp [reset, resetBackend, present]; exact ⟨rfl, rfl⟩⟩

section Advance

variable {d : VadDetector κ} {frameDurationMs : Int}

theorem advance_idle (idle : d.speechActive = false) :
    d.advance false frameDurationMs = (.none, d) := by
  simp [advance, idle]

theorem advance_opens (idle : d.speechActive = false) : d.advance true frameDurationMs =
    (.speechStart, { d with speechActive := true, accumulatedSilenceMs := 0 }) := by
  simp [advance, idle]

theorem advance_speaks (active : d.speechActive = true) : d.advance true frameDurationMs =
    (.speechContinue, { d with accumulatedSilenceMs := 0 }) := by
  simp [advance, active]

theorem advance_closes (active : d.speechActive = true)
    (lasts : d.silenceMs ≤ d.accumulatedSilenceMs + frameDurationMs) :
    d.advance false frameDurationMs =
      (.speechEnd, { d with speechActive := false, accumulatedSilenceMs := 0 }) := by
  simp [advance, active, lasts]

theorem advance_waits (active : d.speechActive = true)
    (under : d.accumulatedSilenceMs + frameDurationMs < d.silenceMs) :
    d.advance false frameDurationMs =
      (.speechContinue,
        { d with accumulatedSilenceMs := d.accumulatedSilenceMs + frameDurationMs }) := by
  have short : ¬ d.silenceMs ≤ d.accumulatedSilenceMs + frameDurationMs := by omega
  simp [advance, active, short]

/-- How the event and the flag go together. -/
inductive Turn : Bool → VadEvent → Bool → Prop where
  | none : Turn false .none false
  | speechStart : Turn false .speechStart true
  | speechContinue : Turn true .speechContinue true
  | speechEnd : Turn true .speechEnd false

theorem advance_turn (d : VadDetector κ) (speech : Bool) (frameDurationMs : Int) :
    Turn d.speechActive (d.advance speech frameDurationMs).1
      (d.advance speech frameDurationMs).2.speechActive := by
  unfold advance
  cases active : d.speechActive <;> cases speech <;> simp [active]
  · exact .none
  · exact .speechStart
  · split
    · exact .speechEnd
    · exact active ▸ .speechContinue
  · exact .speechContinue

/-- Speech goes on or ends only where it has started. -/
theorem Turn.running {active after : Bool} {event : VadEvent} (h : Turn active event after)
    (goes : event = .speechContinue ∨ event = .speechEnd) : active = true := by
  cases h with
  | none => simp at goes
  | speechStart => simp at goes
  | speechContinue => rfl
  | speechEnd => rfl

end Advance

/-- A frame is turned away before the classifier sees it, or the classifier
fails on it, or it advances the state machine. -/
theorem processFrame_cases (core : VadCore κ) (pcm : Option (List UInt8)) (sampleCount : Nat)
    (frameDurationMs : Int) (event : Bool) (d : VadDetector κ) :
    (∃ status, (processFrame core pcm sampleCount frameDurationMs event).run d =
      ⟨.error status, d, []⟩) ∨
    ∃ frame vad verdict vad', pcm = some frame ∧ d.backend = some vad ∧
      isValidFrameDuration frameDurationMs = true ∧
      vad.process core frame sampleCount = (verdict, vad') ∧
      (processFrame core pcm sampleCount frameDurationMs event).run d =
        if verdict < 0 then
          ⟨.error .errIo, { d with backend := some vad' }, [(.use, vad.addr)]⟩
        else
          ⟨.ok (advance { d with backend := some vad' } (verdict = 1) frameDurationMs).1,
            (advance { d with backend := some vad' } (verdict = 1) frameDurationMs).2,
            [(.use, vad.addr)]⟩ := by
  unfold processFrame
  by_cases missing : pcm = none ∨ event = false ∨ sampleCount = 0
  · exact .inl ⟨.errInvalidArgument, by simp [missing]⟩
  by_cases odd : isValidFrameDuration frameDurationMs = false
  · exact .inl ⟨.errInvalidArgument, by simp [missing, odd]⟩
  by_cases wrong : sampleCount ≠ expectedSampleCount frameDurationMs
  · exact .inl ⟨.errInvalidArgument, by simp [missing, odd, wrong]⟩
  simp only [not_or] at missing
  obtain ⟨given, slot, nonzero⟩ := missing
  obtain ⟨frame, rfl⟩ := Option.ne_none_iff_exists'.mp given
  cases present : d.backend with
  | none => exact .inl ⟨.errInvalidArgument, by simp [slot, nonzero, odd, wrong, present]⟩
  | some vad =>
    obtain ⟨verdict, vad', result⟩ : ∃ verdict vad',
        vad.process core frame sampleCount = (verdict, vad') := ⟨_, _, rfl⟩
    refine .inr ⟨frame, vad, verdict, vad', rfl, rfl, by simpa using odd, result, ?_⟩
    by_cases failed : verdict < 0
    · simp [slot, nonzero, odd, wrong, present, classify, result, failed]
    · simp [slot, nonzero, odd, wrong, present, classify, result, failed]

theorem process_addr (core : VadCore κ) (vad : Fvad κ) (frame : List UInt8) (length : Nat) :
    (vad.process core frame length).2.addr = vad.addr := by
  unfold Fvad.process
  split <;> rfl

theorem advance_backend (d : VadDetector κ) (speech : Bool) (frameDurationMs : Int) :
    (d.advance speech frameDurationMs).2.backend = d.backend := by
  unfold advance
  split_ifs <;> rfl

/-- A frame at most uses the instance that is there, and leaves it there. -/
theorem processFrame_touches (core : VadCore κ) (pcm : Option (List UInt8)) (sampleCount : Nat)
    (frameDurationMs : Int) (event : Bool) (d : VadDetector κ) :
    (((processFrame core pcm sampleCount frameDurationMs event).run d).state.backend.map Fvad.addr =
      d.backend.map Fvad.addr) ∧
    ∀ touch ∈ ((processFrame core pcm sampleCount frameDurationMs event).run d).events,
      touch.1 = .use ∧ d.backend.map Fvad.addr = some touch.2 := by
  rcases processFrame_cases core pcm sampleCount frameDurationMs event d with
    ⟨status, rejected⟩ | ⟨frame, vad, verdict, vad', _, present, _, classified, called⟩
  · rw [rejected]
    exact ⟨rfl, List.forall_mem_nil _⟩
  · have addr : vad'.addr = vad.addr := by
      have same := process_addr core vad frame sampleCount
      rwa [classified] at same
    rw [called]
    split
    · exact ⟨by simp [present, addr], by simp [present]⟩
    · exact ⟨by simp [advance_backend, present, addr], by simp [present]⟩

/-- What a call of `process_frame` has to be given. -/
structure Admissible (pcm : Option (List UInt8)) (sampleCount : Nat) (frameDurationMs : Int)
    (event : Bool) : Prop where
  pcm : pcm ≠ none
  event : event = true
  nonzero : sampleCount ≠ 0
  duration : isValidFrameDuration frameDurationMs = true
  samples : sampleCount = expectedSampleCount frameDurationMs

section Frame

variable {core : VadCore κ} {pcm : Option (List UInt8)} {frame : List UInt8} {sampleCount : Nat}
  {frameDurationMs : Int} {event : Bool}

theorem processFrame_refused (bad : ¬ Admissible pcm sampleCount frameDurationMs event)
    (d : VadDetector κ) : (processFrame core pcm sampleCount frameDurationMs event).run d =
      ⟨.error .errInvalidArgument, d, []⟩ := by
  unfold processFrame
  by_cases missing : pcm = none ∨ event = false ∨ sampleCount = 0
  · simp [missing]
  by_cases odd : isValidFrameDuration frameDurationMs = false
  · simp [missing, odd]
  by_cases wrong : sampleCount ≠ expectedSampleCount frameDurationMs
  · simp [missing, odd, wrong]
  simp only [not_or, ne_eq, not_not, Bool.not_eq_false] at missing odd wrong
  exact absurd ⟨missing.1, missing.2.1, missing.2.2, odd, wrong⟩ bad

theorem processFrame_admitted (good : Admissible (some frame) sampleCount frameDurationMs event)
    {d : VadDetector κ} {vad : Fvad κ} (present : d.backend = some vad) :
    (processFrame core (some frame) sampleCount frameDurationMs event).run d =
      if (vad.process core frame sampleCount).1 < 0 then
        ⟨.error .errIo, { d with backend := some (vad.process core frame sampleCount).2 },
          [(.use, vad.addr)]⟩
      else
        let heard := { d with backend := some (vad.process core frame sampleCount).2 }
        let next := heard.advance ((vad.process core frame sampleCount).1 = 1) frameDurationMs
        ⟨.ok next.1, next.2, [(.use, vad.addr)]⟩ := by
  obtain ⟨_, slot, nonzero, duration, samples⟩ := good
  have same : ¬ sampleCount ≠ expectedSampleCount frameDurationMs := fun other => other samples
  by_cases failed : (vad.process core frame sampleCount).1 < 0
  · simp [processFrame, slot, nonzero, duration, same, present, classify, failed]
  · simp [processFrame, slot, nonzero, duration, same, present, classify, failed]

end Frame

/-- At 16 kHz libfvad takes every length that passes the checks of `process_frame`. -/
theorem admitted_length {pcm : Option (List UInt8)} {sampleCount : Nat} {frameDurationMs : Int}
    {event : Bool} (good : Admissible pcm sampleCount frameDurationMs event) :
    Fvad.validLength 1 sampleCount = true := by
  have duration := good.duration
  simp only [isValidFrameDuration, decide_eq_true_eq] at duration
  rw [good.samples]
  rcases duration with rfl | rfl | rfl <;> decide

/-- The instance is there and set to 16 kHz. -/
def Equipped (d : VadDetector κ) : Prop := ∃ vad, d.backend = some vad ∧ vad.rateIdx = 1

theorem process_rate (core : VadCore κ) (vad : Fvad κ) (frame : List UInt8) (length : Nat) :
    (vad.process core frame length).2.rateIdx = vad.rateIdx := by
  unfold Fvad.process
  split <;> rfl

theorem Equipped.processFrame {d : VadDetector κ} (h : Equipped d) (core : VadCore κ)
    (pcm : Option (List UInt8)) (sampleCount : Nat) (frameDurationMs : Int) (event : Bool) :
    Equipped ((processFrame core pcm sampleCount frameDurationMs event).run d).state := by
  rcases processFrame_cases core pcm sampleCount frameDurationMs event d with
    ⟨status, rejected⟩ | ⟨frame, vad, verdict, vad', _, present, _, classified, called⟩
  · rw [rejected]
    exact h
  · have rate : vad'.rateIdx = 1 := by
      obtain ⟨same, there, rate⟩ := h
      obtain rfl : vad = same := Option.some.inj (present.symm.trans there)
      have kept := process_rate core vad frame sampleCount
      rw [classified] at kept
      exact kept.trans rate
    rw [called]
    split
    · exact ⟨vad', rfl, rate⟩
    · exact ⟨vad', advance_backend _ _ _, rate⟩

theorem Equipped.reset {d : VadDetector κ} (h : Equipped d) (core : VadCore κ) :
    Equipped ((reset core).run d).state := by
  obtain ⟨vad, present, _⟩ := h
  simp only [Equipped, VadDetector.reset, resetBackend, run_bind, run_get, andThen_ok, present,
    run_emit, run_modify, after_mk]
  exact ⟨_, rfl, rfl⟩

/-- With the instance there, a call fails on its arguments or on the classifier's
verdict and on nothing else. -/
theorem processFrame_served (core : VadCore κ) {d : VadDetector κ} {vad : Fvad κ}
    (present : d.backend = some vad) (rate : vad.rateIdx = 1) {frame : List UInt8}
    {sampleCount : Nat} {frameDurationMs : Int} {event : Bool}
    (good : Admissible (some frame) sampleCount frameDurationMs event)
    (heard : 0 ≤ (core.calcVad 1 vad.core frame sampleCount).1) :
    ((vad.process core frame sampleCount).1 = 1 ↔
      0 < (core.calcVad 1 vad.core frame sampleCount).1) ∧
    ∃ e, ((VadDetector.processFrame core (some frame) sampleCount frameDurationMs event).run
      d).result = .ok e := by
  have verdict : (vad.process core frame sampleCount).1 =
      if 0 < (core.calcVad 1 vad.core frame sampleCount).1 then 1 else 0 := by
    rw [Fvad.process, rate, if_pos (admitted_length good)]
    generalize core.calcVad 1 vad.core frame sampleCount = answer at heard ⊢
    dsimp only
    split_ifs <;> omega
  refine ⟨by rw [verdict]; split_ifs <;> simp [*], ?_⟩
  rw [processFrame_admitted good present, if_neg (by rw [verdict]; split_ifs <;> decide)]
  exact ⟨_, rfl⟩

end VadDetector

end Assistantd
