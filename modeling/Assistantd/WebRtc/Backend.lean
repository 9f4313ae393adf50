import Assistantd.Lib.Hangover
import Assistantd.Supervisor.Segmentation
import Assistantd.WebRtc.Features

/-! libfvad's own core behind fvad.c. -/
namespace Assistantd.WebRtcVad

open Fixed WebRtcSpl

/-- The 16-bit samples of a frame, the low byte first. -/
def samples : List UInt8 → List Int
  | low :: high :: frame => int16 (low.toNat + 256 * high.toNat) :: samples frame
  | _ => []

/-- `process_funcs` -/
def calcVad (rateIdx : Nat) (self : VadInst) (speechFrame : List Int) : Int × VadInst :=
  match rateIdx with
  | 0 => self.calcVad8khz speechFrame
  | 1 => self.calcVad16khz speechFrame
  | 2 => self.calcVad32khz speechFrame
  | _ => self.calcVad48khz speechFrame

/-! ## Sound states -/

structure VadInst.Sound (inst : VadInst) : Prop where
  bands : ∀ channel < kNumChannels, (inst.band channel).Sound channel
  overHang : 0 ≤ inst.overHang ∧ inst.overHang ≤ 14
  numOfSpeech : 0 ≤ inst.numOfSpeech ∧ inst.numOfSpeech ≤ kMaxSpeechFrames
  tables : (∀ x ∈ inst.overHangMax1, 0 ≤ x ∧ x ≤ 14) ∧ ∀ x ∈ inst.overHangMax2, 0 ≤ x ∧ x ≤ 14

/-- Nothing has been learnt yet, or the models are apart. -/
def VadInst.Separated (self : VadInst) : Prop :=
  self.bands = VadInst.initCore.bands ∨
    ∀ channel < kNumChannels, (self.band channel).Apart channel

namespace VadInst

theorem band_range (f : Nat → Band) {channel : Nat} (listed : channel < kNumChannels) :
    ((List.range kNumChannels).map f).getD channel emptyBand = f channel := by
  simp [List.getD_eq_getElem?_getD, listed]

theorem threshold_range {table : List Int} {high : Int} (range : ∀ x ∈ table, 0 ≤ x ∧ x ≤ high)
    (positive : 0 ≤ high) (frameLength : Nat) :
    0 ≤ threshold table frameLength ∧ threshold table frameLength ≤ high := by
  unfold threshold
  generalize (if frameLength = 80 then 0 else if frameLength = 160 then 1 else 2) = i
  by_cases inside : i < table.length
  · rw [List.getD_eq_getElem _ _ inside]
    exact range _ (List.getElem_mem inside)
  · rw [List.getD_eq_default _ _ (by omega)]
    exact ⟨le_rfl, positive⟩

def hysteresis (self : VadInst) : Hangover.State := ⟨self.overHang.toNat, self.numOfSpeech.toNat⟩

def withHysteresis (self : VadInst) (s : Hangover.State) : VadInst :=
  { self with overHang := s.hang, numOfSpeech := s.streak }

/-- One step of the hysteresis, with the overheads for this frame length. -/
def hold (self : VadInst) (frameLength : Nat) : Hangover.State → Bool → Bool × Hangover.State :=
  Hangover.step 6 (threshold self.overHangMax1 frameLength).toNat
    (threshold self.overHangMax2 frameLength).toNat

theorem Sound.smooth {self : VadInst} (h : self.Sound) (speech : Bool) (frameLength : Nat) :
    (self.smooth speech frameLength).2 =
        self.withHysteresis (self.hold frameLength self.hysteresis speech).2 ∧
      (0 ≤ (self.smooth speech frameLength).1 ∧ (self.smooth speech frameLength).1 ≤ 16) ∧
      (0 < (self.smooth speech frameLength).1 ↔
        (self.hold frameLength self.hysteresis speech).1 = true) := by
  have first := threshold_range h.tables.1 (by decide) frameLength
  have second := threshold_range h.tables.2 (by decide) frameLength
  have hang := h.overHang
  obtain ⟨low, high⟩ := h.numOfSpeech
  unfold kMaxSpeechFrames at high
  have hanging : ((self.overHang.toNat : Nat) : Int) = self.overHang := Int.toNat_of_nonneg hang.1
  have short := Int.toNat_of_nonneg first.1
  have long := Int.toNat_of_nonneg second.1
  unfold VadInst.smooth hold Hangover.step hysteresis withHysteresis kMaxSpeechFrames
  cases speech with
  | true =>
    have counted : int16 (self.numOfSpeech + 1) = self.numOfSpeech + 1 :=
      int16_of_fits (by omega) (by omega)
    by_cases many : 6 < self.numOfSpeech + 1
    · have beyond : 6 < self.numOfSpeech.toNat + 1 := by omega
      simp [counted, many, beyond, long]
    · have under : ¬ 6 < self.numOfSpeech.toNat + 1 := by omega
      simp [counted, many, under, short, low]
  | false =>
    by_cases held : self.overHang > 0
    · have positive : 0 < self.overHang.toNat := by omega
      have later : ((self.overHang.toNat - 1 : Nat) : Int) = self.overHang - 1 := by omega
      simp only [Bool.not_false, if_true, if_pos held, Bool.false_eq_true, if_false, later,
        decide_eq_true_eq]
      rw [int16_of_fits (by omega) (by omega), int16_of_fits (by omega) (by omega)]
      exact ⟨rfl, by omega, by omega⟩
    · have zero : self.overHang = 0 := by omega
      simp [zero]

theorem Sound.held {self : VadInst} (h : self.Sound) (speech : Bool) (frameLength : Nat) :
    (self.withHysteresis (self.hold frameLength self.hysteresis speech).2).Sound := by
  have first := threshold_range h.tables.1 (by decide) frameLength
  have second := threshold_range h.tables.2 (by decide) frameLength
  have hang := h.overHang
  obtain ⟨hung, few⟩ := @Hangover.step_bounded 6 (threshold self.overHangMax1 frameLength).toNat
    (threshold self.overHangMax2 frameLength).toNat self.hysteresis 14
    (by simp only [hysteresis]; omega) (by omega) speech
  exact ⟨h.bands, ⟨Int.natCast_nonneg _, Int.ofNat_le.mpr hung⟩,
    ⟨Int.natCast_nonneg _, Int.ofNat_le.mpr few⟩, h.tables⟩

theorem Sound.learn {self : VadInst} (h : self.Sound) (speech : Bool) (features : List Int)
    (judged : List Judged) :
    (self.learn speech features judged).Sound ∧
      ∀ channel < kNumChannels, ((self.learn speech features judged).band channel).Apart channel := by
  have learnt {channel : Nat} (listed : channel < kNumChannels) :
      ((self.learn speech features judged).band channel).Sound channel ∧
        ((self.learn speech features judged).band channel).Apart channel := by
    rw [VadInst.band, VadInst.learn, band_range _ listed]
    exact (h.bands channel listed).learn listed _ _ _ _
  exact ⟨⟨fun channel listed => (learnt listed).1, h.overHang, h.numOfSpeech, h.tables⟩,
    fun channel listed => (learnt listed).2⟩

/-- A call on a sound state: what it returns, and what it leaves. -/
structure Kept (before : VadInst) (result : Int × VadInst) : Prop where
  sound : result.2.Sound
  separated : before.Separated → result.2.Separated
  verdict : 0 ≤ result.1 ∧ result.1 ≤ 16

theorem Sound.smoothed {self : VadInst} (h : self.Sound) (speech : Bool) (frameLength : Nat) :
    Kept self (self.smooth speech frameLength) := by
  obtain ⟨after, verdict, -⟩ := h.smooth speech frameLength
  exact ⟨after ▸ h.held speech frameLength, after ▸ id, verdict⟩

theorem Sound.gmmProbability {self : VadInst} (h : self.Sound) (features : List Int)
    (totalPower : Int) (frameLength : Nat) :
    Kept self (self.gmmProbability features totalPower frameLength) := by
  unfold VadInst.gmmProbability
  split
  · obtain ⟨sound, apart⟩ := h.learn (self.decision frameLength (self.judge features)) features
      (self.judge features)
    have kept := sound.smoothed (self.decision frameLength (self.judge features)) frameLength
    exact ⟨kept.sound, fun _ => kept.separated (.inr apart), kept.verdict⟩
  · exact h.smoothed false frameLength

/-- Neither the filters nor the resamplers are part of what is sound. -/
theorem Sound.calcVad8khz {self : VadInst} (h : self.Sound) (speechFrame : List Int) :
    Kept self (self.calcVad8khz speechFrame) := by
  let filtered := { self with filters := (calculateFeatures self.filters speechFrame).2.2 }
  have sound : filtered.Sound := ⟨h.bands, h.overHang, h.numOfSpeech, h.tables⟩
  have kept := sound.gmmProbability (calculateFeatures self.filters speechFrame).2.1
    (calculateFeatures self.filters speechFrame).1 speechFrame.length
  obtain ⟨bands, overHang, numOfSpeech, tables⟩ := kept.sound
  exact ⟨⟨bands, overHang, numOfSpeech, tables⟩, kept.separated, kept.verdict⟩

theorem Sound.calcVad {self : VadInst} (h : self.Sound) (rateIdx : Nat) (speechFrame : List Int) :
    Kept self (calcVad rateIdx self speechFrame) := by
  have narrow {other : VadInst} (same : other.bands = self.bands) (sound : other.Sound)
      (speechFrame : List Int) : Kept self (other.calcVad8khz speechFrame) := by
    have kept := sound.calcVad8khz speechFrame
    refine ⟨kept.sound, fun separated => kept.separated ?_, kept.verdict⟩
    simpa only [Separated, VadInst.band, same] using separated
  unfold WebRtcVad.calcVad
  split
  · exact h.calcVad8khz speechFrame
  all_goals
    change Kept self (VadInst.calcVad8khz _ _)
    refine narrow ?_ ?_ _
    · rfl
    · exact ⟨h.bands, h.overHang, h.numOfSpeech, h.tables⟩

theorem setModeCore_range (self : VadInst) (mode : Int) :
    self.setModeCore mode = (-1, self) ∨
      ∃ first second individual total, (∀ x ∈ first, 0 ≤ x ∧ x ≤ 14) ∧
        (∀ x ∈ second, 0 ≤ x ∧ x ≤ 14) ∧
        self.setModeCore mode = (0, { self with
          overHangMax1 := first
          overHangMax2 := second
          individual := individual
          total := total }) := by
  unfold setModeCore
  split
  · exact .inr ⟨_, _, _, _, by decide, by decide, rfl⟩
  · exact .inr ⟨_, _, _, _, by decide, by decide, rfl⟩
  · exact .inr ⟨_, _, _, _, by decide, by decide, rfl⟩
  · exact .inr ⟨_, _, _, _, by decide, by decide, rfl⟩
  · exact .inl rfl

theorem Sound.setModeCore {self : VadInst} (h : self.Sound) (mode : Int) :
    (self.setModeCore mode).2.Sound ∧ (self.setModeCore mode).2.bands = self.bands := by
  rcases self.setModeCore_range mode with same | ⟨_, _, _, _, first, second, set⟩
  · rw [same]
    exact ⟨h, rfl⟩
  · rw [set]
    exact ⟨⟨h.bands, h.overHang, h.numOfSpeech, first, second⟩, rfl⟩

theorem initBand_sound {channel : Nat} (listed : channel < kNumChannels) :
    (initBand channel).Sound channel := by
  unfold kNumChannels at listed
  interval_cases channel <;>
    exact ⟨⟨by decide, by decide⟩, ⟨by decide, by decide, by decide⟩, ⟨by decide, by decide⟩,
      ⟨by decide, by decide⟩⟩

theorem initCore_sound : initCore.Sound where
  bands channel listed := by
    have fresh : initCore.band channel = initBand channel := band_range initBand listed
    exact fresh ▸ initBand_sound listed
  overHang := by decide
  numOfSpeech := by decide
  tables := by decide

end VadInst

/-! ## Behind fvad.c -/

/-- A state of the core that its functions can get into. -/
abbrev SoundInst := { inst : VadInst // inst.Sound }

/-- vad_core.c. -/
def backend : VadCore SoundInst where
  initCore := ⟨.initCore, VadInst.initCore_sound⟩
  setMode mode self := ⟨(self.1.setModeCore mode).2, (self.2.setModeCore mode).1⟩
  calcVad rateIdx self frame length :=
    let judged := calcVad rateIdx self.1 ((samples frame).take length)
    (judged.1, ⟨judged.2, (self.2.calcVad rateIdx _).sound⟩)

/-- `rv >= 0` in `fvad_process`. -/
theorem backend_decides : backend.Decides :=
  fun rateIdx self frame length => (self.2.calcVad rateIdx ((samples frame).take length)).verdict.1

/-- 20 ms of a square wave at 400 Hz. -/
def wave : List UInt8 :=
  (List.range 320).flatMap fun i => if i % 40 < 20 then [0x88, 0x13] else [0x78, 0xEC]

end Assistantd.WebRtcVad

namespace Assistantd.Fvad

variable {κ : Type}

/-- The functions of fvad.h on an instance. -/
inductive Request where
  | reset
  | setMode (mode : Int)
  | setSampleRate (sampleRate : Nat)
  | process (frame : List UInt8) (length : Nat)
  deriving DecidableEq, Repr

def serve (core : VadCore κ) (inst : Fvad κ) : Request → Int × Fvad κ
  | .reset => (0, inst.reset core)
  | .setMode mode => inst.setMode core mode
  | .setSampleRate sampleRate => inst.setSampleRate sampleRate
  | .process frame length => inst.process core frame length

/-- A new instance after a run of calls. -/
def served (core : VadCore κ) (addr : Nat) (requests : List Request) : Fvad κ :=
  requests.foldl (fun inst request => (serve core inst request).2) (Fvad.new core addr)

open WebRtcVad

theorem serve_separated {inst : Fvad SoundInst} (h : inst.core.1.Separated) (request : Request) :
    (serve backend inst request).2.core.1.Separated := by
  cases request with
  | reset => exact .inl rfl
  | setMode mode =>
    simp only [serve, setMode]
    split
    · have same := (inst.core.2.setModeCore mode).2
      simpa only [backend, VadInst.Separated, VadInst.band, same] using h
    · exact h
  | setSampleRate sampleRate =>
    simp only [serve, setSampleRate]
    split <;> exact h
  | process frame length =>
    simp only [serve, process]
    split
    · exact (inst.core.2.calcVad inst.rateIdx ((samples frame).take length)).separated h
    · exact h

theorem served_separated (addr : Nat) (requests : List Request) :
    (served backend addr requests).core.1.Separated := by
  induction requests using List.reverseRecOn with
  | nil => exact .inl rfl
  | append_singleton requests request ih =>
    rw [served, List.foldl_append]
    exact serve_separated ih request

/-- Whatever frames are heard, in whatever modes: the models of a band stay within their
limits, and as soon as anything has been learnt the speech model of every band is above
its noise model. -/
theorem models_apart (addr : Nat) (requests : List Request) :
    let learnt := (served backend addr requests).core.1
    (∀ channel < kNumChannels, (learnt.band channel).Sound channel) ∧
      (learnt.bands = VadInst.initCore.bands ∨
        ∀ channel < kNumChannels, (learnt.band channel).Apart channel) :=
  ⟨(served backend addr requests).core.2.bands, served_separated addr requests⟩

/-- In every state that can be reached, the probabilities of a frame of at most 30 ms are what
they would be without the limits of the words, and the shares of the Gaussians add up. -/
theorem likelihoods_exact (addr : Nat) (requests : List Request) {speechFrame : List Int}
    (short : speechFrame.length ≤ 240) {channel : Nat} (listed : channel < kNumChannels) :
    let learnt := (served backend addr requests).core.1
    let b := learnt.band channel
    let feature := (calculateFeatures learnt.filters speechFrame).2.1.getD channel 0
    (∀ g ∈ b.gaussians,
      gaussianProbability feature g.mean g.std = gaussianExact feature g.mean g.std) ∧
      (b.judge channel feature).Sound := by
  intro learnt b feature
  have sound : b.Sound channel := (served backend addr requests).core.2.bands channel listed
  have range := features_range learnt.filters short listed
  exact ⟨fun g member => (sound.inRange listed range g member).exact, sound.judge listed range⟩

/-- The wave that has just been learnt, as the filters get it: in this band it is near the
Gaussians of speech. -/
theorem likelihoods_exact_wave :
    let learnt := (served backend 7 [.setMode 2, .setSampleRate 16000, .process wave 320]).core.1
    let wave8000 := (List.range 160).map fun i => if i % 20 < 10 then 5000 else -5000
    let b := learnt.band 3
    let feature := (calculateFeatures learnt.filters wave8000).2.1.getD 3 0
    kMinEnergy < (calculateFeatures learnt.filters wave8000).1 ∧
      (b.gaussians.map fun g => (gaussianProbability feature g.mean g.std).1) =
        [0, 0, 130269, 6120] ∧
      (∀ g ∈ b.gaussians,
        gaussianProbability feature g.mean g.std = gaussianExact feature g.mean g.std) ∧
      (b.judge 3 feature).Sound := by
  obtain ⟨exact, sound⟩ := likelihoods_exact 7
    [.setMode 2, .setSampleRate 16000, .process wave 320]
    (by simp : ((List.range 160).map fun i => if i % 20 < 10 then 5000 else -5000).length ≤ 240)
    (by decide : 3 < kNumChannels)
  exact ⟨by decide +kernel, by decide +kernel, exact, sound⟩

end Assistantd.Fvad
