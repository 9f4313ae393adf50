import Assistantd.WebRtc.Backend

/-! For how long libfvad goes on reporting speech. -/
namespace Assistantd.WebRtcVad

open Hangover

namespace VadInst

/-- What the models alone make of a frame at 16 kHz. -/
def speaks (self : VadInst) (speechFrame : List Int) : Bool :=
  let narrow := (downsampling speechFrame self.downsamplingFilterStates.1).1
  let calculated := calculateFeatures self.filters narrow
  decide (calculated.1 > kMinEnergy) &&
    self.decision narrow.length (self.judge calculated.2.1)

/-- A call changes nothing but the hysteresis, of what the hysteresis depends on. -/
structure Steps (before : VadInst) (speech : Bool) (frameLength : Nat) (result : Int × VadInst) :
    Prop where
  report : 0 < result.1 ↔ (before.hold frameLength before.hysteresis speech).1 = true
  hysteresis : result.2.hysteresis = (before.hold frameLength before.hysteresis speech).2
  tables : result.2.overHangMax1 = before.overHangMax1 ∧
    result.2.overHangMax2 = before.overHangMax2

theorem withHysteresis_hysteresis (self : VadInst) (s : State) :
    (self.withHysteresis s).hysteresis = s := by
  simp only [hysteresis, withHysteresis, Int.toNat_natCast]

theorem Sound.smooth_steps {self : VadInst} (h : self.Sound) (speech : Bool) (frameLength : Nat) :
    Steps self speech frameLength (self.smooth speech frameLength) := by
  obtain ⟨after, -, report⟩ := h.smooth speech frameLength
  refine ⟨report, ?_, ?_⟩
  · rw [after, withHysteresis_hysteresis]
  · rw [after]
    exact ⟨rfl, rfl⟩

theorem Sound.gmmProbability_steps {self : VadInst} (h : self.Sound) (features : List Int)
    (totalPower : Int) (frameLength : Nat) :
    Steps self (decide (totalPower > kMinEnergy) &&
        self.decision frameLength (self.judge features)) frameLength
      (self.gmmProbability features totalPower frameLength) := by
  unfold VadInst.gmmProbability
  by_cases loud : totalPower > kMinEnergy
  · have steps := (h.learn (self.decision frameLength (self.judge features)) features
      (self.judge features)).1.smooth_steps (self.decision frameLength (self.judge features)) frameLength
    rw [if_pos loud, decide_eq_true loud, Bool.true_and]
    exact ⟨steps.report, steps.hysteresis, steps.tables⟩
  · rw [if_neg loud, decide_eq_false loud, Bool.false_and]
    exact h.smooth_steps false frameLength

theorem Sound.calcVad16khz_steps {self : VadInst} (h : self.Sound) (speechFrame : List Int) :
    Steps self (self.speaks speechFrame)
      (downsampling speechFrame self.downsamplingFilterStates.1).1.length
      (self.calcVad16khz speechFrame) := by
  let narrow := downsampling speechFrame self.downsamplingFilterStates.1
  let calculated := calculateFeatures self.filters narrow.1
  let filtered := { self with
    downsamplingFilterStates := (narrow.2, self.downsamplingFilterStates.2)
    filters := calculated.2.2 }
  have sound : filtered.Sound := ⟨h.bands, h.overHang, h.numOfSpeech, h.tables⟩
  have steps := sound.gmmProbability_steps calculated.2.1 calculated.1 narrow.1.length
  exact ⟨steps.report, steps.hysteresis, steps.tables⟩

end VadInst

/-! ## A run of frames of 20 ms -/

theorem samples_length : (frame : List UInt8) → (samples frame).length = frame.length / 2
  | [] => rfl
  | [_] => by simp [samples]
  | _ :: _ :: frame => by
    have later := samples_length frame
    simp only [samples, List.length_cons, later]
    omega

theorem downsampling_length : (signalIn : List Int) → (filterState : Int × Int) →
    (downsampling signalIn filterState).1.length = signalIn.length / 2
  | [], _ => rfl
  | [_], _ => by simp [downsampling]
  | _ :: _ :: signalIn, _ => by
    simp only [downsampling, List.length_cons, downsampling_length signalIn]
    omega

/-- What the models alone make of each frame of a run. -/
def speaking : SoundInst → List (List UInt8) → List Bool
  | _, [] => []
  | self, frame :: frames =>
    self.1.speaks ((samples frame).take 320) :: speaking (backend.next self frame) frames

theorem speaking_snoc (self : SoundInst) (frames : List (List UInt8)) (frame : List UInt8) :
    speaking self (frames ++ [frame]) =
      speaking self frames ++ [(backend.after self frames).1.speaks ((samples frame).take 320)] := by
  induction frames generalizing self with
  | nil => rfl
  | cons first frames ih => simp [speaking, ih, VadCore.after]

/-- The core as the detector sets it up. -/
def ready (mode : Int) : SoundInst := backend.setMode mode backend.initCore

/-- For how many frames of 20 ms speech is reported after a few frames of it, and after many. -/
def overheads (mode : Int) : Nat × Nat := if mode ≤ 1 then (4, 7) else (3, 5)

/-- The overhead behind the last frame that the models took for speech. -/
def overhead (mode : Int) (flags : List Bool) : Nat :=
  hang 6 (overheads mode).1 (overheads mode).2 (flagged flags)

/-- A state behind frames of which the models thought this. -/
structure Remembers (mode : Int) (flags : List Bool) (inst : SoundInst) : Prop where
  hysteresis : inst.1.hysteresis =
    run 6 (overheads mode).1 (overheads mode).2 ⟨0, 0⟩ flags
  tables : VadInst.threshold inst.1.overHangMax1 160 = (overheads mode).1 ∧
    VadInst.threshold inst.1.overHangMax2 160 = (overheads mode).2

theorem ready_remembers {mode : Int} (valid : 0 ≤ mode ∧ mode ≤ 3) :
    Remembers mode [] (ready mode) := by
  obtain rfl | rfl | rfl | rfl : mode = 0 ∨ mode = 1 ∨ mode = 2 ∨ mode = 3 := by omega
  all_goals exact ⟨by decide, by decide, by decide⟩

theorem Remembers.next {mode : Int} {flags : List Bool} {self : SoundInst}
    (h : Remembers mode flags self) {frame : List UInt8} (whole : frame.length = 640) :
    Remembers mode (flags ++ [self.1.speaks ((samples frame).take 320)]) (backend.next self frame) ∧
      (backend.hears self frame = true ↔
        Up 6 (overheads mode).1 (overheads mode).2
          (flags ++ [self.1.speaks ((samples frame).take 320)])) := by
  have steps := self.2.calcVad16khz_steps ((samples frame).take 320)
  have length : (downsampling ((samples frame).take 320)
      self.1.downsamplingFilterStates.1).1.length = 160 := by
    rw [downsampling_length, List.length_take, samples_length, whole]
    rfl
  obtain ⟨report, hysteresis, tables⟩ := steps
  rw [length] at report hysteresis
  simp only [VadInst.hold, h.tables, Int.toNat_natCast, h.hysteresis] at report hysteresis
  refine ⟨⟨?_, ?_⟩, ?_⟩
  · rw [run_snoc]
    exact hysteresis
  · have kept := h.tables
    rw [← tables.1, ← tables.2] at kept
    exact kept
  · rw [← step_up]
    exact decide_eq_true_iff.trans report

theorem after_remembers {mode : Int} (valid : 0 ≤ mode ∧ mode ≤ 3) {frames : List (List UInt8)}
    (whole : ∀ frame ∈ frames, frame.length = 640) :
    Remembers mode (speaking (ready mode) frames) (backend.after (ready mode) frames) := by
  induction frames using List.reverseRecOn with
  | nil => exact ready_remembers valid
  | append_singleton frames frame ih =>
    have earlier := ih fun other member => whole other (List.mem_append_left _ member)
    have last := whole frame (List.mem_append_right _ List.mem_cons_self)
    rw [speaking_snoc, VadCore.after_snoc]
    exact (earlier.next last).1

theorem judge_reports {mode : Int} (valid : 0 ≤ mode ∧ mode ≤ 3) {frames : List (List UInt8)}
    (whole : ∀ frame ∈ frames, frame.length = 640) :
    (backend.judge (ready mode) frames).map Prod.snd =
      reports 6 (overheads mode).1 (overheads mode).2 (speaking (ready mode) frames) := by
  induction frames using List.reverseRecOn with
  | nil => rfl
  | append_singleton frames frame ih =>
    have inside : ∀ other ∈ frames, other.length = 640 := fun other member =>
      whole other (List.mem_append_left _ member)
    have last := whole frame (List.mem_append_right _ List.mem_cons_self)
    have report := ((after_remembers valid inside).next last).2
    rw [VadCore.judge_snoc, List.map_append, speaking_snoc, reports_snoc, ih inside]
    congr 1
    simp only [List.map_cons, List.map_nil, List.cons.injEq, and_true]
    exact Bool.eq_iff_iff.mpr (report.trans decide_eq_true_iff.symm)

theorem judge_frames (self : SoundInst) (frames : List (List UInt8)) :
    (backend.judge self frames).map Prod.fst = frames := by
  induction frames generalizing self with
  | nil => rfl
  | cons frame frames ih => rw [VadCore.judge, List.map_cons, ih]

/-- Speech is reported in a frame that the models take for speech and for the overhead after
it, and nowhere else; the overhead is the longer one where more than six such frames have
come in a row. -/
theorem speech_reported {mode : Int} (valid : 0 ≤ mode ∧ mode ≤ 3) {frames : List (List UInt8)}
    (whole : ∀ frame ∈ frames, frame.length = 640) :
    backend.judge (ready mode) frames = frames.zip
      (reports 6 (overheads mode).1 (overheads mode).2 (speaking (ready mode) frames)) :=
  List.zip_of_prod (judge_frames _ _) (judge_reports valid whole)

theorem speech_reported_wave :
    backend.judge (ready 2) [wave, wave] = [wave, wave].zip
      (reports 6 (overheads 2).1 (overheads 2).2 (speaking (ready 2) [wave, wave])) :=
  speech_reported (by decide) (by decide +kernel)

end Assistantd.WebRtcVad
