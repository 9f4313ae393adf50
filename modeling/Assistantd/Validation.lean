import Assistantd.Supervisor.Stages

/-! What a validated config is good for in the stages behind it. -/
namespace Assistantd.Config

open Calls Supervisor
open CText (CString)

/-- No later stage finds fault with the config, whatever the system answers. -/
structure Suffices (config : Config) : Prop where
  vad : ∀ (κ : Type) (core : VadCore κ) (malloc : Option Nat) (d : VadDetector κ),
    ((VadDetector.init core config malloc).run d).result ≠ .error .errConfig
  stt : ∀ (curl : Option Nat) (a : SttAdapter),
    ((SttAdapter.init config curl).run a).result ≠ .error .errConfig
  capture : ∀ (answers : AudioCapture.StartAnswers) (c : AudioCapture),
    ((AudioCapture.start config answers).run c).result ≠ .error .errConfig
  artifactPath : ∀ (κ : Type) (sequenceId : UInt64) (s : System κ), s.config = config →
    ∃ path, ((buildArtifactPath sequenceId).run s).result = .ok path

theorem Accepted.vad_init {κ : Type} {config : Config} (h : config.Accepted) (core : VadCore κ)
    (malloc : Option Nat) (d : VadDetector κ) :
    ((VadDetector.init core config malloc).run d).result ≠ .error .errConfig := by
  have aggressiveness := h.aggressiveness
  have silence := h.silence
  rw [VadDetector.init_run, if_neg (by omega)]
  cases malloc <;> simp

theorem Accepted.stt_init {config : Config} (h : config.Accepted) (curl : Option Nat)
    (a : SttAdapter) : ((SttAdapter.init config curl).run a).result ≠ .error .errConfig := by
  cases curl <;> simp [SttAdapter.init, h.sttApiBaseUrl]

/-- The path of an artifact is built where the directory leaves room for its 35
characters in an array as large as the directory's own. -/
theorem path_built_iff {κ : Type} {config : Config} (sequenceId : UInt64) {s : System κ}
    (same : s.config = config) :
    (∃ path, ((buildArtifactPath sequenceId).run s).result = .ok path) ↔
      config.runtimeDir.bytes.length ≤ 476 := by
  have length := artifactPath_length config sequenceId
  rw [buildArtifactPath_run, same]
  by_cases long : (artifactPath config sequenceId).length ≥ 512
  · rw [if_pos long]
    exact iff_of_false (by rintro ⟨path, built⟩; cases built) (by omega)
  · rw [if_neg long]
    exact iff_of_true ⟨_, rfl⟩ (by omega)

theorem validation_suffices (config : Config) (valid : config.validate = .ok) :
    config.Suffices ↔ config.runtimeDir.bytes.length ≤ 476 := by
  have accepted := validate_ok valid
  constructor
  · intro enough
    have built := enough.artifactPath Unit 0 (init config) rfl
    exact (path_built_iff 0 rfl).mp built
  · intro short
    constructor
    · intro κ core malloc d
      exact accepted.vad_init core malloc d
    · intro curl a
      exact accepted.stt_init curl a
    · intro answers c
      exact AudioCapture.start_configured accepted.captureDevice answers c
    · intro κ sequenceId s same
      exact (path_built_iff sequenceId same).mpr short

theorem validation_suffices_defaults : initDefaults.Suffices :=
  (validation_suffices initDefaults (by decide)).mpr (by decide)

/-- A runtime directory of 477 characters. -/
def deepDir : Config := { initDefaults with runtimeDir := .copy 511 (List.replicate 477 100) }

theorem deep_dir_accepted : deepDir.validate = .ok ∧ ¬ deepDir.Suffices := by
  refine ⟨by decide +kernel, ?_⟩
  intro enough
  have built := enough.artifactPath Unit 0 (init deepDir) rfl
  have short := (path_built_iff 0 rfl).mp built
  exact absurd short (by decide +kernel)

end Assistantd.Config
