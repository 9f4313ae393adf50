import Assistantd.Supervisor.Handles

/-! What start makes of a supervisor, and what shutting down leaves of it. -/
namespace Assistantd

open Calls
open CText (CString)

/-- An event of starting or stopping a module: to the stages it is at most about
a handle of curl's. -/
def Event.Upkeep (e : Event) : Prop :=
  e.isStage = true → ∃ op addr, e = .stt (.curl op addr) ∨ e = .llm (.curl op addr)

namespace Supervisor

variable {κ : Type}

/-! ## Shutting down -/

/-- What the modules release, in the order of shutdown_modules. -/
def releases (s : System κ) : List Event :=
  ringTouch .release s.captureRing ++ pcmTouch .release s.utteranceMetadata ++
    s.vad.backend.toList.map (fun vad => .vad .release vad.addr) ++
    s.stt.curlHandle.toList.map (fun addr => .stt (.curl .release addr)) ++
    s.llm.curlHandle.toList.map fun addr => .llm (.curl .release addr)

theorem releases_upkeep (s : System κ) : ∀ e ∈ releases s, e.Upkeep := by
  intro e member stage
  simp only [releases, List.mem_append, List.mem_map, ringTouch, pcmTouch] at member
  rcases member with (((⟨_, _, rfl⟩ | ⟨_, _, rfl⟩) | ⟨_, _, rfl⟩) | ⟨addr, _, rfl⟩) | ⟨addr, _, rfl⟩
  · cases stage
  · cases stage
  · cases stage
  · exact ⟨.release, addr, .inl rfl⟩
  · exact ⟨.release, addr, .inr rfl⟩

/-- A supervisor without its modules. -/
def cleared (s : System κ) (capture : AudioCapture) : System κ :=
  { s with
    capture
    captureRing := .zeroed
    vad := { s.vad with backend := none, accumulatedSilenceMs := 0, speechActive := false }
    stt := .zeroed
    llm := .zeroed
    tts := .zeroed
    utteranceMetadata := ⟨none, 0, 0⟩
    nextArtifactSequenceId := 0 }

theorem discardQueuedArtifacts_idle (unlinks : Nat → Bool) {s : System κ}
    (empty : SlotQueue.Stores 16 s.artifactQueue []) :
    (discardQueuedArtifacts unlinks).run s = ⟨.ok (), s, []⟩ := by
  have nothing : s.artifactQueue.size = 0 := empty.size
  simp [discardQueuedArtifacts, nothing, discardArtifacts]

theorem discardQueuedLlmResponses_idle {s : System κ}
    (clear : SlotQueue.Stores 16 s.llmResponseQueue []) :
    discardQueuedLlmResponses.run s = ⟨.ok (), s, []⟩ := by
  have nothing : s.llmResponseQueue.size = 0 := clear.size
  simp [discardQueuedLlmResponses, nothing, discardResponses]

theorem shutdownModules_run (answers : StopAnswers) {s : System κ}
    (empty : SlotQueue.Stores 16 s.artifactQueue [])
    (clear : SlotQueue.Stores 16 s.llmResponseQueue []) :
    ∃ (capture : AudioCapture) (calls : List AudioCapture.Sys),
      (shutdownModules answers).run s =
        ⟨.ok (), cleared s capture, calls.map .capture ++ releases s⟩ ∧
      capture.active = false ∧ (s.capture.active = false → capture = s.capture ∧ calls = []) := by
  obtain ⟨status, capture, calls, stopped, inactive⟩ :=
    AudioCapture.stop_run answers.capture s.capture
  refine ⟨capture, calls, ?_, inactive, ?_⟩
  · simp [shutdownModules, onCapture, onVad, onStt, onLlm, onTts, stopped, freeRing, freeUtterance,
      discardQueuedArtifacts_idle, discardQueuedLlmResponses_idle, empty, clear,
      VadDetector.shutdown_run, SttAdapter.shutdown_run, LlmAdapter.shutdown_run,
      TtsAdapter.shutdown, cleared, releases, RingBuffer.free, Function.comp_def]
  · intro idle
    rw [AudioCapture.stop_idle answers.capture idle] at stopped
    cases stopped
    exact ⟨rfl, rfl⟩

/-! ## Starting up -/

theorem allocate_run (succeeds : Bool) (s : System κ) : (allocate succeeds).run s =
    if succeeds then ⟨.ok (some s.nextAddr), { s with nextAddr := s.nextAddr + 1 }, []⟩
    else ⟨.ok none, s, []⟩ := by
  cases succeeds <;> rfl

theorem initVad_run (core : VadCore κ) (malloc : Bool) (s : System κ) :
    ∃ (result : Except Status Unit) (vad : VadDetector κ) (nextAddr : Nat) (events : List Event),
      (initVad core malloc).run s = ⟨result, { s with vad, nextAddr }, events⟩ ∧
      (∀ e ∈ events, e.Upkeep) ∧
      (result = .ok () → 0 < s.config.vadSilenceMs ∧ ∃ addr,
        vad = ⟨s.config.vadAggressiveness, s.config.vadSilenceMs, 0, false,
          some (VadDetector.ready core s.config.vadAggressiveness addr)⟩) := by
  by_cases bad : s.config.vadAggressiveness < 0 ∨ s.config.vadAggressiveness > 3 ∨
      s.config.vadSilenceMs ≤ 0
  · cases malloc with
    | false => exact ⟨.error .errConfig, s.vad, s.nextAddr, [],
        by simp [initVad, allocate_run, onVad, VadDetector.init_run, if_pos bad], by simp, by simp⟩
    | true => exact ⟨.error .errConfig, s.vad, s.nextAddr + 1, [],
        by simp [initVad, allocate_run, onVad, VadDetector.init_run, if_pos bad], by simp, by simp⟩
  · cases malloc with
    | false => exact ⟨.error .errIo, _, s.nextAddr, [],
        by simp [initVad, allocate_run, onVad, VadDetector.init_run, if_neg bad]; rfl, by simp,
        by simp⟩
    | true =>
      refine ⟨.ok (), _, s.nextAddr + 1, [.vad .acquire s.nextAddr],
        by simp [initVad, allocate_run, onVad, VadDetector.init_run, if_neg bad]; rfl, ?_, ?_⟩
      · simp [Event.Upkeep, Event.isStage]
      · exact fun _ => ⟨by omega, s.nextAddr, rfl⟩

theorem initStt_run (curl : Bool) (s : System κ) :
    ∃ (result : Except Status Unit) (stt : SttAdapter) (nextAddr : Nat) (events : List Event),
      (initStt curl).run s = ⟨result, { s with stt, nextAddr }, events⟩ ∧
      (∀ e ∈ events, e.Upkeep) ∧
      (result = .ok () → ∃ addr, stt = ⟨true, s.config.sttApiBaseUrl, some addr⟩) := by
  by_cases unset : s.config.sttApiBaseUrl.isEmpty = true
  · cases curl with
    | false => exact ⟨.error .errConfig, s.stt, s.nextAddr, [],
        by simp [initStt, allocate_run, onStt, SttAdapter.init, unset], by simp, by simp⟩
    | true => exact ⟨.error .errConfig, s.stt, s.nextAddr + 1, [],
        by simp [initStt, allocate_run, onStt, SttAdapter.init, unset], by simp, by simp⟩
  · cases curl with
    | false => exact ⟨.error .errIo, _, s.nextAddr, [],
        by simp [initStt, allocate_run, onStt, SttAdapter.init, unset]; rfl, by simp, by simp⟩
    | true =>
      refine ⟨.ok (), ⟨true, s.config.sttApiBaseUrl, some s.nextAddr⟩, s.nextAddr + 1,
        [.stt (.curl .acquire s.nextAddr)], ?_, ?_, fun _ => ⟨s.nextAddr, rfl⟩⟩
      · simp [initStt, allocate_run, onStt, SttAdapter.init, unset, CString.copy_self]
      · simp [Event.Upkeep]

theorem initLlm_run (promptFile : Option LlmAdapter.PromptFile) (curl : Bool) (s : System κ) :
    ∃ (result : Except Status Unit) (llm : LlmAdapter) (nextAddr : Nat) (events : List Event),
      (initLlm promptFile curl).run s = ⟨result, { s with llm, nextAddr }, events⟩ ∧
      (∀ e ∈ events, e.Upkeep) ∧
      (result = .ok () → ∃ systemPrompt addr, llm =
        ⟨true, systemPrompt, s.config.llmApiBaseUrl, s.config.llmModel, none, some addr⟩) := by
  obtain ⟨loaded, systemPrompt, load⟩ :=
    LlmAdapter.loadSystemPrompt_run promptFile LlmAdapter.zeroed
  cases loaded with
  | error status =>
    cases curl with
    | false => exact ⟨.error status, _, s.nextAddr, [],
        by simp [initLlm, allocate_run, onLlm, LlmAdapter.init, load]; rfl, by simp, by simp⟩
    | true => exact ⟨.error status, { LlmAdapter.zeroed with systemPrompt }, s.nextAddr + 1, [],
        by simp [initLlm, allocate_run, onLlm, LlmAdapter.init, load], by simp, by simp⟩
  | ok _ =>
    cases curl with
    | false => exact ⟨.error .errIo, _, s.nextAddr, [],
        by simp [initLlm, allocate_run, onLlm, LlmAdapter.init, load]; rfl, by simp, by simp⟩
    | true =>
      refine ⟨.ok (), ⟨true, systemPrompt, s.config.llmApiBaseUrl, s.config.llmModel, none,
        some s.nextAddr⟩, s.nextAddr + 1, [.llm (.curl .acquire s.nextAddr)], ?_, ?_,
        fun _ => ⟨systemPrompt, s.nextAddr, rfl⟩⟩
      · simp [initLlm, allocate_run, onLlm, LlmAdapter.init, load, CString.copy_self]
        rfl
      · simp [Event.Upkeep]

theorem initRing_run (calloc : Bool) (s : System κ) :
    ∃ (result : Except Status Unit) (captureRing : RingBuffer) (nextAddr : Nat)
      (events : List Event),
      (initRing calloc).run s = ⟨result, { s with captureRing, nextAddr }, events⟩ ∧
      (∀ e ∈ events, e.Upkeep) ∧
      (result = .ok () → ∃ addr, captureRing = (s.captureRing.init 64000 (some addr)).2) := by
  cases calloc with
  | false =>
    exact ⟨.error .errIo, { s.captureRing with data := none }, s.nextAddr, [],
      by simp [initRing, allocate_run, RingBuffer.init], by simp, by simp⟩
  | true =>
    refine ⟨.ok (), (s.captureRing.init 64000 (some s.nextAddr)).2, s.nextAddr + 1,
      [.ring .acquire s.nextAddr], ?_, ?_, fun _ => ⟨s.nextAddr, rfl⟩⟩
    · simp [initRing, allocate_run, RingBuffer.init, ringTouch]
    · simp [Event.Upkeep, Event.isStage]

/-- A slot that was free holds the next address. -/
theorem Balanced.acquires {h : List Event} {s t : System κ} (b : Balanced h s) (slot : Slot)
    (free : handle s slot = none) {e : Event} (told : e.entry = some ⟨.acquire, slot, s.nextAddr⟩)
    (after : handle t = Function.update (handle s) slot (some s.nextAddr))
    (next : t.nextAddr = s.nextAddr + 1) : Balanced (h ++ [e]) t := by
  have acquired := Ledger.Balance.acquire b slot free
  unfold Balanced
  rw [after, next]
  simpa [entries, told] using acquired

theorem initVad_balanced (core : VadCore κ) (malloc : Bool) {s : System κ}
    (free : handle s .vad = none) : Keeps Balanced (initVad core malloc) s := by
  intro h b
  by_cases bad : s.config.vadAggressiveness < 0 ∨ s.config.vadAggressiveness > 3 ∨
      s.config.vadSilenceMs ≤ 0
  · cases malloc <;> simp [initVad, allocate_run, onVad, VadDetector.init_run, if_pos bad] <;>
      exact b.moved rfl (by simp)
  · cases malloc with
    | false =>
      simp [initVad, allocate_run, onVad, VadDetector.init_run, if_neg bad]
      exact b.moved (by funext slot; cases slot <;> rfl) (Nat.le_refl _)
    | true =>
      simp [initVad, allocate_run, onVad, VadDetector.init_run, if_neg bad]
      exact b.acquires .vad free rfl (by funext slot; cases slot <;> rfl) rfl

theorem initStt_balanced (curl : Bool) {s : System κ} (free : handle s .sttCurl = none) :
    Keeps Balanced (initStt curl) s := by
  intro h b
  by_cases unset : s.config.sttApiBaseUrl.isEmpty = true
  · cases curl <;> simp [initStt, allocate_run, onStt, SttAdapter.init, unset] <;>
      exact b.moved rfl (by simp)
  · cases curl with
    | false =>
      simp [initStt, allocate_run, onStt, SttAdapter.init, unset]
      exact b.moved (by funext slot; cases slot <;> first | rfl | exact free.symm) (Nat.le_refl _)
    | true =>
      simp [initStt, allocate_run, onStt, SttAdapter.init, unset]
      exact b.acquires .sttCurl free rfl (by funext slot; cases slot <;> rfl) rfl

theorem initLlm_balanced (promptFile : Option LlmAdapter.PromptFile) (curl : Bool) {s : System κ}
    (free : handle s .llmCurl = none) : Keeps Balanced (initLlm promptFile curl) s := by
  intro h b
  obtain ⟨loaded, systemPrompt, load⟩ :=
    LlmAdapter.loadSystemPrompt_run promptFile LlmAdapter.zeroed
  cases loaded with
  | error status =>
    cases curl <;> simp [initLlm, allocate_run, onLlm, LlmAdapter.init, load] <;>
      exact b.moved (by funext slot; cases slot <;> first | rfl | exact free.symm) (by simp)
  | ok _ =>
    cases curl with
    | false =>
      simp [initLlm, allocate_run, onLlm, LlmAdapter.init, load]
      exact b.moved (by funext slot; cases slot <;> first | rfl | exact free.symm) (Nat.le_refl _)
    | true =>
      simp [initLlm, allocate_run, onLlm, LlmAdapter.init, load]
      exact b.acquires .llmCurl free rfl (by funext slot; cases slot <;> rfl) rfl

theorem initRing_balanced (calloc : Bool) {s : System κ} (free : handle s .ring = none) :
    Keeps Balanced (initRing calloc) s := by
  intro h b
  cases calloc with
  | false =>
    simp [initRing, allocate_run, RingBuffer.init]
    exact b.moved (by funext slot; cases slot <;> first | rfl | exact free.symm) (Nat.le_refl _)
  | true =>
    simp [initRing, allocate_run, RingBuffer.init, ringTouch]
    exact b.acquires .ring free rfl (by funext slot; cases slot <;> rfl) rfl

/-- What the initialisers leave when all of them succeed. -/
structure Initialized (core : VadCore κ) (s t : System κ) : Prop where
  silence : 0 < s.config.vadSilenceMs
  vad : ∃ addr, t.vad = ⟨s.config.vadAggressiveness, s.config.vadSilenceMs, 0, false,
    some (VadDetector.ready core s.config.vadAggressiveness addr)⟩
  stt : ∃ addr, t.stt = ⟨true, s.config.sttApiBaseUrl, some addr⟩
  llm : ∃ systemPrompt addr,
    t.llm = ⟨true, systemPrompt, s.config.llmApiBaseUrl, s.config.llmModel, none, some addr⟩
  ring : ∃ addr, t.captureRing = (s.captureRing.init 64000 (some addr)).2

theorem initializeModules_run (core : VadCore κ) (answers : StartAnswers) (s : System κ) :
    ∃ (result : Except Status Unit) (vad : VadDetector κ) (stt : SttAdapter) (llm : LlmAdapter)
      (tts : TtsAdapter) (captureRing : RingBuffer) (nextAddr : Nat) (events : List Event),
      (initializeModules core answers).run s = ⟨result, { s with
        utteranceMetadata := { s.utteranceMetadata with size := 0 }
        artifactQueue := ArtifactQueue.init
        llmResponseQueue := LlmResponseQueue.init
        vad, stt, llm, tts, captureRing, nextAddr }, events⟩ ∧
      (∀ e ∈ events, e.Upkeep) ∧
      (result = .ok () → Initialized core s { s with vad, stt, llm, captureRing }) := by
  obtain ⟨r₁, vad, n₁, e₁, vadInit, u₁, ok₁⟩ := initVad_run core answers.fvad { s with
    utteranceMetadata := { s.utteranceMetadata with size := 0 }
    artifactQueue := ArtifactQueue.init
    llmResponseQueue := LlmResponseQueue.init }
  cases r₁ with
  | error status => exact ⟨.error status, vad, s.stt, s.llm, s.tts, s.captureRing, n₁, e₁,
      by simp [initializeModules, initQueues, vadInit], u₁, by simp⟩
  | ok _ =>
  obtain ⟨r₂, stt, n₂, e₂, sttInit, u₂, ok₂⟩ := initStt_run answers.sttCurl { s with
    utteranceMetadata := { s.utteranceMetadata with size := 0 }
    artifactQueue := ArtifactQueue.init
    llmResponseQueue := LlmResponseQueue.init
    vad, nextAddr := n₁ }
  cases r₂ with
  | error status => exact ⟨.error status, vad, stt, s.llm, s.tts, s.captureRing, n₂, e₁ ++ e₂,
      by simp [initializeModules, initQueues, vadInit, sttInit],
      List.forall_mem_append.mpr ⟨u₁, u₂⟩, by simp⟩
  | ok _ =>
  obtain ⟨r₃, llm, n₃, e₃, llmInit, u₃, ok₃⟩ := initLlm_run answers.promptFile answers.llmCurl
    { s with
      utteranceMetadata := { s.utteranceMetadata with size := 0 }
      artifactQueue := ArtifactQueue.init
      llmResponseQueue := LlmResponseQueue.init
      vad, stt, nextAddr := n₂ }
  cases r₃ with
  | error status => exact ⟨.error status, vad, stt, llm, s.tts, s.captureRing, n₃, e₁ ++ (e₂ ++ e₃),
      by simp [initializeModules, initQueues, vadInit, sttInit, llmInit],
      List.forall_mem_append.mpr ⟨u₁, List.forall_mem_append.mpr ⟨u₂, u₃⟩⟩, by simp⟩
  | ok _ =>
  obtain ⟨r₄, ring, n₄, e₄, ringInit, u₄, ok₄⟩ := initRing_run answers.ring { s with
    utteranceMetadata := { s.utteranceMetadata with size := 0 }
    artifactQueue := ArtifactQueue.init
    llmResponseQueue := LlmResponseQueue.init
    vad, stt, llm, tts := ⟨true⟩, nextAddr := n₃ }
  obtain ⟨silence, fvad⟩ := ok₁ rfl
  exact ⟨r₄, vad, stt, llm, ⟨true⟩, ring, n₄, e₁ ++ (e₂ ++ (e₃ ++ e₄)),
    by simp [initializeModules, initQueues, vadInit, sttInit, llmInit, ringInit, onTts,
      TtsAdapter.init],
    List.forall_mem_append.mpr ⟨u₁, List.forall_mem_append.mpr
      ⟨u₂, List.forall_mem_append.mpr ⟨u₃, u₄⟩⟩⟩,
    fun done => ⟨silence, fvad, ok₂ rfl, ok₃ rfl, ok₄ done⟩⟩

theorem initializeModules_balanced (core : VadCore κ) (answers : StartAnswers) {s : System κ}
    (free : ∀ slot, slot ≠ .utterance → handle s slot = none) :
    Keeps Balanced (initializeModules core answers) s := by
  apply keeps_bind (resetUtterance_balanced s)
  intro _ _
  refine keeps_bind (modify_balanced (by funext slot; cases slot <;> rfl) (Nat.le_refl _))
    fun _ _ => ?_
  refine keeps_bind (initVad_balanced core _ (free .vad (by decide))) fun _ _ => ?_
  obtain ⟨_, _, _, _, vadInit, _, _⟩ := initVad_run core answers.fvad
    ((initQueues : SupervisorCall κ Unit).run (resetUtterance.run s).state).state
  rw [vadInit]
  refine keeps_bind (initStt_balanced _ (free .sttCurl (by decide))) fun _ _ => ?_
  obtain ⟨_, _, _, _, sttInit, _, _⟩ := initStt_run answers.sttCurl (Outcome.mk _ _ _).state
  rw [sttInit]
  refine keeps_bind (initLlm_balanced _ _ (free .llmCurl (by decide))) fun _ _ => ?_
  obtain ⟨_, _, _, _, llmInit, _, _⟩ := initLlm_run answers.promptFile answers.llmCurl
    (Outcome.mk _ _ _).state
  rw [llmInit]
  apply keeps_bind (tts_balanced _ _)
  intro _ _
  exact initRing_balanced _ (free .ring (by decide))

end Supervisor

end Assistantd
