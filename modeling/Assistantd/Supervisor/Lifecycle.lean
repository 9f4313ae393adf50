import Assistantd.Supervisor.Startup

/-! The supervisor's states over any sequence of its three calls. -/
namespace Assistantd.Supervisor

open Calls
open CText (CString)

variable {κ : Type}

inductive Api (p : Platform) where
  | start (answers : StartAnswers)
  | runOnce (answers : RunAnswers p)
  | stop (answers : StopAnswers)

def call (p : Platform) (core : VadCore κ) : Api p → SupervisorCall κ Unit
  | .start answers => start core answers
  | .runOnce answers => runOnce p core answers
  | .stop answers => stop answers

/-- `init` in the process of `s`. -/
def initIn (config : Config) (s : System κ) : System κ :=
  { (init config : System κ) with
    nextAddr := s.nextAddr, shutdownRequested := s.shutdownRequested }

/-- As `init` leaves it, apart from the settings an earlier start may have
copied into the detector. -/
def Fresh (config : Config) (s : System κ) : Prop :=
  ∃ aggressiveness silenceMs, s = { initIn config s with
    vad := ⟨aggressiveness, silenceMs, 0, false, none⟩ }

/-- What a start that succeeds leaves. -/
structure Begun (core : VadCore κ) (config : Config) (s : System κ) : Prop where
  state : s.state = .running
  configured : s.config = config
  ids : s.nextArtifactSequenceId = 0
  utterance : s.utteranceMetadata = ⟨none, 0, 0⟩
  silence : 0 < config.vadSilenceMs
  vad : ∃ addr, s.vad = ⟨config.vadAggressiveness, config.vadSilenceMs, 0, false,
    some (VadDetector.ready core config.vadAggressiveness addr)⟩
  stt : ∃ addr, s.stt = ⟨true, config.sttApiBaseUrl, some addr⟩
  llm : ∃ systemPrompt addr,
    s.llm = ⟨true, systemPrompt, config.llmApiBaseUrl, config.llmModel, none, some addr⟩
  ring : ∃ ring addr, s.captureRing = (RingBuffer.init ring 64000 (some addr)).2
  artifacts : SlotQueue.Stores 16 s.artifactQueue []
  responses : SlotQueue.Stores 16 s.llmResponseQueue []

structure Running (p : Platform) (config : Config) (s : System κ) : Prop where
  quiet : Quiet p s
  configured : s.config = config
  vad : ∃ addr, handle s .vad = some addr
  stt : ∃ addr, s.stt = ⟨true, config.sttApiBaseUrl, some addr⟩
  llm : ∃ systemPrompt addr,
    s.llm = ⟨true, systemPrompt, config.llmApiBaseUrl, config.llmModel, none, some addr⟩

structure Stopped (s : System κ) : Prop where
  stopped : s.state = .stopped
  free : ∀ slot, handle s slot = none
  inactive : s.capture.active = false
  artifacts : SlotQueue.Stores 16 s.artifactQueue []
  responses : SlotQueue.Stores 16 s.llmResponseQueue []

/-- The states a supervisor can be seen in between two calls. -/
inductive Seen (p : Platform) (config : Config) (s : System κ) : Prop where
  | ready : Fresh config s → Seen p config s
  | running : Running p config s → Seen p config s
  | stopped : Stopped s → Seen p config s

theorem init_stores : SlotQueue.Stores 16 ArtifactQueue.init [] :=
  SlotQueue.init_stores (by decide) _

theorem init_responses : SlotQueue.Stores 16 LlmResponseQueue.init [] :=
  SlotQueue.init_stores (by decide) _

theorem init_fresh (config : Config) : Fresh config (init config : System κ) := ⟨0, 0, rfl⟩

theorem Fresh.ready {config : Config} {s : System κ} (h : Fresh config s) : s.state = .ready := by
  obtain ⟨_, _, eq⟩ := h
  rw [eq]
  rfl

theorem Fresh.free {config : Config} {s : System κ} (h : Fresh config s) (slot : Slot) :
    handle s slot = none := by
  obtain ⟨_, _, eq⟩ := h
  rw [eq]
  cases slot <;> rfl

theorem Fresh.idle {config : Config} {s : System κ} (h : Fresh config s) :
    s.capture.active = false := by
  obtain ⟨_, _, eq⟩ := h
  rw [eq]
  rfl

theorem Fresh.releases {config : Config} {s : System κ} (h : Fresh config s) :
    releases s = [] := by
  obtain ⟨_, _, eq⟩ := h
  rw [eq]
  rfl

theorem Fresh.queues {config : Config} {s : System κ} (h : Fresh config s) :
    SlotQueue.Stores 16 s.artifactQueue [] ∧ SlotQueue.Stores 16 s.llmResponseQueue [] := by
  obtain ⟨_, _, eq⟩ := h
  rw [eq]
  exact ⟨init_stores, init_responses⟩

theorem Begun.running {core : VadCore κ} {config : Config} {s : System κ}
    (h : Begun core config s) (p : Platform) : Running p config s := by
  refine ⟨⟨h.state, ?_, h.artifacts, h.responses⟩, h.configured, ?_, h.stt, h.llm⟩
  · obtain ⟨ring, addr, eq⟩ := h.ring
    rw [eq]
    exact RingBuffer.init_steady _ _ _
  · obtain ⟨addr, eq⟩ := h.vad
    exact ⟨addr, by rw [handle, eq]; rfl⟩

theorem Running.handles {p : Platform} {config : Config} {s : System κ} (h : Running p config s)
    (slot : Slot) (other : slot ≠ .utterance) : ∃ addr, handle s slot = some addr := by
  cases slot with
  | vad => exact h.vad
  | sttCurl =>
    obtain ⟨addr, eq⟩ := h.stt
    exact ⟨addr, by rw [handle, eq]⟩
  | llmCurl =>
    obtain ⟨_, addr, eq⟩ := h.llm
    exact ⟨addr, by rw [handle, eq]⟩
  | ring =>
    obtain ⟨data, present⟩ := h.quiet.ring.block
    exact ⟨data.addr, by rw [handle, present]; rfl⟩
  | utterance => exact absurd rfl other

/-! ## Each call -/

theorem start_ready (core : VadCore κ) (answers : StartAnswers) {s : System κ}
    (ready : s.state = .ready) : (start core answers).run s =
      ((onError (initializeModules core answers) (shutdownModules answers.cleanup)).run s).andThen
        fun _ => modify fun s => { s with state := .running } := by
  simp [start, ready]

theorem start_cases (core : VadCore κ) (answers : StartAnswers) {config : Config}
    {s : System κ} (h : Fresh config s) :
    ∃ (result : Except Status Unit) (t : System κ) (events : List Event),
      (start core answers).run s = ⟨result, t, events⟩ ∧ (∀ e ∈ events, e.Upkeep) ∧
      ((result = .ok () ∧ Begun core config t) ∨
        (∃ status, result = .error status) ∧ Fresh config t) := by
  obtain ⟨result, vad, stt, llm, tts, ring, nextAddr, events, initialized, upkeep, done⟩ :=
    initializeModules_run core answers s
  have begun := start_ready core answers h.ready
  obtain ⟨aggressiveness, silenceMs, eq⟩ := h
  rw [begun]
  cases result with
  | ok _ =>
    obtain ⟨silence, vadSet, sttSet, llmSet, ⟨addr, ringSet⟩⟩ := done rfl
    have configured : s.config = config := by rw [eq]; rfl
    rw [configured] at silence vadSet sttSet llmSet
    rw [onError_ok initialized]
    refine ⟨.ok (), _, _, rfl, ?_, .inl ⟨rfl, ?_⟩⟩
    · simpa using upkeep
    · exact ⟨rfl, configured, by rw [eq]; rfl, by rw [eq]; rfl, silence, vadSet, sttSet, llmSet,
        ⟨s.captureRing, addr, ringSet⟩, init_stores, init_responses⟩
  | error status =>
    obtain ⟨capture, calls, cleaned, _, same⟩ := shutdownModules_run answers.cleanup (s := { s with
      utteranceMetadata := { s.utteranceMetadata with size := 0 }
      artifactQueue := ArtifactQueue.init
      llmResponseQueue := LlmResponseQueue.init
      vad, stt, llm, tts, captureRing := ring, nextAddr }) init_stores init_responses
    obtain ⟨rfl, rfl⟩ := same (by rw [eq]; rfl)
    rw [onError_error initialized cleaned]
    refine ⟨.error status, _, _, rfl, ?_, .inr ⟨⟨status, rfl⟩, vad.aggressiveness, vad.silenceMs, ?_⟩⟩
    · intro e member
      rcases List.mem_append.mp member with started | released
      · exact upkeep e started
      · exact releases_upkeep _ e released
    · rw [eq]
      rfl

theorem start_balanced (core : VadCore κ) (answers : StartAnswers) {config : Config}
    {s : System κ} (h : Fresh config s) : Keeps Balanced (start core answers) s := by
  refine keeps_get (keeps_bind (keeps_failIf _ _) fun _ _ => ?_)
  have kept : Keeps Balanced (onError (initializeModules core answers)
      (shutdownModules answers.cleanup)) s :=
    keeps_onError (initializeModules_balanced core answers fun slot _ => h.free slot)
      (shutdownModules_balanced _ _)
  rw [run_failIf, if_neg (by simp [h.ready])]
  exact keeps_bind kept fun _ _ => modify_balanced (by funext slot; cases slot <;> rfl) (Nat.le_refl _)

theorem stop_balanced (answers : StopAnswers) (s : System κ) : Keeps Balanced (stop answers) s := by
  refine keeps_bind (modify_balanced (by funext slot; cases slot <;> rfl) (Nat.le_refl _))
    fun _ _ => ?_
  apply keeps_bind (shutdownModules_balanced answers _)
  intro _ _
  exact modify_balanced (by funext slot; cases slot <;> rfl) (Nat.le_refl _)

theorem Seen.queues {p : Platform} {config : Config} {s : System κ} (h : Seen p config s) :
    SlotQueue.Stores 16 s.artifactQueue [] ∧ SlotQueue.Stores 16 s.llmResponseQueue [] := by
  cases h with
  | ready fresh => exact fresh.queues
  | running running => exact ⟨running.quiet.artifacts, running.quiet.responses⟩
  | stopped stopped => exact ⟨stopped.artifacts, stopped.responses⟩

theorem Seen.fresh {p : Platform} {config : Config} {s : System κ} (h : Seen p config s)
    (ready : s.state = .ready) : Fresh config s := by
  cases h with
  | ready fresh => exact fresh
  | running running => rw [running.quiet.running] at ready; cases ready
  | stopped stopped => rw [stopped.stopped] at ready; cases ready

theorem Seen.running_of {p : Platform} {config : Config} {s : System κ} (h : Seen p config s)
    (active : s.state = .running) : Running p config s := by
  cases h with
  | ready fresh => rw [fresh.ready] at active; cases active
  | running running => exact running
  | stopped stopped => rw [stopped.stopped] at active; cases active

theorem Seen.released {p : Platform} {config : Config} {s : System κ} (h : Seen p config s)
    (ended : s.state = .ready ∨ s.state = .stopped) :
    (∀ slot, handle s slot = none) ∧ s.capture.active = false := by
  cases h with
  | ready fresh => exact ⟨fresh.free, fresh.idle⟩
  | running running => simp [running.quiet.running] at ended
  | stopped stopped => exact ⟨stopped.free, stopped.inactive⟩

theorem stop_run {p : Platform} {config : Config} (answers : StopAnswers) {s : System κ}
    (h : Seen p config s) : ∃ (t : System κ) (events : List Event),
      (stop answers).run s = ⟨.ok (), t, events⟩ ∧ (∀ e ∈ events, e.Upkeep) ∧ Stopped t := by
  obtain ⟨empty, clear⟩ := h.queues
  obtain ⟨capture, calls, cleaned, inactive, _⟩ := shutdownModules_run answers
    (s := { s with state := .stopping }) empty clear
  refine ⟨{ cleared { s with state := .stopping } capture with state := .stopped },
    calls.map .capture ++ releases { s with state := .stopping }, by simp [stop, cleaned], ?_, ?_⟩
  · intro e member
    rcases List.mem_append.mp member with captured | released
    · obtain ⟨_, _, rfl⟩ := List.mem_map.mp captured
      intro stage
      cases stage
    · exact releases_upkeep _ e released
  · exact ⟨rfl, fun slot => by cases slot <;> rfl, inactive, empty, clear⟩

theorem runOnce_running (p : Platform) (core : VadCore κ) (answers : RunAnswers p)
    {config : Config} {s : System κ} (h : Running p config s) :
    Running p config ((runOnce p core answers).run s).state := by
  have tick := runOnce_tick p core answers h.quiet
  exact ⟨tick.quiet, tick.config.trans h.configured, by
    obtain ⟨addr, held⟩ := h.vad
    exact ⟨addr, tick.backend.trans held⟩, by rw [tick.stt]; exact h.stt, by
    rw [tick.llm]; exact h.llm⟩

theorem start_refused (core : VadCore κ) (answers : StartAnswers) {s : System κ}
    (other : s.state ≠ .ready) : (start core answers).run s = ⟨.error .errInvalidArgument, s, []⟩ := by
  simp [start, other]

theorem runOnce_refused (p : Platform) (core : VadCore κ) (answers : RunAnswers p) {s : System κ}
    (other : s.state ≠ .running) :
    (runOnce p core answers).run s = ⟨.error .errInvalidArgument, s, []⟩ := by
  simp [runOnce, other]

/-! ## Any sequence of calls -/

/-- How the state may move. -/
inductive Moves : SupervisorState → SupervisorState → Prop where
  | stay state : Moves state state
  | start : Moves .ready .running
  | abandon : Moves .ready .stopped
  | stop : Moves .running .stopped

theorem call_seen (p : Platform) (core : VadCore κ) {config : Config} (next : Api p) {s : System κ}
    (h : Seen p config s) :
    Seen p config ((call p core next).run s).state ∧
      Moves s.state ((call p core next).run s).state.state := by
  cases next with
  | start answers =>
    simp only [call]
    by_cases ready : s.state = .ready
    · obtain ⟨result, t, events, started, _, ⟨_, begun⟩ | ⟨_, fresh⟩⟩ :=
        start_cases core answers (h.fresh ready)
      · rw [started, ready, begun.state]
        exact ⟨.running (begun.running p), .start⟩
      · rw [started, ready, fresh.ready]
        exact ⟨.ready fresh, .stay _⟩
    · rw [start_refused core answers ready]
      exact ⟨h, .stay _⟩
  | runOnce answers =>
    simp only [call]
    by_cases active : s.state = .running
    · have running := runOnce_running p core answers (h.running_of active)
      rw [active, running.quiet.running]
      exact ⟨.running running, .stay _⟩
    · rw [runOnce_refused p core answers active]
      exact ⟨h, .stay _⟩
  | stop answers =>
    obtain ⟨t, events, ended, _, stopped⟩ := stop_run answers h
    simp only [call, ended, stopped.stopped]
    refine ⟨.stopped stopped, ?_⟩
    cases h with
    | ready fresh =>
      rw [fresh.ready]
      exact .abandon
    | running running =>
      rw [running.quiet.running]
      exact .stop
    | stopped ended =>
      rw [ended.stopped]
      exact .stay _

theorem call_balanced (p : Platform) (core : VadCore κ) {config : Config} (next : Api p)
    {s : System κ} (h : Seen p config s) : Keeps Balanced (call p core next) s := by
  cases next with
  | start answers =>
    by_cases ready : s.state = .ready
    · exact start_balanced core answers (h.fresh ready)
    · intro trace balanced
      simpa [call, start_refused core answers ready] using balanced
  | runOnce answers => exact runOnce_balanced p core answers s
  | stop answers => exact stop_balanced answers s

theorem calls_seen (p : Platform) (core : VadCore κ) (config : Config) (calls : List (Api p)) :
    Seen p config (play (call p core) (init config) calls).1 ∧
      Balanced (play (call p core) (init config) calls).2
        (play (call p core) (init config) calls).1 := by
  apply play_keeps (I := fun trace s => Seen p config s ∧ Balanced trace s)
  · refine ⟨.ready (init_fresh config), ?_⟩
    have free : handle (init config : System κ) = fun _ => none :=
      funext (init_fresh config).free
    unfold Balanced
    rw [free]
    exact Ledger.Balance.start _
  · rintro next s trace ⟨seen, balanced⟩
    exact ⟨(call_seen p core next seen).1, call_balanced p core next seen trace balanced⟩

/-! ## A start that is tried again -/

theorem initIn_fresh (config : Config) (s : System κ) : Fresh config (initIn config s) := ⟨0, 0, rfl⟩

/-- The initialisers that only reset find nothing to reset. -/
theorem initializeModules_fresh (core : VadCore κ) (answers : StartAnswers) {config : Config}
    {s : System κ} (h : Fresh config s) : (initializeModules core answers).run s =
      ((initVad core answers.fvad).run s).andThen fun _ => (do
        initStt answers.sttCurl
        initLlm answers.promptFile answers.llmCurl
        onTts TtsAdapter.init
        initRing answers.ring) := by
  obtain ⟨_, _, eq⟩ := h
  rw [eq]
  rfl

theorem initVad_misconfigured (core : VadCore κ) (malloc : Bool) {s : System κ}
    (bad : s.config.vadAggressiveness < 0 ∨ s.config.vadAggressiveness > 3 ∨
      s.config.vadSilenceMs ≤ 0) : ∃ nextAddr,
    (initVad core malloc).run s = ⟨.error .errConfig, { s with nextAddr }, []⟩ := by
  cases malloc with
  | false => exact ⟨s.nextAddr, by
      simp [initVad, allocate_run, onVad, VadDetector.init_run, if_pos bad]⟩
  | true => exact ⟨s.nextAddr + 1, by
      simp [initVad, allocate_run, onVad, VadDetector.init_run, if_pos bad]⟩

/-- A config that the detector turns down holds up every start. -/
theorem start_misconfigured (core : VadCore κ) (answers : StartAnswers) {config : Config}
    {s : System κ} (h : Fresh config s)
    (bad : config.vadAggressiveness < 0 ∨ config.vadAggressiveness > 3 ∨ config.vadSilenceMs ≤ 0) :
    ∃ t, (start core answers).run s = ⟨.error .errConfig, t, []⟩ := by
  have configured : s.config = config := by
    obtain ⟨_, _, eq⟩ := h
    rw [eq]
    rfl
  obtain ⟨nextAddr, refused⟩ := initVad_misconfigured core answers.fvad (configured ▸ bad)
  have failed := initializeModules_fresh core answers h
  rw [refused, andThen_error] at failed
  obtain ⟨empty, clear⟩ := h.queues
  obtain ⟨capture, calls, cleaned, _, same⟩ :=
    shutdownModules_run answers.cleanup (s := { s with nextAddr }) empty clear
  obtain ⟨rfl, rfl⟩ := same h.idle
  have nothing : releases { s with nextAddr } = [] := h.releases
  rw [start_ready core answers h.ready, onError_error failed cleaned, nothing]
  exact ⟨_, rfl⟩

/-- Otherwise nothing of an earlier start is left once the detector is set up. -/
theorem initVad_again (core : VadCore κ) (malloc : Bool) {config : Config} {s : System κ}
    (h : Fresh config s)
    (good : ¬ (config.vadAggressiveness < 0 ∨ config.vadAggressiveness > 3 ∨
      config.vadSilenceMs ≤ 0)) :
    (initVad core malloc).run s = (initVad core malloc).run (initIn config s) := by
  obtain ⟨_, _, eq⟩ := h
  have configured : (initIn config s).config = config := rfl
  conv_lhs => rw [eq]
  cases malloc with
  | false => simp [initVad, allocate_run, onVad, VadDetector.init_run, configured, if_neg good]; rfl
  | true => simp [initVad, allocate_run, onVad, VadDetector.init_run, configured, if_neg good]

/-- A start after failed ones goes the way a first start goes. -/
theorem start_again (core : VadCore κ) (answers : StartAnswers) {config : Config} {s : System κ}
    (h : Fresh config s) :
    ((start core answers).run s).result = ((start core answers).run (initIn config s)).result ∧
    ((start core answers).run s).events = ((start core answers).run (initIn config s)).events ∧
    (((start core answers).run s).result = .ok () → ((start core answers).run s).state =
      ((start core answers).run (initIn config s)).state) := by
  by_cases bad : config.vadAggressiveness < 0 ∨ config.vadAggressiveness > 3 ∨
      config.vadSilenceMs ≤ 0
  · obtain ⟨_, again⟩ := start_misconfigured core answers h bad
    obtain ⟨_, first⟩ := start_misconfigured core answers (initIn_fresh config s) bad
    rw [again, first]
    exact ⟨rfl, rfl, fun done => by cases done⟩
  · have modules : (initializeModules core answers).run s =
        (initializeModules core answers).run (initIn config s) := by
      rw [initializeModules_fresh core answers h,
        initializeModules_fresh core answers (initIn_fresh config s), initVad_again core _ h bad]
    have same : (start core answers).run s = (start core answers).run (initIn config s) := by
      rw [start_ready core answers h.ready, start_ready core answers (initIn_fresh config s).ready]
      simp only [onError, run_bind, run_attempt, modules]
    rw [same]
    exact ⟨rfl, rfl, fun _ => rfl⟩

/-! ## The lifecycle -/

theorem lifecycle (p : Platform) (core : VadCore κ) (config : Config) (calls : List (Api p))
    (next : Api p) :
    let r := play (call p core) (init config) calls
    let o := (call p core next).run r.1
    let trace := entries (r.2 ++ o.events)
    Moves r.1.state o.state.state ∧
    (∀ answers, next = .start answers → r.1.state ≠ .ready →
      o = ⟨.error .errInvalidArgument, r.1, []⟩) ∧
    (∀ answers, next = .runOnce answers → r.1.state ≠ .running →
      o = ⟨.error .errInvalidArgument, r.1, []⟩) ∧
    (o.state.state = .running → ∀ slot, slot ≠ .utterance →
      ∃ addr, handle o.state slot = some addr) ∧
    (o.state.state = .ready ∨ o.state.state = .stopped →
      (∀ slot, handle o.state slot = none) ∧ o.state.capture.active = false ∧
      ∀ slot addr, ⟨.acquire, slot, addr⟩ ∈ trace → trace.count ⟨.release, slot, addr⟩ = 1) ∧
    Ledger.Sound trace ∧
    (∀ slot addr, Ledger.Held trace slot addr ↔ handle o.state slot = some addr) ∧
    (r.1.state = .ready → ∀ answers,
      let again := (start core answers).run r.1
      let first := (start core answers).run (initIn config r.1)
      again.result = first.result ∧ again.events = first.events ∧
        (again.result = .ok () → again.state = first.state)) := by
  intro r o trace
  obtain ⟨seen, balanced⟩ := calls_seen p core config calls
  obtain ⟨after, moves⟩ := call_seen p core next seen
  have balance : Ledger.Balance trace o.state.nextAddr (handle o.state) :=
    call_balanced p core next seen _ balanced
  refine ⟨moves, ?_, ?_, ?_, ?_, balance.sound, balance.held, ?_⟩
  · rintro answers rfl other
    exact start_refused core answers other
  · rintro answers rfl other
    exact runOnce_refused p core answers other
  · intro active
    exact (after.running_of active).handles
  · intro ended
    obtain ⟨free, idle⟩ := after.released ended
    refine ⟨free, idle, ?_⟩
    intro slot addr acquired
    apply balance.sound.released_once acquired
    rw [balance.held, free slot]
    simp
  · intro ready answers
    exact start_again core answers (seen.fresh ready)

end Assistantd.Supervisor
