import Assistantd.Ring.Steady
import Assistantd.Supervisor.Pipeline

/-! What each stage of a tick does to the supervisor, and what its events are
once system calls and memory are left out. -/
namespace Assistantd

open Calls
open CText (CString)

def Event.isStage : Event → Bool
  | .capture _ | .vad _ _ | .ring _ _ | .utterance _ _ => false
  | _ => true

/-- Of the stages behind the artifact queue. -/
def Event.isReply : Event → Bool
  | .stt _ | .llm _ | .unlink _ _ | .artifactTaken _ | .transcribed _ _ | .generated _ _
  | .responseQueued _ | .responseDropped _ | .responseTaken _ => true
  | _ => false

def stages (events : List Event) : List Event := events.filter Event.isStage

@[simp] theorem stages_nil : stages [] = [] := rfl

@[simp] theorem stages_cons (e : Event) (events : List Event) :
    stages (e :: events) = if e.isStage then e :: stages events else stages events :=
  List.filter_cons

@[simp] theorem stages_append (xs ys : List Event) : stages (xs ++ ys) = stages xs ++ stages ys :=
  List.filter_append xs ys

@[simp] theorem stages_capture (calls : List AudioCapture.Sys) :
    stages (calls.map Event.capture) = [] := by
  simp [stages, Event.isStage]

@[simp] theorem stages_vad (touches : List VadDetector.Touch) :
    stages (touches.map fun touch => Event.vad touch.1 touch.2) = [] := by
  apply List.filter_eq_nil_iff.mpr
  intro e member
  obtain ⟨_, _, rfl⟩ := List.mem_map.mp member
  simp [Event.isStage]

@[simp] theorem stages_stt (calls : List HttpEvent) :
    stages (calls.map Event.stt) = calls.map Event.stt := by
  simp [stages, Event.isStage]

@[simp] theorem stages_llm (calls : List HttpEvent) :
    stages (calls.map Event.llm) = calls.map Event.llm := by
  simp [stages, Event.isStage]

theorem filterMap_stages {β : Type} {f : Event → Option β}
    (hidden : ∀ e, e.isStage = false → f e = none) (events : List Event) :
    (stages events).filterMap f = events.filterMap f := by
  induction events with
  | nil => rfl
  | cons e events ih =>
    rw [stages_cons]
    split
    · rw [List.filterMap_cons, List.filterMap_cons, ih]
    · rename_i outside
      rw [List.filterMap_cons_none (hidden e (by simpa using outside)), ih]

namespace Supervisor

variable {κ : Type}

@[simp] theorem stages_ringTouch (op : Ledger.Op) (ring : RingBuffer) :
    stages (ringTouch op ring) = [] := by
  simp [ringTouch, stages, Event.isStage]

@[simp] theorem stages_pcmTouch (op : Ledger.Op) (m : UtteranceMetadata) :
    stages (pcmTouch op m) = [] := by
  simp [pcmTouch, stages, Event.isStage]

/-! ## Capture and ring -/

theorem readCapture_run {p : Platform} (answers : RunAnswers p) (s : System κ) :
    ∃ (result : Except Status (List UInt8)) (capture : AudioCapture)
      (calls : List AudioCapture.Sys),
      (readCapture answers).run s = ⟨result, { s with capture }, calls.map .capture⟩ ∧
      ∀ chunk, result = .ok chunk → chunk.length ≤ 640 := by
  have reads : ∀ c, ∃ result capture calls,
      (AudioCapture.read 640 answers.captureRead).run c = ⟨result, capture, calls⟩ ∧
      ∀ chunk, result = .ok chunk → chunk.length ≤ 640 :=
    fun c => ⟨_, _, _, rfl, fun _ done => AudioCapture.read_bounded done⟩
  by_cases idle : s.capture.active = false
  · obtain ⟨started, capture, calls, start⟩ : ∃ started capture calls,
        (AudioCapture.start s.config answers.captureStart).run s.capture =
          ⟨started, capture, calls⟩ := ⟨_, _, _, rfl⟩
    cases started with
    | error status =>
      refine ⟨.error status, capture, calls, ?_, by intro _ no; cases no⟩
      simp [readCapture, onCapture, idle, start]
    | ok _ =>
      obtain ⟨result, capture', calls', read, bounded⟩ := reads capture
      exact ⟨result, capture', calls ++ calls',
        by simp [readCapture, onCapture, idle, start, read], bounded⟩
  · obtain ⟨result, capture, calls, read, bounded⟩ := reads s.capture
    exact ⟨result, capture, calls, by simp [readCapture, onCapture, idle, read], bounded⟩

/-- What is said about a chunk that was stored. -/
def wrote (chunk : List UInt8) : List Event := if chunk = [] then [] else [.ringWrote chunk.length]

theorem bufferCapture_run {p : Platform} {s : System κ}
    (steady : s.captureRing.Steady p.sizeBits 640) {chunk : List UInt8}
    (short : chunk.length ≤ 640) : ∃ events,
    (doIf (chunk ≠ []) (bufferCapture p chunk)).run s =
      ⟨.ok (), { s with captureRing := (s.captureRing.write p.sizeBits chunk).2 }, events⟩ ∧
    stages events = wrote chunk := by
  obtain ⟨all, after⟩ := steady.write p.wide short
  by_cases empty : chunk = []
  · subst empty
    exact ⟨[], by simp [RingBuffer.write_nil], rfl⟩
  · refine ⟨ringTouch .use s.captureRing ++ [.ringWrote chunk.length], ?_, ?_⟩
    · simp [bufferCapture, ringWrite, empty, all]
    · simp [wrote, empty, Event.isStage]

/-! ## The utterance -/

theorem resizeUtterance_run (capacity : Nat) (realloc : Bool) (s : System κ) : ∃ events,
    (resizeUtterance capacity realloc).run s =
      (if realloc then
        ⟨.ok (), { s with
          utteranceMetadata := s.utteranceMetadata.resize s.nextAddr capacity
          nextAddr := s.nextAddr + 1 }, events⟩
      else ⟨.error .errIo, s, []⟩) ∧ stages events = [] := by
  cases realloc with
  | false => exact ⟨[], by simp [resizeUtterance, allocate], rfl⟩
  | true =>
    refine ⟨pcmTouch .release s.utteranceMetadata ++ [.utterance .acquire s.nextAddr], ?_, ?_⟩
    · simp [resizeUtterance, allocate]
    · simp [Event.isStage]

theorem ensureCapacity_run (p : Platform) (required : Nat) (realloc : Bool) (s : System κ) :
    ∃ (result : Except Status Unit) (m : UtteranceMetadata) (nextAddr : Nat) (events : List Event),
      (ensureCapacity p required realloc).run s =
        ⟨result, { s with utteranceMetadata := m, nextAddr }, events⟩ ∧ stages events = [] := by
  by_cases short : required > s.utteranceMetadata.capacity
  · cases grown : growCapacity p.sizeBits required
        (if s.utteranceMetadata.capacity = 0 then 10240 else s.utteranceMetadata.capacity) with
    | none => exact ⟨.error .errIo, _, _, [], by simp [ensureCapacity, short, grown]; rfl, rfl⟩
    | some capacity =>
      obtain ⟨events, resized, silent⟩ := resizeUtterance_run capacity realloc s
      cases realloc with
      | false => exact ⟨.error .errIo, _, _, [], by
          simp [ensureCapacity, short, grown, resized]; rfl, rfl⟩
      | true => exact ⟨.ok (), s.utteranceMetadata.resize s.nextAddr capacity, s.nextAddr + 1, events,
          by simp [ensureCapacity, short, grown, resized], silent⟩
  · exact ⟨.ok (), _, _, [], by simp [ensureCapacity, short]; rfl, rfl⟩

theorem appendUtterancePcm_run (p : Platform) (pcm : List UInt8) (realloc : Bool) (s : System κ) :
    ∃ (result : Except Status Unit) (m : UtteranceMetadata) (nextAddr : Nat) (events : List Event),
      (appendUtterancePcm p pcm realloc).run s =
        ⟨result, { s with utteranceMetadata := m, nextAddr }, events⟩ ∧ stages events = [] := by
  by_cases missing : pcm = []
  · exact ⟨_, _, _, [], by simp [appendUtterancePcm, missing]; exact ⟨rfl, rfl⟩, rfl⟩
  by_cases full : s.utteranceMetadata.size > 2 ^ p.sizeBits - 1 - pcm.length
  · exact ⟨_, _, _, [], by simp [appendUtterancePcm, missing, full]; exact ⟨rfl, rfl⟩, rfl⟩
  obtain ⟨result, m, nextAddr, events, ensured, silent⟩ :=
    ensureCapacity_run p (s.utteranceMetadata.size + pcm.length) realloc s
  cases result with
  | error status =>
    exact ⟨.error status, m, nextAddr, events, by
      simp [appendUtterancePcm, missing, full, ensured], silent⟩
  | ok _ =>
    refine ⟨.ok (), m.store pcm, nextAddr, events ++ pcmTouch .use m, ?_, ?_⟩
    · simp [appendUtterancePcm, missing, full, ensured, storePcm]
    · simp [silent]

/-! ## Paths -/

theorem artifactPath_clean (config : Config) (sequenceId : UInt64) :
    0 ∉ artifactPath config sequenceId := by
  have between : 0 ∉ CText.ascii "/utterance-" := by decide
  have suffix : 0 ∉ CText.ascii ".wav" := by decide
  simp only [artifactPath, List.mem_append, not_or]
  exact ⟨⟨⟨config.runtimeDir.clean, between⟩, CText.zeroPadded_clean _ _⟩, suffix⟩

/-- Where the path fits its array it is not cut off. -/
theorem artifactPath_bytes {config : Config} {sequenceId : UInt64}
    (fits : (artifactPath config sequenceId).length < 512) :
    (CString.copy 511 (artifactPath config sequenceId)).bytes = artifactPath config sequenceId :=
  CString.copy_bytes (artifactPath_clean config sequenceId) (by omega)

theorem artifactPath_named {config : Config} {sequenceId : UInt64}
    (fits : (artifactPath config sequenceId).length < 512) :
    (CString.copy 511 (artifactPath config sequenceId)).isEmpty = false := by
  have separator : CText.ascii "/utterance-" ≠ [] := by decide
  rw [CString.isEmpty, artifactPath_bytes fits]
  simp [artifactPath, separator]

/-- The path adds 35 characters to the directory. -/
theorem artifactPath_length (config : Config) (sequenceId : UInt64) :
    (artifactPath config sequenceId).length = config.runtimeDir.bytes.length + 35 := by
  have number := CText.zeroPadded_length (Nat.lt_trans sequenceId.toNat_lt (by decide : 2 ^ 64 < 10 ^ 20))
  have between : (CText.ascii "/utterance-").length = 11 := by decide
  have suffix : (CText.ascii ".wav").length = 4 := by decide
  simp only [artifactPath, List.length_append, number, between, suffix]

theorem artifactPath_short {config : Config} (short : config.runtimeDir.bytes.length < 477)
    (sequenceId : UInt64) : (artifactPath config sequenceId).length < 512 := by
  rw [artifactPath_length]
  omega

/-- Utterances never share a file. -/
theorem artifactPath_injective {config : Config} {m n : UInt64}
    (same : artifactPath config m = artifactPath config n) : m = n := by
  unfold artifactPath at same
  have digits := (List.append_cancel_left (List.append_cancel_right same))
  exact UInt64.toNat.inj (CText.zeroPadded_injective digits)

/-! ## An utterance that is over -/

/-- What becomes of a frame's utterance: it goes on or is dropped, it is given up
before its file, its file could not be written, or it has an entry in the queue. -/
inductive Product where
  | nothing
  | refused (sequenceId : UInt64)
  | unwritten (sequenceId : UInt64) (path : CString 511) (pcm : List UInt8) (result : WavResult)
      (removed : Bool)
  | queued (artifact : Artifact) (pcm : List UInt8)

def Product.events : Product → List Event
  | .nothing => []
  | .refused sequenceId => [.finalized sequenceId]
  | .unwritten sequenceId path pcm result removed =>
    .finalized sequenceId :: .wav sequenceId path pcm result ::
      if result = .incomplete then [.unlink path removed] else []
  | .queued artifact pcm =>
    [.finalized artifact.sequenceId, .wav artifact.sequenceId artifact.wavPath pcm .written,
      .artifactQueued artifact]

def Product.artifacts : Product → List Artifact
  | .queued artifact _ => [artifact]
  | _ => []

/-- What `finalize_utterance` makes of an utterance, with its status and the next
sequence id. -/
inductive Finalized (config : Config) (id : UInt64) (m : UtteranceMetadata)
    (answers : FrameAnswers) : Product → Except Status Unit → UInt64 → Prop where
  | skipped : m.size = 0 ∨ m.pcm.isNone = true → Finalized config id m answers .nothing (.ok ()) id
  | unnamed : (artifactPath config id).length ≥ 512 →
      Finalized config id m answers (.refused id) (.error .errIo) (id + 1)
  | odd : m.contents.length % 2 ≠ 0 →
      Finalized config id m answers (.refused id) (.error .errInvalidArgument) (id + 1)
  | unwritten : answers.wav ≠ .written →
      Finalized config id m answers
        (.unwritten id (.copy 511 (artifactPath config id)) m.contents answers.wav answers.unlink)
        (.error .errIo) (id + 1)
  | queued : answers.wav = .written → (artifactPath config id).length < 512 →
      Finalized config id m answers
        (.queued ⟨id, m.contents.length, .copy 511 (artifactPath config id)⟩ m.contents)
        (.ok ()) (id + 1)

@[simp] theorem resetUtterance_run (s : System κ) : resetUtterance.run s =
    ⟨.ok (), { s with utteranceMetadata := { s.utteranceMetadata with size := 0 } }, []⟩ := rfl

theorem writeWavFile_run (sequenceId : UInt64) (wavPath : CString 511) {pcm : List UInt8}
    (answers : FrameAnswers) (s : System κ) (even : ¬ pcm.length % 2 ≠ 0) :
    (writeWavFile sequenceId wavPath pcm answers).run s =
      ⟨if answers.wav = .written then .ok () else .error .errIo, s,
        .wav sequenceId wavPath pcm answers.wav ::
          if answers.wav = .incomplete then [.unlink wavPath answers.unlink] else []⟩ := by
  rw [ne_eq, not_not] at even
  unfold writeWavFile
  cases answer : answers.wav <;> simp [even]

theorem queueArtifact_run (artifact : Artifact) (answers : FrameAnswers) {s : System κ}
    (empty : SlotQueue.Stores 16 s.artifactQueue []) : ∃ artifactQueue,
    (queueArtifact artifact answers).run s =
      ⟨.ok (), { s with artifactQueue }, [.artifactQueued artifact]⟩ ∧
    SlotQueue.Stores 16 artifactQueue [artifact] := by
  obtain ⟨accepted, stored⟩ := empty.enqueue (by decide) artifact
  refine ⟨(s.artifactQueue.enqueue artifact).2, ?_, stored⟩
  have room : s.artifactQueue.enqueue artifact = (true, (s.artifactQueue.enqueue artifact).2) :=
    Prod.ext accepted rfl
  unfold queueArtifact
  simp only [run_bind, run_get, andThen_ok, after_nil]
  rw [room]
  rfl

theorem buildArtifactPath_run (sequenceId : UInt64) (s : System κ) :
    (buildArtifactPath sequenceId).run s =
      ⟨if (artifactPath s.config sequenceId).length ≥ 512 then .error .errIo
        else .ok (.copy 511 (artifactPath s.config sequenceId)), s, []⟩ := by
  simp only [buildArtifactPath, run_bind, run_get, andThen_ok, after_nil, run_failIf]
  split <;> rfl

/-- An id is used up before the path is built. -/
theorem persistUtterance_unnamed (pcm : List UInt8) (answers : FrameAnswers) {s : System κ}
    (long : (artifactPath s.config s.nextArtifactSequenceId).length ≥ 512) :
    (persistUtterance pcm answers).run s = ⟨.error .errIo, { s with
      utteranceMetadata := { s.utteranceMetadata with size := 0 }
      nextArtifactSequenceId := s.nextArtifactSequenceId + 1 },
      [.finalized s.nextArtifactSequenceId]⟩ := by
  have built := buildArtifactPath_run s.nextArtifactSequenceId
    { s with nextArtifactSequenceId := s.nextArtifactSequenceId + 1 }
  rw [if_pos long] at built
  simp only [persistUtterance, run_bind, run_get, run_modify, run_emit, andThen_ok, after_nil,
    onError_error built (resetUtterance_run _)]
  rfl

theorem persistUtterance_run (answers : FrameAnswers) {s : System κ}
    (empty : SlotQueue.Stores 16 s.artifactQueue []) :
    ∃ product result id artifactQueue events,
      (persistUtterance s.utteranceMetadata.contents answers).run s =
        ⟨result, { s with
          utteranceMetadata := { s.utteranceMetadata with size := 0 }
          nextArtifactSequenceId := id
          artifactQueue }, events⟩ ∧
      stages events = product.events ∧ SlotQueue.Stores 16 artifactQueue product.artifacts ∧
      Finalized s.config s.nextArtifactSequenceId s.utteranceMetadata answers product result
        id := by
  let next : System κ := { s with nextArtifactSequenceId := s.nextArtifactSequenceId + 1 }
  let pcm := s.utteranceMetadata.contents
  let store (wavPath : CString 511) : SupervisorCall κ Unit := do
    onError (writeWavFile s.nextArtifactSequenceId wavPath pcm answers) resetUtterance
    queueArtifact ⟨s.nextArtifactSequenceId, pcm.length, wavPath⟩ answers
    resetUtterance
  have numbered : (persistUtterance pcm answers).run s =
      (((onError (buildArtifactPath s.nextArtifactSequenceId) resetUtterance).run next).andThen
        store).after [.finalized s.nextArtifactSequenceId] := rfl
  have built : (buildArtifactPath s.nextArtifactSequenceId).run next =
      ⟨if (artifactPath s.config s.nextArtifactSequenceId).length ≥ 512 then .error .errIo
        else .ok (.copy 511 (artifactPath s.config s.nextArtifactSequenceId)), next, []⟩ :=
    buildArtifactPath_run _ next
  by_cases long : (artifactPath s.config s.nextArtifactSequenceId).length ≥ 512
  · rw [persistUtterance_unnamed _ answers long]
    exact ⟨.refused _, _, _, _, _, rfl, rfl, empty, .unnamed long⟩
  rw [if_neg long] at built
  rw [numbered, onError_ok built, andThen_ok, after_nil]
  by_cases odd : pcm.length % 2 ≠ 0
  · have refused : (writeWavFile s.nextArtifactSequenceId
        (.copy 511 (artifactPath s.config s.nextArtifactSequenceId)) pcm answers).run next =
        ⟨.error .errInvalidArgument, next, []⟩ := by
      simp only [writeWavFile, run_bind, run_failIf]
      rw [if_pos odd]
      rfl
    simp only [store, run_bind]
    rw [onError_error refused (resetUtterance_run next)]
    exact ⟨.refused _, _, _, _, _, rfl, rfl, empty, .odd odd⟩
  have written := writeWavFile_run s.nextArtifactSequenceId
    (.copy 511 (artifactPath s.config s.nextArtifactSequenceId)) answers next odd
  by_cases failed : answers.wav = .written
  · let artifact : Artifact := ⟨s.nextArtifactSequenceId, pcm.length,
      .copy 511 (artifactPath s.config s.nextArtifactSequenceId)⟩
    obtain ⟨artifactQueue, queued, stored⟩ := queueArtifact_run artifact answers (s := next) empty
    rw [if_pos failed] at written
    simp only [store, run_bind]
    rw [onError_ok written, andThen_ok, run_bind, queued]
    refine ⟨.queued artifact pcm, _, _, artifactQueue, _, rfl, ?_, stored,
      .queued failed (by omega)⟩
    simp [failed, Event.isStage, Product.events, artifact]
  · rw [if_neg failed] at written
    simp only [store, run_bind]
    rw [onError_error written (resetUtterance_run next)]
    refine ⟨.unwritten _ _ _ _ _, _, _, _, _, rfl, ?_, empty, .unwritten failed⟩
    cases answers.wav <;> rfl

theorem finalizeUtterance_run (answers : FrameAnswers) {s : System κ}
    (empty : SlotQueue.Stores 16 s.artifactQueue []) :
    ∃ product result id artifactQueue events,
      (finalizeUtterance answers).run s =
        ⟨result, { s with
          utteranceMetadata := { s.utteranceMetadata with size := 0 }
          nextArtifactSequenceId := id
          artifactQueue }, events⟩ ∧
      stages events = product.events ∧ SlotQueue.Stores 16 artifactQueue product.artifacts ∧
      Finalized s.config s.nextArtifactSequenceId s.utteranceMetadata answers product result
        id := by
  by_cases missing : s.utteranceMetadata.size = 0 ∨ s.utteranceMetadata.pcm.isNone = true
  · refine ⟨.nothing, .ok (), s.nextArtifactSequenceId, s.artifactQueue, [], ?_, rfl, empty,
      .skipped missing⟩
    simp only [finalizeUtterance, run_bind, run_get, andThen_ok, after_nil]
    rw [if_pos missing]
    rfl
  · obtain ⟨product, result, id, artifactQueue, events, persisted, silent, stored, kind⟩ :=
      persistUtterance_run answers empty
    refine ⟨product, result, id, artifactQueue, pcmTouch .use s.utteranceMetadata ++ events, ?_,
      by simp [silent], stored, kind⟩
    simp only [finalizeUtterance, run_bind, run_get, andThen_ok, after_nil]
    rw [if_neg missing, run_bind, run_emits, andThen_ok, persisted]
    rfl

/-! ## A frame -/

section Collect

variable (p : Platform) (frame : List UInt8) (answers : FrameAnswers) (s : System κ)

theorem collectFrame_none (wasActive : Bool) :
    (collectFrame p frame .none wasActive answers).run s = ⟨.ok (), s, []⟩ := by
  simp [collectFrame]

theorem collectFrame_start (wasActive : Bool) :
    (collectFrame p frame .speechStart wasActive answers).run s =
      (appendUtterancePcm p frame answers.realloc).run
        { s with utteranceMetadata := { s.utteranceMetadata with size := 0 } } := by
  simp only [collectFrame, run_bind, run_doIf, reduceCtorEq, true_or, if_true, resetUtterance_run,
    andThen_ok, after_nil]
  exact andThen_pure _

theorem collectFrame_continue :
    (collectFrame p frame .speechContinue true answers).run s =
      (appendUtterancePcm p frame answers.realloc).run s := by
  simp only [collectFrame, run_bind, run_doIf, reduceCtorEq, true_and, false_or, true_or, if_true,
    if_false, andThen_ok, after_nil]
  exact andThen_pure _

theorem collectFrame_end :
    (collectFrame p frame .speechEnd true answers).run s =
      ((appendUtterancePcm p frame answers.realloc).run s).andThen fun _ =>
        finalizeUtterance answers := by
  simp only [collectFrame, run_bind, run_doIf, reduceCtorEq, true_and, false_and, false_or, if_true,
    if_false, andThen_ok, after_nil]
  rfl

end Collect

/-- What one frame may come to for the stages behind the utterance, with the
frame's status and the next sequence id. -/
inductive Yield (config : Config) (id : UInt64) (answers : FrameAnswers) :
    Product → Except Status Unit → UInt64 → Prop where
  | kept result : Yield config id answers .nothing result id
  | refused status : Yield config id answers (.refused id) (.error status) (id + 1)
  | unwritten pcm : answers.wav ≠ .written →
      Yield config id answers
        (.unwritten id (.copy 511 (artifactPath config id)) pcm answers.wav answers.unlink)
        (.error .errIo) (id + 1)
  | queued pcm : answers.wav = .written → (artifactPath config id).length < 512 →
      Yield config id answers (.queued ⟨id, pcm.length, .copy 511 (artifactPath config id)⟩ pcm)
        (.ok ()) (id + 1)

theorem Finalized.yield {config : Config} {id id' : UInt64} {m : UtteranceMetadata}
    {answers : FrameAnswers} {product : Product} {result : Except Status Unit}
    (h : Finalized config id m answers product result id') :
    Yield config id answers product result id' := by
  cases h with
  | skipped => exact .kept _
  | unnamed => exact .refused _
  | odd => exact .refused _
  | unwritten failed => exact .unwritten _ failed
  | queued written fits => exact .queued _ written fits

/-- The part of a state that a frame may change, and what it yields. -/
structure Frame (s : System κ) (answers : FrameAnswers) (o : Outcome (System κ) Event Status Unit)
    (product : Product) : Prop where
  state : ∃ vad utteranceMetadata nextAddr nextArtifactSequenceId artifactQueue,
    o.state = { s with
      vad, utteranceMetadata, nextAddr, nextArtifactSequenceId, artifactQueue }
  backend : o.state.vad.backend.map Fvad.addr = s.vad.backend.map Fvad.addr
  stored : SlotQueue.Stores 16 o.state.artifactQueue product.artifacts
  yield : Yield s.config s.nextArtifactSequenceId answers product o.result
    o.state.nextArtifactSequenceId

theorem appendUtterancePcm_frame (p : Platform) (pcm : List UInt8) (answers : FrameAnswers)
    {s : System κ} (empty : SlotQueue.Stores 16 s.artifactQueue []) :
    Frame s answers ((appendUtterancePcm p pcm answers.realloc).run s) .nothing ∧
      stages ((appendUtterancePcm p pcm answers.realloc).run s).events = [] := by
  obtain ⟨result, m, nextAddr, events, appended, silent⟩ :=
    appendUtterancePcm_run p pcm answers.realloc s
  rw [appended]
  exact ⟨⟨⟨_, _, _, _, _, rfl⟩, rfl, empty, .kept result⟩, silent⟩

theorem collectFrame_frame (p : Platform) (frame : List UInt8) (event : VadEvent)
    (wasActive : Bool) (running : event = .speechContinue ∨ event = .speechEnd → wasActive = true)
    (answers : FrameAnswers) {s : System κ} (empty : SlotQueue.Stores 16 s.artifactQueue []) :
    ∃ product, Frame s answers ((collectFrame p frame event wasActive answers).run s) product ∧
      stages ((collectFrame p frame event wasActive answers).run s).events = product.events := by
  cases event with
  | none =>
    rw [collectFrame_none]
    exact ⟨.nothing, ⟨⟨_, _, _, _, _, rfl⟩, rfl, empty, .kept _⟩, rfl⟩
  | speechStart =>
    rw [collectFrame_start]
    obtain ⟨frame, silent⟩ := appendUtterancePcm_frame p frame answers
      (s := { s with utteranceMetadata := { s.utteranceMetadata with size := 0 } }) empty
    exact ⟨.nothing, { frame with }, silent⟩
  | speechContinue =>
    rw [running (.inl rfl), collectFrame_continue]
    exact ⟨.nothing, appendUtterancePcm_frame p frame answers empty⟩
  | speechEnd =>
    rw [running (.inr rfl), collectFrame_end]
    obtain ⟨result, m, nextAddr, events, appended, silent⟩ :=
      appendUtterancePcm_run p frame answers.realloc s
    rw [appended]
    cases result with
    | error status => exact ⟨.nothing, ⟨⟨_, _, _, _, _, rfl⟩, rfl, empty, .kept _⟩, silent⟩
    | ok _ =>
      obtain ⟨product, result, id, artifactQueue, events', finalized, made, stored, kind⟩ :=
        finalizeUtterance_run answers (s := { s with utteranceMetadata := m, nextAddr }) empty
      rw [andThen_ok, finalized]
      refine ⟨product, ⟨⟨_, _, _, _, _, rfl⟩, rfl, stored, kind.yield⟩, ?_⟩
      simp [silent, made]

theorem handleFrame_failed (p : Platform) (core : VadCore κ) (frame : List UInt8)
    (answers : FrameAnswers) {s : System κ} {status : Status} {vad : VadDetector κ}
    {touches : List VadDetector.Touch}
    (h : (VadDetector.processFrame core (some frame) 320 20 true).run s.vad =
      ⟨.error status, vad, touches⟩) :
    (handleFrame p core frame answers).run s =
      ⟨.error status, { s with vad },
        .frame frame :: touches.map fun touch => .vad touch.1 touch.2⟩ := by
  simp [handleFrame, onVad, h]

theorem handleFrame_heard (p : Platform) (core : VadCore κ) (frame : List UInt8)
    (answers : FrameAnswers) {s : System κ} {event : VadEvent} {vad : VadDetector κ}
    {touches : List VadDetector.Touch}
    (h : (VadDetector.processFrame core (some frame) 320 20 true).run s.vad =
      ⟨.ok event, vad, touches⟩) :
    (handleFrame p core frame answers).run s =
      ((collectFrame p frame event s.vad.speechActive answers).run { s with vad }).after
        (.frame frame :: touches.map fun touch => .vad touch.1 touch.2) := by
  simp [handleFrame, onVad, h]

/-- The detector turns the frame away, or the frame is collected for its event. -/
theorem handleFrame_cases (p : Platform) (core : VadCore κ) (frame : List UInt8)
    (answers : FrameAnswers) (s : System κ) :
    ∃ (vad : VadDetector κ) (touches : List VadDetector.Touch),
      vad.backend.map Fvad.addr = s.vad.backend.map Fvad.addr ∧
      ((∃ status, ((VadDetector.processFrame core (some frame) 320 20 true).run s.vad).result =
          .error status ∧ vad.speechActive = s.vad.speechActive ∧
        (handleFrame p core frame answers).run s = ⟨.error status, { s with vad },
          .frame frame :: touches.map fun touch => .vad touch.1 touch.2⟩) ∨
      ∃ event, ((VadDetector.processFrame core (some frame) 320 20 true).run s.vad).result =
          .ok event ∧ VadDetector.Turn s.vad.speechActive event vad.speechActive ∧
        (handleFrame p core frame answers).run s =
          ((collectFrame p frame event s.vad.speechActive answers).run { s with vad }).after
            (.frame frame :: touches.map fun touch => .vad touch.1 touch.2)) := by
  have same := (VadDetector.processFrame_touches core (some frame) 320 20 true s.vad).1
  rcases VadDetector.processFrame_cases core (some frame) 320 20 true s.vad with
    ⟨status, rejected⟩ | ⟨_, vad, verdict, vad', _, _, _, _, called⟩
  · exact ⟨s.vad, [], rfl, .inl ⟨status, by rw [rejected], rfl,
      handleFrame_failed p core frame answers rejected⟩⟩
  · by_cases negative : verdict < 0
    · rw [if_pos negative] at called
      rw [called] at same
      exact ⟨_, _, same, .inl ⟨.errIo, by rw [called], rfl,
        handleFrame_failed p core frame answers called⟩⟩
    · rw [if_neg negative] at called
      rw [called] at same
      exact ⟨_, _, same, .inr ⟨_, by rw [called],
        VadDetector.advance_turn { s.vad with backend := some vad' } (verdict = 1) 20,
        handleFrame_heard p core frame answers called⟩⟩

theorem handleFrame_frame (p : Platform) (core : VadCore κ) (frame : List UInt8)
    (answers : FrameAnswers) {s : System κ} (empty : SlotQueue.Stores 16 s.artifactQueue []) :
    ∃ product, Frame s answers ((handleFrame p core frame answers).run s) product ∧
      stages ((handleFrame p core frame answers).run s).events =
        .frame frame :: product.events := by
  obtain ⟨vad, touches, same, ⟨status, _, _, failed⟩ | ⟨event, _, turn, collects⟩⟩ :=
    handleFrame_cases p core frame answers s
  · rw [failed]
    refine ⟨.nothing, ⟨⟨_, _, _, _, _, rfl⟩, same, empty, .kept _⟩, ?_⟩
    simp [Event.isStage, Product.events]
  · obtain ⟨product, framed, made⟩ := collectFrame_frame p frame event s.vad.speechActive
      turn.running answers (s := { s with vad }) empty
    rw [collects]
    refine ⟨product, { framed with backend := framed.backend.trans same }, ?_⟩
    simp [Event.isStage, made, Outcome.after]

/-! ## The drain loop -/

section Drain

variable (p : Platform) (core : VadCore κ) (answers : Nat → FrameAnswers)

theorem drainLoop_done (rounds index : Nat) {s : System κ} (few : s.captureRing.available < 640) :
    (drainLoop p core answers (rounds + 1) index).run s = ⟨.ok (), s, []⟩ := by
  simp [drainLoop, few]

theorem drainLoop_frame (rounds index : Nat) {s : System κ}
    (enough : ¬ s.captureRing.available < 640)
    (whole : (s.captureRing.read p.sizeBits 640).1.length = 640) :
    (drainLoop p core answers (rounds + 1) index).run s =
      (((handleFrame p core (s.captureRing.read p.sizeBits 640).1 (answers index)).run
        { s with captureRing := (s.captureRing.read p.sizeBits 640).2 }).andThen fun _ =>
          drainLoop p core answers rounds (index + 1)).after
        (ringTouch .use s.captureRing ++ [.ringRead 640]) := by
  simp [drainLoop, ringRead, enough, whole]

/-- With less than a second frame in the ring the loop handles a frame that is
there and ends. -/
theorem drainCaptureRingIntoVad_run {s : System κ}
    (empty : SlotQueue.Stores 16 s.artifactQueue [])
    (steady : s.captureRing.Steady p.sizeBits 1280) :
    (drainCaptureRingIntoVad p core answers).run s =
      if s.captureRing.available < 640 then ⟨.ok (), s, []⟩
      else ((handleFrame p core (s.captureRing.read p.sizeBits 640).1 (answers 0)).run
        { s with captureRing := (s.captureRing.read p.sizeBits 640).2 }).after
          (ringTouch .use s.captureRing ++ [.ringRead 640]) := by
  have loop : (drainCaptureRingIntoVad p core answers).run s =
      (drainLoop p core answers (s.captureRing.head - s.captureRing.tail + 1) 0).run s := rfl
  rw [loop]
  by_cases few : s.captureRing.available < 640
  · rw [if_pos few, drainLoop_done p core answers _ _ few]
  · obtain ⟨whole, after⟩ := steady.read (by omega)
    rw [if_neg few, drainLoop_frame p core answers _ _ few whole]
    rw [steady.available (by decide)] at few
    obtain ⟨rounds, more⟩ : ∃ rounds, s.captureRing.head - s.captureRing.tail = rounds + 1 :=
      ⟨s.captureRing.head - s.captureRing.tail - 1, by omega⟩
    -- the frame leaves the ring alone, so the second pass finds less than a frame
    obtain ⟨_, ⟨⟨_, _, _, _, _, left⟩, _, _, _⟩, _⟩ :=
      handleFrame_frame p core (s.captureRing.read p.sizeBits 640).1 (answers 0)
        (s := { s with captureRing := (s.captureRing.read p.sizeBits 640).2 }) empty
    rw [more]
    generalize (handleFrame p core (s.captureRing.read p.sizeBits 640).1 (answers 0)).run
      { s with captureRing := (s.captureRing.read p.sizeBits 640).2 } = handled at left ⊢
    have rest : handled.state.captureRing.available < 640 := by
      have few := after.few
      rw [left, after.available (by decide)]
      omega
    obtain ⟨result, t, events⟩ := handled
    cases result with
    | error status => rfl
    | ok _ =>
      rw [andThen_ok, drainLoop_done p core answers _ _ rest]
      simp

end Drain

end Supervisor

end Assistantd
