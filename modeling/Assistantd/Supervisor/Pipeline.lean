import Assistantd.Supervisor.System

/-! supervisor.c -/
namespace Assistantd.Supervisor

open Calls
open CText (CString ascii)

variable {κ : Type}

/-- `ASSISTANTD_SUPERVISOR_LLM_FALLBACK_TEXT` -/
def fallbackText : List UInt8 := ascii "I'm having trouble right now. Please try again in a moment."

def resetUtterance : SupervisorCall κ Unit :=
  modify fun s => { s with utteranceMetadata := { s.utteranceMetadata with size := 0 } }

/-- `new_capacity *= 2` until it holds `required`, none where doubling would
wrap. `w + 1` rounds always get there from a positive capacity. -/
def growCapacity (w required : Nat) (capacity : Nat) : Option Nat :=
  go (w + 1) capacity
where
  go : Nat → Nat → Option Nat
  | 0, _ => none
  | rounds + 1, capacity =>
    if capacity < required then
      if capacity > (2 ^ w - 1) / 2 then none else go rounds (2 * capacity)
    else some capacity

/-- `realloc`: the old block goes and a new one has its content. -/
def resizeUtterance (capacity : Nat) (realloc : Bool) : SupervisorCall κ Unit := do
  match ← allocate realloc with
  | none => fail .errIo
  | some addr =>
    let s ← get
    emits (pcmTouch .release s.utteranceMetadata)
    emit (.utterance .acquire addr)
    modify fun s => { s with utteranceMetadata := s.utteranceMetadata.resize addr capacity }

def storePcm (pcm : List UInt8) : SupervisorCall κ Unit := do
  let s ← get
  emits (pcmTouch .use s.utteranceMetadata)
  modify fun s => { s with utteranceMetadata := s.utteranceMetadata.store pcm }

def ensureCapacity (p : Platform) (required : Nat) (realloc : Bool) : SupervisorCall κ Unit := do
  let s ← get
  let capacity := s.utteranceMetadata.capacity
  if required > capacity then
    match growCapacity p.sizeBits required (if capacity = 0 then 10240 else capacity) with
    | none => fail .errIo
    | some newCapacity => resizeUtterance newCapacity realloc
  else pure ()

def appendUtterancePcm (p : Platform) (pcm : List UInt8) (realloc : Bool) :
    SupervisorCall κ Unit := do
  failIf (pcm = []) .errInvalidArgument
  let s ← get
  failIf (s.utteranceMetadata.size > 2 ^ p.sizeBits - 1 - pcm.length) .errIo
  ensureCapacity p (s.utteranceMetadata.size + pcm.length) realloc
  storePcm pcm

/-- The loop of `discard_queued_artifacts`, as often as there are entries. -/
def discardArtifacts (unlinks : Nat → Bool) : Nat → SupervisorCall κ Unit
  | 0 => pure ()
  | left + 1 => do
    let s ← get
    match s.artifactQueue.dequeue with
    | (none, _) => pure ()
    | (some artifact, artifactQueue) =>
      modify fun s => { s with artifactQueue }
      emit (.artifactTaken artifact)
      doIf (artifact.wavPath.isEmpty = false) (emit (.unlink artifact.wavPath (unlinks left)))
      discardArtifacts unlinks left

def discardQueuedArtifacts (unlinks : Nat → Bool) : SupervisorCall κ Unit := do
  let s ← get
  discardArtifacts unlinks s.artifactQueue.size

def discardResponses : Nat → SupervisorCall κ Unit
  | 0 => pure ()
  | left + 1 => do
    let s ← get
    match s.llmResponseQueue.dequeue with
    | (none, _) => pure ()
    | (some response, llmResponseQueue) =>
      modify fun s => { s with llmResponseQueue }
      emit (.responseTaken response)
      discardResponses left

def discardQueuedLlmResponses : SupervisorCall κ Unit := do
  let s ← get
  discardResponses s.llmResponseQueue.size

def enqueueLlmResponse (sequenceId : UInt64) (responseText : List UInt8) (usedFallback : Int) :
    SupervisorCall κ Unit := do
  let queued : LlmResponse := ⟨sequenceId, usedFallback, .copy 8191 responseText⟩
  let s ← get
  match s.llmResponseQueue.enqueue queued with
  | (false, _) => emit (.responseDropped queued)
  | (true, llmResponseQueue) =>
    modify fun s => { s with llmResponseQueue }
    emit (.responseQueued queued)

def artifactPath (config : Config) (sequenceId : UInt64) : List UInt8 :=
  config.runtimeDir.bytes ++ ascii "/utterance-" ++ CText.zeroPadded 20 sequenceId.toNat ++
    ascii ".wav"

def buildArtifactPath (sequenceId : UInt64) : SupervisorCall κ (CString 511) := do
  let s ← get
  failIf ((artifactPath s.config sequenceId).length ≥ 512) .errIo
  pure (.copy 511 (artifactPath s.config sequenceId))

def writeWavFile (sequenceId : UInt64) (wavPath : CString 511) (pcm : List UInt8)
    (answers : FrameAnswers) : SupervisorCall κ Unit := do
  failIf (pcm.length % 2 ≠ 0) .errInvalidArgument
  emit (.wav sequenceId wavPath pcm answers.wav)
  doIf (answers.wav = .incomplete) (emit (.unlink wavPath answers.unlink))
  failIf (answers.wav ≠ .written) .errIo

def queueArtifact (artifact : Artifact) (answers : FrameAnswers) : SupervisorCall κ Unit := do
  let s ← get
  match s.artifactQueue.enqueue artifact with
  | (false, _) =>
    emit (.artifactDropped artifact)
    emit (.unlink artifact.wavPath answers.unlink)
  | (true, artifactQueue) =>
    modify fun s => { s with artifactQueue }
    emit (.artifactQueued artifact)

/-- The part of `finalize_utterance` for an utterance that is there. -/
def persistUtterance (pcm : List UInt8) (answers : FrameAnswers) : SupervisorCall κ Unit := do
  let s ← get
  let sequenceId := s.nextArtifactSequenceId
  modify fun s => { s with nextArtifactSequenceId := sequenceId + 1 }
  emit (.finalized sequenceId)
  let wavPath ← onError (buildArtifactPath sequenceId) resetUtterance
  onError (writeWavFile sequenceId wavPath pcm answers) resetUtterance
  queueArtifact ⟨sequenceId, pcm.length, wavPath⟩ answers
  resetUtterance

def finalizeUtterance (answers : FrameAnswers) : SupervisorCall κ Unit := do
  let s ← get
  if s.utteranceMetadata.size = 0 ∨ s.utteranceMetadata.pcm.isNone = true then resetUtterance
  else
    emits (pcmTouch .use s.utteranceMetadata)
    persistUtterance s.utteranceMetadata.contents answers

/-- What the drain loop does about a frame's event. -/
def collectFrame (p : Platform) (frame : List UInt8) (event : VadEvent) (wasActive : Bool)
    (answers : FrameAnswers) : SupervisorCall κ Unit := do
  doIf (event = .speechStart) resetUtterance
  doIf (event = .speechStart ∨ event = .speechContinue ∧ wasActive = true ∨
      event = .speechEnd ∧ wasActive = true)
    (appendUtterancePcm p frame answers.realloc)
  doIf (event = .speechEnd) (finalizeUtterance answers)

/-- One pass of the drain loop, behind the read. -/
def handleFrame (p : Platform) (core : VadCore κ) (frame : List UInt8) (answers : FrameAnswers) :
    SupervisorCall κ Unit := do
  let s ← get
  emit (.frame frame)
  let event ← onVad (VadDetector.processFrame core (some frame) 320 20 true)
  collectFrame p frame event s.vad.speechActive answers

/-- The drain loop. Each pass moves the tail, so `rounds` can be bounded by the
counters' distance. -/
def drainLoop (p : Platform) (core : VadCore κ) (answers : Nat → FrameAnswers) :
    (rounds index : Nat) → SupervisorCall κ Unit
  | 0, _ => pure ()
  | rounds + 1, index => do
    let s ← get
    if s.captureRing.available < 640 then pure ()
    else
      let frame ← ringRead p 640
      if frame.length ≠ 640 then
        emit .shortFrame
        fail .errIo
      else
        handleFrame p core frame (answers index)
        drainLoop p core answers rounds (index + 1)

def drainCaptureRingIntoVad (p : Platform) (core : VadCore κ) (answers : Nat → FrameAnswers) :
    SupervisorCall κ Unit := do
  let s ← get
  drainLoop p core answers (s.captureRing.head - s.captureRing.tail + 1) 0

def takeArtifact : SupervisorCall κ (Option Artifact) := do
  let s ← get
  match s.artifactQueue.dequeue with
  | (none, _) => pure none
  | (some artifact, artifactQueue) =>
    modify fun s => { s with artifactQueue }
    emit (.artifactTaken artifact)
    pure (some artifact)

/-- What is queued for an utterance, by what `llm_generate` returned. -/
def queueAnswer (sequenceId : UInt64) (generated : Except Status (CString 8191)) :
    SupervisorCall κ Unit :=
  match generated with
  | .error _ => enqueueLlmResponse sequenceId fallbackText 1
  | .ok response => enqueueLlmResponse sequenceId response.bytes 0

/-- The part of `process_stt_queue` behind a successful STT call. -/
def answer (p : Platform) (artifact : Artifact) (transcript : CString 4095)
    (answers : RunAnswers p) : SupervisorCall κ Unit := do
  doIf (artifact.wavPath.isEmpty = false) (emit (.unlink artifact.wavPath answers.unlink))
  let generated ← attempt (generate p transcript.bytes answers.llm)
  emit (.generated artifact.sequenceId generated)
  queueAnswer artifact.sequenceId generated

def processSttQueue (p : Platform) (answers : RunAnswers p) : SupervisorCall κ Unit := do
  match ← takeArtifact with
  | none => pure ()
  | some artifact =>
    let transcribed ← attempt (transcribe p artifact.wavPath answers.stt)
    emit (.transcribed artifact transcribed)
    match transcribed with
    | .error status => fail status
    | .ok transcript => answer p artifact transcript answers

def drainLlmResponseQueue : SupervisorCall κ Unit := do
  let s ← get
  match s.llmResponseQueue.dequeue with
  | (none, _) => pure ()
  | (some response, llmResponseQueue) =>
    modify fun s => { s with llmResponseQueue }
    emit (.responseTaken response)

def initVad (core : VadCore κ) (malloc : Bool) : SupervisorCall κ Unit := do
  let s ← get
  let fvad ← allocate malloc
  onVad (VadDetector.init core s.config fvad)

def initStt (curl : Bool) : SupervisorCall κ Unit := do
  let s ← get
  let curl ← allocate curl
  onStt (SttAdapter.init s.config curl)

def initLlm (promptFile : Option LlmAdapter.PromptFile) (curl : Bool) :
    SupervisorCall κ Unit := do
  let s ← get
  let curl ← allocate curl
  onLlm (LlmAdapter.init s.config promptFile curl)

def initRing (calloc : Bool) : SupervisorCall κ Unit := do
  let s ← get
  let calloc ← allocate calloc
  let (status, captureRing) := s.captureRing.init 64000 calloc
  modify fun s => { s with captureRing }
  if status = .ok then emits (ringTouch .acquire captureRing) else fail status

def initQueues : SupervisorCall κ Unit :=
  modify fun s => { s with
    artifactQueue := ArtifactQueue.init, llmResponseQueue := LlmResponseQueue.init }

def initializeModules (core : VadCore κ) (answers : StartAnswers) : SupervisorCall κ Unit := do
  resetUtterance
  initQueues
  initVad core answers.fvad
  initStt answers.sttCurl
  initLlm answers.promptFile answers.llmCurl
  onTts TtsAdapter.init
  initRing answers.ring

def freeRing : SupervisorCall κ Unit := do
  let s ← get
  emits (ringTouch .release s.captureRing)
  modify fun s => { s with captureRing := s.captureRing.free }

def freeUtterance : SupervisorCall κ Unit := do
  let s ← get
  emits (pcmTouch .release s.utteranceMetadata)
  modify fun s => { s with utteranceMetadata := ⟨none, 0, 0⟩, nextArtifactSequenceId := 0 }

def shutdownModules (answers : StopAnswers) : SupervisorCall κ Unit := do
  let _ ← onCapture (AudioCapture.stop answers.capture)
  freeRing
  discardQueuedArtifacts answers.unlinks
  discardQueuedLlmResponses
  freeUtterance
  onVad VadDetector.shutdown
  onStt SttAdapter.shutdown
  onLlm LlmAdapter.shutdown
  onTts TtsAdapter.shutdown

/-- `assistantd_supervisor_init`, on a process that has allocated nothing yet. -/
def init (config : Config) : System κ where
  state := .ready
  config
  capture := .zeroed
  captureRing := .zeroed
  vad := .zeroed
  stt := .zeroed
  llm := .zeroed
  tts := .zeroed
  utteranceMetadata := ⟨none, 0, 0⟩
  artifactQueue := ArtifactQueue.init
  llmResponseQueue := LlmResponseQueue.init
  nextArtifactSequenceId := 0
  nextAddr := 0
  shutdownRequested := false

def start (core : VadCore κ) (answers : StartAnswers) : SupervisorCall κ Unit := do
  let s ← get
  failIf (s.state ≠ .ready) .errInvalidArgument
  onError (initializeModules core answers) (shutdownModules answers.cleanup)
  modify fun s => { s with state := .running }

/-- The capture part of `run_once`: what was read this time. -/
def readCapture {p : Platform} (answers : RunAnswers p) : SupervisorCall κ (List UInt8) := do
  let s ← get
  doIf (s.capture.active = false)
    (onCapture (AudioCapture.start s.config answers.captureStart))
  onCapture (AudioCapture.read 640 answers.captureRead)

def bufferCapture (p : Platform) (chunk : List UInt8) : SupervisorCall κ Unit := do
  let written ← ringWrite p chunk
  doIf (written < chunk.length) (emit (.ringOverflow (chunk.length - written)))

def runOnce (p : Platform) (core : VadCore κ) (answers : RunAnswers p) : SupervisorCall κ Unit := do
  let s ← get
  failIf (s.state ≠ .running) .errInvalidArgument
  let chunk ← readCapture answers
  doIf (chunk ≠ []) (bufferCapture p chunk)
  drainCaptureRingIntoVad p core answers.frames
  processSttQueue p answers
  drainLlmResponseQueue

def stop (answers : StopAnswers) : SupervisorCall κ Unit := do
  modify fun s => { s with state := .stopping }
  shutdownModules answers
  modify fun s => { s with state := .stopped }

end Assistantd.Supervisor
