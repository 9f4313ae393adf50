import Assistantd.Adapter.Llm
import Assistantd.Adapter.Stt
import Assistantd.Adapter.Tts
import Assistantd.Capture
import Assistantd.Queue
import Assistantd.Ring.Buffer
import Assistantd.Vad.Detector

/-! The supervisor's record, what its calls get from the system, and what they
do to it. -/
namespace Assistantd

open Calls
open CText (CString)

inductive SupervisorState where
  | init
  | ready
  | running
  | stopping
  | stopped
  deriving DecidableEq

structure UtteranceMetadata where
  pcm : Option Block
  size : Nat
  capacity : Nat

namespace UtteranceMetadata

def bytes (m : UtteranceMetadata) : Nat → UInt8 :=
  match m.pcm with
  | none => fun _ => 0
  | some data => data.bytes

/-- The PCM bytes collected so far. -/
def contents (m : UtteranceMetadata) : List UInt8 := Cells.slice m.bytes 0 m.size

/-- `memcpy` behind the bytes collected so far. -/
def store (m : UtteranceMetadata) (pcm : List UInt8) : UtteranceMetadata :=
  { m with
    pcm := m.pcm.map fun data => { data with bytes := Cells.copyIn data.bytes m.size pcm }
    size := m.size + pcm.length }

/-- A new block with the content of the old one. -/
def resize (m : UtteranceMetadata) (addr capacity : Nat) : UtteranceMetadata :=
  { m with pcm := some ⟨addr, m.bytes⟩, capacity }

end UtteranceMetadata

structure Supervisor (κ : Type) where
  state : SupervisorState
  config : Config
  capture : AudioCapture
  captureRing : RingBuffer
  vad : VadDetector κ
  stt : SttAdapter
  llm : LlmAdapter
  tts : TtsAdapter
  utteranceMetadata : UtteranceMetadata
  artifactQueue : ArtifactQueue
  llmResponseQueue : LlmResponseQueue
  nextArtifactSequenceId : UInt64

/-- The supervisor in its process. `nextAddr` names the next allocation, and
`shutdownRequested` is the flag of shutdown.c. -/
structure System (κ : Type) extends Supervisor κ where
  nextAddr : Nat
  shutdownRequested : Bool

/-! ## What the system answers -/

inductive WavResult where
  | notOpened
  | incomplete
  | written
  deriving DecidableEq

/-- `unlink` is for the file this frame's utterance went to, where it is removed at once. -/
structure FrameAnswers where
  realloc : Bool
  wav : WavResult
  unlink : Bool

structure StopAnswers where
  capture : AudioCapture.StopAnswers
  unlinks : Nat → Bool

/-- `cleanup` is for a start that fails. -/
structure StartAnswers where
  fvad : Bool
  sttCurl : Bool
  promptFile : Option LlmAdapter.PromptFile
  llmCurl : Bool
  ring : Bool
  cleanup : StopAnswers

/-- `frames i` is for frame `i` of the drain loop. -/
structure RunAnswers (p : Platform) where
  captureStart : AudioCapture.StartAnswers
  captureRead : AudioCapture.ReadAnswers
  frames : Nat → FrameAnswers
  stt : SttAdapter.Answers p.sizeBits
  unlink : Bool
  llm : LlmAdapter.Answers p.sizeBits

/-! ## What the supervisor does -/

inductive Event where
  | capture (call : AudioCapture.Sys)
  | vad (op : Ledger.Op) (addr : Nat)
  | stt (event : HttpEvent)
  | llm (event : HttpEvent)
  | ring (op : Ledger.Op) (addr : Nat)
  | utterance (op : Ledger.Op) (addr : Nat)
  | ringWrote (accepted : Nat)
  | ringRead (returned : Nat)
  | ringOverflow (dropped : Nat)
  | shortFrame
  | frame (pcm : List UInt8)
  | finalized (sequenceId : UInt64)
  | wav (sequenceId : UInt64) (path : CString 511) (pcm : List UInt8) (result : WavResult)
  | unlink (path : CString 511) (removed : Bool)
  | artifactQueued (artifact : Artifact)
  | artifactDropped (artifact : Artifact)
  | artifactTaken (artifact : Artifact)
  | transcribed (artifact : Artifact) (result : Except Status (CString 4095))
  | generated (sequenceId : UInt64) (result : Except Status (CString 8191))
  | responseQueued (response : LlmResponse)
  | responseDropped (response : LlmResponse)
  | responseTaken (response : LlmResponse)

abbrev SupervisorCall (κ α : Type) := Call (System κ) Event Status α

namespace Supervisor

variable {κ α : Type}

/-- A fresh address, if the allocation succeeds. -/
def allocate (succeeds : Bool) : SupervisorCall κ (Option Nat) := do
  let s ← get
  if succeeds then
    modify fun s => { s with nextAddr := s.nextAddr + 1 }
    pure (some s.nextAddr)
  else pure none

def onCapture (m : AudioCapture.CaptureCall α) : SupervisorCall κ α :=
  on (fun s => s.capture) (fun capture s => { s with capture }) Event.capture m

def onVad (m : VadDetector.VadCall κ α) : SupervisorCall κ α :=
  on (fun s => s.vad) (fun vad s => { s with vad }) (fun touch => Event.vad touch.1 touch.2) m

def onStt (m : SttAdapter.SttCall α) : SupervisorCall κ α :=
  on (fun s => s.stt) (fun stt s => { s with stt }) Event.stt m

def onLlm (m : LlmAdapter.LlmCall α) : SupervisorCall κ α :=
  on (fun s => s.llm) (fun llm s => { s with llm }) Event.llm m

def onTts (m : Call TtsAdapter Empty Status α) : SupervisorCall κ α :=
  on (fun s => s.tts) (fun tts s => { s with tts }) Empty.elim m

def transcribe (p : Platform) (wavPath : CString 511) (answers : SttAdapter.Answers p.sizeBits) :
    SupervisorCall κ (CString 4095) :=
  on (fun s => ⟨s.stt, .empty 4095⟩) (fun task s => { s with stt := task.adapter }) Event.stt do
    SttAdapter.transcribe p wavPath answers
    let task ← get
    pure task.transcript

def generate (p : Platform) (prompt : List UInt8) (answers : LlmAdapter.Answers p.sizeBits) :
    SupervisorCall κ (CString 8191) :=
  on (fun s => ⟨s.llm, .empty 8191, s.shutdownRequested⟩)
    (fun task s => { s with llm := task.adapter, shutdownRequested := task.shutdownRequested })
    Event.llm do
      LlmAdapter.generate p prompt answers
      let task ← get
      pure task.response

/-- The ring calls touch the ring's storage if there is any. -/
def ringTouch (op : Ledger.Op) (ring : RingBuffer) : List Event :=
  ring.data.toList.map fun data => .ring op data.addr

def pcmTouch (op : Ledger.Op) (m : UtteranceMetadata) : List Event :=
  m.pcm.toList.map fun data => .utterance op data.addr

def ringWrite (p : Platform) (input : List UInt8) : SupervisorCall κ Nat := do
  let s ← get
  emits (ringTouch .use s.captureRing)
  let (written, captureRing) := s.captureRing.write p.sizeBits input
  modify fun s => { s with captureRing }
  emit (.ringWrote written)
  pure written

def ringRead (p : Platform) (length : Nat) : SupervisorCall κ (List UInt8) := do
  let s ← get
  emits (ringTouch .use s.captureRing)
  let (output, captureRing) := s.captureRing.read p.sizeBits length
  modify fun s => { s with captureRing }
  emit (.ringRead output.length)
  pure output

end Supervisor

end Assistantd
