import Assistantd.Supervisor.Stages

/-! One call of run_once: what it hears, and how it replies. -/
namespace Assistantd.Supervisor

open Calls
open CText (CString)

variable {κ : Type}

/-- Between two ticks of a running supervisor nothing waits anywhere, apart from
less than a frame in the ring. -/
structure Quiet (p : Platform) (s : System κ) : Prop where
  running : s.state = .running
  ring : s.captureRing.Steady p.sizeBits 640
  artifacts : SlotQueue.Stores 16 s.artifactQueue []
  responses : SlotQueue.Stores 16 s.llmResponseQueue []

/-- The first half of `run_once`: from the capture to the artifact queue. -/
def listen (p : Platform) (core : VadCore κ) (answers : RunAnswers p) : SupervisorCall κ Unit := do
  let chunk ← readCapture answers
  doIf (chunk ≠ []) (bufferCapture p chunk)
  drainCaptureRingIntoVad p core answers.frames

/-- The second half: from the artifact queue to the response queue, and out of it. -/
def respond (p : Platform) (answers : RunAnswers p) : SupervisorCall κ Unit := do
  processSttQueue p answers
  drainLlmResponseQueue

theorem runOnce_run (p : Platform) (core : VadCore κ) (answers : RunAnswers p) {s : System κ}
    (running : s.state = .running) :
    (runOnce p core answers).run s =
      ((listen p core answers).run s).andThen fun _ => respond p answers := by
  have halves : (runOnce p core answers).run s =
      (listen p core answers >>= fun _ => respond p answers).run s := by
    simp only [runOnce, run_bind, run_get, andThen_ok, after_nil, run_failIf, running, ne_eq,
      not_true_eq_false, if_false, listen, respond, bind_bind]
  exact halves

/-! ## Listening -/

/-- The bytes a call's capture read delivers. -/
def delivered {p : Platform} (answers : RunAnswers p) (s : System κ) : List UInt8 :=
  match ((readCapture answers).run s).result with
  | .ok chunk => chunk
  | .error _ => []

/-- The ring with the bytes delivered in it. -/
def filled {p : Platform} (answers : RunAnswers p) (s : System κ) : RingBuffer :=
  (s.captureRing.write p.sizeBits (delivered answers s)).2

/-- The capture process behind a call. -/
def captureAfter {p : Platform} (answers : RunAnswers p) (s : System κ) : AudioCapture :=
  ((readCapture answers).run s).state.capture

theorem delivered_short {p : Platform} (answers : RunAnswers p) (s : System κ) :
    (delivered answers s).length ≤ 640 := by
  obtain ⟨result, _, _, read, bounded⟩ := readCapture_run answers s
  unfold delivered
  rw [read]
  cases result with
  | ok chunk => exact bounded chunk rfl
  | error _ => exact Nat.zero_le _

theorem filled_steady {p : Platform} (answers : RunAnswers p) {s : System κ}
    (quiet : Quiet p s) : (filled answers s).Steady p.sizeBits 1280 :=
  (quiet.ring.write p.wide (delivered_short answers s)).2

/-- Listening ends with the handling of a frame, if there is one. Only where
there is none can the capture have failed. -/
theorem listen_run (p : Platform) (core : VadCore κ) (answers : RunAnswers p) {s : System κ}
    (quiet : Quiet p s) : ∃ events : List Event,
    stages events = wrote (delivered answers s) ∧
    if (filled answers s).available < 640 then
      ∃ result, (listen p core answers).run s =
        ⟨result, { s with
          capture := captureAfter answers s
          captureRing := filled answers s }, events⟩
    else
      (listen p core answers).run s =
        ((handleFrame p core ((filled answers s).read p.sizeBits 640).1 (answers.frames 0)).run
          { s with
            capture := captureAfter answers s
            captureRing := ((filled answers s).read p.sizeBits 640).2 }).after
          (events ++ (ringTouch .use (filled answers s) ++ [.ringRead 640])) := by
  obtain ⟨result, capture, calls, read, bounded⟩ := readCapture_run answers s
  have captured : captureAfter answers s = capture := by rw [captureAfter, read]
  rw [captured]
  cases result with
  | error status =>
    have nothing : delivered answers s = [] := by rw [delivered, read]
    have same : filled answers s = s.captureRing := by rw [filled, nothing, RingBuffer.write_nil]
    have few : (filled answers s).available < 640 := by
      have few := quiet.ring.few
      rw [same, quiet.ring.available (by decide)]
      omega
    refine ⟨calls.map .capture, by simp [nothing, wrote], ?_⟩
    rw [if_pos few]
    exact ⟨.error status, by simp [listen, read, same]⟩
  | ok chunk =>
    have heard : delivered answers s = chunk := by rw [delivered, read]
    obtain ⟨events, buffered, told⟩ := bufferCapture_run (s := { s with capture }) quiet.ring
      (bounded chunk rfl)
    have drained := drainCaptureRingIntoVad_run p core answers.frames
      (s := { s with capture, captureRing := filled answers s }) quiet.artifacts
      (filled_steady answers quiet)
    refine ⟨calls.map .capture ++ events, by simp [told, heard], ?_⟩
    have stages : (listen p core answers).run s = ((drainCaptureRingIntoVad p core
        answers.frames).run { s with capture, captureRing := filled answers s }).after
        (calls.map .capture ++ events) := by
      rw [filled, heard]
      simp only [listen, run_bind, read, andThen_ok, buffered, after_after]
    rw [stages, drained]
    split
    · exact ⟨.ok (), by simp⟩
    · simp

/-! ## Replying -/

theorem transcribe_run (p : Platform) (wavPath : CString 511)
    (answers : SttAdapter.Answers p.sizeBits) (s : System κ) :
    ∃ (result : Except Status (CString 4095)) (calls : List HttpEvent),
      (transcribe p wavPath answers).run s = ⟨result, s, calls.map .stt⟩ ∧
      ∀ e ∈ calls, s.stt.Permits e := by
  obtain ⟨same, permitted⟩ := SttAdapter.transcribe_confined s.stt p wavPath answers
    ⟨s.stt, .empty 4095⟩ [] ⟨rfl, List.forall_mem_nil _⟩
  generalize called : (SttAdapter.transcribe p wavPath answers).run ⟨s.stt, .empty 4095⟩ = o
    at same permitted
  obtain ⟨result, ⟨adapter, transcript⟩, calls⟩ := o
  obtain rfl : adapter = s.stt := same
  cases result with
  | ok _ => exact ⟨.ok transcript, calls, by simp [transcribe, called], permitted⟩
  | error status => exact ⟨.error status, calls, by simp [transcribe, called], permitted⟩

theorem generate_run (p : Platform) (prompt : List UInt8)
    (answers : LlmAdapter.Answers p.sizeBits) (s : System κ) :
    ∃ (result : Except Status (CString 8191)) (shutdownRequested : Bool) (calls : List HttpEvent),
      (generate p prompt answers).run s =
        ⟨result, { s with shutdownRequested }, calls.map .llm⟩ ∧
      ∀ e ∈ calls, s.llm.Permits e := by
  obtain ⟨same, permitted⟩ := LlmAdapter.generate_confined s.llm p prompt answers
    ⟨s.llm, .empty 8191, s.shutdownRequested⟩ [] ⟨rfl, List.forall_mem_nil _⟩
  generalize called : (LlmAdapter.generate p prompt answers).run
    ⟨s.llm, .empty 8191, s.shutdownRequested⟩ = o at same permitted
  obtain ⟨result, ⟨adapter, response, requested⟩, calls⟩ := o
  obtain rfl : adapter = s.llm := same
  cases result with
  | ok _ => exact ⟨.ok response, requested, calls, by simp [generate, called], permitted⟩
  | error status =>
    exact ⟨.error status, requested, calls, by simp [generate, called], permitted⟩

/-- The response queued for an utterance, by what `llm_generate` returned. -/
def response (sequenceId : UInt64) : Except Status (CString 8191) → LlmResponse
  | .error _ => ⟨sequenceId, 1, .copy 8191 fallbackText⟩
  | .ok text => ⟨sequenceId, 0, text⟩

/-- What becomes of a queued utterance, with the HTTP traffic on the way. -/
inductive Reply where
  | failed (stt : List HttpEvent) (status : Status)
  | answered (stt : List HttpEvent) (transcript : CString 4095) (removed : Bool)
      (llm : List HttpEvent) (generated : Except Status (CString 8191))

def Reply.events (artifact : Artifact) : Reply → List Event
  | .failed stt status =>
    .artifactTaken artifact :: (stt.map .stt ++ [.transcribed artifact (.error status)])
  | .answered stt transcript removed llm generated =>
    .artifactTaken artifact :: (stt.map .stt ++ [.transcribed artifact (.ok transcript),
      .unlink artifact.wavPath removed] ++ llm.map .llm ++
      [.generated artifact.sequenceId generated,
        .responseQueued (response artifact.sequenceId generated),
        .responseTaken (response artifact.sequenceId generated)])

def Reply.result : Reply → Except Status Unit
  | .failed _ status => .error status
  | .answered .. => .ok ()

/-- The traffic is what the two adapters may cause, the removal what `unlink` returned. -/
def Reply.Permitted (stt : SttAdapter) (llm : LlmAdapter) (unlink : Bool) : Reply → Prop
  | .failed calls _ => ∀ e ∈ calls, stt.Permits e
  | .answered calls _ removed calls' _ =>
    (∀ e ∈ calls, stt.Permits e) ∧ removed = unlink ∧ ∀ e ∈ calls', llm.Permits e

theorem queueAnswer_run (sequenceId : UInt64) (generated : Except Status (CString 8191))
    {s : System κ} (clear : SlotQueue.Stores 16 s.llmResponseQueue []) :
    ∃ llmResponseQueue,
      (queueAnswer sequenceId generated).run s =
        ⟨.ok (), { s with llmResponseQueue }, [.responseQueued (response sequenceId generated)]⟩ ∧
      SlotQueue.Stores 16 llmResponseQueue [response sequenceId generated] := by
  obtain ⟨accepted, stored⟩ := clear.enqueue (by decide) (response sequenceId generated)
  refine ⟨(s.llmResponseQueue.enqueue (response sequenceId generated)).2, ?_, stored⟩
  have room : s.llmResponseQueue.enqueue (response sequenceId generated) =
      (true, (s.llmResponseQueue.enqueue (response sequenceId generated)).2) :=
    Prod.ext accepted rfl
  cases generated with
  | error status =>
    simp only [queueAnswer, enqueueLlmResponse, run_bind, run_get, andThen_ok, after_nil]
    rw [show (⟨sequenceId, 1, .copy 8191 fallbackText⟩ : LlmResponse) =
      response sequenceId (.error status) from rfl, room]
    rfl
  | ok text =>
    simp only [queueAnswer, enqueueLlmResponse, run_bind, run_get, andThen_ok, after_nil, CString.copy_self]
    rw [show (⟨sequenceId, 0, text⟩ : LlmResponse) = response sequenceId (.ok text) from rfl, room]
    rfl

theorem drainLlmResponseQueue_run {s : System κ} {r : LlmResponse}
    (waiting : SlotQueue.Stores 16 s.llmResponseQueue [r]) : ∃ llmResponseQueue,
    drainLlmResponseQueue.run s = ⟨.ok (), { s with llmResponseQueue }, [.responseTaken r]⟩ ∧
    SlotQueue.Stores 16 llmResponseQueue [] := by
  obtain ⟨taken, rest⟩ := waiting.dequeue LlmResponseQueue.zero
  refine ⟨s.llmResponseQueue.dequeue.2, ?_, rest⟩
  have first : s.llmResponseQueue.dequeue = (some r, s.llmResponseQueue.dequeue.2) :=
    Prod.ext taken rfl
  simp only [drainLlmResponseQueue, run_bind, run_get, andThen_ok, after_nil]
  rw [first]
  rfl

theorem drainLlmResponseQueue_idle {s : System κ}
    (clear : SlotQueue.Stores 16 s.llmResponseQueue []) :
    drainLlmResponseQueue.run s = ⟨.ok (), s, []⟩ := by
  have nothing : s.llmResponseQueue.dequeue = (none, s.llmResponseQueue) := clear.empty _
  simp only [drainLlmResponseQueue, run_bind, run_get, andThen_ok, after_nil, nothing, run_pure]

theorem takeArtifact_run {s : System κ} {artifact : Artifact}
    (waiting : SlotQueue.Stores 16 s.artifactQueue [artifact]) : ∃ artifactQueue,
    takeArtifact.run s =
      ⟨.ok (some artifact), { s with artifactQueue }, [.artifactTaken artifact]⟩ ∧
    SlotQueue.Stores 16 artifactQueue [] := by
  obtain ⟨taken, rest⟩ := waiting.dequeue ArtifactQueue.zero
  refine ⟨s.artifactQueue.dequeue.2, ?_, rest⟩
  have first : s.artifactQueue.dequeue = (some artifact, s.artifactQueue.dequeue.2) :=
    Prod.ext taken rfl
  simp only [takeArtifact, run_bind, run_get, andThen_ok, after_nil]
  rw [first]
  rfl

theorem answer_run (p : Platform) {artifact : Artifact} (named : artifact.wavPath.isEmpty = false)
    (transcript : CString 4095) (answers : RunAnswers p) {s : System κ}
    (clear : SlotQueue.Stores 16 s.llmResponseQueue []) :
    ∃ (generated : Except Status (CString 8191)) (calls : List HttpEvent) (shutdownRequested : Bool)
      (llmResponseQueue : LlmResponseQueue),
      (answer p artifact transcript answers).run s =
        ⟨.ok (), { s with shutdownRequested, llmResponseQueue },
          .unlink artifact.wavPath answers.unlink :: (calls.map .llm ++
            [.generated artifact.sequenceId generated,
              .responseQueued (response artifact.sequenceId generated)])⟩ ∧
      SlotQueue.Stores 16 llmResponseQueue [response artifact.sequenceId generated] ∧
      ∀ e ∈ calls, s.llm.Permits e := by
  obtain ⟨generated, shutdownRequested, calls, asked, permitted⟩ :=
    generate_run p transcript.bytes answers.llm s
  obtain ⟨llmResponseQueue, queued, stored⟩ := queueAnswer_run artifact.sequenceId
    generated (s := { s with shutdownRequested }) clear
  refine ⟨generated, calls, shutdownRequested, llmResponseQueue, ?_, stored, permitted⟩
  simp only [answer, run_bind, run_doIf, named, if_true, run_emit, andThen_ok, run_attempt, asked]
  rw [queued]
  simp

theorem respond_idle (p : Platform) (answers : RunAnswers p) {s : System κ}
    (empty : SlotQueue.Stores 16 s.artifactQueue [])
    (clear : SlotQueue.Stores 16 s.llmResponseQueue []) :
    (respond p answers).run s = ⟨.ok (), s, []⟩ := by
  have nothing : s.artifactQueue.dequeue = (none, s.artifactQueue) := empty.empty _
  have taken : takeArtifact.run s = ⟨.ok none, s, []⟩ := by
    simp only [takeArtifact, run_bind, run_get, andThen_ok, after_nil, nothing, run_pure]
  simp only [respond, processSttQueue, run_bind, taken, andThen_ok, after_nil, run_pure,
    drainLlmResponseQueue_idle clear]

/-- A queued utterance is transcribed and answered, and the answer taken out
again, unless the transcription fails. -/
theorem respond_run (p : Platform) (answers : RunAnswers p) {s : System κ} {artifact : Artifact}
    (waiting : SlotQueue.Stores 16 s.artifactQueue [artifact])
    (named : artifact.wavPath.isEmpty = false)
    (clear : SlotQueue.Stores 16 s.llmResponseQueue []) :
    ∃ (reply : Reply) (artifactQueue : ArtifactQueue) (llmResponseQueue : LlmResponseQueue)
      (shutdownRequested : Bool),
      (respond p answers).run s =
        ⟨reply.result, { s with artifactQueue, llmResponseQueue, shutdownRequested },
          reply.events artifact⟩ ∧
      SlotQueue.Stores 16 artifactQueue [] ∧ SlotQueue.Stores 16 llmResponseQueue [] ∧
      reply.Permitted s.stt s.llm answers.unlink := by
  obtain ⟨artifactQueue, taken, empty⟩ := takeArtifact_run waiting
  obtain ⟨transcribed, stt, heard, permitted⟩ := transcribe_run p artifact.wavPath answers.stt
    { s with artifactQueue }
  cases transcribed with
  | error status =>
    refine ⟨.failed stt status, artifactQueue, s.llmResponseQueue, s.shutdownRequested, ?_, empty,
      clear, permitted⟩
    simp [respond, processSttQueue, taken, heard, Reply.result, Reply.events]
  | ok transcript =>
    obtain ⟨generated, llm, shutdownRequested, responses, answered, stored, allowed⟩ :=
      answer_run p named transcript answers (s := { s with artifactQueue }) clear
    obtain ⟨llmResponseQueue, drained, done⟩ := drainLlmResponseQueue_run
      (s := { s with artifactQueue, shutdownRequested, llmResponseQueue := responses }) stored
    refine ⟨.answered stt transcript answers.unlink llm generated, artifactQueue, llmResponseQueue,
      shutdownRequested, ?_, empty, done, permitted, rfl, allowed⟩
    simp [respond, processSttQueue, taken, heard, answered, drained, Reply.result, Reply.events]

/-! ## A whole call -/

/-- The events of the capture and the ring. -/
def arrived {p : Platform} (answers : RunAnswers p) (s : System κ) : List Event :=
  wrote (delivered answers s) ++
    if (filled answers s).available < 640 then []
    else [.ringRead 640, .frame ((filled answers s).read p.sizeBits 640).1]

/-- Those, with what becomes of the frame's utterance. -/
def heard {p : Platform} (answers : RunAnswers p) (s : System κ) (product : Product) : List Event :=
  arrived answers s ++ product.events

/-- The ring behind a call. -/
def emptied {p : Platform} (answers : RunAnswers p) (s : System κ) : RingBuffer :=
  if (filled answers s).available < 640 then filled answers s
  else ((filled answers s).read p.sizeBits 640).2

/-- The events of a call, without those of single stages: an utterance that
reached the queue is replied to at once. -/
inductive Course (p : Platform) (answers : RunAnswers p) (s : System κ)
    (o : Outcome (System κ) Event Status Unit) : Prop where
  | unanswered (product : Product) : product.artifacts = [] →
      Yield s.config s.nextArtifactSequenceId (answers.frames 0) product o.result
        o.state.nextArtifactSequenceId →
      stages o.events = heard answers s product → Course p answers s o
  | answered (artifact : Artifact) (pcm : List UInt8) (reply : Reply) :
      Yield s.config s.nextArtifactSequenceId (answers.frames 0) (.queued artifact pcm) (.ok ())
        o.state.nextArtifactSequenceId →
      stages o.events = heard answers s (.queued artifact pcm) ++ reply.events artifact →
      o.result = reply.result → reply.Permitted s.stt s.llm answers.unlink → Course p answers s o

structure Tick (p : Platform) (answers : RunAnswers p) (s : System κ)
    (o : Outcome (System κ) Event Status Unit) : Prop where
  quiet : Quiet p o.state
  capture : o.state.capture = captureAfter answers s
  ring : o.state.captureRing = emptied answers s
  config : o.state.config = s.config
  stt : o.state.stt = s.stt
  llm : o.state.llm = s.llm
  backend : o.state.vad.backend.map Fvad.addr = s.vad.backend.map Fvad.addr
  course : Course p answers s o

theorem emptied_steady {p : Platform} (answers : RunAnswers p) {s : System κ}
    (quiet : Quiet p s) : (emptied answers s).Steady p.sizeBits 640 := by
  have steady := filled_steady answers quiet
  unfold emptied
  split
  · rename_i few
    exact steady.strengthen few
  · rename_i enough
    exact (steady.read (by omega)).2

theorem Reply.stages_events (reply : Reply) (artifact : Artifact) :
    stages (reply.events artifact) = reply.events artifact := by
  cases reply <;> simp [Reply.events, Event.isStage]

theorem Yield.named {config : Config} {id id' : UInt64} {answers : FrameAnswers}
    {artifact : Artifact} {pcm : List UInt8} {result : Except Status Unit}
    (h : Yield config id answers (.queued artifact pcm) result id') :
    artifact.wavPath.isEmpty = false := by
  cases h with
  | queued _ _ fits => exact artifactPath_named fits

theorem Yield.done {config : Config} {id id' : UInt64} {answers : FrameAnswers}
    {artifact : Artifact} {pcm : List UInt8} {result : Except Status Unit}
    (h : Yield config id answers (.queued artifact pcm) result id') : result = .ok () := by
  cases h
  rfl

/-- The part of a state that listening may change. -/
def Left {p : Platform} (answers : RunAnswers p) (s t : System κ) : Prop :=
  ∃ vad utteranceMetadata nextAddr nextArtifactSequenceId artifactQueue,
    vad.backend.map Fvad.addr = s.vad.backend.map Fvad.addr ∧
    t = { s with
      vad, utteranceMetadata, nextAddr, nextArtifactSequenceId, artifactQueue,
      capture := captureAfter answers s
      captureRing := emptied answers s }

/-- Where nothing was queued the call is over. -/
theorem tick_unanswered (p : Platform) (answers : RunAnswers p) {s t : System κ}
    (quiet : Quiet p s) {result : Except Status Unit} {events : List Event} {product : Product}
    (left : Left answers s t) (stored : SlotQueue.Stores 16 t.artifactQueue product.artifacts)
    (yield : Yield s.config s.nextArtifactSequenceId (answers.frames 0) product result
      t.nextArtifactSequenceId)
    (told : stages events = heard answers s product) (nothing : product.artifacts = []) :
    Tick p answers s ((Outcome.mk result t events).andThen fun _ => respond p answers) := by
  rw [nothing] at stored
  have clear : SlotQueue.Stores 16 t.llmResponseQueue [] := by
    obtain ⟨_, _, _, _, _, _, rfl⟩ := left
    exact quiet.responses
  have ended : ((Outcome.mk result t events).andThen fun _ => respond p answers) =
      ⟨result, t, events⟩ := by
    cases result with
    | error _ => rfl
    | ok _ =>
      rw [andThen_ok, respond_idle p answers stored clear]
      simp
  rw [ended]
  obtain ⟨_, _, _, _, _, backend, rfl⟩ := left
  exact ⟨⟨quiet.running, emptied_steady answers quiet, stored, quiet.responses⟩, rfl, rfl, rfl, rfl,
    rfl, backend, .unanswered product nothing yield told⟩

theorem tick_answered (p : Platform) (answers : RunAnswers p) {s t : System κ}
    (quiet : Quiet p s) {events : List Event} {artifact : Artifact} {pcm : List UInt8}
    (left : Left answers s t) (stored : SlotQueue.Stores 16 t.artifactQueue [artifact])
    (yield : Yield s.config s.nextArtifactSequenceId (answers.frames 0) (.queued artifact pcm)
      (.ok ()) t.nextArtifactSequenceId)
    (told : stages events = heard answers s (.queued artifact pcm)) :
    Tick p answers s ((Outcome.mk (.ok ()) t events).andThen fun _ => respond p answers) := by
  obtain ⟨vad, m, nextAddr, id, queue, backend, rfl⟩ := left
  obtain ⟨reply, artifactQueue, llmResponseQueue, shutdownRequested, replied, empty, clear,
    permitted⟩ := respond_run p answers stored yield.named quiet.responses
  rw [andThen_ok, replied]
  refine ⟨⟨quiet.running, emptied_steady answers quiet, empty, clear⟩, rfl, rfl, rfl, rfl, rfl,
    backend, .answered artifact pcm reply yield ?_ rfl permitted⟩
  simp [told, reply.stages_events]

/-- What listening leaves is replied to; a failure on the way ends the call. -/
theorem tick_of_listen (p : Platform) (answers : RunAnswers p) {s : System κ}
    (quiet : Quiet p s) {o : Outcome (System κ) Event Status Unit} (product : Product)
    (left : Left answers s o.state)
    (stored : SlotQueue.Stores 16 o.state.artifactQueue product.artifacts)
    (yield : Yield s.config s.nextArtifactSequenceId (answers.frames 0) product o.result
      o.state.nextArtifactSequenceId)
    (told : stages o.events = heard answers s product) :
    Tick p answers s (o.andThen fun _ => respond p answers) := by
  obtain ⟨result, t, events⟩ := o
  cases product with
  | nothing => exact tick_unanswered p answers quiet left stored yield told rfl
  | refused => exact tick_unanswered p answers quiet left stored yield told rfl
  | unwritten => exact tick_unanswered p answers quiet left stored yield told rfl
  | queued artifact pcm =>
    obtain rfl : result = .ok () := yield.done
    exact tick_answered p answers quiet left stored yield told

/-- What a call has come to before it replies. -/
theorem listen_left (p : Platform) (core : VadCore κ) (answers : RunAnswers p) {s : System κ}
    (quiet : Quiet p s) :
    let o := (listen p core answers).run s
    ∃ product, Left answers s o.state ∧
      SlotQueue.Stores 16 o.state.artifactQueue product.artifacts ∧
      Yield s.config s.nextArtifactSequenceId (answers.frames 0) product o.result
        o.state.nextArtifactSequenceId ∧
      stages o.events = heard answers s product := by
  obtain ⟨events, told, listened⟩ := listen_run p core answers quiet
  by_cases few : (filled answers s).available < 640
  · rw [if_pos few] at listened
    obtain ⟨result, listened⟩ := listened
    rw [listened]
    refine ⟨.nothing, ?_, quiet.artifacts, .kept result, ?_⟩
    · exact ⟨s.vad, s.utteranceMetadata, s.nextAddr, s.nextArtifactSequenceId,
        s.artifactQueue, rfl, by simp only [emptied, if_pos few]⟩
    · simp [heard, arrived, told, few, Product.events]
  · rw [if_neg few] at listened
    obtain ⟨product, ⟨⟨vad, m, nextAddr, id, queue, left⟩, backend, stored, yield⟩, made⟩ :=
      handleFrame_frame p core ((filled answers s).read p.sizeBits 640).1 (answers.frames 0)
        (s := { s with
          capture := captureAfter answers s
          captureRing := ((filled answers s).read p.sizeBits 640).2 })
        quiet.artifacts
    rw [listened]
    refine ⟨product, ?_, stored, yield, ?_⟩
    · rw [left] at backend
      exact ⟨vad, m, nextAddr, id, queue, backend, by
        simp only [emptied, if_neg few, Outcome.after, left]⟩
    · simp [heard, arrived, told, few, made, Outcome.after, Event.isStage]

theorem runOnce_tick (p : Platform) (core : VadCore κ) (answers : RunAnswers p) {s : System κ}
    (quiet : Quiet p s) : Tick p answers s ((runOnce p core answers).run s) := by
  obtain ⟨product, left, stored, yield, told⟩ := listen_left p core answers quiet
  rw [runOnce_run p core answers quiet.running]
  exact tick_of_listen p answers quiet product left stored yield told

/-! ## What a reply leaves alone -/

section Settled

/-- An invariant that nothing behind the artifact queue can break. -/
structure Settled (I : List Event → System κ → Prop) : Prop where
  told : ∀ trace s e, e.isReply = true → I trace s → I (trace ++ [e]) s
  moved : ∀ trace s artifactQueue llmResponseQueue shutdownRequested, I trace s →
    I trace { s with artifactQueue, llmResponseQueue, shutdownRequested }

variable {p : Platform} {I : List Event → System κ → Prop} {s : System κ}

theorem Settled.tells (h : Settled I) {events : List Event} (reply : ∀ e ∈ events, e.isReply = true)
    {trace : List Event} (kept : I trace s) : I (trace ++ events) s := by
  induction events generalizing trace with
  | nil => rwa [List.append_nil]
  | cons e events ih =>
    obtain ⟨first, later⟩ := List.forall_mem_cons.mp reply
    rw [List.append_cons]
    exact ih later (h.told _ _ _ first kept)

theorem Settled.emit (h : Settled I) {e : Event} (reply : e.isReply = true) :
    Keeps I (emit e : SupervisorCall κ Unit) s :=
  keeps_emit fun _ kept => h.told _ _ _ reply kept

theorem Settled.modify (h : Settled I) (artifactQueue : System κ → ArtifactQueue)
    (llmResponseQueue : System κ → LlmResponseQueue) :
    Keeps I (modify fun s => { s with
      artifactQueue := artifactQueue s
      llmResponseQueue := llmResponseQueue s } : SupervisorCall κ Unit) s :=
  keeps_modify fun _ kept => h.moved _ _ _ _ s.shutdownRequested kept

theorem transcribe_settled (h : Settled I) (wavPath : CString 511)
    (answers : SttAdapter.Answers p.sizeBits) : Keeps I (transcribe p wavPath answers) s := by
  obtain ⟨result, calls, transcribed, _⟩ := transcribe_run p wavPath answers s
  intro trace kept
  rw [transcribed]
  exact h.tells (List.forall_mem_map.mpr fun _ _ => rfl) kept

theorem generate_settled (h : Settled I) (prompt : List UInt8)
    (answers : LlmAdapter.Answers p.sizeBits) : Keeps I (generate p prompt answers) s := by
  obtain ⟨result, shutdownRequested, calls, generated, _⟩ := generate_run p prompt answers s
  intro trace kept
  rw [generated]
  exact h.moved _ _ _ _ _ (h.tells (List.forall_mem_map.mpr fun _ _ => rfl) kept)

theorem queueAnswer_settled (h : Settled I) (sequenceId : UInt64)
    (generated : Except Status (CString 8191)) : Keeps I (queueAnswer sequenceId generated) s := by
  have queued : ∀ text usedFallback,
      Keeps I (enqueueLlmResponse sequenceId text usedFallback) s := by
    intro text usedFallback
    apply keeps_get
    split
    · exact h.emit rfl
    · exact keeps_bind (h.modify (fun s => s.artifactQueue) fun _ => _) fun _ _ => h.emit rfl
  cases generated with
  | error _ => exact queued _ _
  | ok _ => exact queued _ _

theorem respond_settled (h : Settled I) (answers : RunAnswers p) (s : System κ) :
    Keeps I (respond p answers) s := by
  have taken : Keeps I takeArtifact s := by
    apply keeps_get
    split
    · exact keeps_pure _
    · refine keeps_bind (h.modify (fun _ => _) fun s => s.llmResponseQueue) fun _ _ => ?_
      exact keeps_bind (h.emit rfl) fun _ _ => keeps_pure _
  have processed : Keeps I (processSttQueue p answers) s := by
    apply keeps_bind taken
    intro found _
    split
    · exact keeps_pure ()
    · apply keeps_bind (keeps_attempt (transcribe_settled h _ _))
      intro transcribed _
      apply keeps_bind (h.emit rfl)
      intro _ _
      split
      · exact keeps_fail _
      · apply keeps_bind (keeps_doIf fun _ => h.emit rfl)
        intro _ _
        apply keeps_bind (keeps_attempt (generate_settled h _ _))
        intro generated _
        exact keeps_bind (h.emit rfl) fun _ _ => queueAnswer_settled h _ _
  refine keeps_bind processed fun _ _ => keeps_get ?_
  split
  · exact keeps_pure _
  · exact keeps_bind (h.modify (fun s => s.artifactQueue) fun _ => _) fun _ _ => h.emit rfl

end Settled

end Assistantd.Supervisor
