import Assistantd.Lib.Framing
import Assistantd.Supervisor.Lifecycle
import Assistantd.Vad.Stream

/-! Runs of run_once behind a start, and the bytes they hear. -/
namespace Assistantd.Supervisor

open Calls Framing
open CText (ascii)

variable {κ : Type}

/-- What a start that succeeded left, whatever calls came before it. -/
def Started (p : Platform) (core : VadCore κ) (config : Config) (s : System κ) : Prop :=
  ∃ (earlier : List (Api p)) (answers : StartAnswers),
    let o := (start core answers).run (play (call p core) (init config) earlier).1
    o.result = .ok () ∧ o.state = s

theorem Started.begun {p : Platform} {core : VadCore κ} {config : Config} {s : System κ}
    (h : Started p core config s) : Begun core config s := by
  obtain ⟨earlier, answers, done, rfl⟩ := h
  obtain ⟨seen, _⟩ := calls_seen p core config earlier
  by_cases ready : (play (call p core) (init config) earlier).1.state = .ready
  · obtain ⟨result, t, events, started, _, ⟨_, begun⟩ | ⟨⟨status, rfl⟩, _⟩⟩ :=
      start_cases core answers (seen.fresh ready)
    · rw [started]
      exact begun
    · rw [started] at done
      cases done
  · rw [start_refused core answers ready] at done
    cases done

section Sample

/-- What an STT server answers, what the LLM server is asked about it, and what it
answers. -/
def sampleTranscript : List UInt8 := ascii "\x7b\"text\":\"hello\"\x7d"

def sampleRequest : List UInt8 :=
  ascii "\x7b\"model\":\"SmolLM2-1.7B-Instruct-Q4_K_M\",\"messages\":[" ++
    ascii "\x7b\"role\":\"system\",\"content\":\"Be brief.\"\x7d," ++
    ascii "\x7b\"role\":\"user\",\"content\":\"hello\"\x7d],\"max_tokens\":300,\"temperature\":0.7\x7d"

def sampleReply : List UInt8 :=
  ascii "\x7b\"choices\":[\x7b\"message\":\x7b\"content\":\"hi\"\x7d\x7d]\x7d"

/-- A target that parses the answers and prints the request. -/
def samplePlatform : Platform where
  sizeBits := 32
  wide := by decide
  longBits := 32
  cJSONParse raw :=
    if raw = sampleTranscript then some (.object [(ascii "text", .string (ascii "hello"))])
    else if raw = sampleReply then
      some (.object [(ascii "choices", .array [.object [(ascii "message",
        .object [(ascii "content", .string (ascii "hi"))])]])])
    else none
  cJSONPrint _ := sampleRequest

/-- A start at which nothing fails. -/
def sampleStart : StartAnswers where
  fvad := true
  sttCurl := true
  promptFile := some ⟨ascii "Be brief.", [9], false⟩
  llmCurl := true
  ring := true
  cleanup := ⟨⟨.sent, fun _ => .reaped, .sent, .reaped⟩, fun _ => true⟩

def sampleSystem : System Unit :=
  ((start VadStream.byteCore sampleStart).run (init Config.initDefaults)).state

/-- A call that reads `chunk`. The STT transfer ends with `stt`, the LLM server
does not answer, and a signal may arrive while it is asked. -/
def sampleTick (chunk : List UInt8) (stt : CurlCode) (signal : Bool) :
    RunAnswers samplePlatform where
  captureStart := ⟨true, some (3, 4), some ⟨100, by decide⟩, true, true, .running⟩
  captureRead := ⟨.data chunk, .running⟩
  frames _ := ⟨true, .written, true⟩
  stt := ⟨true, true, true, ⟨true, true, true⟩, ⟨true, true, true⟩, ⟨true, true, true⟩,
    [⟨sampleTranscript, true⟩], stt, 200, by decide⟩
  unlink := true
  llm := ⟨⟨true, true, true, true, true, true, true, true, true, true, true, true⟩, true,
    [.poll signal], .operationTimedout, 0, false, rfl⟩

/-- The same, with the LLM server there. -/
def answeredTick (chunk : List UInt8) : RunAnswers samplePlatform :=
  { sampleTick chunk .ok false with
    llm := ⟨⟨true, true, true, true, true, true, true, true, true, true, true, true⟩, true,
      [.chunk ⟨sampleReply, true⟩], .ok, 200, false, by decide⟩ }

theorem sample_started :
    Started samplePlatform VadStream.byteCore Config.initDefaults sampleSystem :=
  ⟨[], sampleStart, rfl, rfl⟩

/-- The shortest silence that is accepted. -/
def briskConfig : Config := { Config.initDefaults with vadSilenceMs := 100 }

def briskSystem : System Unit :=
  ((start VadStream.byteCore sampleStart).run (init briskConfig)).state

theorem brisk_started : Started samplePlatform VadStream.byteCore briskConfig briskSystem :=
  ⟨[], sampleStart, rfl, rfl⟩

/-- A frame of speech, and all but the last frame of the silence that ends it. -/
def briskTicks (tick : List UInt8 → RunAnswers samplePlatform) :
    List (RunAnswers samplePlatform) :=
  tick (List.replicate 640 1) :: List.replicate 4 (tick (List.replicate 640 0))

end Sample

/-- The bytes that the reads of these calls deliver. -/
def captured (p : Platform) (core : VadCore κ) : System κ → List (RunAnswers p) → List UInt8
  | _, [] => []
  | s, answers :: ticks =>
    delivered answers s ++ captured p core ((runOnce p core answers).run s).state ticks

theorem captured_snoc (p : Platform) (core : VadCore κ) (s : System κ)
    (ticks : List (RunAnswers p)) (answers : RunAnswers p) :
    captured p core s (ticks ++ [answers]) =
      captured p core s ticks ++ delivered answers (play (runOnce p core) s ticks).1 := by
  induction ticks generalizing s with
  | nil => simp [captured]
  | cons first ticks ih =>
    rw [List.cons_append, captured, captured, ih, play_cons, List.append_assoc]

/-- The ring of a supervisor that has heard `bytes` and taken off the whole frames. -/
structure Heard (p : Platform) (bytes : List UInt8) (s : System κ) : Prop where
  ring : s.captureRing.Stores p.sizeBits (rest 640 bytes)
  head : s.captureRing.head = bytes.length

/-- The frame that a call takes off the ring, if there is one. -/
def taken {p : Platform} (answers : RunAnswers p) (s : System κ) : List (List UInt8) :=
  if (filled answers s).available < 640 then []
  else [((filled answers s).read p.sizeBits 640).1]

theorem Begun.heard {core : VadCore κ} {config : Config} {s : System κ}
    (h : Begun core config s) (p : Platform) : Heard p [] s := by
  obtain ⟨ring, addr, eq⟩ := h.ring
  constructor
  · rw [eq, rest_nil]
    exact RingBuffer.init_stores _ _ (by decide) _
  · rw [eq]
    rfl

section Tick

variable {p : Platform} {bytes : List UInt8} {s : System κ} (answers : RunAnswers p)

theorem Heard.filled (h : Heard p bytes s) (quiet : Quiet p s)
    (few : (bytes ++ delivered answers s).length < 2 ^ p.sizeBits) :
    (filled answers s).Stores p.sizeBits (rest 640 bytes ++ delivered answers s) ∧
      (Supervisor.filled answers s).head = (bytes ++ delivered answers s).length := by
  have short := rest_short (show 0 < 640 by decide) bytes
  have bounded := delivered_short answers s
  have capacity := quiet.ring.capacity
  have all : s.captureRing.writeCount (delivered answers s).length =
      (delivered answers s).length := by
    rw [h.ring.writeCount, capacity]
    omega
  rw [List.length_append] at few ⊢
  have unwrapped : s.captureRing.head + (delivered answers s).length < 2 ^ p.sizeBits := by
    rw [h.head]
    exact few
  constructor
  · have stored := h.ring.write (delivered answers s) (by rwa [all])
    rwa [all, List.take_length] at stored
  · obtain ⟨data, present, _⟩ := h.ring.block
    rw [Supervisor.filled, RingBuffer.write_spec _ present h.ring.bounded, all,
      Nat.mod_eq_of_lt unwrapped, h.head]

/-- A call takes off the frame that the bytes it hears complete. -/
theorem Heard.emptied (h : Heard p bytes s) (quiet : Quiet p s)
    (few : (bytes ++ delivered answers s).length < 2 ^ p.sizeBits) :
    (emptied answers s).Stores p.sizeBits (rest 640 (bytes ++ delivered answers s)) ∧
    (Supervisor.emptied answers s).head = (bytes ++ delivered answers s).length ∧
    frames 640 (bytes ++ delivered answers s) = frames 640 bytes ++ taken answers s := by
  obtain ⟨stored, head⟩ := h.filled answers quiet few
  have short := rest_short (show 0 < 640 by decide) bytes
  have bounded := delivered_short answers s
  have available := stored.available
  unfold Supervisor.emptied taken
  by_cases less : (Supervisor.filled answers s).available < 640
  · obtain ⟨same, more⟩ := append_short (available ▸ less)
    rw [if_pos less, if_pos less, same, more]
    exact ⟨stored, head, (List.append_nil _).symm⟩
  · obtain ⟨next, left⟩ := append_frame 640 bytes (delivered answers s) (by omega)
      (by rw [List.length_append]; omega)
    obtain ⟨oldest, after⟩ := stored.read 640
    rw [if_neg less, if_neg less, next, left, oldest]
    refine ⟨after, ?_, rfl⟩
    obtain ⟨data, present, _⟩ := stored.block
    rw [RingBuffer.read_spec _ present stored.tail_lt]
    exact head

theorem Heard.tick (h : Heard p bytes s) (quiet : Quiet p s)
    (few : (bytes ++ delivered answers s).length < 2 ^ p.sizeBits)
    {o : Outcome (System κ) Event Status Unit} (tick : Tick p answers s o) :
    Heard p (bytes ++ delivered answers s) o.state := by
  obtain ⟨stored, head, _⟩ := h.emptied answers quiet few
  exact ⟨tick.ring ▸ stored, tick.ring ▸ head⟩

end Tick

theorem run_running (p : Platform) (core : VadCore κ) {config : Config} {s : System κ}
    (h : Running p config s) (ticks : List (RunAnswers p)) :
    Running p config (play (runOnce p core) s ticks).1 := by
  induction ticks using List.reverseRecOn with
  | nil => exact h
  | append_singleton ticks answers ih =>
    rw [play_snoc]
    exact runOnce_running p core answers ih

theorem run_heard {p : Platform} {core : VadCore κ} {config : Config} {s : System κ}
    (h : Begun core config s) (ticks : List (RunAnswers p))
    (few : (captured p core s ticks).length < 2 ^ p.sizeBits) :
    Heard p (captured p core s ticks) (play (runOnce p core) s ticks).1 := by
  induction ticks using List.reverseRecOn with
  | nil => exact h.heard p
  | append_singleton ticks answers ih =>
    have quiet := (run_running p core (h.running p) ticks).quiet
    rw [captured_snoc] at few ⊢
    rw [play_snoc]
    apply (ih ?_).tick answers quiet few (runOnce_tick p core answers quiet)
    rw [List.length_append] at few
    omega

/-- The sample calls deliver their chunks, whole and in order. -/
theorem sampleTick_read {chunk : List UInt8} (given : chunk ≠ []) (short : chunk.length ≤ 640)
    (stt : CurlCode) (signal : Bool) {s : System κ}
    (device : s.config.audioCaptureDevice.isEmpty = false)
    (capture : s.capture.active = false ∨ s.capture = ⟨100, 3, true⟩) :
    delivered (sampleTick chunk stt signal) s = chunk ∧
      captureAfter (sampleTick chunk stt signal) s = ⟨100, 3, true⟩ := by
  have whole : chunk.take 640 = chunk := List.take_of_length_le short
  rcases capture with idle | active
  · simp [delivered, captureAfter, readCapture, onCapture, idle, sampleTick, AudioCapture.start,
      device, AudioCapture.spawn, AudioCapture.reset, AudioCapture.watch,
      AudioCapture.setNonblocking, AudioCapture.read, whole, given]
  · simp [delivered, captureAfter, readCapture, onCapture, active, sampleTick, AudioCapture.read,
      whole, given]

theorem captured_sample (core : VadCore κ) {config : Config} (stt : CurlCode) (signal : Bool)
    (device : config.audioCaptureDevice.isEmpty = false) {chunks : List (List UInt8)}
    (given : ∀ chunk ∈ chunks, chunk ≠ [] ∧ chunk.length ≤ 640) {s : System κ}
    (running : Running samplePlatform config s)
    (capture : s.capture.active = false ∨ s.capture = ⟨100, 3, true⟩) :
    captured samplePlatform core s (chunks.map fun chunk => sampleTick chunk stt signal) =
      chunks.flatten := by
  induction chunks generalizing s with
  | nil => rfl
  | cons chunk chunks ih =>
    obtain ⟨⟨nonempty, short⟩, later⟩ := List.forall_mem_cons.mp given
    obtain ⟨read, after⟩ := sampleTick_read nonempty short stt signal
      (running.configured ▸ device) capture
    have tick := runOnce_tick samplePlatform core (sampleTick chunk stt signal) running.quiet
    rw [List.map_cons, captured, read, List.flatten_cons]
    exact congrArg (chunk ++ ·) (ih later (runOnce_running samplePlatform core _ running)
      (.inr (tick.capture.trans after)))

end Assistantd.Supervisor
