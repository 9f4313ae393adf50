import Assistantd.Supervisor.Runs

/-! The frames handed to the detector against the capture children whose output
they are cut from. -/
namespace Assistantd

open Calls Framing

/-- A frame that is handed to the detector. -/
def Event.handed : Event → Option (List UInt8)
  | .frame pcm => some pcm
  | _ => none

def handed (events : List Event) : List (List UInt8) := events.filterMap Event.handed

@[simp] theorem handed_append (xs ys : List Event) : handed (xs ++ ys) = handed xs ++ handed ys :=
  List.filterMap_append

theorem handed_stages (events : List Event) : handed (stages events) = handed events := by
  apply filterMap_stages
  intro e hidden
  cases e <;> first | rfl | cases hidden

namespace Supervisor

variable {κ : Type}

/-- What the capture children wrote that was read: those before the one on
record, and the one on record. Before the first child nothing is read. -/
structure Feed where
  ended : List (List UInt8)
  current : List UInt8

def Feed.outputs (f : Feed) : List (List UInt8) := f.ended ++ [f.current]

/-- The call finds no child on record and starts one. -/
def respawns {p : Platform} (answers : RunAnswers p) (s : System κ) : Bool :=
  !s.capture.active &&
    ((AudioCapture.start s.config answers.captureStart).run s.capture).state.active

def Feed.next {p : Platform} (f : Feed) (answers : RunAnswers p) (s : System κ) : Feed :=
  if respawns answers s then ⟨f.ended ++ [f.current], delivered answers s⟩
  else { f with current := f.current ++ delivered answers s }

def feed (p : Platform) (core : VadCore κ) : System κ → Feed → List (RunAnswers p) → Feed
  | _, f, [] => f
  | s, f, answers :: ticks =>
    feed p core ((runOnce p core answers).run s).state (f.next answers s) ticks

/-- One list of bytes for each child of the run. -/
def outputs (p : Platform) (core : VadCore κ) (s : System κ) (ticks : List (RunAnswers p)) :
    List (List UInt8) := (feed p core s ⟨[], []⟩ ticks).outputs

theorem Feed.next_flatten {p : Platform} (f : Feed) (answers : RunAnswers p) (s : System κ) :
    (f.next answers s).outputs.flatten = f.outputs.flatten ++ delivered answers s := by
  unfold Feed.next
  split <;> simp [Feed.outputs]

theorem feed_flatten (p : Platform) (core : VadCore κ) (s : System κ) (f : Feed)
    (ticks : List (RunAnswers p)) : (feed p core s f ticks).outputs.flatten =
      f.outputs.flatten ++ captured p core s ticks := by
  induction ticks generalizing s f with
  | nil => simp [feed, captured]
  | cons answers ticks ih =>
    rw [feed, ih, Feed.next_flatten, captured, List.append_assoc]

theorem outputs_flatten (p : Platform) (core : VadCore κ) (s : System κ)
    (ticks : List (RunAnswers p)) : (outputs p core s ticks).flatten = captured p core s ticks := by
  rw [outputs, feed_flatten]
  rfl

/-! ## The frames of a run -/

theorem Product.events_unhanded (product : Product) : handed product.events = [] := by
  cases product with
  | unwritten _ _ _ result _ => cases result <;> rfl
  | _ => rfl

theorem Reply.events_unhanded (reply : Reply) (artifact : Artifact) :
    handed (reply.events artifact) = [] := by
  apply List.filterMap_eq_nil_iff.mpr
  cases reply <;> simp [Reply.events, or_imp, forall_and, Event.handed]

theorem heard_handed {p : Platform} (answers : RunAnswers p) (s : System κ) (product : Product) :
    handed (heard answers s product) = taken answers s := by
  rw [heard, handed_append, product.events_unhanded, List.append_nil]
  unfold arrived wrote taken
  split <;> split <;> rfl

theorem Tick.hands {p : Platform} {answers : RunAnswers p} {s : System κ}
    {o : Outcome (System κ) Event Status Unit} (tick : Tick p answers s o) :
    handed o.events = taken answers s := by
  rw [← handed_stages]
  cases tick.course with
  | unanswered product _ _ told => rw [told, heard_handed]
  | answered artifact pcm reply _ told =>
    rw [told, handed_append, heard_handed, reply.events_unhanded, List.append_nil]

theorem run_handed {p : Platform} {core : VadCore κ} {config : Config} {s : System κ}
    (h : Begun core config s) (ticks : List (RunAnswers p))
    (few : (captured p core s ticks).length < 2 ^ p.sizeBits) :
    handed (play (runOnce p core) s ticks).2 = frames 640 (captured p core s ticks) := by
  induction ticks using List.reverseRecOn with
  | nil => simp [handed, captured]
  | append_singleton ticks answers ih =>
    have quiet := (run_running p core (h.running p) ticks).quiet
    rw [captured_snoc] at few ⊢
    have earlier : (captured p core s ticks).length < 2 ^ p.sizeBits := by
      rw [List.length_append] at few
      omega
    obtain ⟨_, _, more⟩ := (run_heard h ticks earlier).emptied answers quiet few
    rw [play_snoc, handed_append, ih earlier, (runOnce_tick p core answers quiet).hands, more]

/-- A start leaves the capture alone, so there is no child before the first call. -/
theorem Started.idle {p : Platform} {core : VadCore κ} {config : Config} {s : System κ}
    (h : Started p core config s) : s.capture.active = false := by
  obtain ⟨earlier, answers, done, rfl⟩ := h
  obtain ⟨seen, _⟩ := calls_seen p core config earlier
  generalize (play (call p core) (init config) earlier).1 = s at done seen ⊢
  by_cases ready : s.state = .ready
  · obtain ⟨result, vad, stt, llm, tts, ring, nextAddr, events, initialized, _⟩ :=
      initializeModules_run core answers s
    rw [start_ready core answers ready] at done ⊢
    cases result with
    | ok _ =>
      rw [onError_ok initialized]
      exact (seen.fresh ready).idle
    | error status => simp [onError_fails initialized] at done
  · rw [start_refused core answers ready] at done
    cases done

/-! ## Alignment -/

/-- The ring outlives a child, and with it the part of a frame the child left.
The frames stay with one child each as long as no such part is completed. -/
theorem aligned_iff {p : Platform} {core : VadCore κ} {config : Config} {s : System κ}
    (started : Started p core config s) (ticks : List (RunAnswers p))
    (few : (captured p core s ticks).length < 2 ^ p.sizeBits) :
    s.capture.active = false ∧
      (FromOne 640 (outputs p core s ticks) (handed (play (runOnce p core) s ticks).2) ↔
        Cut 640 (outputs p core s ticks)) := by
  refine ⟨started.idle, ?_⟩
  rw [run_handed started.begun ticks few, ← outputs_flatten]
  exact fromOne_iff (by decide)

/-- The first child writes one byte and ends; the second writes a frame. -/
def crashTicks : List (RunAnswers samplePlatform) :=
  [sampleTick [1] .ok false,
   { sampleTick [] .ok false with captureRead := ⟨.data [], .reaped⟩ },
   sampleTick (List.replicate 640 2) .ok false]

theorem crash_outputs : outputs samplePlatform VadStream.byteCore sampleSystem crashTicks =
    [[], [1], List.replicate 640 2] := by
  decide +kernel

theorem crash_few :
    (captured samplePlatform VadStream.byteCore sampleSystem crashTicks).length < 2 ^ 32 := by
  rw [← outputs_flatten, crash_outputs]
  decide +kernel

theorem aligned_iff_crash :
    Started samplePlatform VadStream.byteCore Config.initDefaults sampleSystem ∧
    (captured samplePlatform VadStream.byteCore sampleSystem crashTicks).length < 2 ^ 32 ∧
    (FromOne 640 (outputs samplePlatform VadStream.byteCore sampleSystem crashTicks)
      (handed (play (runOnce samplePlatform VadStream.byteCore) sampleSystem crashTicks).2) ↔
        Cut 640 (outputs samplePlatform VadStream.byteCore sampleSystem crashTicks)) :=
  ⟨sample_started, crash_few, (aligned_iff sample_started crashTicks crash_few).2⟩

/-- The byte of the dead child makes up the frame with 639 of the next one's. -/
theorem frame_mixed :
    Started samplePlatform VadStream.byteCore Config.initDefaults sampleSystem ∧
    handed (play (runOnce samplePlatform VadStream.byteCore) sampleSystem crashTicks).2 =
      [1 :: List.replicate 639 2] ∧
    ¬ FromOne 640 (outputs samplePlatform VadStream.byteCore sampleSystem crashTicks)
      (handed (play (runOnce samplePlatform VadStream.byteCore) sampleSystem crashTicks).2) := by
  have frames_cut := run_handed sample_started.begun crashTicks crash_few
  rw [← outputs_flatten, crash_outputs] at frames_cut
  refine ⟨sample_started, ?_, ?_⟩
  · rw [frames_cut]
    decide +kernel
  · rw [crash_outputs, frames_cut, fromOne_iff (by decide)]
    intro cut
    have second := cut [[], [1]] (List.replicate 640 2) [] rfl
    revert second
    decide +kernel

end Supervisor

end Assistantd
