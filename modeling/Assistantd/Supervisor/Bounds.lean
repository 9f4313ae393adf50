import Assistantd.Lib.Level
import Assistantd.Supervisor.Runs

/-! Nothing is dropped for back-pressure: how much waits in the ring and in the
queues at any point of a run. -/
namespace Assistantd

open Calls Framing Level

namespace Event

/-- By how many bytes the ring fills up. -/
def ringDelta : Event → Int
  | .ringWrote accepted => accepted
  | .ringRead returned => -returned
  | _ => 0

def artifactDelta : Event → Int
  | .artifactQueued _ => 1
  | .artifactTaken _ => -1
  | _ => 0

def responseDelta : Event → Int
  | .responseQueued _ => 1
  | .responseTaken _ => -1
  | _ => 0

/-- A frame that is processed. -/
def frameDelta : Event → Int
  | .frame _ => 1
  | _ => 0

/-- The branches for back-pressure: the ring or a queue was full, or a frame that
should have been there was not. -/
def isLoss : Event → Bool
  | .ringOverflow _ | .artifactDropped _ | .responseDropped _ | .shortFrame => true
  | _ => false

end Event

namespace Supervisor

variable {κ : Type}

/-- At every point of the trace less than two frames are in the ring and at most
one entry in each queue; at its end the ring has `left` bytes and the queues are empty. -/
structure Lossless (left : Nat) (trace : List Event) : Prop where
  ring : Bounded Event.ringDelta 0 1279 0 trace
  artifacts : Bounded Event.artifactDelta 0 1 0 trace
  responses : Bounded Event.responseDelta 0 1 0 trace
  ringLevel : level Event.ringDelta trace = left
  artifactLevel : level Event.artifactDelta trace = 0
  responseLevel : level Event.responseDelta trace = 0
  kept : ∀ e ∈ trace, e.isLoss = false

/-! ## The parts of a call -/

theorem Product.events_silent (product : Product) : ∀ e ∈ product.events,
    e.ringDelta = 0 ∧ e.responseDelta = 0 ∧ e.frameDelta = 0 ∧ e.isLoss = false := by
  cases product with
  | nothing => simp [Product.events]
  | refused _ =>
    simp [Product.events, Event.ringDelta, Event.responseDelta, Event.frameDelta, Event.isLoss]
  | unwritten _ _ _ result _ =>
    cases result <;>
      simp [Product.events, Event.ringDelta, Event.responseDelta, Event.frameDelta, Event.isLoss]
  | queued _ _ =>
    simp [Product.events, Event.ringDelta, Event.responseDelta, Event.frameDelta, Event.isLoss]

theorem Product.events_unqueued {product : Product} (nothing : product.artifacts = []) :
    ∀ e ∈ product.events, e.artifactDelta = 0 := by
  cases product with
  | nothing => simp [Product.events]
  | refused _ => simp [Product.events, Event.artifactDelta]
  | unwritten _ _ _ result _ => cases result <;> simp [Product.events, Event.artifactDelta]
  | queued _ _ => simp [Product.artifacts] at nothing

theorem Reply.events_silent (reply : Reply) (artifact : Artifact) : ∀ e ∈ reply.events artifact,
    e.ringDelta = 0 ∧ e.frameDelta = 0 ∧ e.isLoss = false := by
  cases reply <;>
    simp [Reply.events, or_imp, forall_and, Event.ringDelta, Event.frameDelta, Event.isLoss]

theorem Reply.events_taken (reply : Reply) (artifact : Artifact) : ∃ later,
    reply.events artifact = .artifactTaken artifact :: later ∧
      ∀ e ∈ later, e.artifactDelta = 0 := by
  cases reply with
  | failed stt status =>
    refine ⟨_, rfl, ?_⟩
    simp [or_imp, forall_and, Event.artifactDelta]
  | answered stt transcript removed llm generated =>
    refine ⟨_, rfl, ?_⟩
    simp [or_imp, forall_and, Event.artifactDelta]

theorem Reply.events_responses (reply : Reply) (artifact : Artifact) :
    Bounded Event.responseDelta 0 1 0 (reply.events artifact) ∧
      level Event.responseDelta (reply.events artifact) = 0 := by
  cases reply with
  | failed stt status =>
    have silent : ∀ e ∈ Reply.events artifact (.failed stt status), e.responseDelta = 0 := by
      simp [Reply.events, or_imp, forall_and, Event.responseDelta]
    exact ⟨bounded_silent (by decide) silent, level_silent silent⟩
  | answered stt transcript removed llm generated =>
    let calls : List Event := .artifactTaken artifact :: (stt.map .stt ++
      [.transcribed artifact (.ok transcript), .unlink artifact.wavPath removed] ++ llm.map .llm ++
      [.generated artifact.sequenceId generated])
    have silent : ∀ e ∈ calls, e.responseDelta = 0 := by
      simp [calls, or_imp, forall_and, Event.responseDelta]
    have split : Reply.events artifact (.answered stt transcript removed llm generated) =
        calls ++ [.responseQueued (response artifact.sequenceId generated),
          .responseTaken (response artifact.sequenceId generated)] := by
      simp [Reply.events, calls]
    rw [split, level_append, level_silent silent]
    refine ⟨bounded_append (bounded_silent (by decide) silent) ?_, rfl⟩
    rw [level_silent silent]
    refine bounded_cons (by decide) (bounded_cons ?_ (bounded_nil ?_)) <;>
      simp [Event.responseDelta]

section Arrived

variable {p : Platform} (answers : RunAnswers p) (s : System κ)

theorem arrived_silent : ∀ e ∈ arrived answers s,
    e.artifactDelta = 0 ∧ e.responseDelta = 0 ∧ e.isLoss = false := by
  unfold arrived wrote
  split <;> split <;>
    simp [Event.artifactDelta, Event.responseDelta, Event.isLoss]

theorem arrived_frames : level Event.frameDelta (arrived answers s) ≤ 1 := by
  unfold arrived wrote
  split <;> split <;> simp [Event.frameDelta]

theorem wrote_ring (chunk : List UInt8) (held : Nat) (fits : held + chunk.length ≤ 1279) :
    Bounded Event.ringDelta 0 1279 held (wrote chunk) ∧
      level Event.ringDelta (wrote chunk) = chunk.length := by
  unfold wrote
  split
  · rename_i empty
    rw [empty]
    exact ⟨bounded_nil (by omega), rfl⟩
  · refine ⟨bounded_cons (by omega) (bounded_nil ?_), by simp [Event.ringDelta]⟩
    rw [Event.ringDelta]
    omega

/-- The bytes are all there before the frame is taken off. -/
theorem arrived_ring {held : Nat} (few : held < 640)
    (all : (filled answers s).available = held + (delivered answers s).length) :
    Bounded Event.ringDelta 0 1279 held (arrived answers s) ∧
      held + level Event.ringDelta (arrived answers s) = if (filled answers s).available < 640
        then (filled answers s).available else (filled answers s).available - 640 := by
  have short := delivered_short answers s
  obtain ⟨bounded, level⟩ := wrote_ring (delivered answers s) held (by omega)
  unfold arrived
  rw [level_append, level]
  split
  · constructor
    · exact bounded_append bounded (bounded_nil (by omega))
    · simp [all]
  · constructor
    · apply bounded_append bounded
      rw [level]
      apply bounded_cons (by omega)
      apply bounded_cons
      · rw [Event.ringDelta]
        omega
      · apply bounded_nil
        simp only [Event.ringDelta]
        omega
    · simp only [all, level_cons, level_nil, Event.ringDelta]
      omega

end Arrived

/-! ## A call -/

section Call

variable {p : Platform} {answers : RunAnswers p} {s : System κ}
  {o : Outcome (System κ) Event Status Unit}

theorem ringDelta_hidden (e : Event) (hidden : e.isStage = false) : e.ringDelta = 0 := by
  cases e <;> first | rfl | cases hidden

theorem artifactDelta_hidden (e : Event) (hidden : e.isStage = false) : e.artifactDelta = 0 := by
  cases e <;> first | rfl | cases hidden

theorem responseDelta_hidden (e : Event) (hidden : e.isStage = false) : e.responseDelta = 0 := by
  cases e <;> first | rfl | cases hidden

theorem frameDelta_hidden (e : Event) (hidden : e.isStage = false) : e.frameDelta = 0 := by
  cases e <;> first | rfl | cases hidden

theorem isLoss_hidden (e : Event) (hidden : e.isStage = false) : e.isLoss = false := by
  cases e <;> first | rfl | cases hidden

/-- What a call does behind the ring. -/
theorem Course.later (course : Course p answers s o) : ∃ later,
    stages o.events = arrived answers s ++ later ∧
    (∀ e ∈ later, e.ringDelta = 0 ∧ e.frameDelta = 0 ∧ e.isLoss = false) ∧
    (Bounded Event.artifactDelta 0 1 0 later ∧ level Event.artifactDelta later = 0) ∧
    (Bounded Event.responseDelta 0 1 0 later ∧ level Event.responseDelta later = 0) := by
  cases course with
  | unanswered product nothing _ told =>
    have silent := product.events_silent
    refine ⟨product.events, told, ?_, ?_, ?_⟩
    · exact fun e member => ⟨(silent e member).1, (silent e member).2.2⟩
    · have unqueued := Product.events_unqueued nothing
      exact ⟨bounded_silent (by decide) unqueued, level_silent unqueued⟩
    · have unanswered := fun e member => (silent e member).2.1
      exact ⟨bounded_silent (by decide) unanswered, level_silent unanswered⟩
  | answered artifact pcm reply _ told _ _ =>
    have silent := (Product.queued artifact pcm).events_silent
    refine ⟨Product.events (.queued artifact pcm) ++ reply.events artifact,
      by rw [told, heard, List.append_assoc], ?_, ?_, ?_⟩
    · intro e member
      rcases List.mem_append.mp member with made | replied
      · exact ⟨(silent e made).1, (silent e made).2.2⟩
      · exact reply.events_silent artifact e replied
    · obtain ⟨later, replied, rest⟩ := reply.events_taken artifact
      rw [replied]
      refine ⟨?_, by simp [Product.events, Event.artifactDelta, level_silent rest]⟩
      refine bounded_cons (by decide) (bounded_cons ?_ (bounded_cons ?_ (bounded_cons ?_
        (bounded_silent ?_ rest)))) <;> simp [Event.artifactDelta]
    · obtain ⟨bounded, even⟩ := reply.events_responses artifact
      have unanswered := fun e member => (silent e member).2.1
      rw [level_append, level_silent unanswered, even]
      refine ⟨bounded_append (bounded_silent (by decide) unanswered) ?_, rfl⟩
      rwa [level_silent unanswered]

theorem Heard.arrived {bytes : List UInt8} (h : Heard p bytes s) (quiet : Quiet p s)
    (few : (bytes ++ delivered answers s).length < 2 ^ p.sizeBits) :
    Bounded Event.ringDelta 0 1279 (rest 640 bytes).length (arrived answers s) ∧
      (rest 640 bytes).length + level Event.ringDelta (Supervisor.arrived answers s) =
        (rest 640 (bytes ++ delivered answers s)).length := by
  have available := (h.filled answers quiet few).1.available
  rw [List.length_append] at available
  obtain ⟨bounded, left⟩ := arrived_ring answers s (rest_short (by decide) bytes) available
  refine ⟨bounded, ?_⟩
  have short := delivered_short answers s
  rw [left, available, rest_length, rest_length, List.length_append]
  split <;> omega

theorem Lossless.call {bytes : List UInt8} {trace : List Event}
    (h : Lossless (rest 640 bytes).length trace) (heard : Heard p bytes s) (quiet : Quiet p s)
    (few : (bytes ++ delivered answers s).length < 2 ^ p.sizeBits) (tick : Tick p answers s o) :
    Lossless (rest 640 (bytes ++ delivered answers s)).length (trace ++ o.events) := by
  obtain ⟨later, told, silent, ⟨artifacts, artifactLevel⟩, responses, responseLevel⟩ :=
    tick.course.later
  obtain ⟨ring, ringLevel⟩ := heard.arrived quiet few
  have dry := fun e member => (silent e member).1
  have unqueued := fun e member => (arrived_silent answers s e member).1
  have unanswered := fun e member => (arrived_silent answers s e member).2.1
  have inside := ring (arrived answers s) [] (List.append_nil _).symm
  have split {delta : Event → Int} (hidden : ∀ e : Event, e.isStage = false → delta e = 0) :
      level delta o.events = level delta (arrived answers s) + level delta later := by
    rw [← level_filter hidden, ← level_append, ← told]
    rfl
  constructor
  · apply bounded_append h.ring
    apply bounded_filter ringDelta_hidden
    rw [h.ringLevel, Int.zero_add, show o.events.filter Event.isStage = _ from told]
    exact bounded_append ring (bounded_silent inside dry)
  · apply bounded_append h.artifacts
    apply bounded_filter artifactDelta_hidden
    rw [h.artifactLevel, Int.zero_add, show o.events.filter Event.isStage = _ from told]
    apply bounded_append (bounded_silent (by decide) unqueued)
    rwa [level_silent unqueued]
  · apply bounded_append h.responses
    apply bounded_filter responseDelta_hidden
    rw [h.responseLevel, Int.zero_add, show o.events.filter Event.isStage = _ from told]
    apply bounded_append (bounded_silent (by decide) unanswered)
    rwa [level_silent unanswered]
  · rw [level_append, h.ringLevel, split ringDelta_hidden, level_silent dry, Int.add_zero,
      ringLevel]
  · rw [level_append, h.artifactLevel, split artifactDelta_hidden, level_silent unqueued,
      artifactLevel]
    rfl
  · rw [level_append, h.responseLevel, split responseDelta_hidden, level_silent unanswered,
      responseLevel]
    rfl
  · intro e member
    rcases List.mem_append.mp member with old | new
    · exact h.kept e old
    · cases shown : e.isStage with
      | false => exact isLoss_hidden e shown
      | true =>
        have visible : e ∈ stages o.events := List.mem_filter.mpr ⟨new, shown⟩
        rw [told] at visible
        rcases List.mem_append.mp visible with earlier | behind
        · exact (arrived_silent answers s e earlier).2.2
        · exact (silent e behind).2.2

theorem Tick.one_frame (tick : Tick p answers s o) : level Event.frameDelta o.events ≤ 1 := by
  obtain ⟨later, told, silent, _⟩ := tick.course.later
  have still := fun e member => (silent e member).2.1
  rw [← level_filter frameDelta_hidden, show o.events.filter Event.isStage = _ from told,
    level_append, level_silent still, Int.add_zero]
  exact arrived_frames answers s

end Call

/-! ## Any run -/

theorem run_lossless {p : Platform} {core : VadCore κ} {config : Config} {s : System κ}
    (h : Begun core config s) (ticks : List (RunAnswers p))
    (few : (captured p core s ticks).length < 2 ^ p.sizeBits) :
    Lossless (rest 640 (captured p core s ticks)).length (play (runOnce p core) s ticks).2 := by
  induction ticks using List.reverseRecOn with
  | nil =>
    refine ⟨bounded_nil ?_, bounded_nil ?_, bounded_nil ?_, ?_, rfl, rfl, ?_⟩ <;>
      simp [captured]
  | append_singleton ticks answers ih =>
    have quiet := (run_running p core (h.running p) ticks).quiet
    rw [captured_snoc] at few ⊢
    rw [play_snoc]
    have fewer : (captured p core s ticks).length < 2 ^ p.sizeBits := by
      rw [List.length_append] at few
      omega
    exact (ih fewer).call (run_heard h ticks fewer) quiet few (runOnce_tick p core answers quiet)

theorem nothing_dropped (p : Platform) (core : VadCore κ) (config : Config) {s : System κ}
    (started : Started p core config s) (ticks : List (RunAnswers p)) (answers : RunAnswers p)
    (few : (captured p core s (ticks ++ [answers])).length < 2 ^ p.sizeBits) :
    let r := play (runOnce p core) s ticks
    let o := (runOnce p core answers).run r.1
    let trace := r.2 ++ o.events
    (o.state.captureRing.available < 640 ∧
      level Event.ringDelta trace = o.state.captureRing.available ∧
      o.state.artifactQueue.size = 0 ∧ level Event.artifactDelta trace = 0 ∧
      o.state.llmResponseQueue.size = 0 ∧ level Event.responseDelta trace = 0) ∧
    (∀ before after, trace = before ++ after →
      (0 ≤ level Event.ringDelta before ∧ level Event.ringDelta before ≤ 1279) ∧
      (0 ≤ level Event.artifactDelta before ∧ level Event.artifactDelta before ≤ 1) ∧
      (0 ≤ level Event.responseDelta before ∧ level Event.responseDelta before ≤ 1)) ∧
    level Event.frameDelta o.events ≤ 1 ∧
    (∀ e ∈ o.events, e.isLoss = false) ∧
    o.state.captureRing.overflow = 0 ∧ o.state.captureRing.underflow = 0 := by
  intro r o trace
  have begun := started.begun
  have quiet := (run_running p core (begun.running p) ticks).quiet
  have tick := runOnce_tick p core answers quiet
  have heard := run_heard begun (ticks ++ [answers]) few
  have lossless := run_lossless begun (ticks ++ [answers]) few
  rw [play_snoc] at heard lossless
  have available := heard.ring.available
  refine ⟨⟨?_, ?_, tick.quiet.artifacts.size, lossless.artifactLevel, tick.quiet.responses.size,
    lossless.responseLevel⟩, ?_, tick.one_frame, ?_, tick.quiet.ring.overflow,
    tick.quiet.ring.underflow⟩
  · exact available ▸ rest_short (by decide) _
  · exact lossless.ringLevel.trans (congrArg Int.ofNat available.symm)
  · intro before after split
    refine ⟨?_, ?_, ?_⟩
    · simpa using lossless.ring before after split
    · simpa using lossless.artifacts before after split
    · simpa using lossless.responses before after split
  · exact fun e member => lossless.kept e (List.mem_append_right _ member)

/-- A whole utterance: six frames through the ring, and one entry through each queue. -/
theorem nothing_dropped_brisk :
    let silence := List.replicate 640 0
    let r := play (runOnce samplePlatform VadStream.byteCore) briskSystem (briskTicks answeredTick)
    let o := (runOnce samplePlatform VadStream.byteCore (answeredTick silence)).run r.1
    let trace := r.2 ++ o.events
    (level Event.frameDelta trace = 6 ∧ level Event.artifactDelta (trace.take 59) = 1 ∧
      level Event.responseDelta (trace.take 86) = 1) ∧
    (o.state.captureRing.available < 640 ∧ o.state.artifactQueue.size = 0 ∧
      o.state.llmResponseQueue.size = 0) ∧
    (∀ n, level Event.ringDelta (trace.take n) ≤ 1279 ∧
      level Event.artifactDelta (trace.take n) ≤ 1 ∧
      level Event.responseDelta (trace.take n) ≤ 1) ∧
    (∀ e ∈ o.events, e.isLoss = false) ∧
    o.state.captureRing.overflow = 0 ∧ o.state.captureRing.underflow = 0 := by
  obtain ⟨⟨available, _, artifacts, _, responses, _⟩, within, _, kept, overflow, underflow⟩ :=
    nothing_dropped samplePlatform VadStream.byteCore briskConfig brisk_started
      (briskTicks answeredTick) (answeredTick (List.replicate 640 0)) (by decide +kernel)
  refine ⟨⟨by decide +kernel, by decide +kernel, by decide +kernel⟩,
    ⟨available, artifacts, responses⟩, fun n => ?_, kept, overflow, underflow⟩
  obtain ⟨⟨_, ring⟩, ⟨_, artifact⟩, ⟨_, response⟩⟩ :=
    within _ _ (List.take_append_drop n _).symm
  exact ⟨ring, artifact, response⟩

end Supervisor

end Assistantd
