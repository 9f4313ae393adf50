import Assistantd.Supervisor.Runs

/-! Each transcribed utterance gets one answer, in the order of the utterances. -/
namespace Assistantd

open Calls
open CText (CString ascii)

/-! ## What a trace says -/

namespace Event

def finalizedId : Event → Option UInt64
  | .finalized sequenceId => some sequenceId
  | _ => none

def transcription : Event → Option (Artifact × Except Status (CString 4095))
  | .transcribed artifact result => some (artifact, result)
  | _ => none

def generation : Event → Option (UInt64 × Except Status (CString 8191))
  | .generated sequenceId result => some (sequenceId, result)
  | _ => none

def drainedResponse : Event → Option LlmResponse
  | .responseTaken response => some response
  | _ => none

end Event

/-- The ids given to utterances. -/
def finalizedIds (events : List Event) : List UInt64 := events.filterMap Event.finalizedId

def transcriptions (events : List Event) : List (Artifact × Except Status (CString 4095)) :=
  events.filterMap Event.transcription

def generations (events : List Event) : List (UInt64 × Except Status (CString 8191)) :=
  events.filterMap Event.generation

/-- The responses taken out of the response queue. -/
def drained (events : List Event) : List LlmResponse := events.filterMap Event.drainedResponse

theorem filterMap_http {β : Type} {f : Event → Option β} (stt : ∀ call, f (.stt call) = none)
    (llm : ∀ call, f (.llm call) = none) (calls : List HttpEvent) :
    (calls.map Event.stt).filterMap f = [] ∧ (calls.map Event.llm).filterMap f = [] := by
  simp [stt, llm]

namespace Supervisor

variable {κ : Type}

/-- The id that an utterance was given, where it came to that. -/
def Product.ids : Product → List UInt64
  | .nothing => []
  | .refused sequenceId | .unwritten sequenceId _ _ _ _ => [sequenceId]
  | .queued artifact _ => [artifact.sequenceId]

theorem Product.observe (product : Product) :
    finalizedIds product.events = product.ids ∧ transcriptions product.events = [] ∧
      generations product.events = [] ∧ drained product.events = [] := by
  cases product with
  | unwritten _ _ _ result _ => cases result <;> exact ⟨rfl, rfl, rfl, rfl⟩
  | _ => exact ⟨rfl, rfl, rfl, rfl⟩

theorem arrived_observe {p : Platform} (answers : RunAnswers p) (s : System κ) :
    finalizedIds (arrived answers s) = [] ∧ transcriptions (arrived answers s) = [] ∧
      generations (arrived answers s) = [] ∧ drained (arrived answers s) = [] := by
  unfold arrived wrote
  split <;> split <;> exact ⟨rfl, rfl, rfl, rfl⟩

theorem heard_observe {p : Platform} (answers : RunAnswers p) (s : System κ) (product : Product) :
    finalizedIds (heard answers s product) = product.ids ∧
      transcriptions (heard answers s product) = [] ∧
      generations (heard answers s product) = [] ∧ drained (heard answers s product) = [] := by
  obtain ⟨ids, transcribed, generated, taken⟩ := product.observe
  obtain ⟨noIds, unheard, unasked, untold⟩ := arrived_observe answers s
  unfold finalizedIds transcriptions generations drained at *
  simp only [heard, List.filterMap_append, ids, transcribed, generated, taken, noIds, unheard,
    unasked, untold, List.nil_append, and_self]

theorem Reply.observe (reply : Reply) (artifact : Artifact) :
    finalizedIds (reply.events artifact) = [] ∧
    match reply with
    | .failed _ status =>
      transcriptions (reply.events artifact) = [(artifact, .error status)] ∧
        generations (reply.events artifact) = [] ∧ drained (reply.events artifact) = []
    | .answered _ transcript _ _ generated =>
      transcriptions (reply.events artifact) = [(artifact, .ok transcript)] ∧
        generations (reply.events artifact) = [(artifact.sequenceId, generated)] ∧
        drained (reply.events artifact) = [response artifact.sequenceId generated] := by
  have ids := filterMap_http (f := Event.finalizedId) (fun _ => rfl) fun _ => rfl
  have heard := filterMap_http (f := Event.transcription) (fun _ => rfl) fun _ => rfl
  have asked := filterMap_http (f := Event.generation) (fun _ => rfl) fun _ => rfl
  have told := filterMap_http (f := Event.drainedResponse) (fun _ => rfl) fun _ => rfl
  cases reply <;>
    simp only [finalizedIds, transcriptions, generations, drained, Reply.events,
      List.filterMap_append, List.filterMap_cons, List.filterMap_nil, ids, heard, asked, told,
      Event.finalizedId, Event.transcription, Event.generation, Event.drainedResponse,
      List.nil_append, List.append_nil, and_self]

/-- What one call has to do with transcriptions and answers. -/
inductive Exchange (ids : List UInt64) (events : List Event) :
    Except Status Unit → Prop where
  | silent result : transcriptions events = [] → generations events = [] → drained events = [] →
      Exchange ids events result
  | failed artifact status : artifact.sequenceId ∈ ids →
      transcriptions events = [(artifact, .error status)] → generations events = [] →
      drained events = [] → Exchange ids events (.error status)
  | answered artifact transcript generated : ids = [artifact.sequenceId] →
      transcriptions events = [(artifact, .ok transcript)] →
      generations events = [(artifact.sequenceId, generated)] →
      drained events = [response artifact.sequenceId generated] → Exchange ids events (.ok ())

theorem observe_hidden (e : Event) (hidden : e.isStage = false) :
    e.finalizedId = none ∧ e.transcription = none ∧ e.generation = none ∧
      e.drainedResponse = none := by
  cases e <;> first | exact ⟨rfl, rfl, rfl, rfl⟩ | cases hidden

/-- The next id counts the ids given out. -/
theorem Yield.ids {config : Config} {id id' : UInt64} {answers : FrameAnswers} {product : Product}
    {result : Except Status Unit} (h : Yield config id answers product result id') :
    (product.ids = [] ∧ id' = id) ∨ (product.ids = [id] ∧ id' = id + 1) := by
  cases h with
  | kept => exact .inl ⟨rfl, rfl⟩
  | refused => exact .inr ⟨rfl, rfl⟩
  | unwritten => exact .inr ⟨rfl, rfl⟩
  | queued => exact .inr ⟨rfl, rfl⟩

theorem Course.exchange {p : Platform} {answers : RunAnswers p} {s : System κ}
    {o : Outcome (System κ) Event Status Unit} (course : Course p answers s o) :
    ((finalizedIds o.events = [] ∧ o.state.nextArtifactSequenceId = s.nextArtifactSequenceId) ∨
      (finalizedIds o.events = [s.nextArtifactSequenceId] ∧
        o.state.nextArtifactSequenceId = s.nextArtifactSequenceId + 1)) ∧
    Exchange (finalizedIds o.events) o.events o.result := by
  have visible : ∀ {β : Type} {f : Event → Option β}, (∀ e, e.isStage = false → f e = none) →
      o.events.filterMap f = (stages o.events).filterMap f :=
    fun hidden => (filterMap_stages hidden o.events).symm
  have ids : finalizedIds o.events = finalizedIds (stages o.events) :=
    visible fun e hidden => (observe_hidden e hidden).1
  have heard : transcriptions o.events = transcriptions (stages o.events) :=
    visible fun e hidden => (observe_hidden e hidden).2.1
  have asked : generations o.events = generations (stages o.events) :=
    visible fun e hidden => (observe_hidden e hidden).2.2.1
  have told : drained o.events = drained (stages o.events) :=
    visible fun e hidden => (observe_hidden e hidden).2.2.2
  rw [ids]
  cases course with
  | unanswered product nothing yield stages =>
    obtain ⟨given, unheard, unasked, untold⟩ := heard_observe answers s product
    rw [← stages] at given unheard unasked untold
    rw [given]
    exact ⟨yield.ids, .silent _ (heard.trans unheard) (asked.trans unasked) (told.trans untold)⟩
  | answered artifact pcm reply yield stages done _ =>
    obtain ⟨given, unheard, unasked, untold⟩ := heard_observe answers s (.queued artifact pcm)
    obtain ⟨noIds, replied⟩ := reply.observe artifact
    have all : finalizedIds (Assistantd.stages o.events) = [artifact.sequenceId] := by
      unfold finalizedIds at *
      rw [stages, List.filterMap_append, given, noIds]
      rfl
    rw [all, done]
    refine ⟨yield.ids, ?_⟩
    unfold transcriptions generations drained at *
    rw [stages, List.filterMap_append] at heard asked told
    cases reply with
    | failed stt status =>
      obtain ⟨transcribed, generated, taken⟩ := replied
      rw [unheard, transcribed] at heard
      rw [unasked, generated] at asked
      rw [untold, taken] at told
      exact .failed artifact status (List.mem_singleton_self _) heard asked told
    | answered stt transcript removed llm generated =>
      obtain ⟨transcribed, generated, taken⟩ := replied
      rw [unheard, transcribed] at heard
      rw [unasked, generated] at asked
      rw [untold, taken] at told
      exact .answered artifact transcript _ rfl heard asked told

/-! ## Any run -/

/-- Ids are handed out in order, and the answers are in the order of the ids. -/
structure Ordered (trace : List Event) (s : System κ) : Prop where
  ids : finalizedIds trace = (List.range (finalizedIds trace).length).map UInt64.ofNat
  next : s.nextArtifactSequenceId = UInt64.ofNat (finalizedIds trace).length
  answers : ((drained trace).map LlmResponse.sequenceId).Sublist (finalizedIds trace)

theorem Ordered.call {p : Platform} {answers : RunAnswers p} {s : System κ}
    {o : Outcome (System κ) Event Status Unit} {trace : List Event} (h : Ordered trace s)
    (course : Course p answers s o) : Ordered (trace ++ o.events) o.state := by
  obtain ⟨given, exchange⟩ := course.exchange
  have both : finalizedIds (trace ++ o.events) = finalizedIds trace ++ finalizedIds o.events :=
    List.filterMap_append
  have taken : drained (trace ++ o.events) = drained trace ++ drained o.events :=
    List.filterMap_append
  have told : ((drained o.events).map LlmResponse.sequenceId).Sublist (finalizedIds o.events) := by
    generalize o.result = result at exchange
    cases exchange with
    | silent _ _ _ untold => simp [untold]
    | failed _ _ _ _ _ untold => simp [untold]
    | answered artifact _ generated own _ _ told =>
      rw [told, own]
      cases generated <;> exact List.Sublist.refl _
  constructor
  · rw [both]
    rcases given with ⟨unchanged, _⟩ | ⟨fresh, _⟩
    · rw [unchanged, List.append_nil]
      exact h.ids
    · rw [fresh, List.length_append, List.length_singleton, List.range_succ, List.map_append,
        ← h.ids, h.next]
      rfl
  · rw [both]
    rcases given with ⟨unchanged, same⟩ | ⟨fresh, next⟩
    · rw [unchanged, same, List.append_nil]
      exact h.next
    · rw [fresh, next, h.next, List.length_append, List.length_singleton, UInt64.ofNat_add]
      rfl
  · rw [both, taken, List.map_append]
    exact h.answers.append told

theorem run_ordered {p : Platform} {core : VadCore κ} {config : Config} {s : System κ}
    (h : Begun core config s) (ticks : List (RunAnswers p)) :
    Ordered (play (runOnce p core) s ticks).2 (play (runOnce p core) s ticks).1 := by
  induction ticks using List.reverseRecOn with
  | nil => exact ⟨rfl, h.ids, List.Sublist.refl _⟩
  | append_singleton ticks answers ih =>
    have quiet := (run_running p core (h.running p) ticks).quiet
    rw [play_snoc]
    exact ih.call (runOnce_tick p core answers quiet).course

theorem ids_increasing {n : Nat} (few : n < 2 ^ 64) :
    ((List.range n).map UInt64.ofNat).Pairwise (· < ·) := by
  rw [List.pairwise_map]
  apply List.pairwise_lt_range.imp_of_mem
  intro i j first second less
  have bound := List.mem_range.mp second
  exact (UInt64.ofNat_lt_iff_lt (Nat.lt_trans less (Nat.lt_trans bound few))
    (Nat.lt_trans bound few)).mpr less

theorem Ordered.increasing {trace : List Event} {s : System κ} (h : Ordered trace s)
    (few : (finalizedIds trace).length < 2 ^ 64) :
    ((drained trace).map LlmResponse.sequenceId).Pairwise (· < ·) := by
  apply List.Pairwise.sublist h.answers
  rw [h.ids]
  exact ids_increasing few

/-- What an utterance is answered with, by what `llm_generate` returned. -/
def Answers (generated : Except Status (CString 8191)) (response : LlmResponse) : Prop :=
  match generated with
  | .ok text => response.responseText = text ∧ response.usedFallback = 0
  | .error _ => response.responseText.bytes = fallbackText ∧ response.usedFallback = 1

theorem response_id (sequenceId : UInt64) (generated : Except Status (CString 8191)) :
    (response sequenceId generated).sequenceId = sequenceId := by
  cases generated <;> rfl

theorem response_answers (sequenceId : UInt64) (generated : Except Status (CString 8191)) :
    Answers generated (response sequenceId generated) := by
  cases generated with
  | ok text => exact ⟨rfl, rfl⟩
  | error status =>
    have whole : (CString.copy 8191 fallbackText).bytes = fallbackText := by decide
    exact ⟨whole, rfl⟩

theorem answered_in_order (p : Platform) (core : VadCore κ) (config : Config) {s : System κ}
    (started : Started p core config s) (ticks : List (RunAnswers p)) (answers : RunAnswers p)
    (few : (finalizedIds (play (runOnce p core) s (ticks ++ [answers])).2).length < 2 ^ 64) :
    let r := play (runOnce p core) s ticks
    let o := (runOnce p core answers).run r.1
    ((drained (r.2 ++ o.events)).map LlmResponse.sequenceId).Pairwise (· < ·) ∧
    (∀ response ∈ drained o.events, ∃ artifact transcript,
      response.sequenceId = artifact.sequenceId ∧
      artifact.sequenceId ∈ finalizedIds o.events ∧
      (artifact, .ok transcript) ∈ transcriptions o.events) ∧
    (∀ artifact transcript, (artifact, .ok transcript) ∈ transcriptions o.events →
      ∃ generated response, generations o.events = [(artifact.sequenceId, generated)] ∧
        drained o.events = [response] ∧ response.sequenceId = artifact.sequenceId ∧
        Answers generated response) ∧
    (∀ sequenceId status, (sequenceId, .error status) ∈ generations o.events →
      o.result = .ok ()) ∧
    (∀ artifact status, (artifact, .error status) ∈ transcriptions o.events →
      drained o.events = [] ∧ o.result = .error status) := by
  intro r o
  have begun := started.begun
  have quiet := (run_running p core (begun.running p) ticks).quiet
  have ordered := run_ordered begun (ticks ++ [answers])
  have increasing := ordered.increasing few
  rw [play_snoc] at increasing
  obtain ⟨_, exchange⟩ := (runOnce_tick p core answers quiet).course.exchange
  refine ⟨increasing, ?_⟩
  generalize o.result = result at exchange ⊢
  cases exchange with
  | silent _ unheard unasked untold =>
    rw [unheard, unasked, untold]
    simp
  | failed artifact status own heard unasked untold =>
    rw [heard, unasked, untold]
    simp
  | answered artifact transcript generated own heard asked told =>
    rw [heard, asked, told, own]
    refine ⟨?_, ?_, fun _ _ _ => rfl, by simp⟩
    · intro response member
      obtain rfl := List.mem_singleton.mp member
      exact ⟨artifact, transcript, response_id _ _, by simp, by simp⟩
    · intro artifact' transcript' member
      cases List.mem_singleton.mp member
      exact ⟨generated, _, rfl, rfl, response_id _ _, response_answers _ _⟩

/-- Two utterances: the LLM server answers the first, and is gone at the second. -/
theorem answered_in_order_two :
    let silence := List.replicate 640 0
    let ticks := briskTicks answeredTick ++ answeredTick silence ::
      briskTicks fun chunk => sampleTick chunk .ok false
    let r := play (runOnce samplePlatform VadStream.byteCore) briskSystem ticks
    let o := (runOnce samplePlatform VadStream.byteCore (sampleTick silence .ok false)).run r.1
    drained (r.2 ++ o.events) =
        [⟨0, 0, .copy 8191 (ascii "hi")⟩, ⟨1, 1, .copy 8191 fallbackText⟩] ∧
      ((drained (r.2 ++ o.events)).map LlmResponse.sequenceId).Pairwise (· < ·) ∧
      ∃ generated response, generations o.events = [(1, generated)] ∧
        drained o.events = [response] ∧ response.sequenceId = 1 ∧ Answers generated response := by
  intro silence ticks r o
  have heard : (transcriptions o.events).map (fun t => (t.1.sequenceId, t.2.toOption)) =
      [(1, some (.copy 4095 (ascii "hello")))] := by
    decide +kernel
  obtain ⟨⟨artifact, result⟩, one, same⟩ := List.map_eq_singleton_iff.mp heard
  obtain ⟨id, text⟩ := Prod.mk.inj same
  obtain ⟨increasing, _, answered, _⟩ := answered_in_order samplePlatform VadStream.byteCore
    briskConfig brisk_started ticks (sampleTick silence .ok false) (by decide +kernel)
  cases result with
  | error status => cases text
  | ok transcript =>
    have given := answered artifact transcript (by rw [one]; exact List.mem_singleton_self _)
    rw [show artifact.sequenceId = 1 from id] at given
    exact ⟨by decide +kernel, increasing, given⟩

end Supervisor

end Assistantd
