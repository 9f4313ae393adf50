import Assistantd.Supervisor.Lifecycle

/-! The HTTP requests of a run: where they go, and whether they can be stopped. -/
namespace Assistantd

open Calls

/-- The requests of a supervisor with this config. None of them is ever stopped
by a progress poll. -/
def Event.Follows (config : Config) : Event → Prop
  | .stt (.upload url _) => url = SttAdapter.buildInferenceUrl config.sttApiBaseUrl
  | .stt (.post _ _) => False
  | .llm (.upload _ _) => False
  | .llm (.post url _) => url = LlmAdapter.chatUrl config.llmApiBaseUrl
  | .llm (.poll _ continues) => continues = true
  | _ => True

namespace Supervisor

variable {κ : Type} {config : Config}

theorem upkeep_follows {e : Event} (upkeep : e.Upkeep) : e.Follows config := by
  by_cases stage : e.isStage = true
  · obtain ⟨op, addr, rfl | rfl⟩ := upkeep stage <;> trivial
  · cases e <;> trivial

theorem permits_stt {adapter : SttAdapter} {addr : Nat}
    (started : adapter = ⟨true, config.sttApiBaseUrl, some addr⟩) {call : HttpEvent}
    (permitted : adapter.Permits call) : (Event.stt call).Follows config := by
  cases call with
  | upload url file =>
    rw [started] at permitted
    exact permitted
  | post => exact permitted
  | poll => cases permitted
  | _ => trivial

theorem permits_llm {adapter : LlmAdapter} {systemPrompt : List UInt8} {addr : Nat}
    (started : adapter =
      ⟨true, systemPrompt, config.llmApiBaseUrl, config.llmModel, none, some addr⟩)
    {call : HttpEvent} (permitted : adapter.Permits call) : (Event.llm call).Follows config := by
  rw [started] at permitted
  cases call with
  | upload => exact permitted
  | post => exact permitted
  | poll => exact permitted
  | _ => trivial

theorem Reply.follows {stt : SttAdapter} {llm : LlmAdapter} {unlink : Bool} {reply : Reply}
    (permitted : reply.Permitted stt llm unlink) (artifact : Artifact)
    (heard : ∀ call, stt.Permits call → (Event.stt call).Follows config)
    (asked : ∀ call, llm.Permits call → (Event.llm call).Follows config) :
    ∀ e ∈ reply.events artifact, e.Follows config := by
  have quietly : ∀ {calls : List HttpEvent}, (∀ call ∈ calls, stt.Permits call) →
      ∀ e ∈ calls.map Event.stt, e.Follows config := by
    intro calls allowed e member
    obtain ⟨call, called, rfl⟩ := List.mem_map.mp member
    exact heard call (allowed call called)
  cases reply with
  | failed calls status =>
    simp only [Reply.events, List.forall_mem_cons, List.forall_mem_append]
    exact ⟨trivial, quietly permitted, trivial, List.forall_mem_nil _⟩
  | answered calls transcript removed calls' generated =>
    obtain ⟨first, _, second⟩ := permitted
    have openly : ∀ e ∈ calls'.map Event.llm, e.Follows config := by
      intro e member
      obtain ⟨call, called, rfl⟩ := List.mem_map.mp member
      exact asked call (second call called)
    simp only [Reply.events, List.forall_mem_cons, List.forall_mem_append]
    exact ⟨trivial, ⟨⟨quietly first, trivial, trivial, List.forall_mem_nil _⟩, openly⟩, trivial,
      trivial, trivial, List.forall_mem_nil _⟩

theorem heard_follows {p : Platform} (answers : RunAnswers p) (s : System κ) (product : Product) :
    ∀ e ∈ heard answers s product, e.Follows config := by
  have arrived : ∀ e ∈ arrived answers s, e.Follows config := by
    unfold Supervisor.arrived wrote
    split <;> split <;> simp [Event.Follows]
  refine List.forall_mem_append.mpr ⟨arrived, ?_⟩
  cases product with
  | unwritten _ _ _ result _ => cases result <;> simp [Product.events, Event.Follows]
  | _ => simp [Product.events, Event.Follows]

theorem runOnce_follows (p : Platform) (core : VadCore κ) (answers : RunAnswers p) {s : System κ}
    (h : Running p config s) : ∀ e ∈ ((runOnce p core answers).run s).events, e.Follows config := by
  have tick := runOnce_tick p core answers h.quiet
  have shown : (∀ e ∈ stages ((runOnce p core answers).run s).events, e.Follows config) →
      ∀ e ∈ ((runOnce p core answers).run s).events, e.Follows config := by
    intro visible e member
    cases stage : e.isStage with
    | false => cases e <;> trivial
    | true => exact visible e (List.mem_filter.mpr ⟨member, stage⟩)
  apply shown
  cases tick.course with
  | unanswered product _ _ told =>
    rw [told]
    exact heard_follows answers s product
  | answered artifact pcm reply _ told _ permitted =>
    obtain ⟨_, stt⟩ := h.stt
    obtain ⟨_, _, llm⟩ := h.llm
    rw [told, List.forall_mem_append]
    exact ⟨heard_follows answers s _, reply.follows permitted artifact (fun _ => permits_stt stt)
      fun _ => permits_llm llm⟩

theorem call_follows (p : Platform) (core : VadCore κ) (next : Api p) (s : System κ) :
    Keeps (Within (Seen p config) (Event.Follows config)) (call p core next) s := by
  rintro trace ⟨seen, old⟩
  refine ⟨(call_seen p core next seen).1, List.forall_mem_append.mpr ⟨old, ?_⟩⟩
  cases next with
  | start answers =>
    simp only [call]
    by_cases ready : s.state = .ready
    · obtain ⟨result, t, events, started, upkeep, _⟩ := start_cases core answers (seen.fresh ready)
      rw [started]
      exact fun e member => upkeep_follows (upkeep e member)
    · rw [start_refused core answers ready]
      exact List.forall_mem_nil _
  | runOnce answers =>
    simp only [call]
    by_cases active : s.state = .running
    · exact runOnce_follows p core answers (seen.running_of active)
    · rw [runOnce_refused p core answers active]
      exact List.forall_mem_nil _
  | stop answers =>
    obtain ⟨t, events, ended, upkeep, _⟩ := stop_run answers seen
    simp only [call, ended]
    exact fun e member => upkeep_follows (upkeep e member)

end Supervisor

end Assistantd
