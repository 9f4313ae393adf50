import Assistantd.Supervisor.Runs

/-! Which utterance files are on disk. -/
namespace Assistantd

open Calls
open CText (CString)

/-- The utterance files on disk after one more event. A write that fails is
taken to leave no file. -/
def Event.store (files : List (CString 511)) : Event → List (CString 511)
  | .wav _ path _ .written => path :: files.filter (· ≠ path)
  | .unlink path true => files.filter (· ≠ path)
  | _ => files

/-- What `unlink` returned, if it was called. -/
def Event.removes : Event → Bool
  | .unlink _ removed => removed
  | _ => true

def Event.sttFails : Event → Bool
  | .transcribed _ (.error _) => true
  | _ => false

/-- The utterance files that are still there after a trace. -/
def filesLeft (trace : List Event) : List (CString 511) := trace.foldl Event.store []

theorem filesLeft_append (xs ys : List Event) :
    filesLeft (xs ++ ys) = ys.foldl Event.store (filesLeft xs) :=
  List.foldl_append

/-- Events that leave the files alone. -/
theorem foldl_idle {events : List Event} (files : List (CString 511))
    (idle : ∀ e ∈ events, ∀ files, Event.store files e = files) :
    events.foldl Event.store files = files := by
  induction events with
  | nil => rfl
  | cons e events ih =>
    rw [List.foldl_cons, idle e List.mem_cons_self, ih fun x member =>
      idle x (List.mem_cons_of_mem e member)]

theorem foldl_stages (files : List (CString 511)) (events : List Event) :
    (stages events).foldl Event.store files = events.foldl Event.store files := by
  induction events generalizing files with
  | nil => rfl
  | cons e events ih =>
    rw [stages_cons]
    split
    · exact ih _
    · rename_i hidden
      have idle : Event.store files e = files := by
        cases e <;> first | rfl | exact absurd rfl hidden
      rw [List.foldl_cons, idle, ih]

/-- Every removal that was tried went well. -/
def Removes (trace : List Event) : Prop := ∀ e ∈ trace, e.removes = true

/-- No STT call has failed. -/
def Transcribed (trace : List Event) : Prop := ∀ e ∈ trace, e.sttFails = false

theorem removes_append {xs ys : List Event} : Removes (xs ++ ys) ↔ Removes xs ∧ Removes ys :=
  List.forall_mem_append

theorem transcribed_append {xs ys : List Event} :
    Transcribed (xs ++ ys) ↔ Transcribed xs ∧ Transcribed ys :=
  List.forall_mem_append

namespace Supervisor

variable {κ : Type}

/-- The files that are left are those in the queue, each in one entry. -/
def Tidy (trace : List Event) (s : System κ) : Prop :=
  ∃ queued, SlotQueue.Stores 16 s.artifactQueue queued ∧ (queued.map Artifact.wavPath).Nodup ∧
    ∀ path, path ∈ filesLeft trace ↔ path ∈ queued.map Artifact.wavPath

theorem tidy_iff {trace : List Event} {s : System κ}
    (empty : SlotQueue.Stores 16 s.artifactQueue []) : Tidy trace s ↔ filesLeft trace = [] := by
  constructor
  · rintro ⟨queued, stored, _, same⟩
    have nothing : queued = [] := List.eq_nil_of_length_eq_zero (by
      rw [← stored.size]
      exact empty.size)
    apply List.eq_nil_iff_forall_not_mem.mpr
    intro path left
    rw [same, nothing] at left
    cases left
  · intro nothing
    exact ⟨[], empty, List.nodup_nil, by simp [nothing]⟩

/-! ## One call -/

theorem upkeep_idle {events : List Event} (upkeep : ∀ e ∈ events, e.Upkeep) :
    (∀ files, events.foldl Event.store files = files) ∧ Transcribed events := by
  constructor
  · intro files
    rw [← foldl_stages]
    apply foldl_idle
    intro e member files
    obtain ⟨known, stage⟩ := List.mem_filter.mp member
    obtain ⟨op, addr, rfl | rfl⟩ := upkeep e known stage <;> rfl
  · intro e member
    cases stage : e.isStage with
    | false => cases e <;> first | rfl | cases stage
    | true => obtain ⟨op, addr, rfl | rfl⟩ := upkeep e member stage <;> rfl

theorem arrived_idle {p : Platform} (answers : RunAnswers p) (s : System κ) :
    (∀ files, (arrived answers s).foldl Event.store files = files) ∧
      Transcribed (arrived answers s) := by
  unfold arrived wrote Transcribed
  split <;> split <;> simp [Event.store, Event.sttFails]

/-- An utterance that does not reach the queue leaves no file. -/
theorem Yield.files {config : Config} {id id' : UInt64} {answers : FrameAnswers}
    {product : Product} {result : Except Status Unit}
    (h : Yield config id answers product result id') (nothing : product.artifacts = []) :
    product.events.foldl Event.store [] = [] ∧ Transcribed product.events := by
  cases h with
  | kept => simp [Product.events, Transcribed]
  | refused => simp [Product.events, Transcribed, Event.store, Event.sttFails]
  | unwritten pcm failed =>
    cases result : answers.wav with
    | notOpened => simp [Product.events, Transcribed, Event.store, Event.sttFails]
    | incomplete =>
      cases answers.unlink <;> simp [Product.events, Transcribed, Event.store, Event.sttFails]
    | written => exact absurd result failed
  | queued => cases nothing

theorem Reply.files (reply : Reply) (artifact : Artifact)
    (removes : Removes (reply.events artifact)) :
    (reply.events artifact).foldl Event.store [artifact.wavPath] = [] ↔
      Transcribed (reply.events artifact) := by
  have heard : ∀ (calls : List HttpEvent) files,
      (calls.map Event.stt).foldl Event.store files = files :=
    fun calls files => foldl_idle files (by simp [Event.store])
  have asked : ∀ (calls : List HttpEvent) files,
      (calls.map Event.llm).foldl Event.store files = files :=
    fun calls files => foldl_idle files (by simp [Event.store])
  cases reply with
  | failed stt status =>
    refine iff_of_false ?_ ?_
    · simp [Reply.events, heard, Event.store]
    · intro done
      have fails := done (.transcribed artifact (.error status)) (by simp [Reply.events])
      cases fails
  | answered stt transcript removed llm generated =>
    obtain rfl : removed = true :=
      removes (.unlink artifact.wavPath removed) (by simp [Reply.events])
    refine iff_of_true ?_ ?_
    · simp [Reply.events, heard, asked, Event.store]
    · simp [Reply.events, Transcribed, or_imp, forall_and, Event.sttFails]

theorem Course.files {p : Platform} {answers : RunAnswers p} {s : System κ}
    {o : Outcome (System κ) Event Status Unit} (course : Course p answers s o)
    (removes : Removes o.events) :
    o.events.foldl Event.store [] = [] ↔ Transcribed o.events := by
  have visible : Transcribed o.events ↔ Transcribed (stages o.events) := by
    refine ⟨fun done e member => done e (List.mem_of_mem_filter member), ?_⟩
    intro done e member
    cases stage : e.isStage with
    | false => cases e <;> first | rfl | cases stage
    | true => exact done e (List.mem_filter.mpr ⟨member, stage⟩)
  have removed : Removes (stages o.events) :=
    fun e member => removes e (List.mem_of_mem_filter member)
  obtain ⟨idle, unheard⟩ := arrived_idle answers s
  rw [visible, ← foldl_stages]
  cases course with
  | unanswered product nothing yield told =>
    obtain ⟨clean, silent⟩ := yield.files nothing
    rw [told, heard, List.foldl_append, idle, clean, transcribed_append]
    exact iff_of_true rfl ⟨unheard, silent⟩
  | answered artifact pcm reply _ told _ _ =>
    rw [told, removes_append] at removed
    have written : (heard answers s (.queued artifact pcm)).foldl Event.store [] =
        [artifact.wavPath] := by
      rw [heard, List.foldl_append, idle]
      simp [Product.events, Event.store]
    have made : Transcribed (heard answers s (.queued artifact pcm)) :=
      transcribed_append.mpr ⟨unheard, by simp [Transcribed, Product.events, Event.sttFails]⟩
    rw [told, List.foldl_append, written, reply.files artifact removed.2, transcribed_append]
    exact (and_iff_right made).symm

theorem call_files (p : Platform) (core : VadCore κ) {config : Config} (next : Api p) {s : System κ}
    (h : Seen p config s) (removes : Removes ((call p core next).run s).events) :
    ((call p core next).run s).events.foldl Event.store [] = [] ↔
      Transcribed ((call p core next).run s).events := by
  have upkept : (∀ e ∈ ((call p core next).run s).events, e.Upkeep) →
      (((call p core next).run s).events.foldl Event.store [] = [] ↔
        Transcribed ((call p core next).run s).events) := by
    intro upkeep
    obtain ⟨idle, silent⟩ := upkeep_idle upkeep
    exact iff_of_true (idle []) silent
  cases next with
  | start answers =>
    apply upkept
    simp only [call]
    by_cases ready : s.state = .ready
    · obtain ⟨result, t, events, started, upkeep, _⟩ := start_cases core answers (h.fresh ready)
      rw [started]
      exact upkeep
    · rw [start_refused core answers ready]
      exact List.forall_mem_nil _
  | stop answers =>
    apply upkept
    obtain ⟨t, events, ended, upkeep, _⟩ := stop_run answers h
    simp only [call, ended]
    exact upkeep
  | runOnce answers =>
    simp only [call] at removes upkept ⊢
    by_cases active : s.state = .running
    · exact (runOnce_tick p core answers (h.running_of active).quiet).course.files removes
    · apply upkept
      rw [runOnce_refused p core answers active]
      exact List.forall_mem_nil _

/-! ## Any sequence of calls -/

theorem no_files_left (p : Platform) (core : VadCore κ) (config : Config) (calls : List (Api p))
    (removes : Removes (play (call p core) (init config) calls).2) :
    Throughout Tidy (call p core) (init config) calls ↔
      Transcribed (play (call p core) (init config) calls).2 := by
  induction calls using List.reverseRecOn with
  | nil =>
    rw [throughout_nil, tidy_iff (init_fresh config).queues.1]
    simp [filesLeft, Transcribed]
  | append_singleton calls next ih =>
    obtain ⟨seen, _⟩ := calls_seen p core config calls
    have empty := (calls_seen p core config (calls ++ [next])).1.queues.1
    rw [play_snoc] at empty removes
    obtain ⟨earlier, later⟩ := removes_append.mp removes
    rw [throughout_snoc, play_snoc, tidy_iff empty, filesLeft_append, transcribed_append,
      ih earlier]
    constructor
    · rintro ⟨done, clean⟩
      have nothing := (tidy_iff seen.queues.1).mp ((ih earlier).mpr done).last
      rw [nothing] at clean
      exact ⟨done, (call_files p core next seen later).mp clean⟩
    · rintro ⟨done, still⟩
      have nothing := (tidy_iff seen.queues.1).mp ((ih earlier).mpr done).last
      refine ⟨done, ?_⟩
      rw [nothing]
      exact (call_files p core next seen later).mpr still

section Sample

/-- A frame of speech, the silence that ends it, and a stop. -/
def briskCalls (stt : CurlCode) : List (Api samplePlatform) :=
  .start sampleStart :: .runOnce (sampleTick (List.replicate 640 1) stt false) ::
    (List.replicate 5 (.runOnce (sampleTick (List.replicate 640 0) stt false)) ++
      [.stop sampleStart.cleanup])

theorem brisk_removed : ∀ e ∈ (play (call samplePlatform VadStream.byteCore) (init briskConfig)
    (briskCalls .ok)).2, e.removes = true ∧ e.sttFails = false := by
  decide +kernel

theorem no_files_left_brisk : Throughout Tidy (call samplePlatform VadStream.byteCore)
    (init briskConfig) (briskCalls .ok) :=
  (no_files_left samplePlatform VadStream.byteCore briskConfig (briskCalls .ok)
    fun e member => (brisk_removed e member).1).mpr fun e member => (brisk_removed e member).2

/-- With the STT server down the recording is still there after the stop. -/
theorem files_left_unheard :
    let r := play (call samplePlatform VadStream.byteCore) (init briskConfig) (briskCalls .other)
    briskConfig.validate = .ok ∧ Removes r.2 ∧ r.1.state = .stopped ∧ ¬ Tidy r.2 r.1 := by
  intro r
  have ended : r.1.state = .stopped ∧ (filesLeft r.2).length = 1 ∧
      ∀ e ∈ r.2, e.removes = true := by
    decide +kernel
  obtain ⟨stopped, left, removed⟩ := ended
  refine ⟨by decide, removed, stopped, ?_⟩
  rw [tidy_iff (calls_seen _ _ _ _).1.queues.1]
  intro nothing
  simp [nothing] at left

end Sample

end Supervisor

end Assistantd
