import Assistantd.Lib.Lexicographic
import Assistantd.Supervisor.Answers

/-! The files of utterances: their names sort like the utterances, and no name is
used again. -/
namespace Assistantd

open Calls
open CText (CString)

/-- What a file is named for. -/
inductive FileUse where
  | write
  | queue
  deriving DecidableEq

def Event.fileUse : Event → Option (FileUse × CString 511)
  | .wav _ path _ _ => some (.write, path)
  | .artifactQueued artifact => some (.queue, artifact.wavPath)
  | _ => none

def fileUses (events : List Event) : List (FileUse × CString 511) :=
  events.filterMap Event.fileUse

theorem fileUses_append (xs ys : List Event) : fileUses (xs ++ ys) = fileUses xs ++ fileUses ys :=
  List.filterMap_append

theorem finalizedIds_append (xs ys : List Event) :
    finalizedIds (xs ++ ys) = finalizedIds xs ++ finalizedIds ys := List.filterMap_append

theorem noted_stages {events seen : List Event} (told : stages events = seen) :
    finalizedIds events = finalizedIds seen ∧ fileUses events = fileUses seen := by
  have hidden : ∀ e : Event, e.isStage = false → e.fileUse = none := by
    intro e hidden
    cases e <;> first | rfl | cases hidden
  rw [← told]
  exact ⟨(filterMap_stages (fun e hidden => (Supervisor.observe_hidden e hidden).1) events).symm,
    (filterMap_stages hidden events).symm⟩

namespace Supervisor

variable {κ : Type}

/-! ## Names -/

theorem artifactPath_lt {config : Config} {a b : UInt64} (less : a < b) :
    artifactPath config a < artifactPath config b := by
  have small : ∀ id : UInt64, id.toNat < 10 ^ 20 :=
    fun id => Nat.lt_trans id.toNat_lt (by decide)
  have numbers := Lexicographic.zeroPadded_lt (UInt64.lt_iff_toNat_lt.mp less) (small b)
  have width : (CText.zeroPadded 20 a.toNat).length = (CText.zeroPadded 20 b.toNat).length := by
    rw [CText.zeroPadded_length (small a), CText.zeroPadded_length (small b)]
  unfold artifactPath
  rw [List.append_assoc _ (CText.zeroPadded _ _), List.append_assoc _ (CText.zeroPadded _ _)]
  exact List.append_left_lt (Lexicographic.append_lt width numbers _ _)

/-- Two paths are built or not alike, and the one of the lesser id is the first. -/
theorem buildArtifactPath_sorted (s : System κ) {a b : UInt64} (less : a < b) :
    (476 < s.config.runtimeDir.bytes.length ∧
      ((buildArtifactPath a).run s).result = .error .errIo ∧
      ((buildArtifactPath b).run s).result = .error .errIo) ∨
    s.config.runtimeDir.bytes.length ≤ 476 ∧ ∃ path path',
      ((buildArtifactPath a).run s).result = .ok path ∧
      ((buildArtifactPath b).run s).result = .ok path' ∧
      path.bytes < path'.bytes ∧ path.bytes.length = path'.bytes.length := by
  have length := artifactPath_length s.config a
  have length' := artifactPath_length s.config b
  rw [buildArtifactPath_run, buildArtifactPath_run]
  by_cases long : 476 < s.config.runtimeDir.bytes.length
  · rw [if_pos (by omega), if_pos (by omega)]
    exact .inl ⟨long, rfl, rfl⟩
  · rw [if_neg (by omega), if_neg (by omega)]
    refine .inr ⟨by omega, _, _, rfl, rfl, ?_⟩
    rw [artifactPath_bytes (by omega), artifactPath_bytes (by omega), length, length']
    exact ⟨artifactPath_lt less, rfl⟩

/-! ## One call -/

/-- What may be done with the file of an id. -/
inductive Mentions (config : Config) (id : UInt64) : List (FileUse × CString 511) → Prop where
  | unnamed : Mentions config id []
  | written : (artifactPath config id).length < 512 →
      Mentions config id [(.write, .copy 511 (artifactPath config id))]
  | queued : (artifactPath config id).length < 512 →
      Mentions config id [(.write, .copy 511 (artifactPath config id)),
        (.queue, .copy 511 (artifactPath config id))]

/-- A call gives out no id and names no file, or it takes a frame off the ring and
gives out the next id. -/
inductive Spends (s : System κ) (t : System κ) (ids : List UInt64)
    (uses : List (FileUse × CString 511)) : Prop where
  | nothing : ids = [] → uses = [] → t.nextArtifactSequenceId = s.nextArtifactSequenceId →
      s.captureRing.tail ≤ t.captureRing.tail → Spends s t ids uses
  | id : ids = [s.nextArtifactSequenceId] → Mentions s.config s.nextArtifactSequenceId uses →
      t.nextArtifactSequenceId = s.nextArtifactSequenceId + 1 →
      s.captureRing.tail + 640 = t.captureRing.tail → Spends s t ids uses

section Call

variable {p : Platform} {s : System κ}

theorem finalizeUtterance_unnamed (answers : FrameAnswers)
    (long : (artifactPath s.config s.nextArtifactSequenceId).length ≥ 512) :
    fileUses ((finalizeUtterance answers).run s).events = [] := by
  by_cases missing : s.utteranceMetadata.size = 0 ∨ s.utteranceMetadata.pcm.isNone = true
  · simp only [finalizeUtterance, run_bind, run_get, andThen_ok, after_nil, if_pos missing,
      resetUtterance_run]
    rfl
  · simp only [finalizeUtterance, run_bind, run_get, andThen_ok, after_nil, if_neg missing,
      run_emits, persistUtterance_unnamed _ answers long]
    have told : stages (pcmTouch .use s.utteranceMetadata ++
        [.finalized s.nextArtifactSequenceId]) = [.finalized s.nextArtifactSequenceId] := by
      rw [stages_append, stages_pcmTouch]
      rfl
    exact (noted_stages told).2

theorem collectFrame_unnamed (p : Platform) (frame : List UInt8) {event : VadEvent} {active after : Bool}
    (turn : VadDetector.Turn active event after) (answers : FrameAnswers)
    (long : (artifactPath s.config s.nextArtifactSequenceId).length ≥ 512) :
    fileUses ((collectFrame p frame event active answers).run s).events = [] := by
  have appends : ∀ t : System κ,
      fileUses ((appendUtterancePcm p frame answers.realloc).run t).events = [] := by
    intro t
    obtain ⟨_, _, _, _, appended, silent⟩ := appendUtterancePcm_run p frame answers.realloc t
    rw [appended]
    exact (noted_stages silent).2
  cases turn with
  | none =>
    rw [collectFrame_none]
    rfl
  | speechStart =>
    rw [collectFrame_start]
    exact appends _
  | speechContinue =>
    rw [collectFrame_continue]
    exact appends s
  | speechEnd =>
    have quiet := appends s
    obtain ⟨result, m, nextAddr, events, appended, _⟩ :=
      appendUtterancePcm_run p frame answers.realloc s
    rw [appended] at quiet
    rw [collectFrame_end, appended]
    cases result with
    | error _ => exact quiet
    | ok _ =>
      have nothing := finalizeUtterance_unnamed answers
        (s := { s with utteranceMetadata := m, nextAddr }) long
      show fileUses (events ++ _) = []
      rw [fileUses_append, quiet, nothing]
      rfl

theorem Product.noted (product : Product) : fileUses product.events =
    match product with
    | .unwritten _ path _ _ _ => [(.write, path)]
    | .queued artifact _ => [(.write, artifact.wavPath), (.queue, artifact.wavPath)]
    | _ => [] := by
  cases product with
  | unwritten _ _ _ result _ => cases result <;> rfl
  | _ => rfl

theorem handleFrame_unnamed (core : VadCore κ) (frame : List UInt8) (answers : FrameAnswers)
    (long : (artifactPath s.config s.nextArtifactSequenceId).length ≥ 512) :
    fileUses ((handleFrame p core frame answers).run s).events = [] := by
  obtain ⟨vad, touches, _, heard⟩ := handleFrame_cases p core frame answers s
  have told : stages (.frame frame :: touches.map fun touch => .vad touch.1 touch.2) =
      [.frame frame] := by
    simp [Event.isStage]
  have silent := (noted_stages told).2
  rcases heard with ⟨_, _, _, failed⟩ | ⟨event, _, turn, collects⟩
  · rw [failed]
    exact silent
  · rw [collects, Outcome.after, fileUses_append, silent,
      collectFrame_unnamed p frame turn answers (s := { s with vad }) long]
    rfl

theorem handleFrame_spends (core : VadCore κ) (frame : List UInt8) (answers : FrameAnswers)
    (empty : SlotQueue.Stores 16 s.artifactQueue []) :
    let o := (handleFrame p core frame answers).run s
    o.state.captureRing = s.captureRing ∧
    ((finalizedIds o.events = [] ∧ fileUses o.events = [] ∧
        o.state.nextArtifactSequenceId = s.nextArtifactSequenceId) ∨
      (finalizedIds o.events = [s.nextArtifactSequenceId] ∧
        Mentions s.config s.nextArtifactSequenceId (fileUses o.events) ∧
        o.state.nextArtifactSequenceId = s.nextArtifactSequenceId + 1)) := by
  intro o
  obtain ⟨product, framed, told⟩ := handleFrame_frame p core frame answers empty
  obtain ⟨_, _, _, _, _, left⟩ := framed.state
  refine ⟨by simp only [o, left], ?_⟩
  obtain ⟨ids, uses⟩ := noted_stages told
  have given : finalizedIds o.events = product.ids := ids.trans product.observe.1
  have named : fileUses o.events = fileUses product.events := uses
  have unnamed : (artifactPath s.config s.nextArtifactSequenceId).length ≥ 512 →
      fileUses o.events = [] := handleFrame_unnamed core frame answers
  have yield : Yield s.config s.nextArtifactSequenceId answers product o.result
    o.state.nextArtifactSequenceId := framed.yield
  rw [product.noted] at named
  rw [given, named]
  rw [named] at unnamed
  generalize o.state.nextArtifactSequenceId = id, o.result = result at yield
  cases yield with
  | kept => exact .inl ⟨rfl, rfl, rfl⟩
  | refused => exact .inr ⟨rfl, .unnamed, rfl⟩
  | unwritten =>
    refine .inr ⟨rfl, .written ?_, rfl⟩
    by_contra long
    cases unnamed (by omega)
  | queued _ _ fits => exact .inr ⟨rfl, .queued fits, rfl⟩

/-- A reply spends nothing. -/
theorem spends_settled (s : System κ) :
    Settled fun trace t => Spends s t (finalizedIds trace) (fileUses trace) where
  told trace t e reply h := by
    have silent : e.finalizedId = none ∧ e.fileUse = none := by
      cases e <;> first | exact ⟨rfl, rfl⟩ | cases reply
    have same : finalizedIds (trace ++ [e]) = finalizedIds trace ∧
        fileUses (trace ++ [e]) = fileUses trace := by
      simp [finalizedIds, fileUses, silent]
    rw [same.1, same.2]
    exact h
  moved _ _ _ _ _ h := by
    cases h with
    | nothing ids uses next tail => exact .nothing ids uses next tail
    | id ids uses next tail => exact .id ids uses next tail

theorem runOnce_spends (core : VadCore κ) (answers : RunAnswers p) (quiet : Quiet p s) :
    let o := (runOnce p core answers).run s
    Spends s o.state (finalizedIds o.events) (fileUses o.events) := by
  intro o
  have called : o = ((listen p core answers).run s).andThen fun _ => respond p answers :=
    runOnce_run p core answers quiet.running
  rw [called]
  apply andThen_keeps (h := []) (I := fun trace t => Spends s t (finalizedIds trace) (fileUses trace))
    ?_ fun _ _ => respond_settled (spends_settled s) answers _
  obtain ⟨events, told, listened⟩ := listen_run p core answers quiet
  have silent : finalizedIds events = [] ∧ fileUses events = [] := by
    obtain ⟨ids, uses⟩ := noted_stages told
    rw [ids, uses]
    unfold wrote
    split <;> exact ⟨rfl, rfl⟩
  have tail : (filled answers s).tail = s.captureRing.tail := RingBuffer.write_tail _ _ _
  rw [List.nil_append]
  by_cases less : (filled answers s).available < 640
  · rw [if_pos less] at listened
    obtain ⟨result, listened⟩ := listened
    rw [listened]
    exact .nothing silent.1 silent.2 rfl (Nat.le_of_eq tail.symm)
  · rw [if_neg less] at listened
    have read := (filled_steady answers quiet).read_tail (by omega)
    have quietly : stages (ringTouch .use (filled answers s) ++ [.ringRead 640]) = [.ringRead 640] := by
      rw [stages_append, stages_ringTouch]
      rfl
    obtain ⟨noIds, noUses⟩ := noted_stages quietly
    obtain ⟨ring, spent⟩ := handleFrame_spends (p := p) core
      ((filled answers s).read p.sizeBits 640).1 (answers.frames 0) (s := { s with
        capture := captureAfter answers s
        captureRing := ((filled answers s).read p.sizeBits 640).2 }) quiet.artifacts
    rw [listened]
    simp only [Outcome.after, finalizedIds_append, fileUses_append, silent, noIds, noUses]
    rcases spent with ⟨ids, uses, next⟩ | ⟨ids, uses, next⟩
    · refine .nothing ids uses next ?_
      rw [ring, read, tail]
      exact Nat.le_add_right _ _
    · refine .id ids uses next ?_
      rw [ring, read, tail]

end Call

/-! ## Any calls -/

section Run

variable {p : Platform} {config : Config} {trace : List Event} {s : System κ}

/-- Every id given out has cost a frame of the ring, whose counter never wraps. -/
structure Counted (p : Platform) (config : Config) (trace : List Event) (s : System κ) :
    Prop where
  ids : finalizedIds trace = (List.range (finalizedIds trace).length).map UInt64.ofNat
  few : 640 * (finalizedIds trace).length < 2 ^ p.sizeBits
  ready : s.state = .ready → finalizedIds trace = []
  running : s.state = .running →
    s.nextArtifactSequenceId = .ofNat (finalizedIds trace).length ∧
      640 * (finalizedIds trace).length ≤ s.captureRing.tail
  named : ∀ f ∈ fileUses trace, ∃ id ∈ finalizedIds trace,
    (artifactPath config id).length < 512 ∧ f.2 = .copy 511 (artifactPath config id)
  once : (fileUses trace).Pairwise fun earlier later => later.1 = .write → earlier.2 ≠ later.2

/-- Starting and stopping names no file. -/
theorem upkeep_noted {events : List Event} (upkeep : ∀ e ∈ events, e.Upkeep) :
    finalizedIds events = [] ∧ fileUses events = [] := by
  have silent : ∀ e ∈ events, e.finalizedId = none ∧ e.fileUse = none := by
    intro e member
    cases stage : e.isStage with
    | false => cases e <;> first | exact ⟨rfl, rfl⟩ | cases stage
    | true => obtain ⟨op, addr, rfl | rfl⟩ := upkeep e member stage <;> exact ⟨rfl, rfl⟩
  exact ⟨List.filterMap_eq_nil_iff.mpr fun e member => (silent e member).1,
    List.filterMap_eq_nil_iff.mpr fun e member => (silent e member).2⟩

theorem Counted.still (h : Counted p config trace s) {t : System κ} {events : List Event}
    (noIds : finalizedIds events = []) (noUses : fileUses events = [])
    (ready : t.state = .ready → finalizedIds trace = [])
    (running : t.state = .running →
      t.nextArtifactSequenceId = .ofNat (finalizedIds trace).length ∧
        640 * (finalizedIds trace).length ≤ t.captureRing.tail) :
    Counted p config (trace ++ events) t := by
  have ids : finalizedIds (trace ++ events) = finalizedIds trace := by
    rw [finalizedIds_append, noIds, List.append_nil]
  have uses : fileUses (trace ++ events) = fileUses trace := by
    rw [fileUses_append, noUses, List.append_nil]
  exact ⟨ids ▸ h.ids, ids ▸ h.few, ids ▸ ready, ids ▸ running, ids ▸ uses ▸ h.named, uses ▸ h.once⟩

theorem Mentions.named {id : UInt64} {uses : List (FileUse × CString 511)}
    (h : Mentions config id uses) : ∀ f ∈ uses, (artifactPath config id).length < 512 ∧
      f.2 = .copy 511 (artifactPath config id) := by
  cases h with
  | unnamed => exact List.forall_mem_nil _
  | written fits => simpa using fits
  | queued fits => simpa using fits

theorem Mentions.once {id : UInt64} {uses : List (FileUse × CString 511)}
    (h : Mentions config id uses) :
    uses.Pairwise fun earlier later => later.1 = .write → earlier.2 ≠ later.2 := by
  cases h with
  | unnamed => exact .nil
  | written => exact List.pairwise_singleton _ _
  | queued => simp

theorem Counted.below (narrow : p.sizeBits ≤ 64) (h : Counted p config trace s) :
    (finalizedIds trace).length < 2 ^ 64 := by
  have few := h.few
  have wide : 2 ^ p.sizeBits ≤ 2 ^ 64 := Nat.pow_le_pow_right (by decide) narrow
  omega

/-- The next id is a new one. -/
theorem Counted.fresh (narrow : p.sizeBits ≤ 64) (h : Counted p config trace s) :
    ∀ id ∈ finalizedIds trace, id < .ofNat (finalizedIds trace).length := by
  intro id member
  have below := h.below narrow
  rw [h.ids] at member
  obtain ⟨i, less, rfl⟩ := List.mem_map.mp member
  rw [List.mem_range] at less
  exact (UInt64.ofNat_lt_iff_lt (Nat.lt_trans less below) below).mpr less

/-- A frame is spent on an id, and the id on a name. -/
theorem Counted.spent (narrow : p.sizeBits ≤ 64) (h : Counted p config trace s)
    (active : s.state = .running) (configured : s.config = config) {t : System κ}
    {events : List Event} (spends : Spends s t (finalizedIds events) (fileUses events))
    (running : t.state = .running) (bounded : t.captureRing.tail < 2 ^ p.sizeBits) :
    Counted p config (trace ++ events) t := by
  obtain ⟨next, spent⟩ := h.running active
  cases spends with
  | nothing noIds noUses same tail =>
    refine h.still noIds noUses ?_ fun _ => ⟨same.trans next, by omega⟩
    rw [running]
    nofun
  | id given uses after tail =>
    rw [configured, next] at uses
    have ids : finalizedIds (trace ++ events) =
        finalizedIds trace ++ [.ofNat (finalizedIds trace).length] := by
      rw [finalizedIds_append, given, next]
    have files := fileUses_append trace events
    have fresh := h.fresh narrow
    refine ⟨?_, ?_, ?_, ?_, ?_, ?_⟩
    · rw [ids, List.length_append, List.length_singleton, List.range_succ, List.map_append, ← h.ids]
      rfl
    · rw [ids, List.length_append, List.length_singleton]
      omega
    · rw [running]
      nofun
    · intro _
      rw [ids, List.length_append, List.length_singleton, after, next, UInt64.ofNat_add]
      exact ⟨rfl, by omega⟩
    · rw [files, ids]
      intro f member
      rcases List.mem_append.mp member with earlier | later
      · obtain ⟨id, known, named⟩ := h.named f earlier
        exact ⟨id, List.mem_append_left _ known, named⟩
      · exact ⟨_, List.mem_append_right _ (List.mem_singleton_self _), uses.named f later⟩
    · rw [files]
      refine List.pairwise_append.mpr ⟨h.once, uses.once, ?_⟩
      intro earlier member later member' _ same
      obtain ⟨id, known, fits, path⟩ := h.named earlier member
      obtain ⟨fits', path'⟩ := uses.named later member'
      rw [path, path'] at same
      have names := congrArg CString.bytes same
      rw [artifactPath_bytes fits, artifactPath_bytes fits'] at names
      have less := fresh id known
      rw [artifactPath_injective names] at less
      exact absurd less (UInt64.lt_irrefl _)

theorem call_counted (narrow : p.sizeBits ≤ 64) (core : VadCore κ) (next : Api p)
    (seen : Seen p config s) (h : Counted p config trace s) :
    let o := (call p core next).run s
    Counted p config (trace ++ o.events) o.state := by
  cases next with
  | start answers =>
    simp only [call]
    by_cases ready : s.state = .ready
    · obtain ⟨result, t, events, started, upkeep, after⟩ := start_cases core answers (seen.fresh ready)
      have nothing := h.ready ready
      obtain ⟨noIds, noUses⟩ := upkeep_noted upkeep
      rw [started]
      apply h.still noIds noUses fun _ => nothing
      intro active
      rw [nothing]
      rcases after with ⟨_, begun⟩ | ⟨_, fresh⟩
      · exact ⟨begun.ids, Nat.zero_le _⟩
      · rw [fresh.ready] at active
        cases active
    · rw [start_refused core answers ready]
      exact h.still rfl rfl h.ready h.running
  | runOnce answers =>
    simp only [call]
    by_cases active : s.state = .running
    · have running := seen.running_of active
      have after := runOnce_running p core answers running
      exact h.spent narrow active running.configured (runOnce_spends core answers running.quiet)
        after.quiet.running after.quiet.ring.tail
    · rw [runOnce_refused p core answers active]
      exact h.still rfl rfl h.ready h.running
  | stop answers =>
    obtain ⟨t, events, ended, upkeep, stopped⟩ := stop_run answers seen
    obtain ⟨noIds, noUses⟩ := upkeep_noted upkeep
    simp only [call, ended]
    apply h.still noIds noUses
    · intro ready
      cases stopped.stopped.symm.trans ready
    · intro running
      cases stopped.stopped.symm.trans running

theorem calls_counted (narrow : p.sizeBits ≤ 64) (core : VadCore κ) (config : Config)
    (calls : List (Api p)) : Counted p config (play (call p core) (init config) calls).2
      (play (call p core) (init config) calls).1 := by
  induction calls using List.reverseRecOn with
  | nil => exact ⟨rfl, Nat.two_pow_pos _, fun _ => rfl, nofun, List.forall_mem_nil _, .nil⟩
  | append_singleton calls next ih =>
    rw [play_snoc]
    exact call_counted narrow core next (calls_seen p core config calls).1 ih

theorem Counted.increasing (narrow : p.sizeBits ≤ 64) (h : Counted p config trace s) :
    (finalizedIds trace).Pairwise (· < ·) := by
  rw [h.ids]
  exact ids_increasing (h.below narrow)

end Run

/-- The path of an artifact depends on its id alone, in the order of the ids, and
over the calls of a supervisor no file is opened that was written or queued before. -/
theorem artifact_paths_sorted (p : Platform) (narrow : p.sizeBits ≤ 64) (core : VadCore κ)
    (config : Config) (calls : List (Api p)) :
    (∀ (s : System κ) (a b : UInt64), a < b →
      (476 < s.config.runtimeDir.bytes.length ∧
        ((buildArtifactPath a).run s).result = .error .errIo ∧
        ((buildArtifactPath b).run s).result = .error .errIo) ∨
      s.config.runtimeDir.bytes.length ≤ 476 ∧ ∃ path path',
        ((buildArtifactPath a).run s).result = .ok path ∧
        ((buildArtifactPath b).run s).result = .ok path' ∧
        path.bytes < path'.bytes ∧ path.bytes.length = path'.bytes.length) ∧
    let trace := (play (call p core) (init config) calls).2
    (finalizedIds trace).Pairwise (· < ·) ∧
      (∀ f ∈ fileUses trace, ∃ id ∈ finalizedIds trace, f.2.bytes = artifactPath config id) ∧
      (fileUses trace).Pairwise fun earlier later =>
        later.1 = .write → earlier.2 ≠ later.2 := by
  have counted := calls_counted narrow core config calls
  refine ⟨fun s _ _ less => buildArtifactPath_sorted s less, counted.increasing narrow, ?_,
    counted.once⟩
  intro f member
  obtain ⟨id, known, fits, path⟩ := counted.named f member
  exact ⟨id, known, by rw [path, artifactPath_bytes fits]⟩

/-- A start, two utterances and a stop. -/
def briskTwice : List (Api samplePlatform) :=
  let silence := answeredTick (List.replicate 640 0)
  .start sampleStart :: (briskTicks answeredTick ++ silence :: briskTicks answeredTick ++
    [silence]).map .runOnce ++ [.stop sampleStart.cleanup]

/-- The last path of all and the one before it, and the two of a run. -/
theorem artifact_paths_sorted_twice :
    let s : System Unit := init briskConfig
    let trace := (play (call samplePlatform VadStream.byteCore) s briskTwice).2
    (∃ path path' : CString 511, path.bytes < path'.bytes ∧
      ((buildArtifactPath 18446744073709551614).run s).result = .ok path ∧
      ((buildArtifactPath 18446744073709551615).run s).result = .ok path') ∧
    finalizedIds trace = [0, 1] ∧ (fileUses trace).map Prod.fst = [.write, .queue, .write, .queue] ∧
    (finalizedIds trace).Pairwise (· < ·) ∧
    (fileUses trace).Pairwise fun earlier later => later.1 = .write → earlier.2 ≠ later.2 := by
  obtain ⟨sorted, increasing, _, once⟩ := artifact_paths_sorted samplePlatform (by decide)
    VadStream.byteCore briskConfig briskTwice
  refine ⟨?_, by decide +kernel, by decide +kernel, increasing, once⟩
  rcases sorted (init briskConfig) 18446744073709551614 18446744073709551615 (by decide) with
    ⟨long, _⟩ | ⟨_, path, path', built, built', less, _⟩
  · exact absurd long (by decide)
  · exact ⟨path, path', less, built, built'⟩

end Supervisor

end Assistantd
