import Assistantd.Supervisor.Answers
import Assistantd.Supervisor.Segmentation

/-! The detector and the utterance buffer, kept in step by the frames that the
detector accepts. -/
namespace Assistantd

open Calls Framing

namespace Supervisor

variable {κ : Type}

/-! ## The frames -/

/-- A frame, and the event that the detector accepted it with. -/
abbrev Accepted := List UInt8 × VadEvent

def accept (core : VadCore κ) (d : VadDetector κ) (frame : List UInt8) : List Accepted :=
  match ((VadDetector.processFrame core (some frame) 320 20 true).run d).result with
  | .ok event => [(frame, event)]
  | .error _ => []

theorem accept_turn (core : VadCore κ) (d : VadDetector κ) (frame : List UInt8) :
    ∀ f ∈ accept core d frame, ∃ after, VadDetector.Turn d.speechActive f.2 after := by
  intro f member
  unfold accept at member
  rcases VadDetector.processFrame_cases core (some frame) 320 20 true d with
    ⟨status, rejected⟩ | ⟨_, vad, verdict, vad', _, _, _, _, called⟩
  · rw [rejected] at member
    cases member
  · rw [called] at member
    by_cases negative : verdict < 0
    · rw [if_pos negative] at member
      cases member
    · rw [if_neg negative] at member
      rw [List.mem_singleton.mp member]
      exact ⟨_, VadDetector.advance_turn { d with backend := some vad' } (verdict = 1) 20⟩

/-- What the detector accepts over these calls. -/
def accepted (p : Platform) (core : VadCore κ) : System κ → List (RunAnswers p) → List Accepted
  | _, [] => []
  | s, answers :: ticks =>
    (taken answers s).flatMap (accept core s.vad) ++
      accepted p core ((runOnce p core answers).run s).state ticks

theorem accepted_snoc (p : Platform) (core : VadCore κ) (s : System κ) (ticks : List (RunAnswers p))
    (answers : RunAnswers p) :
    accepted p core s (ticks ++ [answers]) = accepted p core s ticks ++
      (taken answers (play (runOnce p core) s ticks).1).flatMap
        (accept core (play (runOnce p core) s ticks).1.vad) := by
  induction ticks generalizing s with
  | nil => simp [accepted]
  | cons first ticks ih =>
    rw [List.cons_append, accepted, accepted, ih, play_cons, List.append_assoc]

/-- The utterances that are over, and the one that is open. -/
structure Utterances where
  closed : List (List UInt8)
  opened : Option (List UInt8)

namespace Utterances

/-- An utterance has all frames from the one it starts with to the one it ends with. -/
def add (u : Utterances) (f : Accepted) : Utterances :=
  match f.2 with
  | .speechStart => { u with opened := some f.1 }
  | .speechEnd => ⟨u.closed ++ (u.opened.map (· ++ f.1)).toList, none⟩
  | _ => { u with opened := u.opened.map (· ++ f.1) }

/-- What the buffer has of them: as much of the open one as there is room for. An
utterance without room for all of it is not finalized, and stays until the next
one starts. -/
def held (w : Nat) (u : Utterances) : List UInt8 :=
  match u.opened, u.closed.getLast? with
  | some pcm, _ => pcm.take (largest w)
  | none, some pcm => if pcm.length ≤ largest w then [] else pcm.take (largest w)
  | none, none => []

/-- Made of whole frames, and not of none. -/
structure Whole (u : Utterances) : Prop where
  closed : ∀ pcm ∈ u.closed, pcm ≠ [] ∧ 640 ∣ pcm.length
  opened : ∀ pcm, u.opened = some pcm → pcm ≠ [] ∧ 640 ∣ pcm.length

end Utterances

def utterances (frames : List Accepted) : Utterances := frames.foldl Utterances.add ⟨[], none⟩

/-! ## In step -/

/-- A buffer and a detector behind the frames of these utterances. -/
structure InStep (w : Nat) (u : Utterances) (s : System κ) : Prop where
  whole : 640 ∣ s.utteranceMetadata.size
  fits : s.utteranceMetadata.size ≤ s.utteranceMetadata.capacity
  active : s.vad.speechActive = u.opened.isSome
  contents : s.utteranceMetadata.contents = u.held w
  positive : 0 < s.utteranceMetadata.size ↔ s.vad.speechActive = true ∨
    ∃ pcm, u.closed.getLast? = some pcm ∧ largest w < pcm.length

/-- A supervisor that has finalized the utterances that are over, as far as there
was room for them, and holds what there is to hold. -/
structure Kept (p : Platform) (config : Config) (u : Utterances) (trace : List Event)
    (s : System κ) : Prop where
  configured : s.config = config
  whole : u.Whole
  sound : Sound p.sizeBits s.utteranceMetadata
  contents : s.utteranceMetadata.contents = u.held p.sizeBits
  next : s.nextArtifactSequenceId = .ofNat (fitting p.sizeBits u.closed).length
  finalized : finalizedIds trace =
    (List.range (fitting p.sizeBits u.closed).length).map UInt64.ofNat
  written : wavWrites trace = if config.runtimeDir.bytes.length ≤ 476 then
    numbered (fitting p.sizeBits u.closed) else []

structure Linked (p : Platform) (config : Config) (u : Utterances) (trace : List Event)
    (s : System κ) : Prop extends Kept p config u trace s where
  active : s.vad.speechActive = u.opened.isSome

section Kept

variable {p : Platform} {config : Config} {u : Utterances} {trace : List Event} {s : System κ}

theorem largest_positive (w : Nat) : 0 < largest w := Nat.mul_pos (by decide) (Nat.two_pow_pos _)

theorem cut_whole_length {pcm : List UInt8} (whole : pcm ≠ [] ∧ 640 ∣ pcm.length) (w : Nat) :
    0 < (pcm.take (largest w)).length ∧ 640 ∣ (pcm.take (largest w)).length := by
  have some := List.length_pos_iff.mpr whole.1
  have room := largest_positive w
  have multiple := largest_whole w
  rw [List.length_take]
  omega

theorem Utterances.Whole.held (h : u.Whole) (w : Nat) : 640 ∣ (u.held w).length ∧
    (0 < (u.held w).length ↔ u.opened.isSome = true ∨
      ∃ pcm, u.closed.getLast? = some pcm ∧ largest w < pcm.length) := by
  unfold Utterances.held
  cases opened : u.opened with
  | some pcm =>
    obtain ⟨some, whole⟩ := cut_whole_length (h.opened pcm opened) w
    exact ⟨whole, fun _ => .inl rfl, fun _ => some⟩
  | none =>
    cases last : u.closed.getLast? with
    | none => simp
    | some pcm =>
      obtain ⟨some, whole⟩ := cut_whole_length (h.closed pcm (List.mem_of_getLast? last)) w
      by_cases fits : pcm.length ≤ largest w
      · simp [fits]
      · simp only [if_neg fits]
        exact ⟨whole, fun _ => .inr ⟨pcm, rfl, by omega⟩, fun _ => some⟩

theorem Linked.in_step (h : Linked p config u trace s) : InStep p.sizeBits u s := by
  have size := contents_length s.utteranceMetadata
  obtain ⟨whole, positive⟩ := h.whole.held p.sizeBits
  rw [h.contents] at size
  rw [size] at whole positive
  exact ⟨whole, h.sound.fits, h.active, h.contents, h.active ▸ positive⟩

theorem Kept.told (h : Kept p config u trace s) {events : List Event}
    (nothing : finalizedIds events = []) (silent : wavWrites events = []) :
    Kept p config u (trace ++ events) s :=
  { h with
    finalized := by
      rw [finalizedIds, List.filterMap_append]
      exact (congrArg _ nothing).trans ((List.append_nil _).trans h.finalized)
    written := by rw [wavWrites_append, silent, List.append_nil, h.written] }

theorem linked_settled : Settled (κ := κ) (Linked p config u) where
  told _ _ e reply h := by
    refine ⟨h.told ?_ (List.filterMap_cons_none (wavWrite_reply reply)), h.active⟩
    cases e <;> first | rfl | cases reply
  moved _ _ _ _ _ h := { h with }

theorem whole_snoc {pcm frame : List UInt8} (whole : 640 ∣ pcm.length)
    (size : frame.length = 640) : pcm ++ frame ≠ [] ∧ 640 ∣ (pcm ++ frame).length := by
  refine ⟨List.append_ne_nil_of_right_ne_nil _ (List.ne_nil_of_length_pos (by omega)), ?_⟩
  rw [List.length_append]
  omega

/-- The open utterance has a frame more. -/
theorem Kept.appended (h : Kept p config u trace s) {pcm : List UInt8} {m : UtteranceMetadata}
    (whole : pcm ≠ [] ∧ 640 ∣ pcm.length) (sound : Sound p.sizeBits m)
    (contents : m.contents = pcm.take (largest p.sizeBits)) (nextAddr : Nat)
    {events : List Event} (silent : stages events = []) :
    Kept p config { u with opened := some pcm } (trace ++ events)
      { s with utteranceMetadata := m, nextAddr } := by
  obtain ⟨nothing, unwritten⟩ := observed silent
  have told := h.told nothing unwritten
  refine { told with
    whole := ⟨told.whole.closed, ?_⟩
    sound := sound
    contents := contents }
  rintro _ ⟨⟩
  exact whole

theorem Utterances.Whole.over (h : u.Whole) {pcm : List UInt8}
    (whole : pcm ≠ [] ∧ 640 ∣ pcm.length) : Utterances.Whole ⟨u.closed ++ [pcm], none⟩ :=
  ⟨List.forall_mem_append.mpr ⟨h.closed, List.forall_mem_singleton.mpr whole⟩, nofun⟩

/-- An utterance that is over without room for its last frame. -/
theorem Kept.dropped (h : Kept p config u trace s) {pcm : List UInt8}
    (whole : pcm ≠ [] ∧ 640 ∣ pcm.length) (beyond : largest p.sizeBits < pcm.length)
    {m : UtteranceMetadata} (sound : Sound p.sizeBits m)
    (contents : m.contents = pcm.take (largest p.sizeBits)) (nextAddr : Nat)
    {events : List Event} (silent : stages events = []) :
    Kept p config ⟨u.closed ++ [pcm], none⟩ (trace ++ events)
      { s with utteranceMetadata := m, nextAddr } := by
  obtain ⟨nothing, unwritten⟩ := observed silent
  have told := h.told nothing unwritten
  have left : fitting p.sizeBits (u.closed ++ [pcm]) = fitting p.sizeBits u.closed := by
    simp [fitting, beyond]
  refine ⟨h.configured, h.whole.over whole, sound, ?_, ?_, ?_, ?_⟩
  · simp [contents, Utterances.held, beyond]
  · exact left ▸ told.next
  · exact left ▸ told.finalized
  · exact left ▸ told.written

/-- An utterance that is over and all there. -/
theorem Kept.closed (h : Kept p config u trace s) {pcm : List UInt8}
    (whole : pcm ≠ [] ∧ 640 ∣ pcm.length) (fits : pcm.length ≤ largest p.sizeBits)
    {m : UtteranceMetadata} (sound : Sound p.sizeBits m) (nextAddr : Nat)
    (artifactQueue : ArtifactQueue) {events : List Event}
    (given : finalizedIds events = [s.nextArtifactSequenceId])
    (written : wavWrites events = if s.config.runtimeDir.bytes.length ≤ 476 then
      [(s.nextArtifactSequenceId, pcm)] else []) :
    Kept p config ⟨u.closed ++ [pcm], none⟩ (trace ++ events)
      { s with
        utteranceMetadata := { m with size := 0 }
        nextArtifactSequenceId := s.nextArtifactSequenceId + 1
        nextAddr, artifactQueue } := by
  have more : fitting p.sizeBits (u.closed ++ [pcm]) = fitting p.sizeBits u.closed ++ [pcm] := by
    simp [fitting, fits]
  refine ⟨h.configured, h.whole.over whole, sound.emptied.sound, ?_, ?_, ?_, ?_⟩
  · simp [Utterances.held, fits, UtteranceMetadata.contents]
  · rw [more, List.length_append, List.length_singleton, UInt64.ofNat_add, ← h.next]
    rfl
  · rw [finalizedIds, List.filterMap_append, more, List.length_append, List.length_singleton,
      List.range_succ, List.map_append]
    exact congrArg₂ _ h.finalized (given.trans (by rw [h.next]; rfl))
  · rw [wavWrites_append, more, written, h.written, h.configured]
    split
    · rw [numbered_snoc, h.next]
    · rfl

theorem collectFrame_kept (h : Kept p config u trace s) {frame : List UInt8}
    (size : frame.length = 640) {answers : FrameAnswers} (memory : answers.realloc = true)
    (empty : SlotQueue.Stores 16 s.artifactQueue []) {event : VadEvent} {active after : Bool}
    (turn : VadDetector.Turn active event after) (linked : active = u.opened.isSome) :
    let o := (collectFrame p frame event active answers).run s
    Kept p config (u.add (frame, event)) (trace ++ o.events) o.state ∧
      after = (u.add (frame, event)).opened.isSome ∧ o.state.vad = s.vad := by
  have opens : ∀ pcm, u.opened = some pcm →
      s.utteranceMetadata.contents = pcm.take (largest p.sizeBits) ∧ 640 ∣ pcm.length := by
    intro pcm opened
    refine ⟨?_, (h.whole.opened pcm opened).2⟩
    rw [h.contents, Utterances.held, opened]
  cases turn with
  | none =>
    have idle : u.opened = none := by simpa using linked.symm
    have same : u.add (frame, .none) = u := by
      obtain ⟨closed, _⟩ := u
      subst idle
      rfl
    rw [collectFrame_none, same]
    exact ⟨by simpa using h, linked, rfl⟩
  | speechStart =>
    let cleared : System κ := { s with utteranceMetadata := { s.utteranceMetadata with size := 0 } }
    have emptied := h.sound.emptied
    obtain ⟨result, m, nextAddr, events, appended, silent, sound, contents, _⟩ :=
      appendUtterancePcm_cut p (s := cleared) emptied.sound
        ((emptied.whole (Nat.zero_le _)).trans List.take_nil.symm) (Nat.dvd_zero _) size
    rw [collectFrame_start, memory, appended]
    exact ⟨h.appended (whole_snoc (Nat.dvd_zero _) size) sound contents nextAddr silent, rfl, rfl⟩
  | speechContinue =>
    obtain ⟨pcm, opened⟩ := Option.isSome_iff_exists.mp linked.symm
    obtain ⟨before, whole⟩ := opens pcm opened
    obtain ⟨result, m, nextAddr, events, appended, silent, sound, contents, _⟩ :=
      appendUtterancePcm_cut p h.sound before whole size
    have added : u.add (frame, .speechContinue) = { u with opened := some (pcm ++ frame) } := by
      simp [Utterances.add, opened]
    rw [collectFrame_continue, memory, appended, added]
    exact ⟨h.appended (whole_snoc whole size) sound contents nextAddr silent, rfl, rfl⟩
  | speechEnd =>
    obtain ⟨pcm, opened⟩ := Option.isSome_iff_exists.mp linked.symm
    obtain ⟨before, whole⟩ := opens pcm opened
    obtain ⟨result, m, nextAddr, events, appended, silent, sound, contents, fits⟩ :=
      appendUtterancePcm_cut p h.sound before whole size
    have added : u.add (frame, .speechEnd) = ⟨u.closed ++ [pcm ++ frame], none⟩ := by
      simp [Utterances.add, opened]
    have more := whole_snoc whole size
    rw [collectFrame_end, memory, appended, added]
    cases result with
    | error status =>
      have beyond : ¬ (pcm ++ frame).length ≤ largest p.sizeBits := by simpa using fits
      exact ⟨h.dropped more (by omega) sound contents nextAddr silent, rfl, rfl⟩
    | ok _ =>
      have room := fits.mp rfl
      rw [List.take_of_length_le room] at contents
      obtain ⟨result, artifactQueue, events', finalized, given, written⟩ :=
        finalizeUtterance_closes (p := p) (s := { s with utteranceMetadata := m, nextAddr })
          empty sound contents more.1 (Nat.dvd_trans (by decide) more.2)
      obtain ⟨nothing, unwritten⟩ := observed silent
      rw [andThen_ok, finalized]
      refine ⟨?_, rfl, rfl⟩
      have closed := (h.told nothing unwritten).closed more room sound nextAddr artifactQueue given
        written
      rw [List.append_assoc] at closed
      exact closed

theorem handleFrame_linked (core : VadCore κ) (h : Linked p config u trace s) {frame : List UInt8}
    (size : frame.length = 640) {answers : FrameAnswers} (memory : answers.realloc = true)
    (empty : SlotQueue.Stores 16 s.artifactQueue []) :
    let o := (handleFrame p core frame answers).run s
    Linked p config ((accept core s.vad frame).foldl Utterances.add u) (trace ++ o.events)
      o.state := by
  obtain ⟨vad, touches, _, heard⟩ := handleFrame_cases p core frame answers s
  have told : stages (.frame frame :: touches.map fun touch => .vad touch.1 touch.2) =
      [.frame frame] := by
    simp [Event.isStage]
  obtain ⟨nothing, unwritten⟩ := observed told
  have before : Kept p config u
      (trace ++ .frame frame :: touches.map fun touch => .vad touch.1 touch.2) { s with vad } :=
    { h.toKept.told nothing unwritten with }
  rcases heard with ⟨status, rejects, same, failed⟩ | ⟨event, accepts, turn, collects⟩
  · rw [accept, rejects, failed]
    exact { before with active := same.trans h.active }
  · obtain ⟨kept, linked, same⟩ := collectFrame_kept before size memory empty turn h.active
    rw [accept, accepts, collects]
    rw [List.append_assoc] at kept
    exact { kept with active := (congrArg _ same).trans linked }

theorem taken_length {answers : RunAnswers p} (quiet : Quiet p s) :
    ∀ frame ∈ taken answers s, frame.length = 640 := by
  intro frame member
  unfold taken at member
  split at member
  · cases member
  · rename_i enough
    rw [List.mem_singleton.mp member]
    exact ((filled_steady answers quiet).read (by omega)).1

theorem runOnce_linked (core : VadCore κ) (h : Linked p config u trace s) (quiet : Quiet p s)
    {answers : RunAnswers p} (memory : ∀ i, (answers.frames i).realloc = true) :
    let o := (runOnce p core answers).run s
    Linked p config (((taken answers s).flatMap (accept core s.vad)).foldl Utterances.add u)
      (trace ++ o.events) o.state := by
  have sized : ∀ frame ∈ taken answers s, frame.length = 640 := taken_length quiet
  obtain ⟨events, told, listened⟩ := listen_run p core answers quiet
  intro o
  have called : o = ((listen p core answers).run s).andThen fun _ => respond p answers :=
    runOnce_run p core answers quiet.running
  rw [called]
  apply andThen_keeps ?_ fun _ _ => respond_settled linked_settled answers _
  unfold taken at sized ⊢
  have silent : finalizedIds events = [] ∧ wavWrites events = [] := by
    obtain ⟨nothing, unwritten⟩ := observed told
    rw [nothing, unwritten]
    unfold wrote
    split <;> exact ⟨rfl, rfl⟩
  by_cases less : (filled answers s).available < 640
  · rw [if_pos less] at listened ⊢
    obtain ⟨result, listened⟩ := listened
    rw [listened]
    exact { h.toKept.told silent.1 silent.2 with active := h.active }
  · rw [if_neg less] at listened sized ⊢
    rw [listened, List.flatMap_singleton]
    obtain ⟨nothing, unwritten⟩ := observed
      (show stages (ringTouch .use (filled answers s) ++ [.ringRead 640]) = [.ringRead 640] by
        rw [stages_append, stages_ringTouch]; rfl)
    have before : Linked p config u
        (trace ++ (events ++ (ringTouch .use (filled answers s) ++ [.ringRead 640])))
        { s with
          capture := captureAfter answers s
          captureRing := ((filled answers s).read p.sizeBits 640).2 } := by
      rw [← List.append_assoc]
      exact { (h.toKept.told silent.1 silent.2).told nothing unwritten with active := h.active }
    have after := handleFrame_linked core before (sized _ (List.mem_singleton_self _)) (memory 0)
      quiet.artifacts
    show Linked _ _ _ (trace ++ (_ ++ _)) _
    rw [← List.append_assoc]
    exact after

end Kept

/-! ## Any run -/

section Run

variable {p : Platform} {config : Config} {core : VadCore κ} {s : System κ}

theorem Begun.linked (p : Platform) (h : Begun core config s) : Linked p config ⟨[], none⟩ [] s := by
  obtain ⟨addr, vad⟩ := h.vad
  refine ⟨⟨h.configured, ⟨List.forall_mem_nil _, nofun⟩, ?_, ?_, h.ids, rfl, ?_⟩, ?_⟩
  · rw [h.utterance]
    exact ⟨Nat.le_refl _, .inl rfl⟩
  · rw [h.utterance]
    rfl
  · split <;> rfl
  · rw [vad]
    rfl

theorem run_linked (h : Begun core config s) (ticks : List (RunAnswers p))
    (memory : ∀ answers ∈ ticks, ∀ i, (answers.frames i).realloc = true) :
    Linked p config (utterances (accepted p core s ticks)) (play (runOnce p core) s ticks).2
      (play (runOnce p core) s ticks).1 := by
  induction ticks using List.reverseRecOn with
  | nil => exact h.linked p
  | append_singleton ticks answers ih =>
    rw [List.forall_mem_append, List.forall_mem_singleton] at memory
    have quiet := (run_running p core (h.running p) ticks).quiet
    have linked := runOnce_linked core (ih memory.1) quiet memory.2
    rw [accepted_snoc, play_snoc, utterances, List.foldl_append]
    exact linked

end Run

/-! ## Where nothing fails -/

section Judged

variable {p : Platform} {config : Config} {core : VadCore κ} {s : System κ}

/-- Utterances of judged frames. -/
def spoken (c : List (List Judged) × List Judged) : Utterances :=
  ⟨c.1.map pcmOf, if c.2 = [] then none else some (pcmOf c.2)⟩

theorem Change.add {opened next : List Judged} {f : Judged} {event : VadEvent}
    {closes : List (List Judged)} (h : Change config opened f event closes next)
    (closed : List (List Judged)) :
    (spoken (closed, opened)).add (f.1, event) = spoken (closed ++ closes, next) := by
  cases h with
  | idle nothing _ => simp [spoken, Utterances.add, nothing]
  | starts nothing _ => simp [spoken, Utterances.add, pcmOf]
  | continues some _ => simp [spoken, Utterances.add, some, pcmOf_snoc]
  | ends some _ => simp [spoken, Utterances.add, some, pcmOf_snoc]

theorem accept_judged (decides : core.Decides) (positive : 0 < config.vadSilenceMs)
    {k : κ} {opened : List Judged} {d : VadDetector κ} (tracks : Tracks config k opened d)
    (closed : List (List Judged)) (frame : List UInt8) :
    (accept core d frame).foldl Utterances.add (spoken (closed, opened)) =
      spoken (Endpoint.extend Prod.snd (fun _ => (20 : Int)) config.vadSilenceMs (closed, opened)
        (frame, core.hears k frame)) := by
  obtain ⟨addr, present⟩ := tracks.backend
  obtain ⟨closes, next, change, _⟩ := tracks.advance positive (core.next k frame) addr
    (frame, core.hears k frame)
  rw [accept, core.processFrame_judged decides present frame, change.extend closed]
  exact change.add closed

/-- The detector accepts every frame, with the events of the reference. -/
theorem run_accepted (decides : core.Decides) (named : ∀ id, (artifactPath config id).length < 512)
    (h : Begun core config s) (ticks : List (RunAnswers p))
    (supplied : ∀ answers ∈ ticks, ∀ i, Supplied (answers.frames i))
    (few : (captured p core s ticks).length < 2 ^ p.sizeBits) :
    utterances (accepted p core s ticks) = spoken (cutUtterances config
      (core.judge (core.setMode config.vadAggressiveness core.initCore)
        (frames 640 (captured p core s ticks)))) := by
  induction ticks using List.reverseRecOn with
  | nil =>
    have nothing : cutUtterances config [] = ([], []) := Endpoint.cut_idle rfl
    rw [captured, frames_nil, VadCore.judge, nothing]
    rfl
  | append_singleton ticks answers ih =>
    rw [captured_snoc] at few ⊢
    have fewer : (captured p core s ticks).length < 2 ^ p.sizeBits := by
      rw [List.length_append] at few
      omega
    rw [List.forall_mem_append] at supplied
    have quiet := (run_running p core (h.running p) ticks).quiet
    -- the frames behind the call are those before it and the one it takes
    obtain ⟨_, _, complete⟩ := (run_heard h ticks fewer).emptied answers quiet few
    have tracks := (run_follows decides named h ticks supplied.1 fewer).tracks
    rw [complete, accepted_snoc, utterances, List.foldl_append, ← utterances, ih supplied.1 fewer]
    unfold taken
    split
    · rw [List.append_nil]
      rfl
    · rw [core.judge_snoc, List.flatMap_singleton]
      unfold cutUtterances at tracks ⊢
      rw [Endpoint.cut_snoc h.silence.not_ge]
      exact accept_judged decides h.silence tracks _ _

theorem spoken_accepted (n : Nat)
    (few : (spokenChunks n).flatten.length < 2 ^ samplePlatform.sizeBits) :
    utterances (accepted samplePlatform VadStream.byteCore sampleSystem (spokenTicks n)) =
      ⟨[(spokenChunks n).flatten], none⟩ := by
  have cut : cutUtterances Config.initDefaults _ = _ := spoken_cut n
  rw [← spoken_captured] at few
  rw [run_accepted byteCore_decides (artifactPath_short (by decide)) sample_started.begun _
    (spokenTicks_supplied n) few, spoken_captured, cut, spoken, List.map_singleton,
    spokenJudged_pcm]
  rfl

end Judged

/-! ## In step -/

/-- The buffer goes with the detector over any run, and an utterance that fits is
finalized whole. -/
theorem utterances_in_step (p : Platform) (core : VadCore κ) (config : Config) {s : System κ}
    (started : Started p core config s) (ticks : List (RunAnswers p))
    (memory : ∀ answers ∈ ticks, ∀ i, (answers.frames i).realloc = true) :
    let r := play (runOnce p core) s ticks
    let u := utterances (accepted p core s ticks)
    let written := fitting p.sizeBits u.closed
    InStep p.sizeBits u r.1 ∧ u.Whole ∧
      finalizedIds r.2 = (List.range written.length).map UInt64.ofNat ∧
      wavWrites r.2 = (if config.runtimeDir.bytes.length ≤ 476 then numbered written else []) ∧
      ∀ answers : RunAnswers p, ∀ f ∈ (taken answers r.1).flatMap (accept core r.1.vad),
        f.2 = .speechContinue ∨ f.2 = .speechEnd → r.1.vad.speechActive = true := by
  intro r u written
  have linked := run_linked started.begun ticks memory
  refine ⟨linked.in_step, linked.whole, linked.finalized, linked.written, ?_⟩
  intro answers f member goes
  obtain ⟨frame, _, accepts⟩ := List.mem_flatMap.mp member
  obtain ⟨after, turn⟩ := accept_turn core r.1.vad frame f accepts
  exact turn.running goes

theorem spoken_memory (n : Nat) :
    ∀ answers ∈ spokenTicks n, ∀ i, (answers.frames i).realloc = true :=
  fun answers member i => (spokenTicks_supplied n answers member i).1

/-- One utterance, over and finalized. -/
theorem utterances_in_step_spoken :
    let r := play (runOnce samplePlatform VadStream.byteCore) sampleSystem (spokenTicks 0)
    InStep 32 ⟨[(spokenChunks 0).flatten], none⟩ r.1 := by
  have few : (spokenChunks 0).flatten.length < 2 ^ 32 := by
    rw [spokenChunks_length]
    decide
  rw [← spoken_accepted 0 few]
  exact (utterances_in_step samplePlatform VadStream.byteCore Config.initDefaults sample_started
    (spokenTicks 0) (spoken_memory 0)).1

/-- An utterance without room for all of it is over for the detector, and still in
the buffer. -/
theorem spoken_left (n : Nat) (few : (spokenChunks n).flatten.length < 2 ^ 32)
    (beyond : largest 32 < (spokenChunks n).flatten.length) :
    let r := play (runOnce samplePlatform VadStream.byteCore) sampleSystem (spokenTicks n)
    r.1.vad.speechActive = false ∧ 0 < r.1.utteranceMetadata.size := by
  have linked := run_linked sample_started.begun (spokenTicks n) (spoken_memory n)
  rw [spoken_accepted n few] at linked
  exact ⟨linked.active, linked.in_step.positive.mpr (.inr ⟨_, List.getLast?_singleton, beyond⟩)⟩

/-- This takes more than 23 hours of speech on a 32-bit target. -/
theorem utterances_in_step_overlong :
    let r := play (runOnce samplePlatform VadStream.byteCore) sampleSystem (spokenTicks 4194304)
    Started samplePlatform VadStream.byteCore Config.initDefaults sampleSystem ∧
    (∀ answers ∈ spokenTicks 4194304, ∀ i, (answers.frames i).realloc = true) ∧
    ¬ (0 < r.1.utteranceMetadata.size ↔ r.1.vad.speechActive = true) := by
  have room : largest 32 = 2684354560 := by decide
  obtain ⟨idle, positive⟩ := spoken_left 4194304
    (by rw [spokenChunks_length]; decide) (by rw [spokenChunks_length, room]; decide)
  refine ⟨sample_started, spoken_memory _, ?_⟩
  rw [idle]
  intro same
  cases same.mp positive

end Supervisor

end Assistantd
