import Assistantd.Lib.Endpoint
import Assistantd.Supervisor.Answers
import Assistantd.Supervisor.Utterance

/-! The utterances that are written are those of the captured bytes, whatever the
chunks they arrive in. -/
namespace Assistantd

open Calls Framing
open CText (CString)

/-- A frame, and whether the classifier hears speech in it. -/
abbrev Judged := List UInt8 × Bool

namespace VadCore

variable {κ : Type} (core : VadCore κ)

/-- The verdict on 20 ms at 16 kHz. -/
def hears (k : κ) (frame : List UInt8) : Bool := 0 < (core.calcVad 1 k frame 320).1

def next (k : κ) (frame : List UInt8) : κ := (core.calcVad 1 k frame 320).2

def after (k : κ) (frames : List (List UInt8)) : κ := frames.foldl core.next k

/-- A verdict may depend on all frames up to it. -/
def judge : κ → List (List UInt8) → List Judged
  | _, [] => []
  | k, frame :: frames => (frame, core.hears k frame) :: judge (core.next k frame) frames

/-- The classifier never fails. -/
def Decides : Prop := ∀ rateIdx k frame length, 0 ≤ (core.calcVad rateIdx k frame length).1

@[simp] theorem after_snoc (k : κ) (frames : List (List UInt8)) (frame : List UInt8) :
    core.after k (frames ++ [frame]) = core.next (core.after k frames) frame := by
  simp [after]

@[simp] theorem judge_snoc (k : κ) (frames : List (List UInt8)) (frame : List UInt8) :
    core.judge k (frames ++ [frame]) =
      core.judge k frames ++ [(frame, core.hears (core.after k frames) frame)] := by
  induction frames generalizing k with
  | nil => rfl
  | cons first frames ih => simp [judge, ih, after]

theorem processFrame_judged (decides : core.Decides) {d : VadDetector κ} {k : κ} {addr : Nat}
    (present : d.backend = some ⟨k, 1, addr⟩) (frame : List UInt8) :
    let heard : VadDetector κ := { d with backend := some ⟨core.next k frame, 1, addr⟩ }
    (VadDetector.processFrame core (some frame) 320 20 true).run d =
      ⟨.ok (heard.advance (core.hears k frame) 20).1, (heard.advance (core.hears k frame) 20).2,
        [(.use, addr)]⟩ := by
  have heard : (Fvad.mk k 1 addr).process core frame 320 =
      (if core.hears k frame then 1 else 0, ⟨core.next k frame, 1, addr⟩) := by
    have length : Fvad.validLength 1 320 = true := by decide
    have nonnegative := decides 1 k frame 320
    unfold Fvad.process
    rw [if_pos length]
    by_cases voiced : 0 < (core.calcVad 1 k frame 320).1
    · simp [hears, next, voiced]
    · have zero : (core.calcVad 1 k frame 320).1 = 0 := by omega
      simp [hears, next, zero]
  have duration : VadDetector.isValidFrameDuration 20 = true := by decide
  have samples : VadDetector.expectedSampleCount 20 = 320 := by decide
  cases verdict : core.hears k frame <;>
    simp [VadDetector.processFrame, duration, samples, present, VadDetector.classify, heard, verdict]

end VadCore

namespace Event

/-- What is passed to the WAV writer. -/
def wavWrite : Event → Option (UInt64 × List UInt8)
  | .wav sequenceId _ pcm _ => some (sequenceId, pcm)
  | _ => none

end Event

def wavWrites (events : List Event) : List (UInt64 × List UInt8) := events.filterMap Event.wavWrite

theorem wavWrites_stages (events : List Event) : wavWrites (stages events) = wavWrites events := by
  apply filterMap_stages
  intro e hidden
  cases e <;> first | rfl | cases hidden

theorem wavWrite_reply {e : Event} (reply : e.isReply = true) : e.wavWrite = none := by
  cases e <;> first | rfl | cases reply

theorem wavWrites_append (xs ys : List Event) :
    wavWrites (xs ++ ys) = wavWrites xs ++ wavWrites ys := List.filterMap_append

namespace Supervisor

variable {κ : Type}

/-! ## The reference -/

def pcmOf (utterance : List Judged) : List UInt8 := (utterance.map Prod.fst).flatten

/-- An utterance opens at a frame with speech, and closes at the first frame where
the silence at its end lasts for `silence_ms`. -/
def cutUtterances (config : Config) (frames : List Judged) : List (List Judged) × List Judged :=
  Endpoint.cut Prod.snd (fun _ => (20 : Int)) config.vadSilenceMs frames

def segmentation (core : VadCore κ) (config : Config) (bytes : List UInt8) : List (List UInt8) :=
  (cutUtterances config (core.judge (core.setMode config.vadAggressiveness core.initCore)
    (frames 640 bytes))).1.map pcmOf

/-- Those for which there is room. -/
def fitting (w : Nat) (utterances : List (List UInt8)) : List (List UInt8) :=
  utterances.filter fun pcm => pcm.length ≤ largest w

/-- Sequence ids count from 0. -/
def numbered (utterances : List (List UInt8)) : List (UInt64 × List UInt8) :=
  utterances.zipIdx.map fun u => (UInt64.ofNat u.2, u.1)

theorem pcmOf_snoc (utterance : List Judged) (f : Judged) :
    pcmOf (utterance ++ [f]) = pcmOf utterance ++ f.1 := by
  simp [pcmOf]

theorem pcmOf_length {utterance : List Judged} (sized : ∀ f ∈ utterance, f.1.length = 640) :
    (pcmOf utterance).length = 640 * utterance.length := by
  rw [pcmOf, flatten_length (List.forall_mem_map.mpr sized), List.length_map]

theorem numbered_snoc (utterances : List (List UInt8)) (pcm : List UInt8) :
    numbered (utterances ++ [pcm]) =
      numbered utterances ++ [(UInt64.ofNat utterances.length, pcm)] := by
  simp [numbered, List.zipIdx_append]

/-! ## The detector -/

section Frame

variable {config : Config} {k : κ} {opened : List Judged}

/-- How long the silence at the end of an utterance lasts. -/
def silence (utterance : List Judged) : Int := Endpoint.trailing Prod.snd (fun _ => (20 : Int)) utterance

/-- A detector that has heard the frames of an open utterance, or of none. -/
structure Tracks (config : Config) (k : κ) (opened : List Judged) (d : VadDetector κ) : Prop where
  backend : ∃ addr, d.backend = some ⟨k, 1, addr⟩
  limit : d.silenceMs = config.vadSilenceMs
  active : d.speechActive = true ↔ opened ≠ []
  accumulated : opened ≠ [] → d.accumulatedSilenceMs = silence opened

/-- What a frame does to the open utterance: the event for it, the utterance it
closes, and the one open behind it. -/
inductive Change (config : Config) (opened : List Judged) (f : Judged) :
    VadEvent → List (List Judged) → List Judged → Prop where
  | idle : opened = [] → f.2 = false → Change config opened f .none [] []
  | starts : opened = [] → f.2 = true → Change config opened f .speechStart [] [f]
  | continues : opened ≠ [] → ¬ config.vadSilenceMs ≤ silence (opened ++ [f]) →
      Change config opened f .speechContinue [] (opened ++ [f])
  | ends : opened ≠ [] → config.vadSilenceMs ≤ silence (opened ++ [f]) →
      Change config opened f .speechEnd [opened ++ [f]] []

theorem Tracks.advance (positive : 0 < config.vadSilenceMs) {d : VadDetector κ}
    (h : Tracks config k opened d) (k' : κ) (addr : Nat) (f : Judged) :
    let heard : VadDetector κ := { d with backend := some ⟨k', 1, addr⟩ }
    ∃ closed next, Change config opened f (heard.advance f.2 20).1 closed next ∧
      Tracks config k' next (heard.advance f.2 20).2 := by
  intro heard
  by_cases idle : opened = []
  · have resting : heard.speechActive = false :=
      Bool.eq_false_iff.mpr fun active => h.active.mp active idle
    cases voiced : f.2 with
    | false =>
      rw [VadDetector.advance_idle resting]
      exact ⟨[], [], .idle idle voiced, ⟨addr, rfl⟩, h.limit, by simp [resting], by simp⟩
    | true =>
      rw [VadDetector.advance_opens resting]
      refine ⟨[], [f], .starts idle voiced, ⟨addr, rfl⟩, h.limit, by simp, fun _ => ?_⟩
      exact (Endpoint.trailing_voiced [] voiced).symm
  · have running : heard.speechActive = true := h.active.mpr idle
    have accumulated : heard.accumulatedSilenceMs = silence opened := h.accumulated idle
    have limit : heard.silenceMs = config.vadSilenceMs := h.limit
    cases voiced : f.2 with
    | true =>
      have none : silence (opened ++ [f]) = 0 := Endpoint.trailing_voiced opened voiced
      rw [VadDetector.advance_speaks running]
      refine ⟨[], opened ++ [f], .continues idle (by omega), ⟨addr, rfl⟩, limit, ?_, fun _ => ?_⟩
      · simp [running]
      · exact none.symm
    | false =>
      have longer : silence (opened ++ [f]) = silence opened + 20 :=
        Endpoint.trailing_unvoiced opened voiced
      by_cases lasts : config.vadSilenceMs ≤ silence opened + 20
      · rw [VadDetector.advance_closes running (by omega)]
        exact ⟨[opened ++ [f]], [], .ends idle (by omega), ⟨addr, rfl⟩, limit, by simp, by simp⟩
      · rw [VadDetector.advance_waits running (by omega)]
        refine ⟨[], opened ++ [f], .continues idle (by omega), ⟨addr, rfl⟩, limit, ?_, fun _ => ?_⟩
        · simp [running]
        · rw [longer, ← accumulated]

theorem Change.extend {f : Judged} {event : VadEvent} {closes : List (List Judged)}
    {next : List Judged} (h : Change config opened f event closes next)
    (closed : List (List Judged)) :
    Endpoint.extend Prod.snd (fun _ => (20 : Int)) config.vadSilenceMs (closed, opened) f =
      (closed ++ closes, next) := by
  unfold Endpoint.extend
  cases h with
  | idle nothing silent => simp [nothing, silent]
  | starts nothing voiced => simp [nothing, voiced]
  | continues some under =>
    exact (if_neg some).trans ((if_neg under).trans (by rw [List.append_nil]))
  | ends some lasts => exact (if_neg some).trans (if_pos lasts)

end Frame

/-! ## The utterance -/

section Collect

variable {p : Platform} {closed : List (List Judged)} {opened : List Judged} {trace : List Event}
  {s : System κ}

/-- Ids and files are told by stages. -/
theorem observed {events seen : List Event} (told : stages events = seen) :
    finalizedIds events = finalizedIds seen ∧ wavWrites events = wavWrites seen := by
  rw [← told, wavWrites_stages]
  exact ⟨(filterMap_stages (fun e hidden => (observe_hidden e hidden).1) events).symm, rfl⟩

/-- An utterance that is over is given an id and, where it has a path, a file. -/
theorem finalizeUtterance_closes {answers : FrameAnswers} {pcm : List UInt8}
    (empty : SlotQueue.Stores 16 s.artifactQueue []) (sound : Sound p.sizeBits s.utteranceMetadata)
    (contents : s.utteranceMetadata.contents = pcm) (some : pcm ≠ []) (even : 2 ∣ pcm.length) :
    ∃ result artifactQueue events,
      (finalizeUtterance answers).run s =
        ⟨result, { s with
          utteranceMetadata := { s.utteranceMetadata with size := 0 }
          nextArtifactSequenceId := s.nextArtifactSequenceId + 1
          artifactQueue }, events⟩ ∧
      finalizedIds events = [s.nextArtifactSequenceId] ∧
      wavWrites events = if s.config.runtimeDir.bytes.length ≤ 476 then
        [(s.nextArtifactSequenceId, pcm)] else [] := by
  have size := contents_length s.utteranceMetadata
  have positive := List.length_pos_iff.mpr some
  have length := artifactPath_length s.config s.nextArtifactSequenceId
  rw [contents] at size
  have present : ¬ (s.utteranceMetadata.size = 0 ∨ s.utteranceMetadata.pcm.isNone = true) := by
    have fits := sound.fits
    obtain ⟨_, block⟩ := sound.block.resolve_left (by omega)
    rw [Option.isNone_iff_eq_none]
    rintro (nothing | unset)
    · omega
    · rw [unset] at block
      cases block
  by_cases named : s.config.runtimeDir.bytes.length ≤ 476
  · obtain ⟨product, result, id, artifactQueue, events, finalized, told, _, kind⟩ :=
      finalizeUtterance_run answers empty
    obtain ⟨ids, files⟩ := observed told
    rw [product.observe.1] at ids
    refine ⟨result, artifactQueue, events, ?_⟩
    rw [finalized, ids, files, if_pos named]
    cases kind with
    | skipped missing => exact absurd missing present
    | unnamed long => omega
    | odd uneven =>
      rw [contents] at uneven
      omega
    | unwritten _ =>
      rw [contents]
      cases answers.wav <;> exact ⟨rfl, rfl, rfl⟩
    | queued _ _ =>
      rw [contents]
      exact ⟨rfl, rfl, rfl⟩
  · have refused := persistUtterance_unnamed s.utteranceMetadata.contents answers
      (s := s) (by omega)
    have told : stages (pcmTouch .use s.utteranceMetadata ++
        [.finalized s.nextArtifactSequenceId]) = [.finalized s.nextArtifactSequenceId] := by
      rw [stages_append, stages_pcmTouch]
      rfl
    obtain ⟨ids, files⟩ := observed told
    refine ⟨.error .errIo, s.artifactQueue, _, ?_, ids, ?_⟩
    · simp only [finalizeUtterance, run_bind, run_get, andThen_ok, after_nil, if_neg present,
        run_emits, refused]
      rfl
    · rw [files, if_neg named]
      rfl

/-- A supervisor that has written the closed utterances and collects the open one. -/
structure Collected (p : Platform) (closed : List (List Judged)) (opened : List Judged)
    (trace : List Event) (s : System κ) : Prop where
  sized : ∀ f ∈ opened, f.1.length = 640
  sound : Sound p.sizeBits s.utteranceMetadata
  holds : opened ≠ [] → Holds p.sizeBits s.utteranceMetadata (pcmOf opened)
  written : wavWrites trace = numbered (fitting p.sizeBits (closed.map pcmOf))
  ids : s.nextArtifactSequenceId = .ofNat (fitting p.sizeBits (closed.map pcmOf)).length

theorem Collected.told (h : Collected p closed opened trace s) {events : List Event}
    (silent : wavWrites events = []) : Collected p closed opened (trace ++ events) s :=
  { h with written := by rw [wavWrites_append, silent, List.append_nil, h.written] }

/-- The utterance has a frame more. -/
theorem Collected.appended (h : Collected p closed opened trace s) {f : Judged}
    (size : f.1.length = 640) {m : UtteranceMetadata}
    (holds : Holds p.sizeBits m (pcmOf opened ++ f.1)) (nextAddr : Nat)
    {events : List Event} (silent : stages events = []) :
    Collected p closed (opened ++ [f]) (trace ++ events)
      { s with utteranceMetadata := m, nextAddr } where
  sized := List.forall_mem_append.mpr ⟨h.sized, List.forall_mem_singleton.mpr size⟩
  sound := holds.sound
  holds _ := pcmOf_snoc opened f ▸ holds
  written := by
    rw [wavWrites_append, ← wavWrites_stages events, silent]
    exact (List.append_nil _).trans h.written
  ids := h.ids

/-- The utterance is over, and was written if there was room for it. -/
theorem Collected.closed_written (h : Collected p closed opened trace s) {events : List Event}
    {t : System κ} (sound : Sound p.sizeBits t.utteranceMetadata) (utterance : List Judged)
    (made : (wavWrites events = [] ∧ t.nextArtifactSequenceId = s.nextArtifactSequenceId ∧
        largest p.sizeBits < (pcmOf utterance).length) ∨
      (wavWrites events = [(s.nextArtifactSequenceId, pcmOf utterance)] ∧
        t.nextArtifactSequenceId = s.nextArtifactSequenceId + 1 ∧
        (pcmOf utterance).length ≤ largest p.sizeBits)) :
    Collected p (closed ++ [utterance]) [] (trace ++ events) t := by
  rcases made with ⟨nothing, same, beyond⟩ | ⟨wrote, next, fits⟩
  · have left : fitting p.sizeBits ((closed ++ [utterance]).map pcmOf) =
        fitting p.sizeBits (closed.map pcmOf) := by
      simp [fitting, beyond]
    refine ⟨List.forall_mem_nil _, sound, fun some => absurd rfl some, ?_, ?_⟩
    · rw [wavWrites_append, nothing, List.append_nil, left, h.written]
    · rw [left, same, h.ids]
  · have more : fitting p.sizeBits ((closed ++ [utterance]).map pcmOf) =
        fitting p.sizeBits (closed.map pcmOf) ++ [pcmOf utterance] := by
      simp [fitting, fits]
    refine ⟨List.forall_mem_nil _, sound, fun some => absurd rfl some, ?_, ?_⟩
    · rw [wavWrites_append, wrote, more, numbered_snoc, h.written, h.ids]
    · rw [more, next, h.ids, List.length_append, List.length_singleton, UInt64.ofNat_add]
      rfl

/-- Memory can be had, and files can be written. -/
def Supplied (answers : FrameAnswers) : Prop := answers.realloc = true ∧ answers.wav = .written

theorem collectFrame_collected {config : Config} (h : Collected p closed opened trace s)
    {f : Judged} (size : f.1.length = 640) {answers : FrameAnswers} (supplied : Supplied answers)
    (named : ∀ id, (artifactPath s.config id).length < 512)
    (empty : SlotQueue.Stores 16 s.artifactQueue [])
    {event : VadEvent} {closes : List (List Judged)} {next : List Judged}
    (change : Change config opened f event closes next) {wasActive : Bool}
    (active : wasActive = true ↔ opened ≠ []) :
    let o := (collectFrame p f.1 event wasActive answers).run s
    Collected p (closed ++ closes) next (trace ++ o.events) o.state ∧ o.state.vad = s.vad := by
  obtain ⟨realloc, _⟩ := supplied
  cases change with
  | idle nothing _ =>
    subst nothing
    rw [collectFrame_none]
    exact ⟨by simpa using h, rfl⟩
  | starts nothing _ =>
    subst nothing
    let cleared : System κ := { s with utteranceMetadata := { s.utteranceMetadata with size := 0 } }
    obtain ⟨result, m, nextAddr, events, appended, silent, holds, _⟩ :=
      appendUtterancePcm_holds p (s := cleared) h.sound.emptied size
    rw [collectFrame_start, realloc, appended, List.append_nil]
    exact ⟨h.appended size holds nextAddr silent, rfl⟩
  | continues some _ =>
    obtain ⟨result, m, nextAddr, events, appended, silent, holds, _⟩ :=
      appendUtterancePcm_holds p (h.holds some) size
    rw [active.mpr some, collectFrame_continue, realloc, appended, List.append_nil]
    exact ⟨h.appended size holds nextAddr silent, rfl⟩
  | ends some _ =>
    obtain ⟨result, m, nextAddr, events, appended, silent, holds, fits⟩ :=
      appendUtterancePcm_holds p (h.holds some) size
    rw [active.mpr some, collectFrame_end, realloc, appended]
    rw [← pcmOf_snoc] at holds fits
    have quiet : wavWrites events = [] := by
      rw [← wavWrites_stages, silent]
      rfl
    cases result with
    | error status =>
      rw [andThen_error]
      refine ⟨h.closed_written holds.sound _ (.inl ⟨quiet, rfl, ?_⟩), rfl⟩
      simpa using fits
    | ok _ =>
      have room := fits.mp rfl
      have length := pcmOf_length (h.appended size (pcmOf_snoc opened f ▸ holds) nextAddr silent).sized
      rw [List.length_append, List.length_singleton] at length
      have short := artifactPath_length s.config s.nextArtifactSequenceId
      have path := named s.nextArtifactSequenceId
      obtain ⟨result, artifactQueue, events', finalized, _, wrote⟩ := finalizeUtterance_closes
        (p := p) (s := { s with utteranceMetadata := m, nextAddr }) empty holds.sound
        (holds.whole room) (List.ne_nil_of_length_pos (by omega)) (by omega)
      rw [if_pos (show s.config.runtimeDir.bytes.length ≤ 476 by omega)] at wrote
      rw [andThen_ok, finalized]
      refine ⟨h.closed_written holds.sound.emptied.sound _ (.inr ⟨?_, rfl, room⟩), rfl⟩
      simp only [Outcome.after]
      rw [wavWrites_append, quiet, wrote, List.nil_append]

end Collect

/-! ## A call -/

section Call

variable {p : Platform} {config : Config} {k : κ} {closed : List (List Judged)}
  {opened : List Judged} {trace : List Event} {s : System κ}

/-- A supervisor that has heard frames which are cut into `closed` utterances and
an open one. -/
structure Segmented (p : Platform) (config : Config) (k : κ) (closed : List (List Judged))
    (opened : List Judged) (trace : List Event) (s : System κ) : Prop where
  tracks : Tracks config k opened s.vad
  collected : Collected p closed opened trace s

theorem Segmented.told (h : Segmented p config k closed opened trace s) {events : List Event}
    (silent : wavWrites events = []) : Segmented p config k closed opened (trace ++ events) s :=
  ⟨h.tracks, h.collected.told silent⟩

theorem Segmented.moved (h : Segmented p config k closed opened trace s) {t : System κ}
    (vad : t.vad = s.vad) (utterance : t.utteranceMetadata = s.utteranceMetadata)
    (ids : t.nextArtifactSequenceId = s.nextArtifactSequenceId) :
    Segmented p config k closed opened trace t where
  tracks := vad ▸ h.tracks
  collected := {
    sized := h.collected.sized
    sound := utterance ▸ h.collected.sound
    holds := utterance ▸ h.collected.holds
    written := h.collected.written
    ids := ids.trans h.collected.ids }

theorem handleFrame_segmented (core : VadCore κ) (decides : core.Decides)
    (positive : 0 < config.vadSilenceMs) (h : Segmented p config k closed opened trace s)
    {frame : List UInt8} (size : frame.length = 640) {answers : FrameAnswers}
    (supplied : Supplied answers) (named : ∀ id, (artifactPath s.config id).length < 512)
    (empty : SlotQueue.Stores 16 s.artifactQueue []) :
    let c := Endpoint.extend Prod.snd (fun _ => (20 : Int)) config.vadSilenceMs (closed, opened)
      (frame, core.hears k frame)
    let o := (handleFrame p core frame answers).run s
    Segmented p config (core.next k frame) c.1 c.2 (trace ++ o.events) o.state := by
  obtain ⟨addr, present⟩ := h.tracks.backend
  obtain ⟨closes, next, change, tracks⟩ := h.tracks.advance positive (core.next k frame) addr
    (frame, core.hears k frame)
  rw [change.extend closed,
    handleFrame_heard p core frame answers (core.processFrame_judged decides present frame)]
  generalize VadDetector.advance { s.vad with backend := some ⟨core.next k frame, 1, addr⟩ }
    (core.hears k frame) 20 = advanced at change tracks ⊢
  have quiet : Collected p closed opened (trace ++ [.frame frame, .vad .use addr])
      { s with vad := advanced.2 } :=
    { h.collected.told (by rfl : wavWrites [.frame frame, .vad .use addr] = []) with }
  obtain ⟨collected, same⟩ := collectFrame_collected quiet size supplied named empty change
    h.tracks.active
  refine ⟨same ▸ tracks, ?_⟩
  rw [List.append_assoc] at collected
  exact collected

/-- An utterance is not changed by what comes behind its queue. -/
theorem segmented_settled : Settled (κ := κ) (Segmented p config k closed opened) where
  told _ _ _ reply h := h.told (List.filterMap_cons_none (wavWrite_reply reply))
  moved _ _ _ _ _ h := h.moved rfl rfl rfl

end Call

/-! ## Any run -/

section Run

variable {p : Platform} {config : Config} {core : VadCore κ} {s : System κ}

/-- The supervisor's view of the bytes it has heard. -/
def Follows (p : Platform) (core : VadCore κ) (config : Config) (bytes : List UInt8)
    (trace : List Event) (s : System κ) : Prop :=
  let k := core.setMode config.vadAggressiveness core.initCore
  let c := cutUtterances config (core.judge k (frames 640 bytes))
  Segmented p config (core.after k (frames 640 bytes)) c.1 c.2 trace s

theorem Follows.call (decides : core.Decides) (positive : 0 < config.vadSilenceMs)
    (named : ∀ id, (artifactPath config id).length < 512) {bytes : List UInt8} {trace : List Event}
    (h : Follows p core config bytes trace s) (heard : Heard p bytes s)
    (running : Running p config s) {answers : RunAnswers p}
    (supplied : ∀ i, Supplied (answers.frames i))
    (few : (bytes ++ delivered answers s).length < 2 ^ p.sizeBits) :
    let o := (runOnce p core answers).run s
    Follows p core config (bytes ++ delivered answers s) (trace ++ o.events) o.state := by
  have quiet := running.quiet
  obtain ⟨_, _, complete⟩ := heard.emptied answers quiet few
  obtain ⟨events, told, listened⟩ := listen_run p core answers quiet
  have silent : wavWrites events = [] := by
    rw [← wavWrites_stages, told]
    unfold wrote
    split <;> rfl
  have sized : ∀ frame ∈ taken answers s, frame.length = 640 := by
    intro frame member
    have whole : frame ∈ frames 640 (bytes ++ delivered answers s) := by
      rw [complete]
      exact List.mem_append_right _ member
    exact frame_length whole
  intro o
  have called : o = ((listen p core answers).run s).andThen fun _ => respond p answers :=
    runOnce_run p core answers quiet.running
  rw [called]
  unfold Follows
  rw [complete]
  apply andThen_keeps ?_ fun _ _ => respond_settled segmented_settled answers _
  unfold taken at sized ⊢
  by_cases less : (filled answers s).available < 640
  · rw [if_pos less] at listened ⊢
    obtain ⟨result, listened⟩ := listened
    rw [listened, List.append_nil]
    exact (h.told silent).moved rfl rfl rfl
  · rw [if_neg less] at listened sized ⊢
    rw [listened, core.judge_snoc, core.after_snoc, cutUtterances, Endpoint.cut_snoc positive.not_ge]
    have earlier : wavWrites (events ++ (ringTouch .use (filled answers s) ++ [.ringRead 640])) =
        [] := by
      rw [wavWrites_append, silent, ← wavWrites_stages, stages_append, stages_ringTouch]
      rfl
    have before := (h.told earlier).moved
      (t := { s with
        capture := captureAfter answers s
        captureRing := ((filled answers s).read p.sizeBits 640).2 }) rfl rfl rfl
    have after := handleFrame_segmented core decides positive before
      (sized _ (List.mem_singleton_self _)) (supplied 0) (running.configured ▸ named) quiet.artifacts
    show Segmented _ _ _ _ _ (trace ++ (_ ++ _)) _
    rw [← List.append_assoc]
    exact after

theorem Begun.follows (p : Platform) (h : Begun core config s) : Follows p core config [] [] s := by
  have nothing : cutUtterances config [] = ([], []) := Endpoint.cut_idle rfl
  simp only [Follows, frames_nil, VadCore.judge, nothing]
  obtain ⟨addr, vad⟩ := h.vad
  constructor
  · rw [vad]
    exact ⟨⟨addr, rfl⟩, rfl, by simp, by simp⟩
  · refine ⟨List.forall_mem_nil _, ?_, by simp, rfl, h.ids⟩
    rw [h.utterance]
    exact ⟨Nat.le_refl _, .inl rfl⟩

theorem run_follows (decides : core.Decides) (named : ∀ id, (artifactPath config id).length < 512)
    (h : Begun core config s) (ticks : List (RunAnswers p))
    (supplied : ∀ answers ∈ ticks, ∀ i, Supplied (answers.frames i))
    (few : (captured p core s ticks).length < 2 ^ p.sizeBits) :
    Follows p core config (captured p core s ticks) (play (runOnce p core) s ticks).2
      (play (runOnce p core) s ticks).1 := by
  induction ticks using List.reverseRecOn with
  | nil => exact h.follows p
  | append_singleton ticks answers ih =>
    rw [captured_snoc] at few ⊢
    rw [play_snoc]
    have fewer : (captured p core s ticks).length < 2 ^ p.sizeBits := by
      rw [List.length_append] at few
      omega
    rw [List.forall_mem_append, List.forall_mem_singleton] at supplied
    exact (ih supplied.1 fewer).call decides h.silence named (run_heard h ticks fewer)
      (run_running p core (h.running p) ticks) supplied.2 few

end Run

/-! ## One utterance -/

section Spoken

variable {config : Config}

theorem silence_speech (x : List UInt8) (n : Nat) : silence (List.replicate (n + 1) (x, true)) = 0 := by
  rw [List.replicate_succ']
  exact Endpoint.trailing_voiced _ rfl

theorem pause_succ (xs : List Judged) (f : Judged) (j : Nat) :
    xs ++ List.replicate (j + 1) f = xs ++ List.replicate j f ++ [f] := by
  rw [List.replicate_succ', List.append_assoc]

theorem silence_pause (x y : List UInt8) (n j : Nat) :
    silence (List.replicate (n + 1) (x, true) ++ List.replicate j (y, false)) = 20 * j := by
  induction j with
  | zero => simpa using silence_speech x n
  | succ j ih =>
    have longer : silence (List.replicate (n + 1) (x, true) ++ List.replicate j (y, false) ++
        [(y, false)]) = silence (List.replicate (n + 1) (x, true) ++ List.replicate j (y, false)) +
        20 := Endpoint.trailing_unvoiced _ rfl
    rw [pause_succ, longer, ih]
    omega

/-- An utterance that is open and does not end yet. -/
theorem cut_grows (positive : 0 < config.vadSilenceMs) {opened : List Judged} {f : Judged}
    (cut : cutUtterances config opened = ([], opened)) (some : opened ≠ [])
    (under : ¬ config.vadSilenceMs ≤ silence (opened ++ [f])) :
    cutUtterances config (opened ++ [f]) = ([], opened ++ [f]) := by
  unfold cutUtterances at cut ⊢
  rw [Endpoint.cut_snoc positive.not_ge, cut]
  exact (Change.continues some under).extend []

theorem cut_speech (positive : 0 < config.vadSilenceMs) (x : List UInt8) (n : Nat) :
    cutUtterances config (List.replicate (n + 1) (x, true)) =
      ([], List.replicate (n + 1) (x, true)) := by
  induction n with
  | zero =>
    have nothing : cutUtterances config [] = ([], []) := Endpoint.cut_idle rfl
    unfold cutUtterances at nothing ⊢
    rw [List.replicate_succ', List.replicate_zero, Endpoint.cut_snoc positive.not_ge, nothing]
    exact (Change.starts rfl rfl).extend []
  | succ n ih =>
    have spoken := silence_speech x (n + 1)
    rw [List.replicate_succ'] at spoken ⊢
    exact cut_grows positive ih (by simp) (by omega)

theorem cut_pause (x y : List UInt8) (n j : Nat) (short : 20 * (j : Int) < config.vadSilenceMs) :
    cutUtterances config (List.replicate (n + 1) (x, true) ++ List.replicate j (y, false)) =
      ([], List.replicate (n + 1) (x, true) ++ List.replicate j (y, false)) := by
  induction j with
  | zero => simpa using cut_speech (by omega) x n
  | succ j ih =>
    have paused := silence_pause x y n (j + 1)
    rw [pause_succ] at paused ⊢
    exact cut_grows (by omega) (ih (by omega)) (by simp) (by omega)

/-- Speech with the pause that ends it is one utterance. -/
theorem cut_whole (x y : List UInt8) (n j : Nat) (short : 20 * (j : Int) < config.vadSilenceMs)
    (long : config.vadSilenceMs ≤ 20 * (j + 1)) :
    cutUtterances config (List.replicate (n + 1) (x, true) ++ List.replicate (j + 1) (y, false)) =
      ([List.replicate (n + 1) (x, true) ++ List.replicate (j + 1) (y, false)], []) := by
  have before := cut_pause x y n j short
  have paused := silence_pause x y n (j + 1)
  rw [pause_succ] at paused ⊢
  unfold cutUtterances at before ⊢
  rw [Endpoint.cut_snoc (by omega), before]
  exact (Change.ends (by simp) (by omega)).extend []

def loud : List UInt8 := List.replicate 640 1

def still : List UInt8 := List.replicate 640 0

/-- Speech, and a pause of 700 ms. -/
def spokenChunks (n : Nat) : List (List UInt8) :=
  List.replicate (n + 1) loud ++ List.replicate 35 still

def spokenTicks (n : Nat) : List (RunAnswers samplePlatform) :=
  (spokenChunks n).map fun chunk => sampleTick chunk .ok false

theorem spokenChunks_sized (n : Nat) : ∀ chunk ∈ spokenChunks n, chunk.length = 640 := by
  intro chunk member
  rcases List.mem_append.mp member with speech | pause
  · rw [List.eq_of_mem_replicate speech]
    exact List.length_replicate
  · rw [List.eq_of_mem_replicate pause]
    exact List.length_replicate

theorem spokenChunks_length (n : Nat) : (spokenChunks n).flatten.length = 640 * (n + 36) := by
  rw [flatten_length (spokenChunks_sized n), spokenChunks, List.length_append,
    List.length_replicate, List.length_replicate]

theorem spokenTicks_supplied (n : Nat) :
    ∀ answers ∈ spokenTicks n, ∀ i, Supplied (answers.frames i) := by
  intro answers member i
  obtain ⟨chunk, _, rfl⟩ := List.mem_map.mp member
  exact ⟨rfl, rfl⟩

theorem spoken_captured (n : Nat) : captured samplePlatform VadStream.byteCore sampleSystem
    (spokenTicks n) = (spokenChunks n).flatten := by
  apply captured_sample VadStream.byteCore .ok false (by decide) ?_
    (sample_started.begun.running samplePlatform) (.inl (by rfl))
  intro chunk member
  have size := spokenChunks_sized n chunk member
  exact ⟨List.ne_nil_of_length_pos (by omega), by omega⟩

theorem byteCore_decides : VadStream.byteCore.Decides := fun _ _ _ _ => Int.natCast_nonneg _

theorem byteCore_judge (frames : List (List UInt8)) :
    VadStream.byteCore.judge () frames =
      frames.map fun frame => (frame, VadStream.byteCore.hears () frame) := by
  induction frames with
  | nil => rfl
  | cons frame frames ih => exact congrArg ((frame, VadStream.byteCore.hears () frame) :: ·) ih

def spokenJudged (n : Nat) : List Judged :=
  List.replicate (n + 1) (loud, true) ++ List.replicate 35 (still, false)

theorem spokenJudged_pcm (n : Nat) : pcmOf (spokenJudged n) = (spokenChunks n).flatten := by
  simp only [pcmOf, spokenJudged, spokenChunks, List.map_append, List.map_replicate]

theorem spoken_cut (n : Nat) : cutUtterances Config.initDefaults
    (VadStream.byteCore.judge () (frames 640 (spokenChunks n).flatten)) = ([spokenJudged n], []) := by
  have loudly : VadStream.byteCore.hears () loud = true := by decide
  have quietly : VadStream.byteCore.hears () still = false := by decide
  have judged : VadStream.byteCore.judge () (spokenChunks n) = spokenJudged n := by
    rw [byteCore_judge, spokenChunks, List.map_append, List.map_replicate, List.map_replicate,
      loudly, quietly]
    rfl
  rw [(frames_flatten (by decide) (spokenChunks_sized n)).1, judged]
  exact cut_whole loud still n 34 (by decide) (by decide)

theorem spoken_segmentation (n : Nat) : segmentation VadStream.byteCore Config.initDefaults
    (spokenChunks n).flatten = [(spokenChunks n).flatten] := by
  have cut : cutUtterances Config.initDefaults _ = _ := spoken_cut n
  unfold segmentation
  rw [cut]
  exact congrArg (fun pcm => [pcm]) (spokenJudged_pcm n)

end Spoken

/-! ## End to end -/

theorem segmented (p : Platform) (core : VadCore κ) (config : Config) {s : System κ}
    (started : Started p core config s) (decides : core.Decides)
    (named : ∀ id, (artifactPath config id).length < 512) (ticks : List (RunAnswers p))
    (supplied : ∀ answers ∈ ticks, ∀ i, Supplied (answers.frames i))
    (few : (captured p core s ticks).length < 2 ^ p.sizeBits) :
    let r := play (runOnce p core) s ticks
    let bytes := captured p core s ticks
    wavWrites r.2 = numbered (fitting p.sizeBits (segmentation core config bytes)) ∧
      (r.1.captureRing.read p.sizeBits 640).1 = rest 640 bytes := by
  intro r bytes
  have follows := run_follows decides named started.begun ticks supplied few
  have heard := run_heard started.begun ticks few
  refine ⟨follows.collected.written, ?_⟩
  rw [(heard.ring.read 640).1]
  exact List.take_of_length_le (Nat.le_of_lt (rest_short (by decide) _))

theorem segmented_spoken :
    wavWrites (play (runOnce samplePlatform VadStream.byteCore) sampleSystem (spokenTicks 0)).2 =
      [(0, (spokenChunks 0).flatten)] := by
  have few : (captured samplePlatform VadStream.byteCore sampleSystem (spokenTicks 0)).length <
      2 ^ samplePlatform.sizeBits := by
    rw [spoken_captured, spokenChunks_length]
    decide
  have written := (segmented samplePlatform VadStream.byteCore Config.initDefaults sample_started
    byteCore_decides (artifactPath_short (by decide)) (spokenTicks 0) (spokenTicks_supplied 0)
    few).1
  rw [written, spoken_captured, spoken_segmentation, fitting, List.filter_cons_of_pos]
  · rfl
  · rw [spokenChunks_length]
    decide

/-- After more than 23 hours of speech there is no buffer on a 32-bit target for
another frame, and the utterance is not written. -/
theorem segmented_overlong :
    let r := play (runOnce samplePlatform VadStream.byteCore) sampleSystem (spokenTicks 4194304)
    let bytes := captured samplePlatform VadStream.byteCore sampleSystem (spokenTicks 4194304)
    Started samplePlatform VadStream.byteCore Config.initDefaults sampleSystem ∧
    VadStream.byteCore.Decides ∧ (∀ id, (artifactPath Config.initDefaults id).length < 512) ∧
    (∀ answers ∈ spokenTicks 4194304, ∀ i, Supplied (answers.frames i)) ∧
    bytes.length < 2 ^ samplePlatform.sizeBits ∧
    wavWrites r.2 ≠ numbered (segmentation VadStream.byteCore Config.initDefaults bytes) := by
  have named : ∀ id, (artifactPath Config.initDefaults id).length < 512 :=
    artifactPath_short (by decide)
  have few : (captured samplePlatform VadStream.byteCore sampleSystem
      (spokenTicks 4194304)).length < 2 ^ samplePlatform.sizeBits := by
    rw [spoken_captured, spokenChunks_length]
    decide
  have follows := run_follows byteCore_decides named sample_started.begun (spokenTicks 4194304)
    (spokenTicks_supplied _) few
  have written : wavWrites _ = numbered (fitting 32 (segmentation VadStream.byteCore
    Config.initDefaults _)) := follows.collected.written
  have room : largest 32 = 2684354560 := by decide
  have beyond : ¬ (spokenChunks 4194304).flatten.length ≤ largest 32 := by
    rw [spokenChunks_length, room]
    decide
  have nothing : fitting 32 [(spokenChunks 4194304).flatten] = [] := by
    rw [fitting, List.filter_cons_of_neg (by simpa using beyond)]
    rfl
  refine ⟨sample_started, byteCore_decides, named, spokenTicks_supplied _, few, ?_⟩
  rw [written, spoken_captured, spoken_segmentation, nothing]
  intro same
  cases same

end Supervisor

end Assistantd
