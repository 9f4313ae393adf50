import Mathlib.Computability.Language
import Assistantd.Lib.Endpoint
import Assistantd.Vad.Detector

/-! The events a detector emits over any run of calls. -/
namespace Assistantd.VadStream

open Calls Computability

/-- An accepted frame, as the classifier saw it. -/
structure Frame where
  speech : Bool
  durationMs : Int
  deriving DecidableEq

inductive Request where
  | processFrame (pcm : Option (List UInt8)) (sampleCount : Nat) (frameDurationMs : Int)
      (event : Bool)
  | reset

/-- A detector with the frames it accepted since its last reset and the event
emitted for each. -/
structure Stream (κ : Type) where
  detector : VadDetector κ
  history : List (Frame × VadEvent)

variable {κ : Type} (core : VadCore κ)

def hasSpeech (d : VadDetector κ) (pcm : Option (List UInt8)) (sampleCount : Nat) : Bool :=
  match pcm, d.backend with
  | some frame, some vad => (vad.process core frame sampleCount).1 = 1
  | _, _ => false

def Stream.step (s : Stream κ) : Request → Stream κ
  | .processFrame pcm sampleCount frameDurationMs event =>
    let o := (VadDetector.processFrame core pcm sampleCount frameDurationMs event).run s.detector
    match o.result with
    | .ok emitted =>
      ⟨o.state, s.history ++
        [(⟨hasSpeech core s.detector pcm sampleCount, frameDurationMs⟩, emitted)]⟩
    | .error _ => ⟨o.state, s.history⟩
  | .reset => ⟨((VadDetector.reset core).run s.detector).state, []⟩

def Stream.run (s : Stream κ) (requests : List Request) : Stream κ :=
  requests.foldl (Stream.step core) s

def frames (history : List (Frame × VadEvent)) : List Frame := history.map Prod.fst

def events (history : List (Frame × VadEvent)) : List VadEvent := history.map Prod.snd

/-- Some utterance has started and not ended. -/
def Open (emitted : List VadEvent) : Prop :=
  ∃ before after, emitted = before ++ .speechStart :: after ∧ .speechEnd ∉ after

/-- How long the run of non-speech frames at the end lasts. -/
def silence (seen : List Frame) : Int := Endpoint.trailing Frame.speech Frame.durationMs seen

/-- `NONE* START CONTINUE* END` -/
def utterance : Language VadEvent :=
  ({[.none]} : Language VadEvent)∗ * {[.speechStart]} * ({[.speechContinue]} : Language VadEvent)∗ *
    {[.speechEnd]}

theorem open_start (emitted : List VadEvent) : Open (emitted ++ [.speechStart]) :=
  ⟨emitted, [], rfl, List.not_mem_nil⟩

theorem not_open_nil : ¬ Open [] := by
  rintro ⟨before, after, same, _⟩
  simp at same

theorem open_snoc {emitted : List VadEvent} {e : VadEvent} (start : e ≠ .speechStart) :
    Open (emitted ++ [e]) ↔ Open emitted ∧ e ≠ .speechEnd := by
  constructor
  · rintro ⟨before, after, same, running⟩
    rcases List.eq_nil_or_concat after with rfl | ⟨rest, last, rfl⟩
    · have final := (List.append_inj' same rfl).2
      simp only [List.cons.injEq, and_true] at final
      exact absurd final start
    · rw [List.concat_eq_append, ← List.cons_append, ← List.append_assoc] at same
      obtain ⟨earlier, final⟩ := List.append_inj' same rfl
      simp only [List.cons.injEq, and_true] at final
      simp only [List.concat_eq_append, List.mem_append, List.mem_singleton, not_or] at running
      exact ⟨⟨before, rest, earlier, running.1⟩, fun ends => running.2 (final ▸ ends.symm)⟩
  · rintro ⟨⟨before, after, rfl, running⟩, ends⟩
    refine ⟨before, after ++ [e], by simp, ?_⟩
    simp only [List.mem_append, List.mem_singleton, not_or]
    exact ⟨running, ends.symm⟩

/-! ## The invariant -/

/-- What the events look like while no utterance is open, and while one is. -/
def closedEvents : Language VadEvent := utterance∗ * ({[.none]} : Language VadEvent)∗

def openEvents : Language VadEvent :=
  closedEvents * {[.speechStart]} * ({[.speechContinue]} : Language VadEvent)∗

/-- The event is the one its frame calls for, given what came before. -/
def Fitting (limit : Int) (before : List (Frame × VadEvent)) (f : Frame) (e : VadEvent) : Prop :=
  (e = .speechStart ↔ f.speech = true ∧ ¬ Open (events before)) ∧
  (e = .speechEnd ↔ Open (events before) ∧ limit ≤ silence (frames before ++ [f]) ∧
    silence (frames before) < limit)

def Explained (limit : Int) (history : List (Frame × VadEvent)) : Prop :=
  ∀ i f e, history[i]? = some (f, e) → Fitting limit (history.take i) f e

structure Inv (limit : Int) (s : Stream κ) : Prop where
  positive : 0 < limit
  configured : s.detector.silenceMs = limit
  active : s.detector.speechActive = true ↔ Open (events s.history)
  accumulated : s.detector.accumulatedSilenceMs =
    if s.detector.speechActive then silence (frames s.history) else 0
  short : s.detector.accumulatedSilenceMs < limit
  shape : events s.history ∈ if s.detector.speechActive then openEvents else closedEvents
  explained : Explained limit s.history

theorem Explained.snoc {limit : Int} {history : List (Frame × VadEvent)}
    (h : Explained limit history) {f : Frame} {e : VadEvent}
    (last : Fitting limit history f e) : Explained limit (history ++ [(f, e)]) := by
  intro i g d found
  by_cases old : i < history.length
  · rw [List.getElem?_append_left old] at found
    rw [List.take_append_of_le_length (by omega)]
    exact h i g d found
  · obtain ⟨inside, _⟩ := List.getElem?_eq_some_iff.mp found
    rw [List.length_append, List.length_singleton] at inside
    obtain rfl : i = history.length := by omega
    simp only [List.getElem?_concat_length, Option.some.injEq, Prod.mk.injEq] at found
    obtain ⟨rfl, rfl⟩ := found
    rw [List.take_left]
    exact last

theorem shape_none {emitted : List VadEvent} (h : emitted ∈ closedEvents) :
    emitted ++ [.none] ∈ closedEvents := by
  have more : closedEvents * {[.none]} ≤ closedEvents := by
    unfold closedEvents
    rw [mul_assoc]
    exact mul_le_mul_right kstar_mul_le_kstar _
  exact more (Language.append_mem_mul h rfl)

theorem shape_start {emitted : List VadEvent} (h : emitted ∈ closedEvents) :
    emitted ++ [.speechStart] ∈ openEvents := by
  have started : emitted ++ [.speechStart] ∈ closedEvents * {[.speechStart]} :=
    Language.append_mem_mul h rfl
  have stays : emitted ++ [.speechStart] ++ [] ∈ openEvents :=
    Language.append_mem_mul started (Language.nil_mem_kstar _)
  rwa [List.append_nil] at stays

theorem shape_continue {emitted : List VadEvent} (h : emitted ∈ openEvents) :
    emitted ++ [.speechContinue] ∈ openEvents := by
  have more : openEvents * {[.speechContinue]} ≤ openEvents := by
    unfold openEvents
    rw [mul_assoc]
    exact mul_le_mul_right kstar_mul_le_kstar _
  exact more (Language.append_mem_mul h rfl)

theorem shape_over {emitted : List VadEvent} (h : emitted ∈ openEvents) :
    emitted ++ [.speechEnd] ∈ utterance∗ := by
  have whole : openEvents * {[.speechEnd]} ≤ utterance∗ := by
    unfold openEvents closedEvents
    have last : utterance∗ * utterance ≤ utterance∗ := kstar_mul_le_kstar
    unfold utterance at last ⊢
    simpa only [mul_assoc] using last
  exact whole (Language.append_mem_mul h rfl)

theorem shape_end {emitted : List VadEvent} (h : emitted ∈ openEvents) :
    emitted ++ [.speechEnd] ∈ closedEvents := by
  have stays : emitted ++ [.speechEnd] ++ [] ∈ closedEvents :=
    Language.append_mem_mul (shape_over h) (Language.nil_mem_kstar _)
  rwa [List.append_nil] at stays

theorem Inv.snoc {limit : Int} {s : Stream κ} (inv : Inv limit s) (d : VadDetector κ) (f : Frame)
    (e : VadEvent) (configured : d.silenceMs = limit)
    (active : d.speechActive = true ↔ Open (events s.history ++ [e]))
    (accumulated : d.accumulatedSilenceMs =
      if d.speechActive then silence (frames s.history ++ [f]) else 0)
    (short : d.accumulatedSilenceMs < limit)
    (shape : events s.history ++ [e] ∈ if d.speechActive then openEvents else closedEvents)
    (fitting : Fitting limit s.history f e) : Inv limit ⟨d, s.history ++ [(f, e)]⟩ := by
  have emitted : events (s.history ++ [(f, e)]) = events s.history ++ [e] := by simp [events]
  have seen : frames (s.history ++ [(f, e)]) = frames s.history ++ [f] := by simp [frames]
  constructor
  · exact inv.positive
  · exact configured
  · rw [emitted]
    exact active
  · rw [seen]
    exact accumulated
  · exact short
  · rw [emitted]
    exact shape
  · exact inv.explained.snoc fitting

theorem silence_speech (seen : List Frame) (durationMs : Int) :
    silence (seen ++ [⟨true, durationMs⟩]) = 0 :=
  Endpoint.trailing_voiced seen rfl

theorem silence_quiet (seen : List Frame) (durationMs : Int) :
    silence (seen ++ [⟨false, durationMs⟩]) = silence seen + durationMs :=
  Endpoint.trailing_unvoiced seen rfl

/-- One accepted frame keeps the invariant. -/
theorem Inv.advance {limit : Int} {s : Stream κ} (inv : Inv limit s) (speech : Bool)
    (durationMs : Int) :
    Inv limit ⟨(s.detector.advance speech durationMs).2,
      s.history ++ [(⟨speech, durationMs⟩, (s.detector.advance speech durationMs).1)]⟩ := by
  have positive := inv.positive
  have short := inv.short
  have accumulated := inv.accumulated
  have shape := inv.shape
  have active := inv.active
  have configured := inv.configured
  cases running : s.detector.speechActive with
  | false =>
    rw [running] at active shape accumulated
    have idle : ¬ Open (events s.history) := by simpa using active
    cases speech with
    | false =>
      have stays : ¬ Open (events s.history ++ [.none]) := by
        rw [open_snoc (by decide)]
        exact fun still => idle still.1
      rw [VadDetector.advance_idle running]
      refine inv.snoc _ _ _ configured ?_ ?_ short ?_ ?_ <;> simp only [running]
      · simpa using stays
      · exact accumulated
      · exact shape_none shape
      · simp [Fitting, idle]
    | true =>
      rw [VadDetector.advance_opens running]
      refine inv.snoc _ _ _ configured ?_ ?_ positive ?_ ?_
      · simp [open_start]
      · simp [silence_speech]
      · exact shape_start shape
      · simp [Fitting, idle]
  | true =>
    rw [running] at active shape accumulated
    have inside : Open (events s.history) := active.mp rfl
    rw [if_pos rfl] at accumulated shape
    have before : silence (frames s.history) < limit := accumulated ▸ short
    have stays : Open (events s.history ++ [.speechContinue]) := by
      rw [open_snoc (by decide)]
      exact ⟨inside, by decide⟩
    cases speech with
    | true =>
      rw [VadDetector.advance_speaks running]
      refine inv.snoc _ _ _ configured ?_ ?_ positive ?_ ?_ <;> simp only [running]
      · simp [stays]
      · simp [silence_speech]
      · exact shape_continue shape
      · simp [Fitting, inside, silence_speech, positive.not_ge]
    | false =>
      have total := silence_quiet (frames s.history) durationMs
      by_cases lasts : limit ≤ silence (frames s.history) + durationMs
      · have ends : ¬ Open (events s.history ++ [.speechEnd]) := by
          rw [open_snoc (by decide)]
          exact fun still => still.2 rfl
        rw [VadDetector.advance_closes running (by simpa [accumulated, configured] using lasts)]
        refine inv.snoc _ _ _ configured ?_ ?_ positive ?_ ?_
        · simp [ends]
        · rfl
        · exact shape_end shape
        · simp [Fitting, inside, total, lasts, before]
      · have under : silence (frames s.history) + durationMs < limit := by omega
        rw [VadDetector.advance_waits running (by simpa [accumulated, configured] using under)]
        refine inv.snoc _ _ _ configured ?_ ?_ ?_ ?_ ?_ <;> simp only [running, accumulated]
        · simp [stays]
        · simp [total]
        · exact under
        · exact shape_continue shape
        · simp [Fitting, inside, total, lasts]

theorem fresh {limit : Int} {d : VadDetector κ} (positive : 0 < limit)
    (configured : d.silenceMs = limit) (backend : Option (Fvad κ)) :
    Inv limit ⟨{ d with backend, accumulatedSilenceMs := 0, speechActive := false }, []⟩ where
  positive := positive
  configured := configured
  active := by simp [events, not_open_nil]
  accumulated := rfl
  short := positive
  shape := Language.append_mem_mul (Language.nil_mem_kstar _) (Language.nil_mem_kstar _)
  explained := by
    intro i f e found
    simp at found

theorem step_inv {limit : Int} {s : Stream κ} (inv : Inv limit s) (request : Request) :
    Inv limit (s.step core request) := by
  cases request with
  | processFrame pcm sampleCount frameDurationMs event =>
    rcases VadDetector.processFrame_cases core pcm sampleCount frameDurationMs event s.detector with
      ⟨status, rejected⟩ | ⟨frame, vad, verdict, vad', rfl, present, _, classified, called⟩
    · simp only [Stream.step, rejected]
      exact inv
    · have same : Inv limit ⟨{ s.detector with backend := some vad' }, s.history⟩ := { inv with }
      by_cases failed : verdict < 0
      · rw [if_pos failed] at called
        simp only [Stream.step, called]
        exact same
      · rw [if_neg failed] at called
        have heard : hasSpeech core s.detector (some frame) sampleCount = decide (verdict = 1) := by
          simp only [hasSpeech, present, classified]
        simp only [Stream.step, called, heard]
        exact same.advance _ _
  | reset =>
    obtain ⟨backend, touched, called⟩ := VadDetector.reset_run core s.detector
    simp only [Stream.step, called]
    exact fresh inv.positive inv.configured backend

theorem init_inv (config : Config) (malloc : Option Nat) (d : VadDetector κ)
    (ready : ((VadDetector.init core config malloc).run d).result = .ok ()) :
    Inv config.vadSilenceMs ⟨((VadDetector.init core config malloc).run d).state, []⟩ := by
  rw [VadDetector.init_run] at ready ⊢
  split at ready
  · cases ready
  · rename_i accepted
    rw [if_neg accepted]
    cases malloc with
    | none => cases ready
    | some addr =>
      have positive : 0 < config.vadSilenceMs := by omega
      exact fresh (d := ⟨config.vadAggressiveness, config.vadSilenceMs, 0, false, none⟩)
        positive rfl (some (VadDetector.ready core _ addr))

theorem rejected_keeps (d : VadDetector κ) (pcm : Option (List UInt8)) (sampleCount : Nat)
    (frameDurationMs : Int) (event : Bool) {status : Status}
    (failed : ((VadDetector.processFrame core pcm sampleCount frameDurationMs event).run
      d).result = .error status) :
    ∃ backend, ((VadDetector.processFrame core pcm sampleCount frameDurationMs event).run
      d).state = { d with backend } := by
  rcases VadDetector.processFrame_cases core pcm sampleCount frameDurationMs event d with
    ⟨_, rejected⟩ | ⟨_, _, verdict, vad', _, _, _, _, called⟩
  · exact ⟨d.backend, by rw [rejected]⟩
  · by_cases negative : verdict < 0
    · rw [if_pos negative] at called
      exact ⟨some vad', by rw [called]⟩
    · rw [if_neg negative] at called
      rw [called] at failed
      cases failed

theorem run_inv {limit : Int} {s : Stream κ} (inv : Inv limit s) (requests : List Request) :
    Inv limit (s.run core requests) := by
  induction requests generalizing s with
  | nil => exact inv
  | cons request requests ih => exact ih (step_inv core inv request)

theorem run_equipped {s : Stream κ} (there : s.detector.Equipped) (requests : List Request) :
    (s.run core requests).detector.Equipped := by
  induction requests generalizing s with
  | nil => exact there
  | cons request requests ih =>
    refine ih ?_
    cases request with
    | processFrame pcm sampleCount frameDurationMs event =>
      have kept := there.processFrame core pcm sampleCount frameDurationMs event
      simp only [Stream.step]
      split <;> exact kept
    | reset => exact there.reset core

theorem init_equipped (config : Config) (malloc : Option Nat) (d : VadDetector κ)
    (ready : ((VadDetector.init core config malloc).run d).result = .ok ()) :
    ((VadDetector.init core config malloc).run d).state.Equipped := by
  rw [VadDetector.init_run] at ready ⊢
  split at ready
  · cases ready
  · rename_i accepted
    rw [if_neg accepted]
    cases malloc with
    | none => cases ready
    | some addr => exact ⟨_, rfl, rfl⟩

/-- A frame that is served is recorded, as speech or not as the core has it. -/
theorem step_records {s : Stream κ} {vad : Fvad κ} (present : s.detector.backend = some vad)
    (rate : vad.rateIdx = 1) {frame : List UInt8} {sampleCount : Nat} {frameDurationMs : Int}
    {event : Bool}
    (good : VadDetector.Admissible (some frame) sampleCount frameDurationMs event)
    (heard : 0 ≤ (core.calcVad 1 vad.core frame sampleCount).1) :
    ∃ e, ((VadDetector.processFrame core (some frame) sampleCount frameDurationMs event).run
        s.detector).result = .ok e ∧
      (s.step core (.processFrame (some frame) sampleCount frameDurationMs event)).history =
        s.history ++
          [(⟨0 < (core.calcVad 1 vad.core frame sampleCount).1, frameDurationMs⟩, e)] := by
  obtain ⟨speech, e, served⟩ := VadDetector.processFrame_served core present rate good heard
  have same : hasSpeech core s.detector (some frame) sampleCount =
      decide (0 < (core.calcVad 1 vad.core frame sampleCount).1) := by
    simp only [hasSpeech, present, speech]
  exact ⟨e, served, by simp only [Stream.step, served, same]⟩

/-- What a prefix of `(NONE* START CONTINUE* END)*` is: it can be completed. -/
theorem shape_prefix {limit : Int} {s : Stream κ} (inv : Inv limit s) :
    ∃ rest, events s.history ++ rest ∈ utterance∗ := by
  have shape := inv.shape
  have finish : ∀ {emitted : List VadEvent}, emitted ∈ closedEvents →
      emitted ++ [.speechStart, .speechEnd] ∈ utterance∗ := by
    intro emitted closed
    have done := shape_over (shape_start closed)
    rwa [List.append_assoc] at done
  split at shape
  · exact ⟨[.speechEnd], shape_over shape⟩
  · exact ⟨_, finish shape⟩

/-- The event stream of an initialised detector, over any run of calls. -/
theorem vad_stream (config : Config) (malloc : Option Nat) (d : VadDetector κ)
    (ready : ((VadDetector.init core config malloc).run d).result = .ok ())
    (requests : List Request) (s : Stream κ)
    (reached : s = Stream.run core ⟨((VadDetector.init core config malloc).run d).state, []⟩
      requests) :
    (∀ pcm sampleCount frameDurationMs event status,
      ((VadDetector.processFrame core pcm sampleCount frameDurationMs event).run
        s.detector).result = .error status →
      ∃ backend, ((VadDetector.processFrame core pcm sampleCount frameDurationMs event).run
        s.detector).state = { s.detector with backend }) ∧
    (∃ vad, s.detector.backend = some vad ∧
      ∀ frame sampleCount frameDurationMs event,
        VadDetector.Admissible (some frame) sampleCount frameDurationMs event →
        0 ≤ (core.calcVad 1 vad.core frame sampleCount).1 →
        ∃ e, ((VadDetector.processFrame core (some frame) sampleCount frameDurationMs event).run
            s.detector).result = .ok e ∧
          (s.step core (.processFrame (some frame) sampleCount frameDurationMs event)).history =
            s.history ++
              [(⟨0 < (core.calcVad 1 vad.core frame sampleCount).1, frameDurationMs⟩, e)]) ∧
    (∃ rest, events s.history ++ rest ∈ utterance∗) ∧
    (∀ i f e, s.history[i]? = some (f, e) →
      (e = .speechStart ↔ f.speech = true ∧ ¬ Open (events (s.history.take i))) ∧
      (e = .speechEnd ↔ Open (events (s.history.take i)) ∧
        config.vadSilenceMs ≤ silence (frames (s.history.take i) ++ [f]) ∧
        silence (frames (s.history.take i)) < config.vadSilenceMs)) ∧
    (s.detector.speechActive = true ↔ Open (events s.history)) ∧
    (Open (events s.history) → s.detector.accumulatedSilenceMs = silence (frames s.history)) ∧
    (¬ Open (events s.history) → s.detector.accumulatedSilenceMs = 0) := by
  have inv : Inv config.vadSilenceMs s := by
    rw [reached]
    exact run_inv core (init_inv core config malloc d ready) requests
  have active := inv.active
  have accumulated := inv.accumulated
  obtain ⟨vad, present, rate⟩ : s.detector.Equipped := by
    rw [reached]
    exact run_equipped core (init_equipped core config malloc d ready) requests
  refine ⟨?_, ⟨vad, present, ?_⟩, shape_prefix inv, inv.explained, active, ?_, ?_⟩
  · intro pcm sampleCount frameDurationMs event status failed
    exact rejected_keeps core _ _ _ _ _ failed
  · intro frame sampleCount frameDurationMs event good heard
    exact step_records core present rate good heard
  · intro running
    rw [accumulated, if_pos (active.mpr running)]
  · intro idle
    rw [accumulated, if_neg (fun running => idle (active.mp running))]

/-- A classifier that takes its verdict from the first byte of the frame. -/
def byteCore : VadCore Unit := ⟨(), fun _ _ => (), fun _ _ frame _ => ((frame.headD 0).toNat, ())⟩

def shortConfig : Config := { Config.initDefaults with vadSilenceMs := 100 }

/-- An utterance that is over at 120 ms of silence, a frame of the wrong length in the
middle of it, and the next one begun. -/
def shortStream : Stream Unit :=
  let speech := .processFrame (some [1]) 320 20 true
  let quiet := .processFrame (some [0]) 480 30 true
  let odd := .processFrame (some [1]) 480 20 true
  Stream.run byteCore
    ⟨((VadDetector.init byteCore shortConfig (some 7)).run .zeroed).state, []⟩
    [quiet, speech, quiet, quiet, odd, quiet, quiet, quiet, speech, quiet]

theorem shortStream_history : shortStream.history =
    [(⟨false, 30⟩, .none), (⟨true, 20⟩, .speechStart), (⟨false, 30⟩, .speechContinue),
      (⟨false, 30⟩, .speechContinue), (⟨false, 30⟩, .speechContinue), (⟨false, 30⟩, .speechEnd),
      (⟨false, 30⟩, .none), (⟨true, 20⟩, .speechStart), (⟨false, 30⟩, .speechContinue)] := by
  decide +kernel

theorem vad_stream_short :
    (events shortStream.history = [.none, .speechStart, .speechContinue, .speechContinue,
        .speechContinue, .speechEnd, .none, .speechStart, .speechContinue] ∧
      Open (events (shortStream.history.take 5)) ∧
      shortStream.detector.accumulatedSilenceMs = 30) ∧
    (∃ e, ((VadDetector.processFrame byteCore (some [1]) 160 10 true).run
      shortStream.detector).result = .ok e) ∧
    ∃ rest, events shortStream.history ++ rest ∈ utterance∗ := by
  obtain ⟨_, ⟨vad, _, served⟩, shape, explained, _, accumulated, _⟩ :=
    vad_stream byteCore shortConfig (some 7) .zeroed (by decide) _ shortStream rfl
  have ends := (explained 5 ⟨false, 30⟩ .speechEnd (by rw [shortStream_history]; rfl)).2.mp rfl
  have running : Open (events shortStream.history) :=
    ⟨[.none, .speechStart, .speechContinue, .speechContinue, .speechContinue, .speechEnd, .none],
      [.speechContinue], by rw [shortStream_history]; rfl, by decide⟩
  obtain ⟨e, ok, _⟩ := served [1] 160 10 true ⟨by decide, rfl, by decide, rfl, rfl⟩
    (Int.natCast_nonneg _)
  refine ⟨⟨by rw [shortStream_history]; rfl, ends.1, ?_⟩, ⟨e, ok⟩, shape⟩
  rw [accumulated running, shortStream_history]
  decide

end Assistantd.VadStream
