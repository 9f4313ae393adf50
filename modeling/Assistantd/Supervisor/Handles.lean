import Assistantd.Supervisor.Tick

/-! What the supervisor holds, against the trace of what it acquired, used and
released. -/
namespace Assistantd

open Calls
open CText (CString)

inductive Slot where
  | vad
  | sttCurl
  | llmCurl
  | ring
  | utterance
  deriving DecidableEq

def Event.entry : Event → Option (Ledger.Entry Slot)
  | .vad op addr => some ⟨op, .vad, addr⟩
  | .stt (.curl op addr) => some ⟨op, .sttCurl, addr⟩
  | .llm (.curl op addr) => some ⟨op, .llmCurl, addr⟩
  | .ring op addr => some ⟨op, .ring, addr⟩
  | .utterance op addr => some ⟨op, .utterance, addr⟩
  | _ => none

def entries (events : List Event) : List (Ledger.Entry Slot) := events.filterMap Event.entry

@[simp] theorem entries_nil : entries [] = [] := rfl

@[simp] theorem entries_append (xs ys : List Event) : entries (xs ++ ys) = entries xs ++ entries ys :=
  List.filterMap_append

namespace Supervisor

variable {κ : Type}

/-- What is stored in the supervisor for each slot. -/
def handle (s : System κ) : Slot → Option Nat
  | .vad => s.vad.backend.map Fvad.addr
  | .sttCurl => s.stt.curlHandle
  | .llmCurl => s.llm.curlHandle
  | .ring => s.captureRing.data.map Block.addr
  | .utterance => s.utteranceMetadata.pcm.map Block.addr

/-- The trace accounts for everything the supervisor holds. -/
def Balanced (h : List Event) (s : System κ) : Prop :=
  Ledger.Balance (entries h) s.nextAddr (handle s)

/-- An event that at most uses what is held. -/
def Uses (s : System κ) (e : Event) : Prop :=
  ∀ x, e.entry = some x → x.op = .use ∧ handle s x.slot = some x.addr

theorem Balanced.uses {h : List Event} {s : System κ} (b : Balanced h s) {es : List Event}
    (only : ∀ e ∈ es, Uses s e) : Balanced (h ++ es) s := by
  induction es using List.reverseRecOn with
  | nil => simpa using b
  | append_singleton es e ih =>
    have before := ih fun e member => only e (List.mem_append_left _ member)
    rw [← List.append_assoc]
    cases entry : e.entry with
    | none => simpa [Balanced, entries, entry] using before
    | some x =>
      obtain ⟨use, present⟩ := only e (by simp) x entry
      obtain ⟨op, slot, addr⟩ := x
      obtain rfl : op = .use := use
      have used := Ledger.Balance.use before present
      simpa [Balanced, entries, entry] using used

theorem Balanced.moved {h : List Event} {s t : System κ} (b : Balanced h s)
    (same : handle t = handle s) (grows : s.nextAddr ≤ t.nextAddr) : Balanced h t := by
  unfold Balanced
  rw [same]
  exact Ledger.Balance.mono b grows

/-! ## Every stage of a call keeps the balance -/

theorem emits_balanced {es : List Event} {s : System κ} (only : ∀ e ∈ es, Uses s e) :
    Keeps Balanced (emits es : SupervisorCall κ Unit) s :=
  keeps_emits fun _ b => b.uses only

theorem emit_balanced {e : Event} {s : System κ} (nothing : e.entry = none) :
    Keeps Balanced (emit e : SupervisorCall κ Unit) s := by
  apply keeps_emit
  intro h b
  apply b.uses
  intro e' member x entry
  rw [List.mem_singleton.mp member, nothing] at entry
  cases entry

theorem modify_balanced {f : System κ → System κ} {s : System κ} (same : handle (f s) = handle s)
    (grows : s.nextAddr ≤ (f s).nextAddr) :
    Keeps Balanced (modify f : SupervisorCall κ Unit) s :=
  keeps_modify fun _ b => b.moved same grows

theorem ringTouch_uses (s : System κ) : ∀ e ∈ ringTouch .use s.captureRing, Uses s e := by
  intro e member x entry
  obtain ⟨data, present, rfl⟩ := List.mem_map.mp member
  cases entry
  exact ⟨rfl, by simp [handle, Option.mem_toList.mp present]⟩

theorem pcmTouch_uses (s : System κ) : ∀ e ∈ pcmTouch .use s.utteranceMetadata, Uses s e := by
  intro e member x entry
  obtain ⟨data, present, rfl⟩ := List.mem_map.mp member
  cases entry
  exact ⟨rfl, by simp [handle, Option.mem_toList.mp present]⟩

theorem capture_balanced {α : Type} (m : AudioCapture.CaptureCall α) (s : System κ) :
    Keeps Balanced (onCapture m : SupervisorCall κ α) s := by
  intro h b
  rw [onCapture, run_on]
  have moved : Balanced h { s with capture := (m.run s.capture).state } :=
    b.moved rfl (Nat.le_refl _)
  apply moved.uses
  intro e member x entry
  obtain ⟨_, _, rfl⟩ := List.mem_map.mp member
  cases entry

theorem readCapture_balanced {p : Platform} (answers : RunAnswers p) (s : System κ) :
    Keeps Balanced (readCapture answers) s :=
  keeps_get (keeps_bind (keeps_doIf fun _ => capture_balanced _ _) fun _ _ => capture_balanced _ _)

theorem bufferCapture_balanced (p : Platform) (chunk : List UInt8) (s : System κ) :
    Keeps Balanced (bufferCapture p chunk) s := by
  refine keeps_bind ?_ fun _ _ => keeps_doIf fun _ => emit_balanced (by rfl)
  refine keeps_get (keeps_bind (emits_balanced (ringTouch_uses s)) fun _ _ => ?_)
  refine keeps_bind (modify_balanced ?_ (Nat.le_refl _)) fun _ _ => ?_
  · funext slot
    cases slot <;> try rfl
    exact RingBuffer.write_addr _ _ _
  · exact keeps_bind (emit_balanced (by rfl)) fun _ _ => keeps_pure _

theorem processFrame_balanced (core : VadCore κ) (frame : List UInt8) (s : System κ) :
    Keeps Balanced (onVad (VadDetector.processFrame core (some frame) 320 20 true)) s := by
  intro h b
  obtain ⟨same, touches⟩ := VadDetector.processFrame_touches core (some frame) 320 20 true s.vad
  rw [onVad, run_on]
  refine (b.uses ?_).moved ?_ (Nat.le_refl _)
  · intro e member x entry
    obtain ⟨touch, touched, rfl⟩ := List.mem_map.mp member
    cases entry
    exact touches touch touched
  · funext slot
    cases slot <;> try rfl
    exact same

theorem resizeUtterance_balanced (capacity : Nat) (realloc : Bool) (s : System κ) :
    Keeps Balanced (resizeUtterance capacity realloc) s := by
  intro h b
  cases realloc with
  | false => simpa [resizeUtterance, allocate] using b
  | true =>
    have resized : (resizeUtterance capacity true).run s = ⟨.ok (), { s with
        utteranceMetadata := s.utteranceMetadata.resize s.nextAddr capacity
        nextAddr := s.nextAddr + 1 },
        pcmTouch .release s.utteranceMetadata ++ [.utterance .acquire s.nextAddr]⟩ := by
      simp [resizeUtterance, allocate]
    have after : handle { s with
        utteranceMetadata := s.utteranceMetadata.resize s.nextAddr capacity
        nextAddr := s.nextAddr + 1 } = Function.update (handle s) .utterance (some s.nextAddr) := by
      funext slot
      cases slot <;> rfl
    rw [resized]
    unfold Balanced
    rw [after]
    cases present : s.utteranceMetadata.pcm with
    | none =>
      have acquired := Ledger.Balance.acquire b .utterance (by simp [handle, present])
      simpa [entries, pcmTouch, present, Event.entry] using acquired
    | some data =>
      have held : handle s .utterance = some data.addr := by simp [handle, present]
      have acquired := (Ledger.Balance.release b held).acquire .utterance (by simp)
      simpa [entries, pcmTouch, present, Event.entry] using acquired

theorem ensureCapacity_balanced (p : Platform) (required : Nat) (realloc : Bool) (s : System κ) :
    Keeps Balanced (ensureCapacity p required realloc) s := by
  apply keeps_get
  dsimp only
  split
  · split
    · exact keeps_fail _
    · exact resizeUtterance_balanced _ _ _
  · exact keeps_pure ()

theorem appendUtterancePcm_balanced (p : Platform) (pcm : List UInt8) (realloc : Bool)
    (s : System κ) : Keeps Balanced (appendUtterancePcm p pcm realloc) s := by
  have stored : ∀ s : System κ, Keeps Balanced (storePcm pcm) s := by
    intro s
    refine keeps_get (keeps_bind (emits_balanced (pcmTouch_uses s)) fun _ _ => ?_)
    refine modify_balanced ?_ (Nat.le_refl _)
    funext slot
    cases slot <;> try rfl
    simp [handle, UtteranceMetadata.store, Function.comp_def]
  refine keeps_bind (keeps_failIf _ _) fun _ _ => ?_
  refine keeps_get (keeps_bind (keeps_failIf _ _) fun _ _ => ?_)
  exact keeps_bind (ensureCapacity_balanced p _ _ _) fun _ _ => stored _

theorem resetUtterance_balanced (s : System κ) : Keeps Balanced resetUtterance s :=
  modify_balanced (by funext slot; cases slot <;> rfl) (Nat.le_refl _)

theorem finalizeUtterance_balanced (answers : FrameAnswers) (s : System κ) :
    Keeps Balanced (finalizeUtterance answers) s := by
  have written : ∀ (id : UInt64) (path : CString 511) (pcm : List UInt8) (s : System κ),
      Keeps Balanced (writeWavFile id path pcm answers) s := by
    intro id path pcm s
    refine keeps_bind (keeps_failIf _ _) fun _ _ => ?_
    apply keeps_bind (emit_balanced (by rfl))
    intro _ _
    exact keeps_bind (keeps_doIf fun _ => emit_balanced (by rfl)) fun _ _ => keeps_failIf _ _
  have queued : ∀ (artifact : Artifact) (s : System κ),
      Keeps Balanced (queueArtifact artifact answers) s := by
    intro artifact s
    apply keeps_get
    split
    · exact keeps_bind (emit_balanced (by rfl)) fun _ _ => emit_balanced (by rfl)
    · exact keeps_bind (modify_balanced (by funext slot; cases slot <;> rfl) (Nat.le_refl _))
        fun _ _ => emit_balanced (by rfl)
  unfold finalizeUtterance persistUtterance
  apply keeps_get
  split
  · exact resetUtterance_balanced s
  · refine keeps_bind (emits_balanced (pcmTouch_uses s)) fun _ _ => keeps_get ?_
    refine keeps_bind (modify_balanced (by funext slot; cases slot <;> rfl) (Nat.le_refl _))
      fun _ _ => keeps_bind (emit_balanced (by rfl)) fun _ _ => ?_
    refine keeps_bind (keeps_onError ?_ (resetUtterance_balanced _)) fun path _ => ?_
    · exact keeps_get (keeps_bind (keeps_failIf _ _) fun _ _ => keeps_pure _)
    apply keeps_bind (keeps_onError (written _ _ _ _) (resetUtterance_balanced _))
    intro _ _
    exact keeps_bind (queued _ _) fun _ _ => resetUtterance_balanced _

theorem handleFrame_balanced (p : Platform) (core : VadCore κ) (frame : List UInt8)
    (answers : FrameAnswers) (s : System κ) :
    Keeps Balanced (handleFrame p core frame answers) s := by
  refine keeps_get (keeps_bind (emit_balanced (by rfl)) fun _ _ => ?_)
  apply keeps_bind (processFrame_balanced core frame _)
  intro event _
  apply keeps_bind (keeps_doIf fun _ => resetUtterance_balanced _)
  intro _ _
  apply keeps_bind (keeps_doIf fun _ => appendUtterancePcm_balanced p frame _ _)
  intro _ _
  exact keeps_doIf fun _ => finalizeUtterance_balanced answers _

theorem drainLoop_balanced (p : Platform) (core : VadCore κ) (answers : Nat → FrameAnswers)
    (rounds index : Nat) (s : System κ) :
    Keeps Balanced (drainLoop p core answers rounds index) s := by
  induction rounds generalizing index s with
  | zero => exact keeps_pure ()
  | succ rounds ih =>
    apply keeps_get
    split
    · exact keeps_pure ()
    · refine keeps_bind ?_ fun frame _ => ?_
      · refine keeps_get (keeps_bind (emits_balanced (ringTouch_uses s)) fun _ _ => ?_)
        refine keeps_bind (modify_balanced ?_ (Nat.le_refl _)) fun _ _ => ?_
        · funext slot
          cases slot <;> try rfl
          exact RingBuffer.read_addr _ _ _
        · exact keeps_bind (emit_balanced (by rfl)) fun _ _ => keeps_pure _
      · split
        · exact keeps_bind (emit_balanced (by rfl)) fun _ _ => keeps_fail _
        · exact keeps_bind (handleFrame_balanced p core frame _ _) fun _ _ => ih _ _

theorem transcribe_balanced (p : Platform) (wavPath : CString 511)
    (answers : SttAdapter.Answers p.sizeBits) (s : System κ) :
    Keeps Balanced (transcribe p wavPath answers) s := by
  intro h b
  obtain ⟨result, calls, heard, permitted⟩ := transcribe_run p wavPath answers s
  rw [heard]
  apply b.uses
  intro e member x entry
  obtain ⟨call, called, rfl⟩ := List.mem_map.mp member
  cases call with
  | curl op addr =>
    cases entry
    exact permitted _ called
  | _ => cases entry

theorem generate_balanced (p : Platform) (prompt : List UInt8)
    (answers : LlmAdapter.Answers p.sizeBits) (s : System κ) :
    Keeps Balanced (generate p prompt answers) s := by
  intro h b
  obtain ⟨result, requested, calls, asked, permitted⟩ := generate_run p prompt answers s
  rw [asked]
  refine (b.uses ?_).moved rfl (Nat.le_refl _)
  intro e member x entry
  obtain ⟨call, called, rfl⟩ := List.mem_map.mp member
  cases call with
  | curl op addr =>
    cases entry
    exact permitted _ called
  | _ => cases entry

theorem queueAnswer_balanced (sequenceId : UInt64) (generated : Except Status (CString 8191))
    (s : System κ) : Keeps Balanced (queueAnswer sequenceId generated) s := by
  have queued : ∀ (text : List UInt8) (usedFallback : Int),
      Keeps Balanced (enqueueLlmResponse sequenceId text usedFallback) s := by
    intro text usedFallback
    apply keeps_get
    split
    · exact emit_balanced (by rfl)
    · exact keeps_bind (modify_balanced (by funext slot; cases slot <;> rfl) (Nat.le_refl _))
        fun _ _ => emit_balanced (by rfl)
  cases generated with
  | error status => exact queued _ _
  | ok text => exact queued _ _

theorem processSttQueue_balanced (p : Platform) (answers : RunAnswers p) (s : System κ) :
    Keeps Balanced (processSttQueue p answers) s := by
  have taken : Keeps Balanced takeArtifact s := by
    apply keeps_get
    split
    · exact keeps_pure _
    · refine keeps_bind (modify_balanced (by funext slot; cases slot <;> rfl) (Nat.le_refl _))
        fun _ _ => ?_
      exact keeps_bind (emit_balanced (by rfl)) fun _ _ => keeps_pure _
  apply keeps_bind taken
  intro found _
  split
  · exact keeps_pure ()
  · apply keeps_bind (keeps_attempt (transcribe_balanced p _ _ _))
    intro transcribed _
    apply keeps_bind (emit_balanced (by rfl))
    intro _ _
    split
    · exact keeps_fail _
    · apply keeps_bind (keeps_doIf fun _ => emit_balanced (by rfl))
      intro _ _
      apply keeps_bind (keeps_attempt (generate_balanced p _ _ _))
      intro generated _
      exact keeps_bind (emit_balanced (by rfl)) fun _ _ => queueAnswer_balanced _ _ _

theorem drainLlmResponseQueue_balanced (s : System κ) : Keeps Balanced drainLlmResponseQueue s := by
  apply keeps_get
  split
  · exact keeps_pure _
  · exact keeps_bind (modify_balanced (by funext slot; cases slot <;> rfl) (Nat.le_refl _))
      fun _ _ => emit_balanced (by rfl)

theorem runOnce_balanced (p : Platform) (core : VadCore κ) (answers : RunAnswers p) (s : System κ) :
    Keeps Balanced (runOnce p core answers) s := by
  refine keeps_get (keeps_bind (keeps_failIf _ _) fun _ _ => ?_)
  apply keeps_bind (readCapture_balanced answers _)
  intro chunk _
  apply keeps_bind (keeps_doIf fun _ => bufferCapture_balanced p chunk _)
  intro _ _
  refine keeps_bind (keeps_get (drainLoop_balanced p core _ _ _ _)) fun _ _ => ?_
  exact keeps_bind (processSttQueue_balanced p answers _) fun _ _ => drainLlmResponseQueue_balanced _

/-! ## Shutting down -/

/-- Whatever a slot held is released, and the slot is cleared. -/
theorem Balanced.releases {h : List Event} {s t : System κ} (b : Balanced h s) (slot : Slot)
    {touch : List Event}
    (told : entries touch = (handle s slot).toList.map fun addr => ⟨.release, slot, addr⟩)
    (after : handle t = Function.update (handle s) slot none) (grows : s.nextAddr ≤ t.nextAddr) :
    Balanced (h ++ touch) t := by
  unfold Balanced
  rw [entries_append, told, after]
  cases present : handle s slot with
  | none =>
    have same : Function.update (handle s) slot none = handle s := by
      rw [← present]
      exact Function.update_eq_self slot (handle s)
    rw [same]
    simpa using Ledger.Balance.mono b grows
  | some addr => exact (Ledger.Balance.release b present).mono grows

theorem freeRing_balanced (s : System κ) : Keeps Balanced freeRing s := by
  intro h b
  refine b.releases .ring ?_ ?_ (Nat.le_refl _)
  · cases present : s.captureRing.data <;> simp [freeRing, ringTouch, entries, handle, present,
      Event.entry]
  · funext slot
    cases slot <;> rfl

theorem freeUtterance_balanced (s : System κ) : Keeps Balanced freeUtterance s := by
  intro h b
  refine b.releases .utterance ?_ ?_ (Nat.le_refl _)
  · cases present : s.utteranceMetadata.pcm <;> simp [freeUtterance, pcmTouch, entries, handle,
      present, Event.entry]
  · funext slot
    cases slot <;> rfl

theorem vadShutdown_balanced (s : System κ) :
    Keeps Balanced (onVad VadDetector.shutdown : SupervisorCall κ Unit) s := by
  intro h b
  rw [onVad, run_on, VadDetector.shutdown_run]
  refine b.releases .vad ?_ ?_ (Nat.le_refl _)
  · cases present : s.vad.backend <;> simp [entries, handle, present, Event.entry]
  · funext slot
    cases slot <;> rfl

theorem sttShutdown_balanced (s : System κ) :
    Keeps Balanced (onStt SttAdapter.shutdown : SupervisorCall κ Unit) s := by
  intro h b
  rw [onStt, run_on, SttAdapter.shutdown_run]
  refine b.releases .sttCurl ?_ ?_ (Nat.le_refl _)
  · cases present : s.stt.curlHandle <;> simp [entries, handle, present, Event.entry]
  · funext slot
    cases slot <;> rfl

theorem llmShutdown_balanced (s : System κ) :
    Keeps Balanced (onLlm LlmAdapter.shutdown : SupervisorCall κ Unit) s := by
  intro h b
  rw [onLlm, run_on, LlmAdapter.shutdown_run]
  refine b.releases .llmCurl ?_ ?_ (Nat.le_refl _)
  · cases present : s.llm.curlHandle <;> simp [entries, handle, present, Event.entry]
  · funext slot
    cases slot <;> rfl

theorem tts_balanced (m : Call TtsAdapter Empty Status Unit) (s : System κ) :
    Keeps Balanced (onTts m : SupervisorCall κ Unit) s := by
  intro h b
  rw [onTts, run_on]
  have silent : (m.run s.tts).events = [] := List.eq_nil_iff_forall_not_mem.mpr fun e => e.elim
  have moved : Balanced h { s with tts := (m.run s.tts).state } :=
    b.moved (by funext slot; cases slot <;> rfl) (Nat.le_refl _)
  simpa [silent] using moved

theorem discardArtifacts_balanced (unlinks : Nat → Bool) (left : Nat) (s : System κ) :
    Keeps Balanced (discardArtifacts unlinks left) s := by
  induction left generalizing s with
  | zero => exact keeps_pure ()
  | succ left ih =>
    apply keeps_get
    split
    · exact keeps_pure ()
    · refine keeps_bind (modify_balanced (by funext slot; cases slot <;> rfl) (Nat.le_refl _))
        fun _ _ => ?_
      apply keeps_bind (emit_balanced (by rfl))
      intro _ _
      exact keeps_bind (keeps_doIf fun _ => emit_balanced (by rfl)) fun _ _ => ih _

theorem discardResponses_balanced (left : Nat) (s : System κ) :
    Keeps Balanced (discardResponses left) s := by
  induction left generalizing s with
  | zero => exact keeps_pure ()
  | succ left ih =>
    apply keeps_get
    split
    · exact keeps_pure ()
    · refine keeps_bind (modify_balanced (by funext slot; cases slot <;> rfl) (Nat.le_refl _))
        fun _ _ => ?_
      exact keeps_bind (emit_balanced (by rfl)) fun _ _ => ih _

theorem shutdownModules_balanced (answers : StopAnswers) (s : System κ) :
    Keeps Balanced (shutdownModules answers) s := by
  apply keeps_bind (capture_balanced _ _)
  intro _ _
  apply keeps_bind (freeRing_balanced _)
  intro _ _
  refine keeps_bind (keeps_get (discardArtifacts_balanced _ _ _)) fun _ _ => ?_
  refine keeps_bind (keeps_get (discardResponses_balanced _ _)) fun _ _ => ?_
  apply keeps_bind (freeUtterance_balanced _)
  intro _ _
  apply keeps_bind (vadShutdown_balanced _)
  intro _ _
  apply keeps_bind (sttShutdown_balanced _)
  intro _ _
  exact keeps_bind (llmShutdown_balanced _) fun _ _ => tts_balanced _ _

end Supervisor

end Assistantd
