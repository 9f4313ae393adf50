import Assistantd.Wav.Writer
import Assistantd.Supervisor.Files

/-! What is in the utterance files. -/
namespace Assistantd

open Calls
open CText (CString)

/-- The format that `write_wav_file` asks for. -/
def wavFormat : DrWav.DataFormat := ⟨1, 1, 16000, 16⟩

/-- What that makes of the header: mono, 16 kHz, 16 bits. -/
def speechFormat : Riff.Format := ⟨1, 1, 16000, 32000, 2, 16⟩

/-- The part of `write_wav_file` that writes: what it comes to, and what is then in the file. -/
def recordWav (answers : DrWav.Answers) (pcm : List UInt8) : WavResult × Option (List UInt8) :=
  match DrWav.initFileWrite answers wavFormat with
  | none => (.notOpened, none)
  | some wav =>
    let written := DrWav.writePcmFrames answers wav (pcm.length / 2) pcm
    (if written.1 = pcm.length / 2 then .written else .incomplete,
      some (DrWav.uninit answers written.2).bytes)

theorem speechFormat_fits : speechFormat.Fits := by
  constructor <;> decide

/-- The samples go behind the header, as far as they are taken. -/
theorem writePcmFrames_sound (answers : DrWav.Answers) {pcm : List UInt8} (even : pcm.length % 2 = 0)
    (short : 36 + pcm.length < 2 ^ 32) (bytes : List UInt8) : ∃ count ≤ pcm.length,
    DrWav.writePcmFrames answers ⟨.atEnd bytes, speechFormat, 0, 44⟩ (pcm.length / 2) pcm =
      (count / 2, ⟨.atEnd (bytes ++ pcm.take count), speechFormat, count, 44⟩) ∧
    ((∀ k, 0 < answers.data k) → count = pcm.length) := by
  by_cases none : pcm.length / 2 = 0
  · have empty : pcm = [] := List.eq_nil_of_length_eq_zero (by omega)
    subst empty
    exact ⟨0, Nat.le_refl 0, by simp [DrWav.writePcmFrames], fun _ => rfl⟩
  have size : pcm.length / 2 * 1 * 16 % 2 ^ 64 / 8 = pcm.length := by omega
  obtain ⟨count, fits, ran, whole⟩ := @DrWav.writeLoop_end answers.data pcm.length pcm
    ⟨.atEnd bytes, speechFormat, 0, 44⟩ bytes rfl (by dsimp only; omega)
  refine ⟨count, fits, ?_, fun positive => whole positive (Nat.le_refl _)⟩
  have half : count * 8 % 2 ^ 64 / 16 / 1 = count / 2 := by omega
  rw [Nat.zero_add] at ran
  simp only [DrWav.writePcmFrames, if_neg none, speechFormat, size, List.take_length] at ran ⊢
  rw [ran]
  simp only [half]

/-- The file is the recording of a beginning of the samples, and is taken to be written
only where that is all of them. -/
theorem recordWav_sound {answers : DrWav.Answers} (sound : answers.Sound) {pcm : List UInt8}
    (even : pcm.length % 2 = 0) (short : 36 + pcm.length < 2 ^ 32) : ∃ count ≤ pcm.length,
    recordWav answers pcm = (if count = pcm.length then .written else .incomplete,
      some (Riff.Wave.raw ⟨speechFormat, pcm.take count⟩)) ∧
    ((∀ k, 0 < answers.data k) → count = pcm.length) := by
  have opened : DrWav.initFileWrite answers wavFormat = some (DrWav.initWrite answers speechFormat) := by
    rw [DrWav.initFileWrite, if_neg (by rw [sound.opens]; exact Bool.noConfusion)]
    rfl
  rw [DrWav.initWrite_sound sound] at opened
  obtain ⟨count, fits, written, whole⟩ := writePcmFrames_sound answers even short
    (DrWav.header speechFormat).flatten
  have length : (pcm.take count).length = count := List.length_take_of_le fits
  have closed := @DrWav.uninit_sound answers sound speechFormat (pcm.take count) (by omega)
  rw [length] at closed
  have all : count / 2 = pcm.length / 2 ↔ count = pcm.length := by omega
  exact ⟨count, fits, by simp only [recordWav, opened, written, all, closed], whole⟩

/-- What is taken to be written is the whole recording. -/
theorem recordWav_written {answers : DrWav.Answers} (sound : answers.Sound) {pcm : List UInt8}
    (even : pcm.length % 2 = 0) (short : 36 + pcm.length < 2 ^ 32)
    (written : (recordWav answers pcm).1 = .written) :
    (recordWav answers pcm).2 = some (Riff.Wave.raw ⟨speechFormat, pcm⟩) := by
  obtain ⟨count, _, recorded, _⟩ := recordWav_sound sound even short
  rw [recorded] at written ⊢
  have all : count = pcm.length := by
    by_contra less
    rw [if_neg less] at written
    cases written
  rw [all, List.take_length]

/-- However the samples are taken, the file can be read: it holds a beginning of them, all of
them where each piece is taken in part at least, and it is kept only where it holds all. -/
theorem recording_reads {answers : DrWav.Answers} (sound : answers.Sound) {pcm : List UInt8}
    (even : pcm.length % 2 = 0) (short : 36 + pcm.length < 2 ^ 32) : ∃ count bytes,
    (recordWav answers pcm).2 = some bytes ∧
    Riff.readWave bytes = some ⟨speechFormat, pcm.take count⟩ ∧
    ((recordWav answers pcm).1 = .written ↔ pcm.take count = pcm) ∧
    ((∀ k, 0 < answers.data k) → (recordWav answers pcm).1 = .written) := by
  obtain ⟨count, fits, recorded, whole⟩ := recordWav_sound sound even short
  have read := @Riff.readWave_raw ⟨speechFormat, pcm.take count⟩ speechFormat_fits
    (by dsimp only; rw [List.length_take_of_le fits]; omega) []
  rw [List.append_nil] at read
  refine ⟨count, _, by rw [recorded], read, ?_, fun positive => ?_⟩
  · rw [recorded, List.take_eq_self_iff]
    split
    · exact iff_of_true rfl (by omega)
    · exact iff_of_false (by simp) (by omega)
  · rw [recorded, whole positive, if_pos rfl]

/-- A disk that takes three bytes and then nothing more. -/
def filling : DrWav.Answers :=
  ⟨true, fun _ => 4, fun k => if k = 0 then 3 else 0, 1, true, 4, true, 4⟩

theorem filling_sound : filling.Sound :=
  ⟨rfl, fun _ => Nat.le_refl 4, Nat.le_refl 1, rfl, Nat.le_refl 4, rfl, Nat.le_refl 4⟩

theorem recording_reads_filling : ∃ count bytes,
    (recordWav filling [1, 2, 3, 4]).2 = some bytes ∧
    Riff.readWave bytes = some ⟨speechFormat, [1, 2, 3, 4].take count⟩ ∧
    ((recordWav filling [1, 2, 3, 4]).1 = .written ↔
      [1, 2, 3, 4].take count = ([1, 2, 3, 4] : List UInt8)) ∧
    ((∀ k, 0 < filling.data k) → (recordWav filling [1, 2, 3, 4]).1 = .written) :=
  @recording_reads filling filling_sound [1, 2, 3, 4] rfl (by decide)

/-- The utterance files and what is in them. -/
abbrev Disk := CString 511 → Option (List UInt8)

/-- The files after one more event, with what stdio answers for each utterance. -/
def Event.record (stdio : UInt64 → DrWav.Answers) (disk : Disk) : Event → Disk
  | .wav id path pcm _ =>
    match (recordWav (stdio id) pcm).2 with
    | some bytes => Function.update disk path (some bytes)
    | none => disk
  | .unlink path true => Function.update disk path none
  | _ => disk

/-- The result of a write is what writing came to, and a `riff` length holds that of the file. -/
def Event.Recorded (stdio : UInt64 → DrWav.Answers) : Event → Prop
  | .wav id _ pcm result => result = (recordWav (stdio id) pcm).1 ∧ 36 + pcm.length < 2 ^ 32
  | _ => True

/-! ## Whole samples -/

/-- Only whole samples are written. -/
def Event.WholeSamples : Event → Prop
  | .wav _ _ pcm _ => pcm.length % 2 = 0
  | _ => True

namespace Supervisor

variable {κ : Type}

def Sampled (trace : List Event) (_ : System κ) : Prop := ∀ e ∈ trace, e.WholeSamples

section Sampled

variable {s : System κ}

theorem tell_sampled {m : SupervisorCall κ α} (told : ∀ e ∈ (m.run s).events, e.WholeSamples) :
    Keeps Sampled m s :=
  fun _ kept => List.forall_mem_append.mpr ⟨kept, told⟩

theorem emit_sampled {e : Event} (whole : e.WholeSamples) :
    Keeps Sampled (emit e : SupervisorCall κ Unit) s :=
  tell_sampled (by simpa using whole)

theorem modify_sampled (f : System κ → System κ) : Keeps Sampled (modify f : SupervisorCall κ Unit) s :=
  keeps_modify fun _ kept => kept

theorem hidden_sampled {events : List Event} (hidden : stages events = []) :
    ∀ e ∈ events, e.WholeSamples := by
  intro e member
  cases e with
  | wav id path pcm result =>
    have stage : .wav id path pcm result ∈ stages events := List.mem_filter.mpr ⟨member, rfl⟩
    rw [hidden] at stage
    cases stage
  | _ => trivial

theorem reply_sampled : Settled (κ := κ) Sampled where
  told _ _ e reply kept := by
    refine List.forall_mem_append.mpr ⟨kept, ?_⟩
    simp only [List.mem_singleton, forall_eq]
    cases e <;> trivial
  moved _ _ _ _ _ kept := kept

theorem finalizeUtterance_sampled (answers : FrameAnswers) :
    Keeps Sampled (finalizeUtterance answers) s := by
  have written : ∀ (id : UInt64) (path : CString 511) (pcm : List UInt8) (s : System κ),
      Keeps Sampled (writeWavFile id path pcm answers) s := by
    intro id path pcm s
    by_cases odd : pcm.length % 2 ≠ 0
    · intro trace kept
      simpa [writeWavFile, odd] using kept
    · refine tell_sampled ?_
      rw [writeWavFile_run id path answers s odd]
      rw [ne_eq, not_not] at odd
      simp only [List.forall_mem_cons]
      refine ⟨odd, ?_⟩
      split <;> simp [Event.WholeSamples]
  have queued : ∀ (artifact : Artifact) (s : System κ),
      Keeps Sampled (queueArtifact artifact answers) s := by
    intro artifact s
    apply keeps_get
    split
    · exact keeps_bind (emit_sampled trivial) fun _ _ => emit_sampled trivial
    · exact keeps_bind (modify_sampled _) fun _ _ => emit_sampled trivial
  have reset : ∀ s : System κ, Keeps Sampled resetUtterance s := fun s => modify_sampled _
  unfold finalizeUtterance persistUtterance
  apply keeps_get
  split
  · exact reset s
  · refine keeps_bind (tell_sampled (hidden_sampled (by simp))) fun _ _ => keeps_get ?_
    refine keeps_bind (modify_sampled _) fun _ _ => keeps_bind (emit_sampled trivial) fun _ _ => ?_
    refine keeps_bind (keeps_onError ?_ (reset _)) fun path _ => ?_
    · exact keeps_get (keeps_bind (keeps_failIf _ _) fun _ _ => keeps_pure _)
    apply keeps_bind (keeps_onError (written _ _ _ _) (reset _))
    intro _ _
    exact keeps_bind (queued _ _) fun _ _ => reset _

theorem handleFrame_sampled (p : Platform) (core : VadCore κ) (frame : List UInt8)
    (answers : FrameAnswers) (s : System κ) : Keeps Sampled (handleFrame p core frame answers) s := by
  refine keeps_get (keeps_bind (emit_sampled trivial) fun _ _ => ?_)
  apply keeps_bind
  · refine tell_sampled (hidden_sampled ?_)
    rw [onVad, run_on, stages_vad]
  intro event _
  refine keeps_bind (keeps_doIf fun _ => modify_sampled _) fun _ _ => ?_
  refine keeps_bind (keeps_doIf fun _ => ?_) fun _ _ => keeps_doIf fun _ => finalizeUtterance_sampled answers
  refine tell_sampled (hidden_sampled ?_)
  obtain ⟨_, _, _, _, appended, silent⟩ := appendUtterancePcm_run p frame answers.realloc _
  rw [appended]
  exact silent

theorem drainLoop_sampled (p : Platform) (core : VadCore κ) (answers : Nat → FrameAnswers)
    (rounds index : Nat) (s : System κ) : Keeps Sampled (drainLoop p core answers rounds index) s := by
  induction rounds generalizing index s with
  | zero => exact keeps_pure ()
  | succ rounds ih =>
    apply keeps_get
    split
    · exact keeps_pure ()
    · refine keeps_bind ?_ fun frame _ => ?_
      · refine keeps_get (keeps_bind (tell_sampled (hidden_sampled (by simp))) fun _ _ => ?_)
        refine keeps_bind (modify_sampled _) fun _ _ => ?_
        exact keeps_bind (emit_sampled trivial) fun _ _ => keeps_pure _
      · split
        · exact keeps_bind (emit_sampled trivial) fun _ _ => keeps_fail _
        · exact keeps_bind (handleFrame_sampled p core frame _ _) fun _ _ => ih _ _

theorem listen_sampled (p : Platform) (core : VadCore κ) (answers : RunAnswers p) (s : System κ) :
    Keeps Sampled (listen p core answers) s := by
  apply keeps_bind
  · obtain ⟨_, _, calls, read, _⟩ := readCapture_run answers s
    refine tell_sampled (hidden_sampled ?_)
    rw [read, stages_capture]
  intro chunk _
  refine keeps_bind (keeps_doIf fun _ => ?_) fun _ _ => keeps_get (drainLoop_sampled p core _ _ _ _)
  refine keeps_bind ?_ fun _ _ => keeps_doIf fun _ => emit_sampled trivial
  refine keeps_get (keeps_bind (tell_sampled (hidden_sampled (by simp))) fun _ _ => ?_)
  refine keeps_bind (modify_sampled _) fun _ _ => ?_
  exact keeps_bind (emit_sampled trivial) fun _ _ => keeps_pure _

theorem runOnce_sampled (p : Platform) (core : VadCore κ) (answers : RunAnswers p)
    (running : s.state = .running) :
    ∀ e ∈ ((runOnce p core answers).run s).events, e.WholeSamples := by
  have kept : Sampled _ _ := keeps_bind (listen_sampled p core answers s)
    (fun _ _ => respond_settled reply_sampled answers _) [] (List.forall_mem_nil _)
  rw [List.nil_append, run_bind] at kept
  rw [runOnce_run p core answers running]
  exact kept

end Sampled

/-! ## The file of an utterance that is transcribed -/

theorem record_hidden {stdio : UInt64 → DrWav.Answers} (disk : Disk) (events : List Event) :
    (stages events).foldl (Event.record stdio) disk = events.foldl (Event.record stdio) disk := by
  induction events generalizing disk with
  | nil => rfl
  | cons e events ih =>
    rw [stages_cons]
    split
    · exact ih _
    · rename_i hidden
      have idle : Event.record stdio disk e = disk := by
        cases e <;> first | rfl | exact absurd rfl hidden
      rw [List.foldl_cons, idle, ih]

theorem record_idle {stdio : UInt64 → DrWav.Answers} (disk : Disk) {events : List Event}
    (idle : ∀ e ∈ events, ∀ disk, Event.record stdio disk e = disk) :
    events.foldl (Event.record stdio) disk = disk := by
  induction events with
  | nil => rfl
  | cons e events ih =>
    obtain ⟨here, later⟩ := List.forall_mem_cons.mp idle
    rw [List.foldl_cons, here, ih later]

/-- What comes before the result of a reply is heard from the STT server only. -/
theorem Reply.transcribed (reply : Reply) (artifact : Artifact) :
    ∃ (stt : List HttpEvent) (result : Except Status (CString 4095)) (later : List Event),
    reply.events artifact =
      (.artifactTaken artifact :: stt.map Event.stt) ++ .transcribed artifact result :: later ∧
    ∀ artifact' result', .transcribed artifact' result' ∉ later := by
  cases reply with
  | failed stt status => exact ⟨stt, .error status, [], by simp [Reply.events], by simp⟩
  | answered stt transcript removed llm generated =>
    exact ⟨stt, .ok transcript, .unlink artifact.wavPath removed :: (llm.map Event.llm ++
      [.generated artifact.sequenceId generated,
        .responseQueued (response artifact.sequenceId generated),
        .responseTaken (response artifact.sequenceId generated)]), by simp [Reply.events], by simp⟩

theorem heard_untranscribed {p : Platform} (answers : RunAnswers p) (s : System κ) (product : Product)
    (artifact : Artifact) (result : Except Status (CString 4095)) :
    .transcribed artifact result ∉ heard answers s product := by
  have arrived : .transcribed artifact result ∉ arrived answers s := by
    unfold Supervisor.arrived wrote
    split <;> split <;> simp
  rw [heard, List.mem_append, not_or]
  refine ⟨arrived, ?_⟩
  cases product with
  | unwritten _ _ _ result _ => cases result <;> simp [Product.events]
  | _ => simp [Product.events]

theorem Yield.length {config : Config} {id id' : UInt64} {answers : FrameAnswers}
    {artifact : Artifact} {pcm : List UInt8} {result : Except Status Unit}
    (h : Yield config id answers (.queued artifact pcm) result id') :
    artifact.pcmBytes = pcm.length := by
  cases h
  rfl

/-- In one call an utterance is transcribed from a file that was written in it. -/
theorem Course.transcribed {p : Platform} {answers : RunAnswers p} {s : System κ}
    {o : Outcome (System κ) Event Status Unit} (course : Course p answers s o)
    {before after : List Event} {artifact : Artifact} {result : Except Status (CString 4095)}
    (split : o.events = before ++ .transcribed artifact result :: after) : ∃ pcm,
    .wav artifact.sequenceId artifact.wavPath pcm .written ∈ before ∧ artifact.pcmBytes = pcm.length ∧
      ∀ stdio disk, before.foldl (Event.record stdio) disk artifact.wavPath =
        Event.record stdio disk (.wav artifact.sequenceId artifact.wavPath pcm .written)
          artifact.wavPath := by
  have told : stages before ++ .transcribed artifact result :: stages after = stages o.events := by
    rw [split, stages_append, stages_cons]
    rfl
  cases course with
  | unanswered product _ _ same =>
    refine absurd ?_ (heard_untranscribed answers s product artifact result)
    rw [← same, ← told]
    exact List.mem_append_right _ List.mem_cons_self
  | answered artifact' pcm reply yield same =>
    obtain ⟨stt, result', later, events, others⟩ := reply.transcribed artifact'
    rw [same, events, ← List.append_assoc] at told
    have unheard : .transcribed artifact result ∉
        heard answers s (.queued artifact' pcm) ++ .artifactTaken artifact' :: stt.map Event.stt := by
      rw [List.mem_append, not_or]
      exact ⟨heard_untranscribed answers s _ artifact result, by simp⟩
    obtain ⟨front, event, _⟩ :=
      (List.append_cons_inj_of_notMem unheard (others artifact result)).mp told.symm
    cases event
    have written : .wav artifact.sequenceId artifact.wavPath pcm .written ∈ stages before := by
      rw [← front, heard]
      simp [Product.events]
    refine ⟨pcm, List.mem_of_mem_filter written, yield.length, fun stdio disk => ?_⟩
    · have arrived : ∀ disk, (arrived answers s).foldl (Event.record stdio) disk = disk := by
        intro disk
        apply record_idle
        unfold Supervisor.arrived wrote
        split <;> split <;> simp [Event.record]
      have heard_stt : ∀ disk, (stt.map Event.stt).foldl (Event.record stdio) disk = disk :=
        fun disk => record_idle disk (by simp [Event.record])
      rw [← record_hidden, ← front, heard, List.foldl_append, List.foldl_append, arrived,
        List.foldl_cons, heard_stt]
      rfl

theorem call_transcribed (p : Platform) (core : VadCore κ) {config : Config} (next : Api p)
    {s : System κ} (h : Seen p config s) {before after : List Event} {artifact : Artifact}
    {result : Except Status (CString 4095)}
    (split : ((call p core next).run s).events = before ++ .transcribed artifact result :: after) :
    ∃ pcm, .wav artifact.sequenceId artifact.wavPath pcm .written ∈ before ∧
      artifact.pcmBytes = pcm.length ∧ pcm.length % 2 = 0 ∧
      ∀ stdio disk, before.foldl (Event.record stdio) disk artifact.wavPath =
        Event.record stdio disk (.wav artifact.sequenceId artifact.wavPath pcm .written)
          artifact.wavPath := by
  have inside : .transcribed artifact result ∈ ((call p core next).run s).events := by
    rw [split]
    exact List.mem_append_right _ List.mem_cons_self
  have other : ∀ e : Event, e.Upkeep → e ≠ .transcribed artifact result := by
    rintro _ upkeep rfl
    obtain ⟨op, addr, same | same⟩ := upkeep rfl <;> cases same
  cases next with
  | start answers =>
    simp only [call] at inside
    by_cases ready : s.state = .ready
    · obtain ⟨_, t, events, started, upkeep, _⟩ := start_cases core answers (h.fresh ready)
      rw [started] at inside
      exact absurd rfl (other _ (upkeep _ inside))
    · rw [start_refused core answers ready] at inside
      cases inside
  | stop answers =>
    obtain ⟨t, events, ended, upkeep, _⟩ := stop_run answers h
    simp only [call, ended] at inside
    exact absurd rfl (other _ (upkeep _ inside))
  | runOnce answers =>
    simp only [call] at inside split
    by_cases active : s.state = .running
    · obtain ⟨pcm, written, length, recorded⟩ :=
        (runOnce_tick p core answers (h.running_of active).quiet).course.transcribed split
      have whole := runOnce_sampled p core answers active
        (.wav artifact.sequenceId artifact.wavPath pcm .written)
        (split ▸ List.mem_append_left _ written)
      exact ⟨pcm, written, length, whole, recorded⟩
    · rw [runOnce_refused p core answers active] at inside
      cases inside

/-- In any sequence of calls an utterance is transcribed from a file that is at that moment
the whole recording of its samples: mono, 16 kHz, 16 bits, with lengths that are right. -/
theorem transcribed_recordings (p : Platform) (core : VadCore κ) (config : Config)
    (calls : List (Api p)) {stdio : UInt64 → DrWav.Answers} (sound : ∀ id, (stdio id).Sound)
    (recorded : ∀ e ∈ (play (call p core) (init config) calls).2, e.Recorded stdio)
    {before after : List Event} {artifact : Artifact} {result : Except Status (CString 4095)}
    (split : (play (call p core) (init config) calls).2 =
      before ++ .transcribed artifact result :: after) :
    ∃ pcm bytes, .wav artifact.sequenceId artifact.wavPath pcm .written ∈ before ∧
      artifact.pcmBytes = pcm.length ∧
      before.foldl (Event.record stdio) (fun _ => none) artifact.wavPath = some bytes ∧
      Riff.readWave bytes = some ⟨speechFormat, pcm⟩ := by
  induction calls using List.reverseRecOn generalizing after with
  | nil => simp at split
  | append_singleton calls next ih =>
    obtain ⟨seen, _⟩ := calls_seen p core config calls
    rw [play_snoc] at split recorded
    obtain ⟨earlier, later⟩ := List.forall_mem_append.mp recorded
    rcases List.append_eq_append_iff.mp split with ⟨front, rfl, last⟩ | ⟨back, first, last⟩
    · obtain ⟨pcm, written, length, even, disk⟩ := call_transcribed p core next seen last
      obtain ⟨result, short⟩ := later (.wav artifact.sequenceId artifact.wavPath pcm .written)
        (last ▸ List.mem_append_left _ written)
      have whole := recordWav_written (sound artifact.sequenceId) even short result.symm
      have read := @Riff.readWave_raw ⟨speechFormat, pcm⟩ speechFormat_fits
        (by dsimp only; omega) []
      rw [List.append_nil] at read
      refine ⟨pcm, _, List.mem_append_right _ written, length, ?_, read⟩
      rw [List.foldl_append, disk, Event.record, whole]
      exact Function.update_self ..
    · cases back with
      | nil =>
        rw [List.nil_append] at last
        obtain ⟨_, written, _⟩ := @call_transcribed _ p core _ next _ seen [] _ _ _ last.symm
        cases written
      | cons e back =>
        obtain ⟨rfl, _⟩ := List.cons.inj last
        exact ih earlier first

section Sample

/-- A stdio that takes everything, the samples in small pieces. -/
def piecemeal : DrWav.Answers := ⟨true, fun _ => 4, fun _ => 100, 1, true, 4, true, 4⟩

theorem piecemeal_sound : piecemeal.Sound :=
  ⟨rfl, fun _ => Nat.le_refl 4, Nat.le_refl 1, rfl, Nat.le_refl 4, rfl, Nat.le_refl 4⟩

/-- Of a short utterance, written. -/
def Event.isBrief : Event → Bool
  | .wav _ _ pcm result => pcm.length % 2 = 0 && pcm.length < 4000 && result = .written
  | _ => true

def Event.isTranscribed : Event → Bool
  | .transcribed _ _ => true
  | _ => false

theorem brief_recorded {e : Event} (brief : Event.isBrief e = true) :
    e.Recorded fun _ => piecemeal := by
  cases e with
  | wav id path pcm result =>
    simp only [Event.isBrief, Bool.and_eq_true, decide_eq_true_eq] at brief
    obtain ⟨⟨even, few⟩, rfl⟩ := brief
    obtain ⟨count, _, recorded, whole⟩ := recordWav_sound piecemeal_sound even (by omega)
    have all := whole fun _ => (by decide : 0 < 100)
    refine ⟨?_, by omega⟩
    rw [recorded, all, if_pos rfl]
  | _ => trivial

theorem brisk_brief :
    (∀ e ∈ (play (call samplePlatform VadStream.byteCore) (init briskConfig) (briskCalls .ok)).2,
      Event.isBrief e = true) ∧
    ∃ e ∈ (play (call samplePlatform VadStream.byteCore) (init briskConfig) (briskCalls .ok)).2,
      Event.isTranscribed e = true := by
  decide +kernel

theorem transcribed_recordings_brisk : ∃ before after artifact result pcm bytes,
    (play (call samplePlatform VadStream.byteCore) (init briskConfig) (briskCalls .ok)).2 =
      before ++ .transcribed artifact result :: after ∧ artifact.pcmBytes = pcm.length ∧
    before.foldl (Event.record fun _ => piecemeal) (fun _ => none) artifact.wavPath = some bytes ∧
    Riff.readWave bytes = some ⟨speechFormat, pcm⟩ := by
  obtain ⟨brief, e, inside, transcribed⟩ := brisk_brief
  obtain ⟨before, after, split⟩ := List.append_of_mem inside
  cases e with
  | transcribed artifact result =>
    obtain ⟨pcm, bytes, _, length, disk, read⟩ := transcribed_recordings samplePlatform
      VadStream.byteCore briskConfig (briskCalls .ok) (fun _ => piecemeal_sound)
      (fun e member => brief_recorded (brief e member)) split
    exact ⟨before, after, artifact, result, pcm, bytes, split, length, disk, read⟩
  | _ => cases transcribed

end Sample

end Supervisor

end Assistantd
