import Assistantd.WebRtc.Reports

/-! What the supervisor does where libfvad listens for it. -/
namespace Assistantd

open Calls Framing Hangover

/-- Of the stages before an utterance is over. -/
def Event.isListening : Event → Bool
  | .ringWrote _ | .ringRead _ | .frame _ => true
  | _ => false

namespace Supervisor

variable {κ : Type}

/-! ## Frames that are not heard -/

/-- A core in one of these states takes the frame for silence, and stays in one of them. -/
def Deaf (core : VadCore κ) (calm : κ → Prop) (frame : List UInt8) : Prop :=
  ∀ k, calm k → core.hears k frame = false ∧ calm (core.next k frame)

/-- A detector outside an utterance, with a core in one of these states. -/
structure Calm (calm : κ → Prop) (d : VadDetector κ) : Prop where
  idle : d.speechActive = false
  core : ∃ k addr, calm k ∧ d.backend = some ⟨k, 1, addr⟩

section Unheard

variable {p : Platform} {core : VadCore κ} {calm : κ → Prop} {s : System κ}

theorem handleFrame_unheard (decides : core.Decides) {frame : List UInt8}
    (deaf : Deaf core calm frame) (rests : Calm calm s.vad) (answers : FrameAnswers) :
    ∃ vad addr, (handleFrame p core frame answers).run s =
      ⟨.ok (), { s with vad }, [.frame frame, .vad .use addr]⟩ ∧ Calm calm vad := by
  obtain ⟨idle, k, addr, quiet, present⟩ := rests
  obtain ⟨unheard, after⟩ := deaf k quiet
  have judged := core.processFrame_judged decides present frame
  let heard : VadDetector κ := { s.vad with backend := some ⟨core.next k frame, 1, addr⟩ }
  have nothing : heard.advance false 20 = (.none, heard) := VadDetector.advance_idle idle
  simp only [unheard] at judged
  rw [nothing] at judged
  refine ⟨heard, addr, ?_, ⟨idle, _, addr, after, rfl⟩⟩
  rw [handleFrame_heard p core frame answers judged, collectFrame_none]
  rfl

theorem runOnce_unheard (decides : core.Decides) (quiet : Quiet p s) {answers : RunAnswers p}
    (deaf : ∀ frame ∈ taken answers s, Deaf core calm frame) (rests : Calm calm s.vad) :
    let o := (runOnce p core answers).run s
    Calm calm o.state.vad ∧ ∀ e ∈ stages o.events, e.isListening = true := by
  obtain ⟨events, told, listened⟩ := listen_run p core answers quiet
  have before : ∀ e ∈ stages events, e.isListening = true := by
    rw [told, wrote]
    split <;> simp [Event.isListening]
  intro o
  have called : o = ((listen p core answers).run s).andThen fun _ => respond p answers :=
    runOnce_run p core answers quiet.running
  rw [called]
  unfold taken at deaf
  by_cases less : (filled answers s).available < 640
  · rw [if_pos less] at listened
    obtain ⟨result, listened⟩ := listened
    rw [listened]
    cases result with
    | error status => exact ⟨rests, before⟩
    | ok _ =>
      have answered := respond_idle p answers (s := { s with
        capture := captureAfter answers s
        captureRing := filled answers s }) quiet.artifacts quiet.responses
      rw [andThen_ok, answered]
      exact ⟨rests, by simpa using before⟩
  · rw [if_neg less] at listened deaf
    obtain ⟨vad, addr, handled, after⟩ := handleFrame_unheard (p := p) (s := { s with
      capture := captureAfter answers s
      captureRing := ((filled answers s).read p.sizeBits 640).2 }) decides
      (deaf _ (List.mem_singleton_self _)) rests (answers.frames 0)
    have answered := respond_idle p answers (s := { s with
      capture := captureAfter answers s
      captureRing := ((filled answers s).read p.sizeBits 640).2
      vad }) quiet.artifacts quiet.responses
    rw [listened, handled, after_mk, andThen_ok, answered]
    refine ⟨after, ?_⟩
    simpa [stages_ringTouch, Event.isStage, or_imp, forall_and] using
      ⟨before, rfl, rfl⟩

theorem run_unheard (decides : core.Decides) {config : Config} (begun : Begun core config s)
    (ticks : List (RunAnswers p)) (few : (captured p core s ticks).length < 2 ^ p.sizeBits)
    (first : calm (core.setMode config.vadAggressiveness core.initCore))
    (deaf : ∀ frame ∈ frames 640 (captured p core s ticks), Deaf core calm frame) :
    let r := play (runOnce p core) s ticks
    Calm calm r.1.vad ∧ ∀ e ∈ stages r.2, e.isListening = true := by
  induction ticks using List.reverseRecOn with
  | nil =>
    obtain ⟨addr, vad⟩ := begun.vad
    refine ⟨?_, List.forall_mem_nil _⟩
    rw [play_nil, vad]
    exact ⟨rfl, _, addr, first, rfl⟩
  | append_singleton ticks answers ih =>
    rw [captured_snoc] at few deaf
    have fewer : (captured p core s ticks).length < 2 ^ p.sizeBits := by
      rw [List.length_append] at few
      omega
    have quiet := (run_running p core (begun.running p) ticks).quiet
    obtain ⟨_, _, complete⟩ := (run_heard begun ticks fewer).emptied answers quiet few
    rw [complete, List.forall_mem_append] at deaf
    obtain ⟨rests, listening⟩ := ih fewer deaf.1
    obtain ⟨after, next⟩ := runOnce_unheard decides quiet deaf.2 rests
    intro r
    have told : r = _ := play_snoc (runOnce p core) s ticks answers
    rw [told, stages_append, List.forall_mem_append]
    exact ⟨after, listening, next⟩

end Unheard

/-! ## libfvad -/

section Libfvad

open WebRtcVad

/-- libfvad as it starts, or behind frames in which nothing is. -/
def Unlearnt (mode : Int) (inst : SoundInst) : Prop :=
  inst = ready mode ∨ inst.1 = { (ready mode).1 with vad := 0 }

theorem silence_deaf {mode : Int} (valid : 0 ≤ mode ∧ mode ≤ 3) :
    Deaf backend (Unlearnt mode) (List.replicate 640 0) := by
  have silence : ∀ inst, inst = (ready mode).1 ∨ inst = { (ready mode).1 with vad := 0 } →
      calcVad 1 inst ((samples (List.replicate 640 0)).take 320) =
        (0, { (ready mode).1 with vad := 0 }) := by
    obtain rfl | rfl | rfl | rfl : mode = 0 ∨ mode = 1 ∨ mode = 2 ∨ mode = 3 := by omega
    all_goals rintro inst (rfl | rfl) <;> decide +kernel
  intro inst unlearnt
  have zero := silence inst.1 (unlearnt.imp_left (congrArg Subtype.val))
  exact ⟨decide_eq_false (not_lt.mpr (congrArg Prod.fst zero).le), .inr (congrArg Prod.snd zero)⟩

/-- A supervisor only starts with a mode that libfvad has. -/
theorem Started.mode {p : Platform} {core : VadCore κ} {config : Config} {s : System κ}
    (started : Started p core config s) :
    0 ≤ config.vadAggressiveness ∧ config.vadAggressiveness ≤ 3 := by
  obtain ⟨earlier, answers, done, -⟩ := started
  obtain ⟨seen, -⟩ := calls_seen p core config earlier
  refine by_contra fun outside => ?_
  by_cases fresh : (play (call p core) (init config) earlier).1.state = .ready
  · obtain ⟨t, refused⟩ := start_misconfigured core answers (seen.fresh fresh) (by omega)
    rw [refused] at done
    cases done
  · rw [start_refused core answers fresh] at done
    cases done

/-- Digital silence is nothing to the daemon: it learns nothing from it, makes no file and asks
no server, however long it lasts. -/
theorem silence_unheard (p : Platform) (config : Config) {s : System SoundInst}
    (started : Started p backend config s) (ticks : List (RunAnswers p))
    (few : (captured p backend s ticks).length < 2 ^ p.sizeBits)
    (silent : ∀ byte ∈ captured p backend s ticks, byte = 0) :
    let r := play (runOnce p backend) s ticks
    Calm (Unlearnt config.vadAggressiveness) r.1.vad ∧
      ∀ e ∈ stages r.2, e.isListening = true := by
  refine run_unheard backend_decides started.begun ticks few (.inl rfl) fun frame member => ?_
  have zero : frame = List.replicate 640 0 :=
    List.eq_replicate_iff.mpr ⟨frame_length member, fun byte inside =>
      silent byte (mem_of_mem_frame member inside)⟩
  rw [zero]
  exact silence_deaf started.mode

/-- The supervisor of a start at which nothing fails. -/
def listener : System SoundInst :=
  ((start backend sampleStart).run (init Config.initDefaults)).state

theorem listener_started : Started samplePlatform backend Config.initDefaults listener :=
  ⟨[], sampleStart, rfl, rfl⟩

theorem captured_listener {chunks : List (List UInt8)}
    (given : ∀ chunk ∈ chunks, chunk ≠ [] ∧ chunk.length ≤ 640) :
    captured samplePlatform backend listener
      (chunks.map fun chunk => sampleTick chunk .ok false) = chunks.flatten :=
  captured_sample backend .ok false (by decide) given
    (listener_started.begun.running samplePlatform) (.inl (by rfl))

theorem silence_unheard_frame :
    let r := play (runOnce samplePlatform backend) listener [sampleTick still .ok false]
    Calm (Unlearnt 2) r.1.vad ∧ ∀ e ∈ stages r.2, e.isListening = true := by
  have heard : captured samplePlatform backend listener [sampleTick still .ok false] = _ :=
    @captured_listener [still] (by decide +kernel)
  exact silence_unheard samplePlatform Config.initDefaults listener_started _
    (by rw [heard]; decide +kernel) (by rw [heard]; decide +kernel)

/-- How long the frames at the end are unheard. -/
theorem silence_quiet (judged : List Judged) :
    silence judged = 20 * (quiet (judged.map Prod.snd) : Int) := by
  induction judged using List.reverseRecOn with
  | nil => rfl
  | append_singleton judged f ih =>
    obtain ⟨frame, speech⟩ := f
    rw [List.map_append, List.map_singleton]
    unfold silence at ih ⊢
    cases speech with
    | true => rw [quiet_up, Endpoint.trailing_voiced _ rfl, Nat.cast_zero, mul_zero]
    | false =>
      rw [quiet_down, Endpoint.trailing_unvoiced _ rfl, ih]
      push_cast
      ring

/-- After any number of calls an utterance is open if the models have taken a frame for speech
and since then, less the overhead, there has been no silence of `silence_ms`. -/
theorem listening_iff (p : Platform) (config : Config) {s : System SoundInst}
    (started : Started p backend config s)
    (named : ∀ id, (artifactPath config id).length < 512) (ticks : List (RunAnswers p))
    (supplied : ∀ answers ∈ ticks, ∀ i, Supplied (answers.frames i))
    (few : (captured p backend s ticks).length < 2 ^ p.sizeBits) :
    let r := play (runOnce p backend) s ticks
    let flags := speaking (ready config.vadAggressiveness)
      (frames 640 (captured p backend s ticks))
    r.1.vad.speechActive = true ↔ true ∈ flags ∧
      20 * (quiet flags : Int) <
        20 * overhead config.vadAggressiveness flags + config.vadSilenceMs := by
  intro r flags
  have begun := started.begun
  have follows := run_follows backend_decides named begun ticks supplied few
  let judged := backend.judge (ready config.vadAggressiveness)
    (frames 640 (captured p backend s ticks))
  have reported : judged.map Prod.snd = _ :=
    judge_reports started.mode fun frame member => frame_length member
  have growing : ∀ (silence : Int) (f : Judged), config.vadSilenceMs ≤ silence →
      config.vadSilenceMs ≤ silence + 20 := by omega
  have spoken : (∃ f ∈ judged, f.2 = true) ↔ true ∈ flags := by
    rw [← @mem_reports 6 (overheads config.vadAggressiveness).1
      (overheads config.vadAggressiveness).2, ← reported]
    simp
  refine follows.tracks.active.trans
    ((Endpoint.open_iff begun.silence.not_ge growing judged).trans ?_)
  refine (and_congr_left' spoken).trans (and_congr_right fun speech => ?_)
  have paused := silence_quiet judged
  rw [reported, quiet_reports (flagged_iff.mpr speech)] at paused
  have positive := begun.silence
  change ¬ config.vadSilenceMs ≤ silence judged ↔ _
  rw [paused, overhead]
  omega

theorem listening_iff_wave :
    let ticks := [sampleTick wave .ok false, sampleTick still .ok false]
    let flags := speaking (ready 2) (frames 640 (captured samplePlatform backend listener ticks))
    (play (runOnce samplePlatform backend) listener ticks).1.vad.speechActive = true ↔
      true ∈ flags ∧ 20 * (quiet flags : Int) < 20 * overhead 2 flags + 700 := by
  have heard : captured samplePlatform backend listener
      [sampleTick wave .ok false, sampleTick still .ok false] = _ :=
    @captured_listener [wave, still] (by decide +kernel)
  refine listening_iff samplePlatform Config.initDefaults listener_started
    (artifactPath_short (by decide)) _ ?_ (by rw [heard]; decide +kernel)
  intro answers member i
  obtain rfl | rfl := List.mem_pair.mp member
  all_goals exact ⟨rfl, rfl⟩

end Libfvad

end Supervisor

end Assistantd
