import Assistantd.Capture

/-! What each call on a capture record does: the system calls made and the
record left, whatever the kernel answers. -/
namespace Assistantd.AudioCapture

open Calls

/-- The child has been collected, or there is none of that pid. -/
def WaitResult.Final (w : WaitResult) : Prop := w = .reaped ∨ w = .noChild

instance (w : WaitResult) : Decidable w.Final := inferInstanceAs (Decidable (_ ∨ _))

/-- The two descriptors `pipe` returns. -/
def PipeEnds (ends : Int × Int) : Prop := 0 ≤ ends.1 ∧ 0 ≤ ends.2 ∧ ends.1 ≠ ends.2

instance (ends : Int × Int) : Decidable (PipeEnds ends) :=
  inferInstanceAs (Decidable (_ ∧ _ ∧ _))

inductive Request where
  | start (config : Config) (answers : StartAnswers)
      (opened : ∀ ends, answers.pipe = some ends → PipeEnds ends)
  | read (capacity : Nat) (answers : ReadAnswers)
  | stop (answers : StopAnswers)

def request : Request → CaptureCall Unit
  | .start config answers _ => start config answers
  | .read capacity answers => do
    let _ ← read capacity answers
    pure ()
  | .stop answers => do
    let _ ← stop answers
    pure ()

/-- A start at which nothing fails. -/
def sampleStart : Request :=
  .start Config.initDefaults ⟨true, some (3, 4), some ⟨200, by decide⟩, true, true, .running⟩
    (by rintro ends ⟨⟩; decide)

/-! ## Polling for the end of a child -/

/-- Of the first `bound` answers, the first that is not 0 says the child is gone. -/
def Ends (answers : Nat → WaitResult) (bound : Nat) : Prop :=
  ∃ n < bound, (∀ i < n, answers i = .running) ∧ (answers n).Final

instance (answers : Nat → WaitResult) (bound : Nat) : Decidable (Ends answers bound) :=
  inferInstanceAs (Decidable (∃ n < bound, (∀ i < n, answers i = .running) ∧ (answers n).Final))

theorem ends_running {answers : Nat → WaitResult} {bound : Nat} (now : answers 0 = .running) :
    Ends answers (bound + 1) ↔ Ends (fun i => answers (i + 1)) bound := by
  constructor
  · rintro ⟨n, less, before, final⟩
    cases n with
    | zero => simp [now, WaitResult.Final] at final
    | succ n => exact ⟨n, by omega, fun i earlier => before (i + 1) (by omega), final⟩
  · rintro ⟨n, less, before, final⟩
    refine ⟨n + 1, by omega, ?_, final⟩
    intro i earlier
    cases i with
    | zero => exact now
    | succ i => exact before i (by omega)

theorem ends_final {answers : Nat → WaitResult} {bound : Nat} (final : (answers 0).Final) :
    Ends answers (bound + 1) :=
  ⟨0, by omega, fun i less => absurd less (Nat.not_lt_zero i), final⟩

theorem not_ends_failed {answers : Nat → WaitResult} {bound : Nat} (now : answers 0 = .failed) :
    ¬ Ends answers bound := by
  rintro ⟨n, less, before, final⟩
  cases n with
  | zero => simp [now, WaitResult.Final] at final
  | succ n => simpa [now] using before 0 (by omega)

/-- Polls that found the child running, and then the last answer, if any. -/
def polled (pid : Int) (n : Nat) (last : Option WaitResult) : List Sys :=
  List.replicate n (.waitpid pid false .running) ++ last.toList.map (.waitpid pid false)

theorem polled_succ (pid : Int) (n : Nat) (last : Option WaitResult) :
    polled pid (n + 1) last = .waitpid pid false .running :: polled pid n last := rfl

theorem polls_shift (polls : Nat → WaitResult) {left : Nat} (most : left + 1 ≤ 50) :
    (fun i => polls (50 - (left + 1) + (i + 1))) = fun i => polls (50 - left + i) := by
  funext i
  congr 1
  omega

theorem pollExit_exits (pid : Int) {polls : Nat → WaitResult} {left : Nat} (c : AudioCapture)
    (most : left ≤ 50) (exits : Ends (fun i => polls (50 - left + i)) left) : ∃ n w,
    w.Final ∧ (pollExit pid polls left).run c = ⟨.ok true, c, polled pid n (some w)⟩ := by
  induction left with
  | zero =>
    obtain ⟨n, less, _⟩ := exits
    exact absurd less (Nat.not_lt_zero n)
  | succ left ih =>
    unfold pollExit
    cases now : polls (50 - (left + 1)) with
    | running =>
      rw [ends_running now, polls_shift polls most] at exits
      obtain ⟨n, w, final, rest⟩ := ih (by omega) exits
      exact ⟨n + 1, w, final, by simp [rest, polled_succ]⟩
    | reaped => exact ⟨0, .reaped, .inl rfl, by simp [polled]⟩
    | noChild => exact ⟨0, .noChild, .inr rfl, by simp [polled]⟩
    | failed => exact absurd exits (not_ends_failed now)

theorem pollExit_gives_up (pid : Int) {polls : Nat → WaitResult} {left : Nat} (c : AudioCapture)
    (most : left ≤ 50) (stays : ¬ Ends (fun i => polls (50 - left + i)) left) : ∃ n last,
    (∀ w ∈ last, w = .failed) ∧
      (pollExit pid polls left).run c = ⟨.ok false, c, polled pid n last⟩ := by
  induction left with
  | zero => exact ⟨0, none, by simp, rfl⟩
  | succ left ih =>
    unfold pollExit
    cases now : polls (50 - (left + 1)) with
    | running =>
      rw [ends_running now, polls_shift polls most] at stays
      obtain ⟨n, last, failed, rest⟩ := ih (by omega) stays
      exact ⟨n + 1, last, failed, by simp [rest, polled_succ]⟩
    | reaped => exact absurd (ends_final (.inl now)) stays
    | noChild => exact absurd (ends_final (.inr now)) stays
    | failed => exact ⟨0, some .failed, by simp, by simp [polled]⟩

/-! ## The calls -/

/-- A record in use names a child and its pipe. -/
def Live (c : AudioCapture) : Prop := c.active = true → 0 < c.childPid ∧ 0 ≤ c.stdoutFd

/-- What every way out of use leaves. -/
def blank : AudioCapture := ⟨-1, -1, false⟩

/-- The answer to the one `waitpid` of the call that blocks, where it gets there. -/
def blockingWait (c : AudioCapture) : Request → Option WaitResult
  | .start config answers _ =>
    if config.audioCaptureDevice.isEmpty = false ∧ c.active = false ∧ answers.access = true ∧
        answers.pipe.isSome ∧ answers.fork.isSome ∧
        ¬ (answers.getFlags = true ∧ answers.setFlags = true) then
      some answers.wait
    else none
  | .read .. => none
  | .stop answers =>
    if c.active = true ∧ ¬ Ends answers.polls 50 then some answers.wait else none

/-- The second index is the answer to the blocking wait, if there was one. -/
inductive Effect (c : AudioCapture) : Option WaitResult → List Sys → AudioCapture → Prop where
  | nothing : Effect c none [] c
  | unavailable (idle : c.active = false) : Effect c none [.access] blank
  | noPipe (idle : c.active = false) : Effect c none [.access, .pipe none] blank
  | noFork (idle : c.active = false) {r w : Int} (ends : PipeEnds (r, w)) :
      Effect c none [.access, .pipe (some (r, w)), .fork none, .close r, .close w] blank
  | unwatched (idle : c.active = false) {r w pid : Int} (ends : PipeEnds (r, w)) (child : 0 < pid)
      (n : Nat) (wait : WaitResult) :
      Effect c (some wait) ([.access, .pipe (some (r, w)), .fork (some pid), .close w] ++
        List.replicate n (.fcntl r) ++
        [.kill pid .term, .waitpid pid true wait, .close r]) blank
  | started (idle : c.active = false) {r w pid : Int} (ends : PipeEnds (r, w)) (child : 0 < pid) :
      Effect c none [.access, .pipe (some (r, w)), .fork (some pid), .close w, .fcntl r, .fcntl r]
        ⟨pid, r, true⟩
  | received (busy : c.active = true) : Effect c none [.read c.stdoutFd] c
  | waited (busy : c.active = true) {w : WaitResult} (kept : ¬ w.Final) :
      Effect c none [.read c.stdoutFd, .waitpid c.childPid false w] c
  | collected (busy : c.active = true) {w : WaitResult} (final : w.Final) :
      Effect c none [.read c.stdoutFd, .waitpid c.childPid false w, .close c.stdoutFd] blank
  | exited (busy : c.active = true) (n : Nat) {w : WaitResult} (final : w.Final) :
      Effect c none ([.close c.stdoutFd, .kill c.childPid .term] ++
        polled c.childPid n (some w)) blank
  | killed (busy : c.active = true) (n : Nat) {last : Option WaitResult}
      (failed : ∀ w ∈ last, w = .failed) (wait : WaitResult) :
      Effect c (some wait) ([.close c.stdoutFd, .kill c.childPid .term] ++
        polled c.childPid n last ++
        [.kill c.childPid .kill, .waitpid c.childPid true wait]) blank

section

variable {c : AudioCapture}

theorem start_effect (config : Config) (answers : StartAnswers)
    (opened : ∀ ends, answers.pipe = some ends → PipeEnds ends) :
    Effect c (blockingWait c (.start config answers opened))
      ((start config answers).run c).events ((start config answers).run c).state := by
  by_cases device : config.audioCaptureDevice.isEmpty = false
  swap
  · simpa [start, blockingWait, device] using Effect.nothing
  by_cases busy : c.active = true
  · simpa [start, blockingWait, device, busy] using Effect.nothing
  have idle : c.active = false := by simpa using busy
  by_cases executable : answers.access = true
  swap
  · simpa [start, spawn, reset, blank, blockingWait, device, idle, executable] using
      Effect.unavailable idle
  cases pipe : answers.pipe with
  | none =>
    simpa [start, spawn, reset, blank, blockingWait, device, idle, executable, pipe] using
      Effect.noPipe idle
  | some ends =>
    cases fork : answers.fork with
    | none =>
      simpa [start, spawn, reset, blank, blockingWait, device, idle, executable, pipe, fork] using
        Effect.noFork idle (opened _ pipe)
    | some pid =>
      cases getFlags : answers.getFlags with
      | false =>
        simpa [start, spawn, reset, blank, watch, setNonblocking, blockingWait, device, idle, executable,
          pipe, fork, getFlags] using
          Effect.unwatched idle (opened _ pipe) pid.property 1 answers.wait
      | true =>
        cases setFlags : answers.setFlags with
        | false =>
          simpa [start, spawn, reset, blank, watch, setNonblocking, blockingWait, device, idle,
            executable, pipe, fork, getFlags, setFlags] using
            Effect.unwatched idle (opened _ pipe) pid.property 2 answers.wait
        | true =>
          simpa [start, spawn, reset, blank, watch, setNonblocking, blockingWait, device, idle,
            executable, pipe, fork, getFlags, setFlags] using
            Effect.started idle (opened _ pipe) pid.property

theorem reapChild_kept {wait : WaitResult} (child : 0 < c.childPid) (kept : ¬ wait.Final) :
    ((reapChild wait).run c).state = c ∧
      ((reapChild wait).run c).events = [.waitpid c.childPid false wait] := by
  have positive : ¬ c.childPid ≤ 0 := by omega
  cases wait with
  | running => simp [reapChild, positive]
  | reaped => exact absurd (.inl rfl) kept
  | noChild => exact absurd (.inr rfl) kept
  | failed => simp [reapChild, positive]

theorem reapChild_final {wait : WaitResult} (child : 0 < c.childPid) (fd : 0 ≤ c.stdoutFd)
    (final : wait.Final) : (reapChild wait).run c =
      ⟨.error .errChildProcess, blank, [.waitpid c.childPid false wait, .close c.stdoutFd]⟩ := by
  have positive : ¬ c.childPid ≤ 0 := by omega
  have present : ¬ c.stdoutFd < 0 := by omega
  rcases final with rfl | rfl
  · simp [reapChild, closeFd, positive, present, blank]
  · simp [reapChild, closeFd, positive, present, blank]

theorem read_effect (live : Live c) (capacity : Nat) (answers : ReadAnswers) :
    Effect c none ((read capacity answers).run c).events ((read capacity answers).run c).state := by
  by_cases empty : capacity = 0
  · simpa [read, empty] using Effect.nothing
  by_cases idle : c.active = false
  · simpa [read, empty, idle] using Effect.nothing
  have busy : c.active = true := by simpa using idle
  obtain ⟨child, fd⟩ := live busy
  have present : ¬ c.stdoutFd < 0 := by omega
  have positive : ¬ c.childPid ≤ 0 := by omega
  cases answer : answers.read with
  | data bytes =>
    by_cases received : bytes.take capacity = []
    · by_cases final : answers.wait.Final
      · simpa [read, empty, busy, present, positive, answer, received,
          reapChild_final child fd final] using Effect.collected busy final
      · simpa [read, empty, busy, present, positive, answer, received,
          reapChild_kept child final] using Effect.waited busy final
    · simpa [read, empty, busy, present, positive, answer, received] using Effect.received busy
  | again =>
    by_cases final : answers.wait.Final
    · simpa [read, empty, busy, present, positive, answer,
        reapChild_final child fd final] using Effect.collected busy final
    · obtain ⟨same, calls⟩ := reapChild_kept child final
      cases result : ((reapChild answers.wait).run c).result with
      | ok _ =>
        simpa [read, empty, busy, present, positive, answer, Outcome.andThen, result, same,
          calls] using Effect.waited busy final
      | error _ =>
        simpa [read, empty, busy, present, positive, answer, Outcome.andThen, result, same,
          calls] using Effect.waited busy final
  | failed => simpa [read, empty, busy, present, positive, answer] using Effect.received busy

theorem stop_effect (live : Live c) (answers : StopAnswers) :
    Effect c (blockingWait c (.stop answers)) ((stop answers).run c).events
      ((stop answers).run c).state := by
  by_cases idle : c.active = false
  · simpa [stop, blockingWait, idle] using Effect.nothing
  have busy : c.active = true := by simpa using idle
  obtain ⟨child, fd⟩ := live busy
  have present : ¬ c.stdoutFd < 0 := by omega
  have positive : ¬ c.childPid ≤ 0 := by omega
  by_cases exits : Ends answers.polls 50
  · obtain ⟨n, w, final, waited⟩ :=
      pollExit_exits c.childPid ⟨c.childPid, -1, true⟩ (Nat.le_refl 50) (by simpa using exits)
    simpa [stop, blockingWait, closeFd, endChild, waitForExit, blank, busy, present, positive,
      child, exits, waited] using Effect.exited busy n final
  · obtain ⟨n, last, failed, waited⟩ :=
      pollExit_gives_up c.childPid ⟨c.childPid, -1, true⟩ (Nat.le_refl 50) (by simpa using exits)
    simpa [stop, blockingWait, closeFd, endChild, waitForExit, blank, busy, present, positive,
      child, exits, waited] using Effect.killed busy n failed answers.wait

theorem request_effect (live : Live c) (i : Request) :
    Effect c (blockingWait c i) ((request i).run c).events ((request i).run c).state := by
  cases i with
  | start config answers opened => exact start_effect config answers opened
  | read capacity answers =>
    have effect := read_effect live capacity answers
    generalize outcome : (read capacity answers).run c = o at effect
    obtain ⟨result, state, events⟩ := o
    cases result <;> simpa [request, blockingWait, outcome] using effect
  | stop answers =>
    have effect := stop_effect live answers
    generalize outcome : (stop answers).run c = o at effect
    obtain ⟨result, state, events⟩ := o
    cases result <;> simpa [request, outcome] using effect

theorem Effect.live {wait : Option WaitResult} {events : List Sys} {c' : AudioCapture}
    (effect : Effect c wait events c') (live : Live c) : Live c' := by
  cases effect with
  | nothing | received | waited => exact live
  | started idle ends child =>
    intro
    exact ⟨child, ends.1⟩
  | _ => simp [Live, blank]

end

end Assistantd.AudioCapture
