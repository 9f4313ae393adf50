import Assistantd.Config
import Assistantd.Lib.Calls

/-! audio_capture.c. What the kernel answers to each system call is an input;
the calls made are the events. -/
namespace Assistantd

open Calls

structure AudioCapture where
  childPid : Int
  stdoutFd : Int
  active : Bool
  deriving DecidableEq

namespace AudioCapture

inductive WaitResult where
  | running
  | reaped
  | noChild
  | failed
  deriving DecidableEq

inductive KillResult where
  | sent
  | noProcess
  | failed
  deriving DecidableEq

inductive Signal where
  | term
  | kill
  deriving DecidableEq

/-- What `read` returned: data, where no byte means end of file, or an error.
Only the first kind of error, `EINTR` or `EAGAIN`, is worth another try. -/
inductive ReadResult where
  | data (bytes : List UInt8)
  | again
  | failed

inductive Sys where
  | access
  | pipe (ends : Option (Int × Int))
  | fork (child : Option Int)
  | fcntl (fd : Int)
  | read (fd : Int)
  | close (fd : Int)
  | kill (pid : Int) (signal : Signal)
  | waitpid (pid : Int) (hang : Bool) (result : WaitResult)

/-- `fork` gives the parent's view: the pid of a child is positive. -/
structure StartAnswers where
  access : Bool
  pipe : Option (Int × Int)
  fork : Option {pid : Int // 0 < pid}
  getFlags : Bool
  setFlags : Bool
  wait : WaitResult

structure ReadAnswers where
  read : ReadResult
  wait : WaitResult

/-- `polls i` answers the `i`-th poll of `wait_for_exit`. -/
structure StopAnswers where
  term : KillResult
  polls : Nat → WaitResult
  kill : KillResult
  wait : WaitResult

abbrev CaptureCall (α : Type) := Call AudioCapture Sys Status α

def zeroed : AudioCapture := ⟨0, 0, false⟩

def reset : CaptureCall Unit :=
  modify fun _ => { active := false, childPid := -1, stdoutFd := -1 }

def closeFd : CaptureCall Unit := do
  let c ← get
  if c.stdoutFd < 0 then pure ()
  else
    emit (.close c.stdoutFd)
    modify fun c => { c with stdoutFd := -1 }

def setNonblocking (answers : StartAnswers) (fd : Int) : CaptureCall Bool := do
  emit (.fcntl fd)
  if answers.getFlags = false then pure false
  else
    emit (.fcntl fd)
    pure answers.setFlags

/-- Where the pipe's read end does not become non-blocking, the child just
started is stopped again. -/
def watch (answers : StartAnswers) (childPid readEnd : Int) : CaptureCall Unit := do
  let nonblocking ← setNonblocking answers readEnd
  if nonblocking = false then
    emit (.kill childPid .term)
    emit (.waitpid childPid true answers.wait)
    emit (.close readEnd)
    fail .errIo
  else modify fun _ => { childPid, stdoutFd := readEnd, active := true }

def spawn (answers : StartAnswers) : CaptureCall Unit := do
  reset
  emit .access
  failIf (answers.access = false) .errUnimplemented
  emit (.pipe answers.pipe)
  match answers.pipe with
  | none => fail .errIo
  | some (readEnd, writeEnd) =>
    emit (.fork (answers.fork.map Subtype.val))
    match answers.fork with
    | none =>
      emit (.close readEnd)
      emit (.close writeEnd)
      fail .errChildProcess
    | some childPid =>
      emit (.close writeEnd)
      watch answers childPid readEnd

def start (config : Config) (answers : StartAnswers) : CaptureCall Unit := do
  failIf (config.audioCaptureDevice.isEmpty = true) .errConfig
  let c ← get
  if c.active then pure () else spawn answers

def reapChild (wait : WaitResult) : CaptureCall Unit := do
  let c ← get
  if c.childPid ≤ 0 then pure ()
  else
    emit (.waitpid c.childPid false wait)
    if wait = .running then pure ()
    else if wait = .failed then fail .errChildProcess
    else
      modify fun c => { c with childPid := -1, active := false }
      closeFd
      fail .errChildProcess

/-- The bytes are what the call leaves in `buffer`, whose size is `capacity`. -/
def read (capacity : Nat) (answers : ReadAnswers) : CaptureCall (List UInt8) := do
  failIf (capacity = 0) .errInvalidArgument
  let c ← get
  failIf (c.active = false ∨ c.stdoutFd < 0 ∨ c.childPid ≤ 0) .errChildProcess
  emit (.read c.stdoutFd)
  match answers.read with
  | .data bytes =>
    if bytes.take capacity ≠ [] then pure (bytes.take capacity)
    else
      let _ ← attempt (reapChild answers.wait)
      fail .errChildProcess
  | .again =>
    reapChild answers.wait
    pure []
  | .failed => fail .errIo

/-- The remaining polls of `wait_for_exit`, 50 in all. -/
def pollExit (pid : Int) (polls : Nat → WaitResult) : Nat → CaptureCall Bool
  | 0 => pure false
  | left + 1 => do
    let waited := polls (50 - (left + 1))
    emit (.waitpid pid false waited)
    match waited with
    | .reaped | .noChild => pure true
    | .failed => pure false
    | .running => pollExit pid polls left

def waitForExit (pid : Int) (polls : Nat → WaitResult) : CaptureCall Bool :=
  if pid ≤ 0 then pure true else pollExit pid polls 50

/-- The result is the status of the child's end, which every caller ignores. -/
def endChild (childPid : Int) (answers : StopAnswers) : CaptureCall Status := do
  emit (.kill childPid .term)
  let exited ← waitForExit childPid answers.polls
  let afterTerm := if answers.term = .failed then Status.errChildProcess else .ok
  if exited then pure afterTerm
  else
    emit (.kill childPid .kill)
    emit (.waitpid childPid true answers.wait)
    pure (if answers.kill = .failed then .errChildProcess else afterTerm)

def stop (answers : StopAnswers) : CaptureCall Status := do
  let c ← get
  if c.active = false then pure .ok
  else
    closeFd
    let status ← if c.childPid > 0 then endChild c.childPid answers else pure .ok
    modify fun c => { c with active := false, childPid := -1 }
    pure status

/-! ## What the calls do -/

theorem read_bounded {capacity : Nat} {answers : ReadAnswers} {c : AudioCapture}
    {bytes : List UInt8} (done : ((read capacity answers).run c).result = .ok bytes) :
    bytes.length ≤ capacity := by
  unfold read at done
  by_cases empty : capacity = 0
  · simp [empty] at done
  by_cases closed : c.active = false ∨ c.stdoutFd < 0 ∨ c.childPid ≤ 0
  · simp [empty, closed] at done
  cases answer : answers.read with
  | data chunk =>
    by_cases received : chunk.take capacity ≠ []
    · simp only [run_bind, run_failIf, run_get, run_emit, andThen_ok, if_neg empty, if_neg closed,
        answer, if_pos received, run_pure, Outcome.after, Except.ok.injEq] at done
      rw [← done]
      exact List.length_take_le _ _
    · simp [empty, closed, answer, received] at done
  | again =>
    cases reaped : ((reapChild answers.wait).run c).result with
    | error status => simp [empty, closed, answer, Outcome.andThen, reaped] at done
    | ok _ =>
      simp only [run_bind, run_failIf, run_get, run_emit, if_neg empty, if_neg closed, answer,
        Outcome.andThen, reaped, run_pure, Outcome.after, Except.ok.injEq] at done
      rw [← done]
      exact Nat.zero_le _
  | failed => simp [empty, closed, answer] at done

theorem pollExit_run (pid : Int) (polls : Nat → WaitResult) (left : Nat) (c : AudioCapture) :
    ∃ exited calls, (pollExit pid polls left).run c = ⟨.ok exited, c, calls⟩ := by
  induction left with
  | zero => exact ⟨false, [], rfl⟩
  | succ left ih =>
    obtain ⟨exited, calls, rest⟩ := ih
    unfold pollExit
    cases answer : polls (50 - (left + 1)) with
    | running => exact ⟨exited, _, by simp [rest]; rfl⟩
    | reaped => exact ⟨true, _, by simp; rfl⟩
    | noChild => exact ⟨true, _, by simp; rfl⟩
    | failed => exact ⟨false, _, by simp; rfl⟩

theorem waitForExit_run (pid : Int) (polls : Nat → WaitResult) (c : AudioCapture) :
    ∃ exited calls, (waitForExit pid polls).run c = ⟨.ok exited, c, calls⟩ := by
  unfold waitForExit
  split
  · exact ⟨true, [], rfl⟩
  · exact pollExit_run pid polls 50 c

theorem endChild_run (childPid : Int) (answers : StopAnswers) (c : AudioCapture) :
    ∃ status calls, (endChild childPid answers).run c = ⟨.ok status, c, calls⟩ := by
  obtain ⟨exited, calls, waited⟩ := waitForExit_run childPid answers.polls c
  cases exited with
  | true => exact ⟨_, _, by simp [endChild, waited]; exact ⟨rfl, rfl⟩⟩
  | false => exact ⟨_, _, by simp [endChild, waited]; exact ⟨rfl, rfl⟩⟩

theorem closeFd_run (c : AudioCapture) : ∃ fd calls,
    closeFd.run c = ⟨.ok (), { c with stdoutFd := fd }, calls⟩ := by
  by_cases closed : c.stdoutFd < 0
  · exact ⟨c.stdoutFd, [], by simp [closeFd, closed]⟩
  · exact ⟨-1, _, by simp [closeFd, closed]; rfl⟩

theorem watch_result (answers : StartAnswers) (childPid readEnd : Int) (c : AudioCapture) :
    ((watch answers childPid readEnd).run c).result = .ok () ∨
      ((watch answers childPid readEnd).run c).result = .error .errIo := by
  unfold watch setNonblocking
  cases answers.getFlags with
  | false => exact .inr (by simp)
  | true =>
    cases answers.setFlags with
    | false => exact .inr (by simp)
    | true => exact .inl (by simp)

/-- Once there is a device to open, no failure of a start is the config's. -/
theorem start_configured {config : Config} (device : config.audioCaptureDevice.isEmpty = false)
    (answers : StartAnswers) (c : AudioCapture) :
    ((start config answers).run c).result ≠ .error .errConfig := by
  by_cases active : c.active
  · simp [start, device, active]
  by_cases executable : answers.access = false
  · simp [start, spawn, device, active, reset, executable]
  cases pipe : answers.pipe with
  | none => simp [start, spawn, device, active, reset, executable, pipe]
  | some ends =>
    cases fork : answers.fork with
    | none => simp [start, spawn, device, active, reset, executable, pipe, fork]
    | some childPid =>
      have watched := watch_result answers childPid ends.1 ⟨-1, -1, false⟩
      simp [start, spawn, device, active, reset, executable, pipe, fork, Outcome.after]
      rcases watched with done | failed
      · simp [done]
      · simp [failed]

theorem stop_idle (answers : StopAnswers) {c : AudioCapture}
    (idle : c.active = false) : (stop answers).run c = ⟨.ok .ok, c, []⟩ := by
  simp [stop, idle]

/-- A stop has no early return and always leaves the record inactive. -/
theorem stop_run (answers : StopAnswers) (c : AudioCapture) :
    ∃ status c' calls, (stop answers).run c = ⟨.ok status, c', calls⟩ ∧ c'.active = false := by
  by_cases idle : c.active = false
  · exact ⟨.ok, c, [], by simp [stop, idle], idle⟩
  obtain ⟨fd, closing, closed⟩ := closeFd_run c
  let stopped : AudioCapture := { childPid := -1, stdoutFd := fd, active := false }
  have running : c.active = true := by simpa using idle
  rw [running] at closed
  by_cases child : c.childPid > 0
  · obtain ⟨status, calls, ended⟩ := endChild_run c.childPid answers ⟨c.childPid, fd, true⟩
    exact ⟨status, stopped, closing ++ calls, by simp [stop, idle, closed, child, ended, stopped], rfl⟩
  · exact ⟨.ok, stopped, closing, by simp [stop, idle, closed, child, stopped], rfl⟩

end AudioCapture

end Assistantd
