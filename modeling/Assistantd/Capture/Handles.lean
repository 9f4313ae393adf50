import Assistantd.Capture.Effects
import Assistantd.Lib.Lease

/-! Pipe ends and children over a run of calls: each is used only while it is
held, and given back once. -/
namespace Assistantd.AudioCapture

open Calls
open Lease (Move follow)

def Sys.endMoves : Sys → List (Move Int)
  | .pipe (some (readEnd, writeEnd)) => [.grant readEnd, .grant writeEnd]
  | .fcntl fd | .read fd => [.use fd]
  | .close fd => [.back fd]
  | _ => []

/-- A wait that blocks is the last thing done about a child, whatever it
returns; one that does not is the last where the child is gone. -/
def Sys.childMoves : Sys → List (Move Int)
  | .fork (some pid) => [.grant pid]
  | .kill pid _ => [.use pid]
  | .waitpid pid hang result => if hang = true ∨ result.Final then [.back pid] else [.use pid]
  | _ => []

def Sys.Targets (pid : Int) : Sys → Prop
  | .kill p _ | .waitpid p _ _ => p = pid
  | _ => False

theorem childMoves_grant {e : Sys} {pid : Int} (granted : .grant pid ∈ e.childMoves) :
    e = .fork (some pid) := by
  unfold Sys.childMoves at granted
  split at granted
  · simpa using Eq.symm (List.mem_singleton.mp granted)
  · simp at granted
  · split at granted <;> simp at granted
  · simp at granted

theorem childMoves_target {e : Sys} {pid : Int} (target : e.Targets pid) :
    .use pid ∈ e.childMoves ∨ .back pid ∈ e.childMoves := by
  cases e with
  | kill p signal =>
    obtain rfl : p = pid := target
    exact .inl (List.mem_singleton_self _)
  | waitpid p hang w =>
    obtain rfl : p = pid := target
    by_cases last : hang = true ∨ w.Final
    · exact .inr (by simp [Sys.childMoves, last])
    · exact .inl (by simp [Sys.childMoves, last])
  | _ => cases target

def endMoves (h : List Sys) : List (Move Int) := h.flatMap Sys.endMoves

def childMoves (h : List Sys) : List (Move Int) := h.flatMap Sys.childMoves

@[simp] theorem endMoves_append (xs ys : List Sys) :
    endMoves (xs ++ ys) = endMoves xs ++ endMoves ys := List.flatMap_append

@[simp] theorem childMoves_append (xs ys : List Sys) :
    childMoves (xs ++ ys) = childMoves xs ++ childMoves ys := List.flatMap_append

def heldEnds (c : AudioCapture) : List Int := if c.active then [c.stdoutFd] else []

def current (c : AudioCapture) : List Int := if c.active then [c.childPid] else []

/-- The two ends of a pipe are out at a time at most, and one child. -/
structure Careful (h : List Sys) (c : AudioCapture) : Prop where
  ends : follow 2 [] (endMoves h) = some (heldEnds c)
  children : follow 1 [] (childMoves h) = some (current c)
  live : Live c
  positive : ∀ e ∈ h, ∀ pid, e.Targets pid → 0 < pid

/-! ## One call -/

theorem fcntl_uses (fd : Int) (n : Nat) :
    follow 2 [fd] (endMoves (List.replicate n (.fcntl fd))) = some [fd] := by
  apply Lease.follow_uses
  intro m member
  obtain ⟨e, call, move⟩ := List.mem_flatMap.mp member
  rw [List.eq_of_mem_replicate call] at move
  exact ⟨fd, by simp, by simpa [Sys.endMoves] using move⟩

theorem fcntl_childMoves (fd : Int) (n : Nat) :
    childMoves (List.replicate n (.fcntl fd)) = [] := by
  simp [childMoves, Sys.childMoves]

theorem polled_endMoves (pid : Int) (n : Nat) (last : Option WaitResult) :
    endMoves (polled pid n last) = [] := by
  cases last <;> simp [endMoves, polled, Sys.endMoves]

theorem polled_uses (pid : Int) (n : Nat) {last : Option WaitResult}
    (failed : ∀ w ∈ last, w = .failed) :
    follow 1 [pid] (childMoves (polled pid n last)) = some [pid] := by
  apply Lease.follow_uses
  intro m member
  obtain ⟨e, poll, move⟩ := List.mem_flatMap.mp member
  rcases List.mem_append.mp poll with running | final
  · rw [List.eq_of_mem_replicate running] at move
    exact ⟨pid, by simp, by simpa [Sys.childMoves, WaitResult.Final] using move⟩
  · obtain ⟨w, answer, rfl⟩ := List.mem_map.mp final
    rw [failed w (Option.mem_toList.mp answer)] at move
    exact ⟨pid, by simp, by simpa [Sys.childMoves, WaitResult.Final] using move⟩

theorem polled_back (pid : Int) (n : Nat) {w : WaitResult} (final : w.Final) :
    follow 1 [pid] (childMoves (polled pid n (some w))) = some [] := by
  have running : polled pid n (some w) = polled pid n none ++ [.waitpid pid false w] := by
    simp [polled]
  have uses : follow 1 [pid] (childMoves (polled pid n none)) = some [pid] :=
    polled_uses pid n (by simp)
  rw [running, childMoves_append, Lease.follow_append, uses]
  simp [childMoves, Sys.childMoves, final, Move.apply]

theorem polled_positive {pid : Int} (child : 0 < pid) (n : Nat) (last : Option WaitResult) :
    ∀ e ∈ polled pid n last, ∀ p, e.Targets p → 0 < p := by
  intro e member p target
  rcases List.mem_append.mp member with running | final
  · rw [List.eq_of_mem_replicate running] at target
    exact target ▸ child
  · obtain ⟨w, _, rfl⟩ := List.mem_map.mp final
    exact target ▸ child

section

variable {c c' : AudioCapture} {wait : Option WaitResult} {events : List Sys}

theorem Effect.ends (effect : Effect c wait events c') :
    follow 2 (heldEnds c) (endMoves events) = some (heldEnds c') := by
  cases effect with
  | nothing => rfl
  | unavailable idle => simp [endMoves, Sys.endMoves, heldEnds, blank, idle]
  | noPipe idle => simp [endMoves, Sys.endMoves, heldEnds, blank, idle]
  | noFork idle ends =>
    obtain ⟨_, _, apart⟩ := ends
    simp [endMoves, Sys.endMoves, heldEnds, blank, idle, Move.apply, apart, Ne.symm apart]
  | @unwatched idle r w pid ends child n wait =>
    obtain ⟨_, _, apart⟩ := ends
    have opened : follow 2 (heldEnds c)
        (endMoves [.access, .pipe (some (r, w)), .fork (some pid), .close w]) = some [r] := by
      simp [endMoves, Sys.endMoves, heldEnds, idle, Move.apply, Ne.symm apart]
    rw [endMoves_append, endMoves_append, Lease.follow_append, Lease.follow_append, opened,
      Option.bind_some, fcntl_uses, Option.bind_some]
    simp [endMoves, Sys.endMoves, heldEnds, blank, Move.apply]
  | started idle ends child =>
    obtain ⟨_, _, apart⟩ := ends
    simp [endMoves, Sys.endMoves, heldEnds, idle, Move.apply, Ne.symm apart]
  | received busy => simp [endMoves, Sys.endMoves, heldEnds, busy, Move.apply]
  | waited busy => simp [endMoves, Sys.endMoves, heldEnds, busy, Move.apply]
  | collected busy => simp [endMoves, Sys.endMoves, heldEnds, blank, busy, Move.apply]
  | exited busy n =>
    rw [endMoves_append, polled_endMoves]
    simp [endMoves, Sys.endMoves, heldEnds, blank, busy, Move.apply]
  | killed busy n =>
    rw [endMoves_append, endMoves_append, polled_endMoves]
    simp [endMoves, Sys.endMoves, heldEnds, blank, busy, Move.apply]

theorem Effect.children (effect : Effect c wait events c') :
    follow 1 (current c) (childMoves events) = some (current c') := by
  cases effect with
  | nothing => rfl
  | unavailable idle => simp [childMoves, Sys.childMoves, current, blank, idle]
  | noPipe idle => simp [childMoves, Sys.childMoves, current, blank, idle]
  | noFork idle => simp [childMoves, Sys.childMoves, current, blank, idle]
  | unwatched idle =>
    rw [childMoves_append, childMoves_append, fcntl_childMoves]
    simp [childMoves, Sys.childMoves, current, blank, idle, Move.apply]
  | started idle => simp [childMoves, Sys.childMoves, current, idle, Move.apply]
  | received => simp [childMoves, Sys.childMoves]
  | waited busy kept => simp [childMoves, Sys.childMoves, current, busy, kept, Move.apply]
  | collected busy final =>
    simp [childMoves, Sys.childMoves, current, blank, busy, final, Move.apply]
  | exited busy n final =>
    have polls := polled_back c.childPid n final
    rw [childMoves_append, Lease.follow_append]
    simp [childMoves, Sys.childMoves, current, blank, busy, Move.apply] at polls ⊢
    exact polls
  | killed busy n failed =>
    have polls := polled_uses c.childPid n failed
    have signaled : follow 1 (current c)
        (childMoves [.close c.stdoutFd, .kill c.childPid .term]) = some [c.childPid] := by
      simp [childMoves, Sys.childMoves, current, busy, Move.apply]
    rw [childMoves_append, childMoves_append, Lease.follow_append, Lease.follow_append, signaled,
      Option.bind_some, polls, Option.bind_some]
    simp [childMoves, Sys.childMoves, current, blank, Move.apply]

/-- A call talks only to the child on record and to the one it starts. -/
theorem Effect.positive (effect : Effect c wait events c') (live : Live c) :
    ∀ e ∈ events, ∀ pid, e.Targets pid → 0 < pid := by
  cases effect with
  | nothing => simp
  | unavailable => simp [Sys.Targets]
  | noPipe => simp [Sys.Targets]
  | noFork => simp [Sys.Targets]
  | unwatched idle ends child => simp [Sys.Targets, child, or_imp, forall_and]
  | started => simp [Sys.Targets]
  | received => simp [Sys.Targets]
  | waited busy => simp [Sys.Targets, (live busy).1]
  | collected busy => simp [Sys.Targets, (live busy).1]
  | @exited busy n w =>
    have polls := polled_positive (live busy).1 n (some w)
    simpa [Sys.Targets, (live busy).1, or_imp, forall_and] using polls
  | @killed busy n last =>
    have polls := polled_positive (live busy).1 n last
    simpa [Sys.Targets, (live busy).1, or_imp, forall_and] using polls

end

/-! ## Every run -/

theorem request_careful (i : Request) (c : AudioCapture) : Keeps Careful (request i) c := by
  rintro h ⟨ends, children, live, positive⟩
  have effect := request_effect live i
  constructor
  · rw [endMoves_append, Lease.follow_append, ends]
    exact effect.ends
  · rw [childMoves_append, Lease.follow_append, children]
    exact effect.children
  · exact effect.live live
  · intro e member pid target
    rcases List.mem_append.mp member with earlier | now
    · exact positive e earlier pid target
    · exact effect.positive live e now pid target

/-- What the order of the calls means for each descriptor and each pid. -/
structure Released (h : List Sys) (c : AudioCapture) : Prop where
  once : ∀ fd, (endMoves h).count (.grant fd) =
    (endMoves h).count (.back fd) + (heldEnds c).count fd
  closed : ∀ before fd after, h = before ++ .close fd :: after →
    .grant fd ∉ endMoves after → .use fd ∉ endMoves after ∧ .back fd ∉ endMoves after
  collected : ∀ before pid hang w after, h = before ++ .waitpid pid hang w :: after → w.Final →
    .fork (some pid) ∉ after → ∀ e ∈ after, ¬ e.Targets pid

theorem Careful.released {h : List Sys} {c : AudioCapture} (careful : Careful h c) :
    Released h c := by
  constructor
  · intro fd
    have counts := Lease.follow_counts careful.ends fd
    simpa using counts
  · rintro before fd after rfl ungranted
    have ends := careful.ends
    rw [endMoves_append] at ends
    exact Lease.follow_returned List.nodup_nil ends ungranted
  · rintro before pid hang w after rfl final unforked e member target
    have children := careful.children
    have move : childMoves (.waitpid pid hang w :: after) = .back pid :: childMoves after := by
      simp [childMoves, Sys.childMoves, final]
    rw [childMoves_append, move] at children
    have ungranted : .grant pid ∉ childMoves after := by
      intro granted
      obtain ⟨e, call, grant⟩ := List.mem_flatMap.mp granted
      exact unforked (childMoves_grant grant ▸ call)
    obtain ⟨unused, unreturned⟩ := Lease.follow_returned List.nodup_nil children ungranted
    rcases childMoves_target target with use | back
    · exact unused (List.mem_flatMap.mpr ⟨e, member, use⟩)
    · exact unreturned (List.mem_flatMap.mpr ⟨e, member, back⟩)

theorem stop_again (first second : StopAnswers) (c : AudioCapture) :
    (stop second).run ((stop first).run c).state =
      ⟨.ok .ok, ((stop first).run c).state, []⟩ := by
  obtain ⟨status, c', calls, stopped, idle⟩ := stop_run first c
  rw [stopped]
  exact stop_idle second idle

/-- Both hold of everything up to the end of a call, and so at each point of it. -/
def Once (h : List Sys) (c : AudioCapture) : Prop := Careful h c ∧ Released h c

theorem handles_once {c : AudioCapture} (idle : c.active = false) (requests : List Request) :
    Throughout Once request c requests ∧
      (∀ c first second, (stop second).run ((stop first).run c).state =
        ⟨.ok .ok, ((stop first).run c).state, []⟩) ∧
      ∀ answers, (stop answers).run zeroed = ⟨.ok .ok, zeroed, []⟩ := by
  refine ⟨?_, fun c first second => stop_again first second c, fun answers => stop_idle answers rfl⟩
  intro n
  have start : Careful [] c := by
    constructor
    · simp [endMoves, heldEnds, idle]
    · simp [childMoves, current, idle]
    · simp [Live, idle]
    · simp
  have careful := play_keeps start request_careful (requests.take n)
  exact ⟨careful, careful.released⟩

/-- A child that starts, sends nothing and is gone at the first look. -/
def sampleRun : List Request :=
  [sampleStart, .read 640 ⟨.data [], .reaped⟩]

theorem handles_once_sample : zeroed.active = false ∧ Throughout Once request zeroed sampleRun :=
  ⟨rfl, (handles_once rfl sampleRun).1⟩

end Assistantd.AudioCapture
