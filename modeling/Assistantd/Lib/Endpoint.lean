import Mathlib.Algebra.BigOperators.Group.List.Basic
import Mathlib.Data.List.DropRight
import Mathlib.Data.List.Find

/-! Endpointing: a stream of timed frames is cut into utterances. One opens at a
voiced frame and closes at the first frame where the unvoiced frames at its end
last for `limit`. -/
namespace Endpoint

section Trailing

variable {φ M : Type} [AddMonoid M] (voiced : φ → Bool) (duration : φ → M)

/-- How long the unvoiced frames at the end last. -/
def trailing (frames : List φ) : M :=
  ((frames.rtakeWhile fun f => !voiced f).map duration).sum

variable {voiced duration}

theorem trailing_voiced {f : φ} (frames : List φ) (h : voiced f = true) :
    trailing voiced duration (frames ++ [f]) = 0 := by
  simp [trailing, h]

theorem trailing_unvoiced {f : φ} (frames : List φ) (h : voiced f = false) :
    trailing voiced duration (frames ++ [f]) = trailing voiced duration frames + duration f := by
  simp [trailing, h]

theorem trailing_append {f : φ} (loud : voiced f = true) (before rest : List φ) :
    trailing voiced duration (before ++ f :: rest) = trailing voiced duration (f :: rest) := by
  induction rest using List.reverseRecOn with
  | nil =>
    rw [trailing_voiced before loud]
    exact (trailing_voiced [] loud).symm
  | append_singleton rest g ih =>
    rw [← List.cons_append, ← List.append_assoc]
    cases v : voiced g with
    | true => rw [trailing_voiced _ v, trailing_voiced _ v]
    | false => rw [trailing_unvoiced _ v, trailing_unvoiced _ v, ih]

end Trailing

variable {φ M : Type} [AddMonoid M] [LE M] [DecidableLE M]
variable (voiced : φ → Bool) (duration : φ → M) (limit : M)

/-- The index of the first frame at which an utterance of these frames is over. -/
def closesAt (frames : List φ) : Option Nat :=
  (List.range frames.length).find? fun n => limit ≤ trailing voiced duration (frames.take (n + 1))

/-- The utterances of a stream, and the frames of the one still open, if any. -/
def cut (frames : List φ) : List (List φ) × List φ :=
  match _opens : frames.dropWhile fun f => !voiced f with
  | [] => ([], [])
  | f :: rest =>
    match closesAt voiced duration limit (f :: rest) with
    | none => ([], f :: rest)
    | some n =>
      ((f :: rest).take (n + 1) :: (cut (rest.drop n)).1, (cut (rest.drop n)).2)
termination_by frames.length
decreasing_by all_goals
  have shorter := (List.dropWhile_sublist (fun f => !voiced f) (l := frames)).length_le
  rw [_opens, List.length_cons] at shorter
  rw [List.length_drop]
  omega

variable {voiced duration limit}

/-- What one more frame does to a stream already cut. -/
def extend (voiced : φ → Bool) (duration : φ → M) (limit : M) (c : List (List φ) × List φ)
    (f : φ) : List (List φ) × List φ :=
  if c.2 = [] then (c.1, if voiced f then [f] else [])
  else if limit ≤ trailing voiced duration (c.2 ++ [f]) then (c.1 ++ [c.2 ++ [f]], [])
  else (c.1, c.2 ++ [f])

theorem closesAt_snoc (frames : List φ) (f : φ) :
    closesAt voiced duration limit (frames ++ [f]) =
      (closesAt voiced duration limit frames).or
        (if limit ≤ trailing voiced duration (frames ++ [f]) then some frames.length else none) := by
  unfold closesAt
  rw [List.length_append, List.length_singleton, List.range_succ, List.find?_append]
  congr 1
  · apply List.find?_congr
    intro n inside
    have before : n < frames.length := by simpa using inside
    rw [List.take_append_of_le_length (by omega)]
  · simp [List.take_of_length_le]

theorem closesAt_lt {frames : List φ} {n : Nat}
    (h : closesAt voiced duration limit frames = some n) : n < frames.length := by
  have member := List.mem_of_find?_eq_some h
  simpa using member

theorem cut_idle {frames : List φ} (h : frames.dropWhile (fun f => !voiced f) = []) :
    cut voiced duration limit frames = ([], []) := by
  rw [cut]
  split
  · rfl
  · rename_i opens
    rw [h] at opens
    cases opens

theorem cut_opens {frames rest : List φ} {f : φ}
    (h : frames.dropWhile (fun f => !voiced f) = f :: rest) :
    cut voiced duration limit frames =
      match closesAt voiced duration limit (f :: rest) with
      | none => ([], f :: rest)
      | some n => ((f :: rest).take (n + 1) :: (cut voiced duration limit (rest.drop n)).1,
          (cut voiced duration limit (rest.drop n)).2) := by
  rw [cut]
  split
  · rename_i idle
    rw [h] at idle
    cases idle
  · rename_i opens
    rw [h] at opens
    cases opens
    rfl

theorem extend_cons (utterance : List φ) (c : List (List φ) × List φ) (f : φ) :
    extend voiced duration limit (utterance :: c.1, c.2) f =
      (utterance :: (extend voiced duration limit c f).1,
        (extend voiced duration limit c f).2) := by
  unfold extend
  split
  · rfl
  · split <;> rfl

/-- A stream can be cut while it arrives. -/
theorem cut_snoc (positive : ¬ limit ≤ 0) (frames : List φ) (f : φ) :
    cut voiced duration limit (frames ++ [f]) =
      extend voiced duration limit (cut voiced duration limit frames) f := by
  -- by induction on the length: an utterance that has closed leaves a shorter stream
  induction hn : frames.length using Nat.strong_induction_on generalizing frames with
  | _ n ih =>
    cases opens : frames.dropWhile (fun f => !voiced f) with
    | nil =>
      have next : (frames ++ [f]).dropWhile (fun f => !voiced f) =
          [f].dropWhile (fun f => !voiced f) := by
        rw [List.dropWhile_append, opens]
        rfl
      rw [cut_idle opens]
      cases v : voiced f with
      | false =>
        rw [cut_idle (by rw [next]; simp [v])]
        simp [extend, v]
      | true =>
        have opened : (frames ++ [f]).dropWhile (fun f => !voiced f) = [] ++ [f] := by
          rw [next]
          simp [v]
        have starts : trailing voiced duration ([] ++ [f]) = 0 := trailing_voiced [] v
        rw [cut_opens opened, ← List.nil_append [f], closesAt_snoc, starts, if_neg positive]
        simp [closesAt, extend, v]
    | cons g rest =>
      have shorter := (List.dropWhile_sublist (fun f => !voiced f) (l := frames)).length_le
      rw [opens, List.length_cons] at shorter
      have next : (frames ++ [f]).dropWhile (fun f => !voiced f) = g :: (rest ++ [f]) := by
        rw [List.dropWhile_append, opens]
        rfl
      rw [cut_opens opens, cut_opens next, ← List.cons_append, closesAt_snoc]
      cases closes : closesAt voiced duration limit (g :: rest) with
      | some k =>
        have inside := closesAt_lt closes
        rw [List.length_cons] at inside
        have later := ih (rest.drop k).length (by rw [List.length_drop]; omega) _ rfl
        simp only [Option.some_or]
        rw [List.take_append_of_le_length (by rw [List.length_cons]; omega),
          List.drop_append_of_le_length (by omega), later, extend_cons]
      | none =>
        simp only [Option.none_or]
        by_cases lasts : limit ≤ trailing voiced duration (g :: rest ++ [f])
        · have done : cut voiced duration limit ((rest ++ [f]).drop (g :: rest).length) = ([], []) :=
            cut_idle (by simp)
          rw [if_pos lasts]
          rw [List.cons_append] at lasts
          simp only [done]
          simp [extend, lasts, List.take_of_length_le]
        · rw [if_neg lasts]
          rw [List.cons_append] at lasts
          simp [extend, lasts]

/-- An utterance that is still open is the end of the stream, from a voiced frame on. -/
theorem cut_open (positive : ¬ limit ≤ 0) {frames : List φ} {f : φ} {rest : List φ}
    (opened : (cut voiced duration limit frames).2 = f :: rest) :
    voiced f = true ∧ ∃ before, frames = before ++ f :: rest := by
  induction frames using List.reverseRecOn generalizing f rest with
  | nil =>
    rw [cut_idle List.dropWhile_nil] at opened
    cases opened
  | append_singleton frames g ih =>
    rw [cut_snoc positive, extend] at opened
    split at opened
    · split at opened
      · rename_i loud
        cases opened
        exact ⟨loud, frames, rfl⟩
      · cases opened
    · split at opened
      · cases opened
      · rename_i some_frames _
        cases before : (cut voiced duration limit frames).2 with
        | nil => exact absurd before some_frames
        | cons first later =>
          obtain ⟨loud, earlier, split⟩ := ih before
          rw [before, List.cons_append] at opened
          obtain ⟨rfl, rfl⟩ := List.cons.inj opened
          exact ⟨loud, earlier, by rw [split, List.append_assoc, List.cons_append]⟩

/-- An utterance is open where a frame has been voiced, and the stream not unvoiced for the
limit since then. -/
theorem open_iff (positive : ¬ limit ≤ 0)
    (growing : ∀ silence f, limit ≤ silence → limit ≤ silence + duration f) (frames : List φ) :
    (cut voiced duration limit frames).2 ≠ [] ↔
      (∃ f ∈ frames, voiced f = true) ∧ ¬ limit ≤ trailing voiced duration frames := by
  induction frames using List.reverseRecOn with
  | nil => simp [@cut_idle φ M _ _ _ voiced duration limit [] rfl]
  | append_singleton frames f ih =>
    have spoken : (∃ g ∈ frames ++ [f], voiced g = true) ↔
        (∃ g ∈ frames, voiced g = true) ∨ voiced f = true := by simp [or_and_right, exists_or]
    rw [cut_snoc positive, extend, spoken]
    by_cases idle : (cut voiced duration limit frames).2 = []
    · rw [if_pos idle]
      cases loud : voiced f with
      | true =>
        rw [trailing_voiced _ loud]
        exact iff_of_true (List.cons_ne_nil _ _) ⟨.inr rfl, positive⟩
      | false =>
        rw [trailing_unvoiced _ loud]
        refine iff_of_false (fun opened => opened rfl) fun ⟨earlier, under⟩ => ?_
        have before : ¬ limit ≤ trailing voiced duration frames := fun lasts =>
          under (growing _ f lasts)
        exact ih.mpr ⟨earlier.resolve_right Bool.false_ne_true, before⟩ idle
    · obtain ⟨first, rest, split⟩ := List.exists_cons_of_ne_nil idle
      obtain ⟨loud, before, all⟩ := cut_open positive split
      have silence : trailing voiced duration (frames ++ [f]) =
          trailing voiced duration (first :: rest ++ [f]) := by
        rw [all, List.append_assoc, List.cons_append]
        exact trailing_append loud before _
      rw [if_neg idle, split, silence]
      by_cases lasts : limit ≤ trailing voiced duration (first :: rest ++ [f])
      · rw [if_pos lasts]
        exact iff_of_false (fun opened => opened rfl) fun open_now => open_now.2 lasts
      · rw [if_neg lasts]
        exact iff_of_true (by simp) ⟨.inl (ih.mp idle).1, lasts⟩

end Endpoint
