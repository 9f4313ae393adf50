import Mathlib.Data.Nat.Log
import Assistantd.Lib.Doubling
import Assistantd.Supervisor.Runs

/-! The buffer an utterance is collected in: how far it can grow, and what it holds. -/
namespace Assistantd.Supervisor

open Calls

variable {κ : Type} {w : Nat}

/-! ## Capacities -/

/-- A capacity that doubling the first one leads to. -/
def Doubled (w capacity : Nat) : Prop := ∃ k, capacity = 10240 * 2 ^ k ∧ capacity < 2 ^ w

/-- The largest of them. -/
def largest (w : Nat) : Nat := 10240 * 2 ^ Nat.log 2 ((2 ^ w - 1) / 10240)

theorem largest_whole (w : Nat) : 640 ∣ largest w :=
  Nat.dvd_mul_right_of_dvd (by decide) _

theorem doubled_iff (wide : 16 ≤ w) (k : Nat) :
    10240 * 2 ^ k < 2 ^ w ↔ k ≤ Nat.log 2 ((2 ^ w - 1) / 10240) := by
  have room : 2 ^ 16 ≤ 2 ^ w := Nat.pow_le_pow_right (by decide) wide
  have nonzero : (2 ^ w - 1) / 10240 ≠ 0 := by omega
  rw [Nat.le_log_iff_pow_le (by decide) nonzero, Nat.le_div_iff_mul_le (by decide), Nat.mul_comm]
  omega

theorem Doubled.lt {capacity : Nat} (h : Doubled w capacity) : capacity < 2 ^ w := by
  obtain ⟨_, _, fits⟩ := h
  exact fits

theorem Doubled.le_largest (wide : 16 ≤ w) {capacity : Nat} (h : Doubled w capacity) :
    capacity ≤ largest w := by
  obtain ⟨k, rfl, fits⟩ := h
  exact Nat.mul_le_mul_left _ (Nat.pow_le_pow_right (by decide) ((doubled_iff wide k).mp fits))

theorem largest_lt (wide : 16 ≤ w) : largest w < 2 ^ w := (doubled_iff wide _).mpr (Nat.le_refl _)

theorem first_doubled (wide : 16 ≤ w) : Doubled w 10240 := by
  have room : 2 ^ 16 ≤ 2 ^ w := Nat.pow_le_pow_right (by decide) wide
  exact ⟨0, rfl, by omega⟩

/-- Below the largest capacity there is one twice as large. -/
theorem Doubled.next (wide : 16 ≤ w) {capacity : Nat} (h : Doubled w capacity)
    (less : capacity < largest w) : Doubled w (2 * capacity) := by
  obtain ⟨k, rfl, _⟩ := h
  have smaller : k < Nat.log 2 ((2 ^ w - 1) / 10240) :=
    (Nat.pow_lt_pow_iff_right (by decide)).mp (Nat.lt_of_mul_lt_mul_left less)
  have twice : 2 * (10240 * 2 ^ k) = 10240 * 2 ^ (k + 1) := by ring
  exact ⟨k + 1, twice, twice ▸ (doubled_iff wide (k + 1)).mpr smaller⟩

/-- The growth loop ends before its rounds are used up. -/
theorem growCapacity_doubling {required capacity : Nat} (positive : 0 < capacity)
    (small : capacity < 2 ^ w) :
    Doubling w required capacity (growCapacity w required capacity) := by
  have rounds : ∀ rounds capacity, capacity < 2 ^ w → 2 ^ w ≤ capacity * 2 ^ rounds →
      Doubling w required capacity (growCapacity.go w required rounds capacity) := by
    intro rounds
    induction rounds with
    | zero =>
      intro capacity small far
      omega
    | succ rounds ih =>
      intro capacity small far
      by_cases short : capacity < required
      · by_cases wraps : capacity > (2 ^ w - 1) / 2
        · simp only [growCapacity.go, if_pos short, if_pos wraps]
          exact .beyond short (by omega)
        · simp only [growCapacity.go, if_pos short, if_neg wraps]
          have fits : 2 * capacity < 2 ^ w := by omega
          exact .twice short fits (ih _ fits (by rw [Nat.pow_succ] at far; linarith))
      · simp only [growCapacity.go, if_neg short]
        exact .done (by omega)
  apply rounds _ _ small
  calc 2 ^ w ≤ 2 ^ (w + 1) := Nat.pow_le_pow_right (by decide) (by omega)
    _ = 1 * 2 ^ (w + 1) := (Nat.one_mul _).symm
    _ ≤ capacity * 2 ^ (w + 1) := Nat.mul_le_mul_right _ positive

theorem Doubled.positive {capacity : Nat} (h : Doubled w capacity) : 0 < capacity := by
  obtain ⟨k, rfl, _⟩ := h
  exact Nat.mul_pos (by decide) (Nat.two_pow_pos k)

theorem Doubled.further {required capacity grown : Nat} (h : Doubled w capacity)
    (member : grown ∈ Doubling.doubled required capacity) (fits : grown < 2 ^ w) :
    Doubled w grown := by
  obtain ⟨k, rfl, _⟩ := h
  obtain ⟨_, j, rfl⟩ := member
  exact ⟨k + j, by ring, fits⟩

theorem growCapacity_some (wide : 16 ≤ w) {required capacity : Nat} (h : Doubled w capacity)
    (fits : required ≤ largest w) : ∃ grown,
    growCapacity w required capacity = some grown ∧ Doubled w grown ∧ required ≤ grown := by
  obtain ⟨grown, least⟩ := Doubling.exists_least required h.positive
  have reached : largest w ∈ Doubling.doubled required capacity := by
    obtain ⟨k, rfl, small⟩ := h
    refine ⟨fits, Nat.log 2 ((2 ^ w - 1) / 10240) - k, ?_⟩
    rw [largest, Nat.mul_assoc, ← Nat.pow_add,
      Nat.add_sub_cancel' ((doubled_iff wide k).mp small)]
  have below : grown < 2 ^ w := Nat.lt_of_le_of_lt (least.2 reached) (largest_lt wide)
  have ends := (growCapacity_doubling h.positive h.lt).least h.lt least
  rw [if_pos below] at ends
  exact ⟨grown, ends, h.further least.1 below, least.1.1⟩

theorem growCapacity_none (wide : 16 ≤ w) {required capacity : Nat} (h : Doubled w capacity)
    (beyond : largest w < required) : growCapacity w required capacity = none := by
  obtain ⟨grown, least⟩ := Doubling.exists_least required h.positive
  rw [(growCapacity_doubling h.positive h.lt).least h.lt least]
  apply if_neg
  intro fits
  have bound := (h.further least.1 fits).le_largest wide
  have enough := least.1.1
  omega

/-! ## What is collected -/

structure Sound (w : Nat) (m : UtteranceMetadata) : Prop where
  fits : m.size ≤ m.capacity
  block : m.capacity = 0 ∨ Doubled w m.capacity ∧ m.pcm.isSome = true

theorem contents_length (m : UtteranceMetadata) : m.contents.length = m.size :=
  Cells.slice_length _ _ _

/-- The bytes of an utterance so far, or as many whole frames of them as there is
ever room for. -/
structure Holds (w : Nat) (m : UtteranceMetadata) (pcm : List UInt8) : Prop where
  sound : Sound w m
  whole : pcm.length ≤ largest w → m.contents = pcm
  full : largest w < pcm.length → largest w < m.size + 640

theorem Sound.emptied {m : UtteranceMetadata} (h : Sound w m) :
    Holds w { m with size := 0 } [] where
  sound := ⟨Nat.zero_le _, h.block⟩
  whole _ := rfl
  full beyond := absurd beyond (Nat.not_lt_zero _)

theorem store_contents {m : UtteranceMetadata} (block : m.pcm.isSome = true) (pcm : List UInt8) :
    (m.store pcm).contents = m.contents ++ pcm := by
  obtain ⟨data, present⟩ := Option.isSome_iff_exists.mp block
  simp only [UtteranceMetadata.contents, UtteranceMetadata.store, UtteranceMetadata.bytes, present,
    Option.map_some]
  exact Cells.slice_copyIn_append _ _ _

/-- Within the largest capacity there is room for more, where `realloc` succeeds. -/
theorem ensureCapacity_room (p : Platform) {required : Nat} {s : System κ}
    (sound : Sound p.sizeBits s.utteranceMetadata) (positive : 0 < required)
    (fits : required ≤ largest p.sizeBits) :
    ∃ (m : UtteranceMetadata) (nextAddr : Nat) (events : List Event),
      (ensureCapacity p required true).run s =
        ⟨.ok (), { s with utteranceMetadata := m, nextAddr }, events⟩ ∧
      stages events = [] ∧ m.contents = s.utteranceMetadata.contents ∧
      m.size = s.utteranceMetadata.size ∧ required ≤ m.capacity ∧
      Doubled p.sizeBits m.capacity ∧ m.pcm.isSome = true := by
  by_cases short : required > s.utteranceMetadata.capacity
  · have start : Doubled p.sizeBits
        (if s.utteranceMetadata.capacity = 0 then 10240 else s.utteranceMetadata.capacity) := by
      split
      · exact first_doubled p.wide
      · rename_i used
        exact (sound.block.resolve_left used).1
    obtain ⟨grown, found, doubled, enough⟩ := growCapacity_some p.wide start fits
    obtain ⟨events, resized, silent⟩ := resizeUtterance_run grown true s
    exact ⟨s.utteranceMetadata.resize s.nextAddr grown, s.nextAddr + 1, events,
      by simp [ensureCapacity, short, found, resized], silent, rfl, rfl, enough, doubled, rfl⟩
  · obtain ⟨doubled, block⟩ := sound.block.resolve_left (by omega)
    exact ⟨s.utteranceMetadata, s.nextAddr, [], by simp [ensureCapacity, short], rfl, rfl, rfl,
      by omega, doubled, block⟩

theorem appendUtterancePcm_room (p : Platform) {pcm : List UInt8} {s : System κ}
    (sound : Sound p.sizeBits s.utteranceMetadata) (given : pcm ≠ [])
    (fits : s.utteranceMetadata.size + pcm.length ≤ largest p.sizeBits) :
    ∃ (m : UtteranceMetadata) (nextAddr : Nat) (events : List Event),
      (appendUtterancePcm p pcm true).run s =
        ⟨.ok (), { s with utteranceMetadata := m, nextAddr }, events⟩ ∧
      stages events = [] ∧ Sound p.sizeBits m ∧
      m.contents = s.utteranceMetadata.contents ++ pcm := by
  have below := largest_lt p.wide
  have positive := List.length_pos_iff.mpr given
  have allowed : ¬ s.utteranceMetadata.size > 2 ^ p.sizeBits - 1 - pcm.length := by omega
  obtain ⟨m, nextAddr, events, ensured, silent, contents, size, enough, doubled, block⟩ :=
    ensureCapacity_room p sound (by omega) fits
  refine ⟨m.store pcm, nextAddr, events ++ pcmTouch .use m, ?_, by simp [silent], ?_, ?_⟩
  · simp [appendUtterancePcm, given, allowed, ensured, storePcm]
  · refine ⟨?_, .inr ⟨doubled, by simpa [UtteranceMetadata.store] using block⟩⟩
    simp only [UtteranceMetadata.store]
    omega
  · rw [store_contents block, contents]

/-- Beyond it the bytes are refused. -/
theorem appendUtterancePcm_full (p : Platform) (pcm : List UInt8) (realloc : Bool) {s : System κ}
    (sound : Sound p.sizeBits s.utteranceMetadata)
    (beyond : largest p.sizeBits < s.utteranceMetadata.size + pcm.length) : ∃ status,
    (appendUtterancePcm p pcm realloc).run s = ⟨.error status, s, []⟩ := by
  by_cases missing : pcm = []
  · exact ⟨.errInvalidArgument, by simp [appendUtterancePcm, missing]⟩
  by_cases wraps : s.utteranceMetadata.size > 2 ^ p.sizeBits - 1 - pcm.length
  · exact ⟨.errIo, by simp [appendUtterancePcm, missing, wraps]⟩
  have start : Doubled p.sizeBits
      (if s.utteranceMetadata.capacity = 0 then 10240 else s.utteranceMetadata.capacity) := by
    split
    · exact first_doubled p.wide
    · rename_i used
      exact (sound.block.resolve_left used).1
  have short : s.utteranceMetadata.size + pcm.length > s.utteranceMetadata.capacity := by
    rcases sound.block with unused | ⟨doubled, _⟩
    · omega
    · have below := doubled.le_largest p.wide
      omega
  exact ⟨.errIo, by
    simp [appendUtterancePcm, ensureCapacity, missing, wraps, short,
      growCapacity_none p.wide start beyond]⟩

/-- A frame more, whether there is room for it or not. -/
theorem appendUtterancePcm_holds (p : Platform) {pcm frame : List UInt8} {s : System κ}
    (h : Holds p.sizeBits s.utteranceMetadata pcm) (size : frame.length = 640) :
    ∃ (result : Except Status Unit) (m : UtteranceMetadata) (nextAddr : Nat) (events : List Event),
      (appendUtterancePcm p frame true).run s =
        ⟨result, { s with utteranceMetadata := m, nextAddr }, events⟩ ∧
      stages events = [] ∧ Holds p.sizeBits m (pcm ++ frame) ∧
      (result = .ok () ↔ (pcm ++ frame).length ≤ largest p.sizeBits) := by
  have held := contents_length s.utteranceMetadata
  by_cases fits : (pcm ++ frame).length ≤ largest p.sizeBits
  · rw [List.length_append] at fits
    have whole := h.whole (by omega)
    rw [whole] at held
    obtain ⟨m, nextAddr, events, appended, silent, sound, contents⟩ :=
      appendUtterancePcm_room p h.sound (List.ne_nil_of_length_pos (by omega)) (held ▸ fits)
    rw [whole] at contents
    refine ⟨.ok (), m, nextAddr, events, appended, silent, ⟨sound, fun _ => contents, ?_⟩, ?_⟩
    · rw [List.length_append]
      omega
    · simpa using fits
  · rw [List.length_append] at fits
    have beyond : largest p.sizeBits < s.utteranceMetadata.size + frame.length := by
      by_cases before : pcm.length ≤ largest p.sizeBits
      · rw [h.whole before] at held
        omega
      · rw [size]
        exact h.full (by omega)
    obtain ⟨status, refused⟩ := appendUtterancePcm_full p frame true h.sound beyond
    refine ⟨.error status, s.utteranceMetadata, s.nextAddr, [], refused, rfl,
      ⟨h.sound, ?_, fun _ => size ▸ beyond⟩, ?_⟩
    · rw [List.length_append]
      omega
    · simpa using fits

/-- Whole frames are collected one by one until there is no room for another. -/
theorem appendUtterancePcm_cut (p : Platform) {pcm frame : List UInt8} {s : System κ}
    (sound : Sound p.sizeBits s.utteranceMetadata)
    (contents : s.utteranceMetadata.contents = pcm.take (largest p.sizeBits))
    (whole : 640 ∣ pcm.length) (size : frame.length = 640) :
    ∃ (result : Except Status Unit) (m : UtteranceMetadata) (nextAddr : Nat) (events : List Event),
      (appendUtterancePcm p frame true).run s =
        ⟨result, { s with utteranceMetadata := m, nextAddr }, events⟩ ∧
      stages events = [] ∧ Sound p.sizeBits m ∧
      m.contents = (pcm ++ frame).take (largest p.sizeBits) ∧
      (result = .ok () ↔ (pcm ++ frame).length ≤ largest p.sizeBits) := by
  have held := contents_length s.utteranceMetadata
  rw [contents, List.length_take] at held
  have multiple := largest_whole p.sizeBits
  by_cases fits : (pcm ++ frame).length ≤ largest p.sizeBits
  · rw [List.take_of_length_le fits]
    rw [List.length_append] at fits
    rw [List.take_of_length_le (by omega)] at contents
    obtain ⟨m, nextAddr, events, appended, silent, after, more⟩ :=
      appendUtterancePcm_room p sound (List.ne_nil_of_length_pos (by omega))
        (show s.utteranceMetadata.size + frame.length ≤ largest p.sizeBits by omega)
    rw [contents] at more
    exact ⟨.ok (), m, nextAddr, events, appended, silent, after, more, by simpa using fits⟩
  · rw [List.length_append] at fits
    have beyond : largest p.sizeBits < s.utteranceMetadata.size + frame.length := by omega
    obtain ⟨status, refused⟩ := appendUtterancePcm_full p frame true sound beyond
    refine ⟨.error status, s.utteranceMetadata, s.nextAddr, [], refused, rfl, sound, ?_, ?_⟩
    · rw [contents, List.take_append_of_le_length (by omega)]
    · simpa using fits

end Assistantd.Supervisor
