import Assistantd.Supervisor.Utterance

/-! What append_utterance_pcm does to the utterance buffer, and what it leaves
alone when it fails. -/
namespace Assistantd.Supervisor

open Calls

variable {κ : Type} {w : Nat}

/-- Storage for every capacity but 0, and no more stored than there is room for. -/
structure Usable (w : Nat) (m : UtteranceMetadata) : Prop where
  fits : m.size ≤ m.capacity
  bounded : m.capacity < 2 ^ w
  block : m.capacity ≠ 0 → m.pcm.isSome = true

/-- The capacity that the growth starts from. -/
def firstCapacity (m : UtteranceMetadata) : Nat :=
  if m.capacity = 0 then 10240 else m.capacity

theorem Usable.first {m : UtteranceMetadata} (h : Usable w m) (wide : 16 ≤ w) :
    0 < firstCapacity m ∧ firstCapacity m < 2 ^ w := by
  have room : 2 ^ 16 ≤ 2 ^ w := Nat.pow_le_pow_right (by decide) wide
  have bounded := h.bounded
  unfold firstCapacity
  split <;> omega

/-- The buffer after `pcm` has been added, with a capacity of `grown` where it had to grow. -/
structure Appended (w : Nat) (m : UtteranceMetadata) (pcm : List UInt8) (grown : Nat)
    (after : UtteranceMetadata) : Prop where
  contents : after.contents = m.contents ++ pcm
  size : after.size = m.size + pcm.length
  usable : Usable w after
  capacity : after.capacity = if m.size + pcm.length ≤ m.capacity then m.capacity else grown

/-- Why bytes are refused: the sizes do not fit `size_t`, or there is no memory. -/
def Refused (w : Nat) (m : UtteranceMetadata) (pcm : List UInt8) (grown : Nat) (realloc : Bool) :
    Prop :=
  2 ^ w ≤ m.size + pcm.length ∨
    m.capacity < m.size + pcm.length ∧ (2 ^ w ≤ grown ∨ realloc = false)

theorem store_appended {m : UtteranceMetadata} (pcm : List UInt8) (grown : Nat) (usable : Usable w m)
    (block : m.pcm.isSome = true) (room : m.size + pcm.length ≤ m.capacity) :
    Appended w m pcm grown (m.store pcm) where
  contents := store_contents block pcm
  size := rfl
  usable := ⟨room, usable.bounded, fun _ => by simpa [UtteranceMetadata.store] using block⟩
  capacity := by rw [if_pos room]; rfl

theorem resize_appended {m : UtteranceMetadata} (pcm : List UInt8) {grown : Nat} (addr : Nat)
    (short : m.capacity < m.size + pcm.length) (enough : m.size + pcm.length ≤ grown)
    (bounded : grown < 2 ^ w) : Appended w m pcm grown ((m.resize addr grown).store pcm) where
  contents := store_contents (m := m.resize addr grown) rfl pcm
  size := rfl
  usable := ⟨enough, bounded, fun _ => rfl⟩
  capacity := by rw [if_neg (by omega)]; rfl

/-- What a call returns, and the buffer it leaves. -/
theorem appendUtterancePcm_spec (p : Platform) {pcm : List UInt8} {s : System κ} {grown : Nat}
    (usable : Usable p.sizeBits s.utteranceMetadata) (given : pcm ≠ [])
    (short : pcm.length < 2 ^ p.sizeBits) (realloc : Bool)
    (least : IsLeast (Doubling.doubled (s.utteranceMetadata.size + pcm.length)
      (firstCapacity s.utteranceMetadata)) grown) :
    (Refused p.sizeBits s.utteranceMetadata pcm grown realloc ∧
      (appendUtterancePcm p pcm realloc).run s = ⟨.error .errIo, s, []⟩) ∨
    ¬ Refused p.sizeBits s.utteranceMetadata pcm grown realloc ∧
      ((appendUtterancePcm p pcm realloc).run s).result = .ok () ∧
      Appended p.sizeBits s.utteranceMetadata pcm grown
        ((appendUtterancePcm p pcm realloc).run s).state.utteranceMetadata := by
  obtain ⟨positive, small⟩ := usable.first p.wide
  have growth := (growCapacity_doubling positive small).least small least
  have length := List.length_pos_iff.mpr given
  have fits := usable.fits
  by_cases wraps : 2 ^ p.sizeBits ≤ s.utteranceMetadata.size + pcm.length
  · have wrapping : s.utteranceMetadata.size > 2 ^ p.sizeBits - 1 - pcm.length := by omega
    exact .inl ⟨.inl wraps, by simp [appendUtterancePcm, given, wrapping]⟩
  have allowed : ¬ s.utteranceMetadata.size > 2 ^ p.sizeBits - 1 - pcm.length := by omega
  by_cases room : s.utteranceMetadata.size + pcm.length ≤ s.utteranceMetadata.capacity
  · have block := usable.block (by omega)
    have plain : ¬ s.utteranceMetadata.size + pcm.length > s.utteranceMetadata.capacity := by omega
    refine .inr ⟨?_, ?_, ?_⟩
    · rintro (wraps' | ⟨full, _⟩)
      · exact wraps wraps'
      · omega
    · simp [appendUtterancePcm, ensureCapacity, storePcm, given, allowed, plain]
    · have stored := store_appended pcm grown usable block room
      simpa [appendUtterancePcm, ensureCapacity, storePcm, given, allowed, plain] using stored
  have full : s.utteranceMetadata.size + pcm.length > s.utteranceMetadata.capacity := by omega
  unfold firstCapacity at growth
  by_cases beyond : grown < 2 ^ p.sizeBits
  · rw [if_pos beyond] at growth
    obtain ⟨events, resized, _⟩ := resizeUtterance_run grown realloc s
    cases realloc with
    | false =>
      exact .inl ⟨.inr ⟨full, .inr rfl⟩, by
        simp [appendUtterancePcm, ensureCapacity, given, allowed, full, growth, resized]⟩
    | true =>
      refine .inr ⟨?_, ?_, ?_⟩
      · rintro (wraps' | ⟨_, large | failed⟩)
        · exact wraps wraps'
        · omega
        · cases failed
      · simp [appendUtterancePcm, ensureCapacity, storePcm, given, allowed, full, growth, resized]
      · have stored := resize_appended pcm s.nextAddr full least.1.1 beyond
        simpa [appendUtterancePcm, ensureCapacity, storePcm, given, allowed, full, growth, resized]
          using stored
  · rw [if_neg beyond] at growth
    exact .inl ⟨.inr ⟨full, .inl (by omega)⟩, by
      simp [appendUtterancePcm, ensureCapacity, given, allowed, full, growth]⟩

/-- The buffer grows to the smallest doubling that is enough, and either holds
the new bytes too or is what it was. -/
theorem append_exact (p : Platform) {pcm : List UInt8} {s : System κ}
    (usable : Usable p.sizeBits s.utteranceMetadata) (given : pcm ≠ [])
    (short : pcm.length < 2 ^ p.sizeBits) (realloc : Bool) :
    Doubling p.sizeBits (s.utteranceMetadata.size + pcm.length) (firstCapacity s.utteranceMetadata)
      (growCapacity p.sizeBits (s.utteranceMetadata.size + pcm.length)
        (firstCapacity s.utteranceMetadata)) ∧
    ∃ grown, IsLeast (Doubling.doubled (s.utteranceMetadata.size + pcm.length)
        (firstCapacity s.utteranceMetadata)) grown ∧
      (((appendUtterancePcm p pcm realloc).run s).result = .ok () ∧
          Appended p.sizeBits s.utteranceMetadata pcm grown
            ((appendUtterancePcm p pcm realloc).run s).state.utteranceMetadata ∨
        ((appendUtterancePcm p pcm realloc).run s).result = .error .errIo ∧
          ((appendUtterancePcm p pcm realloc).run s).state.utteranceMetadata =
            s.utteranceMetadata) ∧
      (((appendUtterancePcm p pcm realloc).run s).result = .error .errIo ↔
        Refused p.sizeBits s.utteranceMetadata pcm grown realloc) := by
  obtain ⟨positive, small⟩ := usable.first p.wide
  obtain ⟨grown, least⟩ := Doubling.exists_least (s.utteranceMetadata.size + pcm.length) positive
  refine ⟨growCapacity_doubling positive small, grown, least, ?_⟩
  rcases appendUtterancePcm_spec p usable given short realloc least with
    ⟨refused, run⟩ | ⟨taken, result, appended⟩
  · rw [run]
    exact ⟨.inr ⟨rfl, rfl⟩, iff_of_true rfl refused⟩
  · exact ⟨.inl ⟨result, appended⟩, iff_of_false (by simp [result]) taken⟩

/-- An utterance of 10000 bytes in the first block. -/
def nearlyFull : UtteranceMetadata := ⟨some ⟨40, fun _ => 1⟩, 10000, 10240⟩

/-- Another 640 bytes make it grow. -/
theorem append_exact_grows :
    let s : System Unit := { init Config.initDefaults with utteranceMetadata := nearlyFull }
    let o := (appendUtterancePcm samplePlatform (List.replicate 640 2) true).run s
    o.result = .ok () ∧ o.state.utteranceMetadata.capacity = 20480 ∧
      o.state.utteranceMetadata.contents = List.replicate 10000 1 ++ List.replicate 640 2 := by
  intro s o
  have length : (List.replicate 640 (2 : UInt8)).length = 640 := List.length_replicate
  have given : List.replicate 640 (2 : UInt8) ≠ [] := List.ne_nil_of_length_pos (by omega)
  obtain ⟨_, grown, least, outcome, refused⟩ := append_exact samplePlatform (s := s)
    ⟨by decide, by decide, by decide⟩ given (by rw [length]; decide) true
  have least : IsLeast (Doubling.doubled 10640 10240) grown := by
    rwa [length] at least
  have twice : IsLeast (Doubling.doubled 10640 10240) 20480 := by
    refine ⟨⟨by decide, 1, rfl⟩, ?_⟩
    rintro n ⟨enough, k, rfl⟩
    cases k with
    | zero => omega
    | succ k => have := Nat.two_pow_pos k; omega
  obtain rfl : grown = 20480 := least.unique twice
  rcases outcome with ⟨done, appended⟩ | ⟨failed, _⟩
  · have filled : nearlyFull.contents = List.replicate 10000 1 :=
      List.map_const'.trans (by rw [List.length_range]; rfl)
    refine ⟨done, ?_, ?_⟩
    · rw [appended.capacity, length]
      exact if_neg (by decide)
    · rw [appended.contents]
      exact congrArg (· ++ List.replicate 640 2) filled
  · obtain wraps | ⟨_, wraps | failed⟩ := refused.mp failed
    · exact absurd wraps (by rw [length]; decide)
    · exact absurd wraps (by decide)
    · cases failed

end Assistantd.Supervisor
