import Assistantd.Adapter.Llm
import Assistantd.Adapter.Stt
import Assistantd.Lib.Doubling

/-! The two write callbacks: one body from any chunks. -/
namespace Assistantd.ResponseBuffer

variable {w : Nat} {callback : ResponseBuffer → Chunk → Option (Nat × ResponseBuffer)}
  {start : Nat → Nat}

/-- The bytes before the terminator. -/
def contents (b : ResponseBuffer) : List UInt8 := Cells.slice (b.data.getD fun _ => 0) 0 b.size

/-- What has to fit behind a chunk. -/
def needed (b : ResponseBuffer) (chunk : Chunk) : Nat := b.size + chunk.bytes.length + 1

/-- The loop of a callback ends like the one without wraparound where that does not wrap. -/
theorem doubleUntil_some {enough : Nat → Bool} {need c n : Nat}
    (means : ∀ c, enough c = true ↔ need ≤ c) (positive : 0 < c) (small : c < 2 ^ w)
    (ends : Doubling w need c (some n)) : doubleUntil w enough c = some n := by
  have rounds : ∀ rounds c, c < 2 ^ w → 2 ^ w ≤ c * 2 ^ rounds → Doubling w need c (some n) →
      doubleUntil.go w enough rounds c = some n := by
    intro rounds
    induction rounds with
    | zero =>
      intro c small far
      omega
    | succ rounds ih =>
      intro c small far ends
      cases ends with
      | done reached => simp only [doubleUntil.go, if_pos ((means _).mpr reached)]
      | twice short fits later =>
        have more : ¬ enough c = true := by
          rw [means]
          omega
        simp only [doubleUntil.go, if_neg more, Nat.mod_eq_of_lt fits]
        exact ih _ fits (by rw [Nat.pow_succ] at far; linarith) later
  apply rounds _ _ small _ ends
  calc 2 ^ w ≤ 2 ^ (w + 1) := Nat.pow_le_pow_right (by decide) (by omega)
    _ = 1 * 2 ^ (w + 1) := (Nat.one_mul _).symm
    _ ≤ c * 2 ^ (w + 1) := Nat.mul_le_mul_right _ positive

/-- What both callbacks do while the sizes fit: they differ in the capacity their
loop starts from. -/
structure Collector (w : Nat) (callback : ResponseBuffer → Chunk → Option (Nat × ResponseBuffer))
    (start : Nat → Nat) : Prop where
  room : ∀ b chunk, b.needed chunk < 2 ^ w → b.needed chunk ≤ b.capacity →
    callback b chunk = some (chunk.bytes.length, b.append w chunk.bytes)
  grow : ∀ b chunk n, b.needed chunk < 2 ^ w → b.capacity < b.needed chunk →
    0 < start b.capacity → start b.capacity < 2 ^ w →
    Doubling w (b.needed chunk) (start b.capacity) (some n) →
    callback b chunk = if chunk.realloc then
      some (chunk.bytes.length, (b.resize n).append w chunk.bytes) else some (0, b)

/-- Where the loops start. -/
def sttStart (capacity : Nat) : Nat := if capacity = 0 then 4096 else capacity

def llmStart (capacity : Nat) : Nat := if capacity = 0 then 4096 else 2 * capacity

theorem stt_collector (w : Nat) : Collector w (SttAdapter.writeCallback w) sttStart where
  room b chunk fits room := by
    unfold needed at fits room
    simp only [SttAdapter.writeCallback, Nat.mod_eq_of_lt fits]
    rw [if_neg (by omega)]
  grow b chunk n fits short positive small ends := by
    unfold needed at fits short
    have found := @doubleUntil_some w (fun c => c ≥ b.needed chunk) _ _ _
      (fun c => decide_eq_true_iff) positive small ends
    unfold needed sttStart at found
    simp only [SttAdapter.writeCallback, Nat.mod_eq_of_lt fits]
    rw [if_pos short, found]

theorem llm_collector (w : Nat) : Collector w (LlmAdapter.writeCallback w) llmStart where
  room b chunk fits room := by
    unfold needed at fits room
    simp only [LlmAdapter.writeCallback]
    rw [Nat.mod_eq_of_lt (by omega), if_neg (by omega)]
  grow b chunk n fits short positive small ends := by
    unfold needed at fits short
    have found := @doubleUntil_some w (fun c => c > b.size + chunk.bytes.length) _ _ _
      (fun c => decide_eq_true_iff) positive small ends
    have same : (if b.capacity = 0 then 4096 else 2 * b.capacity % 2 ^ w) =
        llmStart b.capacity := by
      unfold llmStart at small ⊢
      split
      · rfl
      · rename_i used
        rw [if_neg used] at small
        exact Nat.mod_eq_of_lt small
    simp only [LlmAdapter.writeCallback]
    rw [Nat.mod_eq_of_lt (by omega), if_pos (by omega), same, found]

/-- The buffer holds `bytes` and a terminator, inside its capacity. -/
structure Body (b : ResponseBuffer) (bytes : List UInt8) : Prop where
  contents : b.contents = bytes
  terminated : ∃ data, b.data = some data ∧ data b.size = 0
  room : b.size < b.capacity

theorem append_body {b : ResponseBuffer} {chunk : Chunk} (block : b.data.isSome = true)
    (fits : b.needed chunk < 2 ^ w) (room : b.needed chunk ≤ b.capacity) :
    (b.append w chunk.bytes).Body (b.contents ++ chunk.bytes) := by
  obtain ⟨data, present⟩ := Option.isSome_iff_exists.mp block
  unfold needed at fits room
  have size : (b.size + chunk.bytes.length) % 2 ^ w = b.size + chunk.bytes.length :=
    Nat.mod_eq_of_lt (by omega)
  constructor
  · simp only [contents, append, present, Option.map_some, Option.getD_some, size]
    rw [← Cells.slice_copyIn_append]
    apply List.ext_getElem (by simp)
    intro i inside _
    rw [Cells.slice_length] at inside
    rw [Cells.slice_getElem, Cells.slice_getElem, Function.update_of_ne (by omega)]
  · refine ⟨_, by simp only [append, present, Option.map_some]; rfl, ?_⟩
    simp only [append, Function.update_self]
  · simp only [append, size]
    omega

/-- What a run of calls leads to: a capacity is 0 or a power of two, and there
is storage behind it. -/
structure Sized (w : Nat) (b : ResponseBuffer) : Prop where
  powers : b.capacity = 0 ∨ ∃ j < w, b.capacity = 2 ^ j
  block : b.capacity ≠ 0 → b.data.isSome = true

/-- A start below `2 ^ (w - 1)` wherever the buffer is too small and the need is not. -/
def Starts (w : Nat) (start : Nat → Nat) : Prop :=
  ∀ b : ResponseBuffer, ∀ need, Sized w b → b.capacity < need → need ≤ 2 ^ (w - 1) →
    ∃ j ≤ w - 1, start b.capacity = 2 ^ j

theorem stt_starts (wide : 16 ≤ w) : Starts w sttStart := by
  intro b need sized short fits
  unfold sttStart
  rcases sized.powers with unused | ⟨j, small, power⟩
  · exact ⟨12, by omega, by rw [if_pos unused]; rfl⟩
  · have positive := Nat.two_pow_pos j
    exact ⟨j, by omega, by rw [if_neg (by omega), power]⟩

theorem llm_starts (wide : 16 ≤ w) : Starts w llmStart := by
  intro b need sized short fits
  unfold llmStart
  rcases sized.powers with unused | ⟨j, small, power⟩
  · exact ⟨12, by omega, by rw [if_pos unused]; rfl⟩
  · have positive := Nat.two_pow_pos j
    have less : j < w - 1 := by
      rw [← Nat.pow_lt_pow_iff_right (by decide : 1 < 2)]
      omega
    exact ⟨j + 1, less, by rw [if_neg (by omega), power, Nat.pow_succ, Nat.mul_comm]⟩

/-- A call that takes its chunk: every sum and every capacity on the way is below `2 ^ w`. -/
structure Taken (w : Nat) (callback : ResponseBuffer → Chunk → Option (Nat × ResponseBuffer))
    (start : Nat → Nat) (b : ResponseBuffer) (chunk : Chunk) (after : ResponseBuffer) : Prop where
  returns : callback b chunk = some (chunk.bytes.length, after)
  sum : b.needed chunk < 2 ^ w
  growth : b.capacity < b.needed chunk →
    start b.capacity < 2 ^ w ∧ Doubling w (b.needed chunk) (start b.capacity) (some after.capacity)
  body : after.Body (b.contents ++ chunk.bytes)
  sized : Sized w after

/-- A call that has to grow either gets the memory or changes nothing. -/
theorem Collector.grows (h : Collector w callback start) (starts : Starts w start) (wide : 16 ≤ w)
    {b : ResponseBuffer} (sized : Sized w b) {chunk : Chunk}
    (fits : b.needed chunk ≤ 2 ^ (w - 1)) (short : b.capacity < b.needed chunk) :
    ∃ n, start b.capacity < 2 ^ w ∧ Doubling w (b.needed chunk) (start b.capacity) (some n) ∧
      (∃ j < w, n = 2 ^ j) ∧ b.needed chunk ≤ n ∧
      callback b chunk = if chunk.realloc then
        some (chunk.bytes.length, (b.resize n).append w chunk.bytes) else some (0, b) := by
  have half : 2 ^ (w - 1) < 2 ^ w := Nat.pow_lt_pow_right (by decide) (by omega)
  obtain ⟨j, bound, power⟩ := starts b _ sized short fits
  have positive : 0 < start b.capacity := power ▸ Nat.two_pow_pos j
  have small : start b.capacity < 2 ^ w := by
    rw [power]
    exact Nat.pow_lt_pow_right (by decide) (by omega)
  obtain ⟨r, ends⟩ := Doubling.total (b.needed chunk) positive small
  have ends' := ends
  rw [power] at ends'
  obtain ⟨i, _, below, enough, rfl⟩ := ends'.within bound (by omega) fits
  exact ⟨2 ^ i, small, ends, ⟨i, by omega, rfl⟩, enough,
    h.grow b chunk _ (by omega) short positive small ends⟩

theorem Collector.takes (h : Collector w callback start) (starts : Starts w start) (wide : 16 ≤ w)
    {b : ResponseBuffer} (sized : Sized w b) {chunk : Chunk}
    (fits : b.needed chunk ≤ 2 ^ (w - 1)) (memory : chunk.realloc = true) :
    ∃ after, Taken w callback start b chunk after := by
  have half : 2 ^ (w - 1) < 2 ^ w := Nat.pow_lt_pow_right (by decide) (by omega)
  by_cases short : b.capacity < b.needed chunk
  · obtain ⟨n, small, ends, power, enough, called⟩ := h.grows starts wide sized fits short
    rw [if_pos memory] at called
    have body := @append_body w (b.resize n) chunk rfl
      (show b.size + _ + 1 < _ by unfold needed at fits; omega) enough
    refine ⟨_, called, by omega, fun _ => ⟨small, ends⟩, ?_, .inr power, fun _ => ?_⟩
    · exact body
    · rfl
  · have block := sized.block (by unfold needed at short; omega)
    refine ⟨_, h.room b chunk (by omega) (by omega), by omega, fun less => absurd less short,
      append_body block (by omega) (by omega), sized.powers, fun _ => ?_⟩
    simpa [append] using block

/-! ## Whole responses -/

def received (chunks : List Chunk) : List UInt8 := chunks.flatMap Chunk.bytes

@[simp] theorem received_snoc (chunks : List Chunk) (chunk : Chunk) :
    received (chunks ++ [chunk]) = received chunks ++ chunk.bytes := by
  simp [received]

/-- The calls for these chunks, each of which takes its chunk and leaves all
that was received so far. -/
inductive Rebuilds (w : Nat) (callback : ResponseBuffer → Chunk → Option (Nat × ResponseBuffer))
    (start : Nat → Nat) (empty : ResponseBuffer) : List Chunk → ResponseBuffer → Prop where
  | nil : Rebuilds w callback start empty [] empty
  | snoc {chunks b chunk after} : Rebuilds w callback start empty chunks b →
      Taken w callback start b chunk after → after.Body (received (chunks ++ [chunk])) →
      Rebuilds w callback start empty (chunks ++ [chunk]) after

theorem Rebuilds.collect {empty b : ResponseBuffer} {chunks : List Chunk}
    (h : Rebuilds w callback start empty chunks b) (later : List Chunk) :
    Assistantd.collect callback empty (chunks ++ later) = Assistantd.collect callback b later := by
  induction h generalizing later with
  | nil => rfl
  | snoc _ taken _ ih =>
    rw [List.append_assoc, ih]
    simp [Assistantd.collect, taken.returns]

theorem Collector.rebuilds (h : Collector w callback start) (starts : Starts w start)
    (wide : 16 ≤ w) {empty : ResponseBuffer} (sized : Sized w empty)
    (nothing : empty.contents = []) {chunks : List Chunk}
    (fits : (received chunks).length + 1 ≤ 2 ^ (w - 1))
    (memory : ∀ chunk ∈ chunks, chunk.realloc = true) :
    ∃ b, Rebuilds w callback start empty chunks b ∧ Sized w b ∧ b.contents = received chunks := by
  induction chunks using List.reverseRecOn with
  | nil => exact ⟨empty, .nil, sized, nothing⟩
  | append_singleton chunks chunk ih =>
    rw [received_snoc, List.length_append] at fits
    obtain ⟨b, rebuilds, sized, contents⟩ := ih (by omega)
      (fun c member => memory c (List.mem_append_left _ member))
    have size : b.size = (received chunks).length := by
      rw [← contents, ResponseBuffer.contents, Cells.slice_length]
    obtain ⟨after, taken⟩ := h.takes starts wide sized
      (show b.needed chunk ≤ _ by unfold needed; omega) (memory chunk (by simp))
    have body := taken.body
    rw [contents, ← received_snoc] at body
    exact ⟨after, .snoc rebuilds taken body, taken.sized, body.contents⟩

/-- Where there is no memory for it, a chunk is refused and the buffer is as before. -/
theorem Collector.refuses (h : Collector w callback start) (starts : Starts w start)
    (wide : 16 ≤ w) {b : ResponseBuffer} (sized : Sized w b) {chunk : Chunk}
    (fits : b.needed chunk ≤ 2 ^ (w - 1)) (short : b.capacity < b.needed chunk)
    (failed : chunk.realloc = false) : callback b chunk = some (0, b) := by
  obtain ⟨_, _, _, _, _, called⟩ := h.grows starts wide sized fits short
  rw [called, failed]
  rfl

theorem stt_empty (w : Nat) (wide : 16 ≤ w) : Sized w SttAdapter.emptyResponse :=
  ⟨.inr ⟨0, by omega, rfl⟩, fun _ => rfl⟩

theorem llm_empty (w : Nat) : Sized w LlmAdapter.emptyResponse :=
  ⟨.inl rfl, fun used => absurd rfl used⟩

/-- Both callbacks rebuild a body from whatever chunks it comes in. -/
theorem bodies_rebuilt (p : Platform) {chunks chunks' : List Chunk}
    (same : received chunks' = received chunks)
    (fits : (received chunks).length + 1 ≤ 2 ^ (p.sizeBits - 1))
    (memory : ∀ chunk ∈ chunks, chunk.realloc = true)
    (memory' : ∀ chunk ∈ chunks', chunk.realloc = true) :
    ∃ stt llm,
      Rebuilds p.sizeBits (SttAdapter.writeCallback p.sizeBits) sttStart SttAdapter.emptyResponse
        chunks stt ∧
      Rebuilds p.sizeBits (LlmAdapter.writeCallback p.sizeBits) llmStart LlmAdapter.emptyResponse
        chunks' llm ∧
      collect (SttAdapter.writeCallback p.sizeBits) SttAdapter.emptyResponse chunks =
        some (true, stt) ∧
      collect (LlmAdapter.writeCallback p.sizeBits) LlmAdapter.emptyResponse chunks' =
        some (true, llm) ∧
      stt.contents = received chunks ∧ llm.contents = stt.contents ∧
      ∀ chunk, chunk.realloc = false →
        (stt.needed chunk ≤ 2 ^ (p.sizeBits - 1) → stt.capacity < stt.needed chunk →
          SttAdapter.writeCallback p.sizeBits stt chunk = some (0, stt)) ∧
        (llm.needed chunk ≤ 2 ^ (p.sizeBits - 1) → llm.capacity < llm.needed chunk →
          LlmAdapter.writeCallback p.sizeBits llm chunk = some (0, llm)) := by
  obtain ⟨stt, rebuilt, sized, contents⟩ := (stt_collector p.sizeBits).rebuilds
    (stt_starts p.wide) p.wide (stt_empty _ p.wide) rfl fits memory
  obtain ⟨llm, rebuilt', sized', contents'⟩ := (llm_collector p.sizeBits).rebuilds
    (llm_starts p.wide) p.wide (llm_empty _) rfl (by rwa [same]) memory'
  have collected := rebuilt.collect []
  have collected' := rebuilt'.collect []
  rw [List.append_nil] at collected collected'
  refine ⟨stt, llm, rebuilt, rebuilt', collected, collected', contents,
    by rw [contents', same, contents], ?_⟩
  intro chunk failed
  constructor
  · intro fits short
    exact (stt_collector _).refuses (stt_starts p.wide) p.wide sized fits short failed
  · intro fits short
    exact (llm_collector _).refuses (llm_starts p.wide) p.wide sized' fits short failed

/-- One body, in one chunk and in three. -/
theorem bodies_rebuilt_three : ∃ stt llm,
    collect (SttAdapter.writeCallback 16) SttAdapter.emptyResponse [⟨[1, 2], true⟩] =
      some (true, stt) ∧
    collect (LlmAdapter.writeCallback 16) LlmAdapter.emptyResponse
      [⟨[1], true⟩, ⟨[], true⟩, ⟨[2], true⟩] = some (true, llm) ∧
    stt.contents = [1, 2] ∧ llm.contents = [1, 2] := by
  obtain ⟨stt, llm, _, _, heard, answered, contents, same, _⟩ := @bodies_rebuilt
    ⟨16, by decide, 32, fun _ => none, fun _ => []⟩
    [⟨[1, 2], true⟩] [⟨[1], true⟩, ⟨[], true⟩, ⟨[2], true⟩] rfl (by decide) (by simp) (by simp)
  exact ⟨stt, llm, heard, answered, contents, same.trans contents⟩

end Assistantd.ResponseBuffer
