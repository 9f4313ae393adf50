import Assistantd.Lib.CText

/-! UTF-8 text in C strings: what cutting and trimming do to it. -/
namespace Utf8

open CText (isspace trim)

def Valid (bytes : List UInt8) : Prop := bytes.toByteArray.IsValidUTF8

/-- Cut after `n` bytes, the text is not cut inside a character. -/
def CutsWhole (n : Nat) (bytes : List UInt8) : Prop :=
  ∀ c, bytes[n]? = some c → c.IsUTF8FirstByte

theorem valid_append {xs ys : List UInt8} (first : Valid xs) (second : Valid ys) :
    Valid (xs ++ ys) := by
  unfold Valid
  rw [List.toByteArray_append]
  exact first.append second

theorem extract_take (bytes : List UInt8) (n : Nat) :
    bytes.toByteArray.extract 0 n = (bytes.take n).toByteArray := by
  apply ByteArray.ext
  simp

theorem take_valid_iff {bytes : List UInt8} (valid : Valid bytes) (n : Nat) :
    Valid (bytes.take n) ↔ CutsWhole n bytes := by
  rcases Nat.lt_or_ge n bytes.length with less | beyond
  · let text : String := ⟨bytes.toByteArray, valid⟩
    have size : text.rawEndPos = ⟨bytes.length⟩ := by
      simp [text, String.rawEndPos, ← String.size_toByteArray]
    have whole := @String.Pos.Raw.isValid_iff_isUTF8FirstByte text ⟨n⟩
    have before := @String.Pos.Raw.isValid_iff_isValidUTF8_extract_zero text ⟨n⟩
    rw [before] at whole
    simp only [size, String.Pos.Raw.le_iff, String.Pos.Raw.lt_iff, String.getUTF8Byte,
      String.Pos.Raw.mk.injEq, text, extract_take, List.getElem_toByteArray] at whole
    simp only [Valid, CutsWhole, List.getElem?_eq_getElem less, Option.some.injEq, forall_eq']
    constructor
    · intro valid_before
      rcases whole.mp ⟨Nat.le_of_lt less, valid_before⟩ with full | ⟨_, first⟩
      · omega
      · exact first
    · intro first
      exact (whole.mpr (.inr ⟨less, first⟩)).2
  · rw [List.take_of_length_le beyond]
    apply iff_of_true valid
    intro c inside
    rw [List.getElem?_eq_none beyond] at inside
    cases inside

/-! ## Whitespace is ASCII -/

theorem isspace_cases {c : UInt8} (space : isspace c = true) :
    c = 32 ∨ c = 9 ∨ c = 10 ∨ c = 11 ∨ c = 12 ∨ c = 13 := by
  simp only [isspace, Bool.or_eq_true, Bool.and_eq_true, decide_eq_true_eq,
    UInt8.le_iff_toNat_le, ← UInt8.toNat_inj] at space ⊢
  simp only [UInt8.reduceToNat] at space ⊢
  omega

/-- A whitespace byte is a character of its own. -/
theorem space_first {c : UInt8} (space : isspace c = true) : c.IsUTF8FirstByte := by
  rcases isspace_cases space with rfl | rfl | rfl | rfl | rfl | rfl <;> decide

theorem valid_space_cons {c : UInt8} (space : isspace c = true) {rest : List UInt8} :
    Valid (c :: rest) ↔ Valid rest := by
  have encoded : [c].toByteArray = [Char.ofNat c.toNat].utf8Encode := by
    rcases isspace_cases space with rfl | rfl | rfl | rfl | rfl | rfl <;> rfl
  unfold Valid
  rw [← List.singleton_append, List.toByteArray_append, encoded]
  exact ByteArray.isValidUTF8_utf8Encode_singleton_append_iff

theorem valid_space_snoc {c : UInt8} (space : isspace c = true) {rest : List UInt8}
    (valid : Valid (rest ++ [c])) : Valid rest := by
  have cut := (take_valid_iff valid rest.length).mpr (by
    intro d last
    rw [List.getElem?_concat_length, Option.some.injEq] at last
    exact last ▸ space_first space)
  rwa [List.take_left] at cut

theorem trim_valid {text : List UInt8} (valid : Valid text) : Valid (trim text) := by
  have start : Valid (text.dropWhile isspace) := by
    induction text with
    | nil => exact valid
    | cons c rest ih =>
      by_cases space : isspace c = true
      · rw [List.dropWhile_cons_of_pos space]
        exact ih ((valid_space_cons space).mp valid)
      · rw [List.dropWhile_cons_of_neg space]
        exact valid
  unfold trim
  generalize text.dropWhile isspace = rest at start
  induction rest using List.reverseRecOn with
  | nil => exact start
  | append_singleton rest c ih =>
    by_cases space : isspace c = true
    · rw [List.rdropWhile_concat_pos _ _ _ space]
      exact ih (valid_space_snoc space start)
    · rw [List.rdropWhile_concat_neg _ _ _ space]
      exact start

end Utf8
