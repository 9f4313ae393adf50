import Assistantd.Lib.JsonText

/-! The strings of cJSON.c: what `parse_string` makes of a literal, and how much it
writes on the way. -/
namespace Assistantd.CJson

/-! ## Escapes -/

def hexDigit (c : UInt8) : Option Nat :=
  if 48 ≤ c ∧ c ≤ 57 then some (c.toNat - 48)
  else if 65 ≤ c ∧ c ≤ 70 then some (10 + c.toNat - 65)
  else if 97 ≤ c ∧ c ≤ 102 then some (10 + c.toNat - 97)
  else none

/-- What is not four hexadecimal digits counts as 0. -/
def parseHex4 (input : List UInt8) : Nat :=
  go 0 (input.take 4)
where
  go : Nat → List UInt8 → Nat
  | h, [] => h
  | h, c :: rest =>
    match hexDigit c with
    | none => 0
    | some digit => go (h * 16 + digit) rest

/-- The loop that fills the sequence from its end. `later` is what is filled already. -/
def utf8Loop (firstByteMark : Nat) : Nat → Nat → List UInt8 → List UInt8
  | 0, codepoint, later => ((codepoint ||| firstByteMark) &&& 0xFF).toUInt8 :: later
  | position + 1, codepoint, later =>
    utf8Loop firstByteMark position (codepoint >>> 6) (((codepoint ||| 0x80) &&& 0xBF).toUInt8 :: later)

def encodeUtf8 (codepoint : Nat) : Option (List UInt8) :=
  if codepoint < 0x80 then some [(codepoint &&& 0x7F).toUInt8]
  else if codepoint < 0x800 then some (utf8Loop 0xC0 1 codepoint [])
  else if codepoint < 0x10000 then some (utf8Loop 0xE0 2 codepoint [])
  else if codepoint ≤ 0x10FFFF then some (utf8Loop 0xF0 3 codepoint [])
  else none

/-- The length of the sequence read and the bytes written. `input` ends where the
string does. -/
def utf16LiteralToUtf8 (input : List UInt8) : Option (Nat × List UInt8) :=
  if input.length < 6 then none
  else
    let firstCode := parseHex4 (input.drop 2)
    if 0xDC00 ≤ firstCode ∧ firstCode ≤ 0xDFFF then none
    else if 0xD800 ≤ firstCode ∧ firstCode ≤ 0xDBFF then
      let second := input.drop 6
      if second.length < 6 then none
      else if second.take 2 ≠ [92, 117] then none
      else
        let secondCode := parseHex4 (second.drop 2)
        if secondCode < 0xDC00 ∨ secondCode > 0xDFFF then none
        else
          (encodeUtf8 (0x10000 + (((firstCode &&& 0x3FF) <<< 10) ||| (secondCode &&& 0x3FF)))).map
            fun bytes => (12, bytes)
    else (encodeUtf8 firstCode).map fun bytes => (6, bytes)

/-! ## Literals -/

/-- The first pass over what follows the quote: the length up to the closing one, and
`skipped_bytes`. -/
def scanString : List UInt8 → Option (Nat × Nat)
  | [] => none
  | c :: rest =>
    if c = 34 then some (0, 0)
    else if c = 92 then
      match rest with
      | [] => none
      | _ :: rest => (scanString rest).map fun (length, skipped) => (length + 2, skipped + 1)
    else (scanString rest).map fun (length, skipped) => (length + 1, skipped)

/-- What a one-letter escape stands for. -/
def unescape (letter : UInt8) : Option UInt8 :=
  if letter = 98 then some 8
  else if letter = 102 then some 12
  else if letter = 110 then some 10
  else if letter = 114 then some 13
  else if letter = 116 then some 9
  else if letter = 34 ∨ letter = 92 ∨ letter = 47 then some letter
  else none

/-- The second pass: what it has written when it stops, and whether it got through. -/
structure Decoded where
  output : List UInt8
  complete : Bool
  deriving DecidableEq

def Decoded.after (bytes : List UInt8) (d : Decoded) : Decoded := { d with output := bytes ++ d.output }

/-- `skip` more bytes belong to the sequence before. `input` ends with the closing
quote, where the loop does; an escape may take that quote for its letter. -/
def decode : Nat → List UInt8 → Decoded
  | _, [] => ⟨[], true⟩
  | _, [_] => ⟨[], true⟩
  | skip + 1, _ :: letter :: rest => decode skip (letter :: rest)
  | 0, c :: letter :: rest =>
    if c ≠ 92 then (decode 0 (letter :: rest)).after [c]
    else if letter = 117 then
      match utf16LiteralToUtf8 (c :: letter :: rest).dropLast with
      | none => ⟨[], false⟩
      | some (length, bytes) => (decode (length - 1) (letter :: rest)).after bytes
    else
      match unescape letter with
      | none => ⟨[], false⟩
      | some byte => (decode 1 (letter :: rest)).after [byte]

/-- Without the NUL, what the second pass may write. -/
def allocationLength (length skipped : Nat) : Nat := length + 1 - skipped

/-- What the literal at the beginning of `rest` stands for, and what follows it. -/
def parseString (rest : List UInt8) : Option (List UInt8 × List UInt8) :=
  match rest with
  | [] => none
  | c :: input =>
    if c ≠ 34 then none
    else
      match scanString input with
      | none => none
      | some (length, _) =>
        let decoded := decode 0 (input.take (length + 1))
        if decoded.complete then some (decoded.output, input.drop (length + 1)) else none

/-! ## How much is written -/

theorem decode_skip (skip : Nat) (input : List UInt8) :
    decode skip input = decode 0 (input.drop skip) := by
  induction input generalizing skip with
  | nil => simp [decode]
  | cons c input ih =>
    cases skip with
    | zero => rfl
    | succ skip =>
      rw [List.drop_succ_cons, ← ih]
      cases input with
      | nil => simp [decode]
      | cons letter rest => rfl

/-- The bytes of a literal without those its escapes save, counted from any place in it. -/
def units : List UInt8 → Nat
  | [] => 0
  | [_] => 1
  | c :: d :: rest => if c = 92 then units rest + 1 else units (d :: rest) + 1

theorem units_cons (c : UInt8) (rest : List UInt8) :
    units rest ≤ units (c :: rest) ∧ units (c :: rest) ≤ units rest + 1 := by
  induction rest generalizing c with
  | nil => simp [units]
  | cons d rest ih =>
    have next := ih d
    rw [units]
    split
    · omega
    · omega

theorem units_plain {c : UInt8} (plain : c ≠ 92) (rest : List UInt8) :
    units (c :: rest) = units rest + 1 := by
  cases rest with
  | nil => rfl
  | cons d rest => rw [units, if_neg plain]

theorem units_pair (c d : UInt8) (rest : List UInt8) : units rest + 1 ≤ units (c :: d :: rest) := by
  have next := (units_cons d rest).1
  rw [units]
  split
  · exact Nat.le_refl _
  · omega

theorem units_drop {content : List UInt8} {k : Nat} (inside : 2 * k ≤ content.length) :
    units (content.drop (2 * k)) + k ≤ units content := by
  induction k generalizing content with
  | zero => exact Nat.le_refl _
  | succ k ih =>
    match content with
    | [] => simp at inside
    | [_] =>
      simp only [List.length_singleton] at inside
      omega
    | c :: d :: rest =>
      simp only [List.length_cons] at inside
      have later : units (rest.drop (2 * k)) + k ≤ units rest := ih (by omega)
      have here := units_pair c d rest
      rw [show 2 * (k + 1) = 2 * k + 2 by omega, List.drop_succ_cons, List.drop_succ_cons]
      omega

theorem encodeUtf8_length {codepoint : Nat} {bytes : List UInt8}
    (encoded : encodeUtf8 codepoint = some bytes) :
    bytes.length ≤ 4 ∧ (codepoint < 0x10000 → bytes.length ≤ 3) := by
  unfold encodeUtf8 at encoded
  split_ifs at encoded
  all_goals
    cases encoded
    simp [utf8Loop]
  omega

theorem hexDigit_lt {c : UInt8} {digit : Nat} (valid : hexDigit c = some digit) : digit < 16 := by
  unfold hexDigit at valid
  split_ifs at valid with decimal upper lower
  all_goals
    cases valid
    simp only [UInt8.le_iff_toNat_le, UInt8.reduceToNat] at *
    omega

theorem parseHex4_go_lt (h : Nat) (input : List UInt8) :
    parseHex4.go h input < (h + 1) * 16 ^ input.length := by
  induction input generalizing h with
  | nil => simp [parseHex4.go]
  | cons c rest ih =>
    rw [parseHex4.go]
    split
    · exact Nat.mul_pos (Nat.succ_pos h) (Nat.pow_pos (by decide))
    · next digit valid =>
      have small := hexDigit_lt valid
      refine Nat.lt_of_lt_of_le (ih _) ?_
      rw [List.length_cons, Nat.pow_succ, Nat.mul_comm (16 ^ rest.length) 16, ← Nat.mul_assoc]
      exact Nat.mul_le_mul_right _ (by omega)

theorem parseHex4_lt (input : List UInt8) : parseHex4 input < 0x10000 := by
  have bound := parseHex4_go_lt 0 (input.take 4)
  have few : 16 ^ (input.take 4).length ≤ 16 ^ 4 :=
    Nat.pow_le_pow_right (by decide) (List.length_take_le _ _)
  unfold parseHex4
  omega

/-- A sequence read is twice as long as what is written for it, or longer. -/
theorem utf16_length {input bytes : List UInt8} {length : Nat}
    (read : utf16LiteralToUtf8 input = some (length, bytes)) :
    ∃ k, 0 < k ∧ length = 2 * k ∧ bytes.length ≤ k ∧ length ≤ input.length := by
  simp only [utf16LiteralToUtf8, Option.ite_none_left_eq_some] at read
  obtain ⟨long, _, read⟩ := read
  split at read
  · simp only [Option.ite_none_left_eq_some, Option.map_eq_some_iff, Prod.mk.injEq] at read
    obtain ⟨whole, _, _, _, encoded, rfl, rfl⟩ := read
    have few := (encodeUtf8_length encoded).1
    rw [List.length_drop] at whole
    exact ⟨6, by omega, rfl, by omega, by omega⟩
  · simp only [Option.map_eq_some_iff, Prod.mk.injEq] at read
    obtain ⟨_, encoded, rfl, rfl⟩ := read
    have few := (encodeUtf8_length encoded).2 (parseHex4_lt _)
    exact ⟨3, by omega, rfl, by omega, by omega⟩

theorem decode_units (skip : Nat) (input : List UInt8) :
    (decode skip input).output.length ≤ units (input.dropLast.drop skip) := by
  fun_induction decode skip input with
  | case1 => exact Nat.zero_le _
  | case2 => exact Nat.zero_le _
  | case3 skip _ letter rest ih =>
    rwa [List.dropLast_cons_cons, List.drop_succ_cons]
  | case4 c letter rest plain ih =>
    rw [List.dropLast_cons_cons, List.drop_zero, units_plain plain]
    simpa [Decoded.after, Nat.add_comm] using ih
  | case5 => exact Nat.zero_le _
  | case6 c rest _ length bytes read ih =>
    obtain ⟨k, some_bytes, rfl, few, inside⟩ := utf16_length read
    have later := units_drop inside
    rw [List.dropLast_cons_cons] at later ⊢
    rw [show 2 * k = 2 * k - 1 + 1 by omega, List.drop_succ_cons] at later
    simp only [Decoded.after, List.length_append, List.drop_zero]
    omega
  | case7 => exact Nat.zero_le _
  | case8 c letter rest _ _ byte _ ih =>
    rw [List.dropLast_cons_cons]
    cases rest with
    | nil => simp [decode, Decoded.after, units]
    | cons d rest =>
      rw [List.dropLast_cons_cons] at ih ⊢
      have here := units_pair c letter (d :: rest).dropLast
      simp only [Decoded.after, List.length_append, List.length_singleton, List.drop_succ_cons,
        List.drop_zero] at ih ⊢
      omega

/-- The first pass ends at a quote, and has counted what is before it. -/
theorem scanString_units {input : List UInt8} {length skipped : Nat}
    (ends : scanString input = some (length, skipped)) :
    input[length]? = some 34 ∧ units (input.take length) + skipped = length := by
  fun_induction scanString input generalizing length skipped with
  | case1 => cases ends
  | case2 =>
    cases ends
    exact ⟨rfl, rfl⟩
  | case3 => cases ends
  | case4 _ _ rest ih =>
    obtain ⟨⟨length, skipped⟩, later, same⟩ := Option.map_eq_some_iff.mp ends
    cases same
    obtain ⟨quote, counted⟩ := ih later
    refine ⟨quote, ?_⟩
    rw [List.take_succ_cons, List.take_succ_cons, units, if_pos rfl]
    omega
  | case5 c rest _ plain ih =>
    obtain ⟨⟨length, skipped⟩, later, same⟩ := Option.map_eq_some_iff.mp ends
    cases same
    obtain ⟨quote, counted⟩ := ih later
    refine ⟨quote, ?_⟩
    rw [List.take_succ_cons, units_plain plain]
    omega

/-- Whatever the bytes behind a quote are, and wherever the second pass sees escapes that
the first did not: what it writes, with the NUL, fits in what was allocated. -/
theorem string_fits {input : List UInt8} {length skipped : Nat}
    (ends : scanString input = some (length, skipped)) :
    input[length]? = some 34 ∧
      (decode 0 (input.take (length + 1))).output.length < allocationLength length skipped + 1 := by
  obtain ⟨quote, counted⟩ := scanString_units ends
  have literal : input.take (length + 1) = input.take length ++ [34] := by
    rw [List.take_add_one, quote]
    rfl
  have written := decode_units 0 (input.take length ++ [34])
  rw [List.dropLast_concat, List.drop_zero] at written
  refine ⟨quote, ?_⟩
  rw [literal, allocationLength]
  omega

/-- Of the three escapes the first pass sees, the second reads one as digits of another. -/
theorem string_fits_split : ([92, 117, 49, 50, 92, 34, 92, 110, 34, 0] : List UInt8)[8]? = some 34 ∧
    (decode 0 [92, 117, 49, 50, 92, 34, 92, 110, 34]).output.length < allocationLength 8 3 + 1 :=
  @string_fits [92, 117, 49, 50, 92, 34, 92, 110, 34, 0] 8 3 (by decide)

end Assistantd.CJson
