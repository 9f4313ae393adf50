import Assistantd.CJson.Grammar

/-! The leaves of a text: what the two passes over a string make of the pieces of a
literal, and what `strtod` takes of a numeral. -/
namespace Assistantd.CJson

open JsonText

/-! ## UTF-8 -/

theorem char_range (c : Char) : c.toNat < 0xD800 ∨ (0xDFFF < c.toNat ∧ c.toNat < 0x110000) := c.valid

theorem byte_continuation (v : Nat) :
    UInt8.ofNat ((v ||| 0x80) &&& 0xBF) = UInt8.ofNat (v % 64 + 0x80) := by
  have low : ∀ b : Fin 256, ((b.val ||| 128) &&& 191) % 256 = (b.val % 64 + 128) % 256 := by
    decide +kernel
  have byte := low ⟨v % 256, Nat.mod_lt _ (by decide)⟩
  have bits : ((v ||| 128) &&& 191) % 2 ^ 8 = ((v % 2 ^ 8 ||| 128) &&& 191) % 2 ^ 8 := by
    simp only [Nat.and_mod_two_pow, Nat.or_mod_two_pow, Nat.mod_mod]
  rw [UInt8.ofNat_eq_iff_mod_eq_toNat, UInt8.toNat_ofNat', bits]
  simp only [Nat.reducePow, Nat.mod_mod_of_dvd v (show 64 ∣ 256 by decide)] at byte ⊢
  exact byte

/-- Above the bits of its mark, a first byte has room for what is left of the code point. -/
theorem byte_first (mark : Nat) {v room : Nat} (small : v < room)
    (apart : ∀ b : Fin room, (b.val ||| mark) &&& 0xFF = b.val % room + mark) :
    ((v ||| mark) &&& 0xFF).toUInt8 = UInt8.ofNat (v % room + mark) :=
  congrArg UInt8.ofNat (apart ⟨v, small⟩)

theorem encodeUtf8_char (c : Char) : encodeUtf8 c.toNat = some (String.utf8EncodeChar c) := by
  have bound := char_range c
  unfold encodeUtf8 String.utf8EncodeChar
  simp only [show c.val.toNat = c.toNat from rfl]
  generalize c.toNat = v at bound
  by_cases one : v < 0x80
  · have low : ∀ b : Fin 128, b.val &&& 0x7F = b.val := by decide +kernel
    rw [if_pos one, if_pos (by omega), low ⟨v, one⟩]
  rw [if_neg one, if_neg (show ¬ v ≤ 0x7F by omega)]
  by_cases two : v < 0x800
  · rw [if_pos two, if_pos (by omega)]
    simp only [utf8Loop, byte_continuation, Nat.shiftRight_eq_div_pow, Nat.reducePow]
    rw [byte_first 0xC0 (show v / 64 < 32 by omega) (by decide +kernel)]
  rw [if_neg two, if_neg (show ¬ v ≤ 0x7FF by omega)]
  by_cases three : v < 0x10000
  · rw [if_pos three, if_pos (by omega)]
    simp only [utf8Loop, byte_continuation, Nat.shiftRight_eq_div_pow, Nat.div_div_eq_div_mul,
      Nat.reducePow, Nat.reduceMul]
    rw [byte_first 0xE0 (show v / 4096 < 16 by omega) (by decide +kernel)]
  · rw [if_neg three, if_pos (by omega), if_neg (by omega)]
    simp only [utf8Loop, byte_continuation, Nat.shiftRight_eq_div_pow, Nat.div_div_eq_div_mul,
      Nat.reducePow, Nat.reduceMul]
    rw [byte_first 0xF0 (show v / 262144 < 8 by omega) (by decide +kernel)]

/-- A character that is not ASCII has no ASCII byte in it. -/
theorem utf8_wide {c : Char} (wide : 0x80 ≤ c.toNat) : ∀ b ∈ String.utf8EncodeChar c, 0x80 ≤ b := by
  have bound := char_range c
  unfold String.utf8EncodeChar
  simp only [show c.val.toNat = c.toNat from rfl]
  generalize c.toNat = v at bound wide
  intro b member
  rw [UInt8.le_iff_toNat_le]
  split_ifs at member
  all_goals
    simp only [List.mem_cons, List.not_mem_nil, or_false] at member
  · omega
  · rcases member with rfl | rfl
    all_goals
      simp only [UInt8.toNat_ofNat', UInt8.reduceToNat]
      omega
  · rcases member with rfl | rfl | rfl
    all_goals
      simp only [UInt8.toNat_ofNat', UInt8.reduceToNat]
      omega
  · rcases member with rfl | rfl | rfl | rfl
    all_goals
      simp only [UInt8.toNat_ofNat', UInt8.reduceToNat]
      omega

theorem utf8_bytes (c : Char) :
    ∀ b ∈ String.utf8EncodeChar c, b.toNat = c.toNat ∨ 0x80 ≤ b := by
  intro b member
  by_cases wide : 0x80 ≤ c.toNat
  · exact .inr (utf8_wide wide b member)
  · have ascii : String.utf8EncodeChar c = [UInt8.ofNat c.toNat] :=
      if_pos (show c.toNat ≤ 0x7F by omega)
    rw [ascii, List.mem_singleton] at member
    left
    rw [member, UInt8.toNat_ofNat']
    omega

/-! ## Pieces of a literal -/

theorem scanString_quote (later : List UInt8) : scanString (34 :: later) = some (0, 0) := by
  rw [scanString.eq_def]
  rfl

theorem scanString_plain {c : UInt8} (quote : c ≠ 34) (backslash : c ≠ 92) (later : List UInt8) :
    scanString (c :: later) = (scanString later).map fun (length, k) => (length + 1, k + 0) := by
  rw [scanString.eq_def]
  simp only [quote, backslash, if_false]
  rfl

theorem scanString_escape (letter : UInt8) (later : List UInt8) :
    scanString (92 :: letter :: later) =
      (scanString later).map fun (length, k) => (length + 2, k + 1) := by
  rw [scanString.eq_def]
  rfl

/-- What the passes do at a piece of a literal: the first is at its end, and the second has
written `out` for it. -/
structure Reads (raw out : List UInt8) : Prop where
  scan : ∃ skipped, ∀ later, scanString (raw ++ later) =
    (scanString later).map fun (length, k) => (length + raw.length, k + skipped)
  decode : ∀ later, later ≠ [] → decode 0 (raw ++ later) = (decode 0 later).after out

theorem Reads.nil : Reads [] [] where
  scan := ⟨0, fun later => by simp⟩
  decode later _ := rfl

theorem Reads.append {raw out raw' out' : List UInt8} (first : Reads raw out)
    (second : Reads raw' out') : Reads (raw ++ raw') (out ++ out') where
  scan := by
    obtain ⟨k, scan⟩ := first.scan
    obtain ⟨k', scan'⟩ := second.scan
    refine ⟨k' + k, fun later => ?_⟩
    rw [List.append_assoc, scan, scan', Option.map_map, List.length_append]
    congr 1
    funext ⟨length, skipped⟩
    simp only [Function.comp, Prod.mk.injEq]
    omega
  decode later more := by
    rw [List.append_assoc, first.decode _ (List.append_ne_nil_of_right_ne_nil _ more),
      second.decode later more]
    simp [Decoded.after]

theorem Reads.flatMap {σ : Type} {raw out : σ → List UInt8} {pieces : List σ}
    (reads : ∀ p ∈ pieces, Reads (raw p) (out p)) :
    Reads (pieces.flatMap raw) (pieces.flatMap out) := by
  induction pieces with
  | nil => exact .nil
  | cons p pieces ih =>
    rw [List.flatMap_cons, List.flatMap_cons]
    exact (reads p (List.mem_cons_self ..)).append
      (ih fun p member => reads p (List.mem_cons_of_mem _ member))

/-- A literal whose pieces are read is read. -/
theorem parseString_reads {raw out : List UInt8} (reads : Reads raw out) (rest : List UInt8) :
    parseString (34 :: (raw ++ 34 :: rest)) = some (out, rest) := by
  obtain ⟨skipped, scan⟩ := reads.scan
  have scanned : scanString (raw ++ 34 :: rest) = some (raw.length, skipped) := by
    rw [scan, scanString_quote]
    simp
  have literal : (raw ++ 34 :: rest).take (raw.length + 1) = raw ++ [34] := by
    simp [List.take_append]
  have behind : (raw ++ 34 :: rest).drop (raw.length + 1) = rest := by
    simp [List.drop_append]
  have decoded : decode 0 (raw ++ [34]) = ⟨out, true⟩ := by
    rw [reads.decode _ (List.cons_ne_nil _ _)]
    simp [decode, Decoded.after]
  rw [parseString]
  simp only [scanned, literal, decoded, behind, ne_eq, not_true_eq_false, if_false, if_true]

theorem reads_plain {c : UInt8} (quote : c ≠ 34) (backslash : c ≠ 92) : Reads [c] [c] where
  scan := ⟨0, fun later => scanString_plain quote backslash later⟩
  decode later more := by
    obtain ⟨d, rest, rfl⟩ := List.exists_cons_of_ne_nil more
    simp [decode, backslash]

theorem reads_plains {bytes : List UInt8} (plain : ∀ c ∈ bytes, c ≠ 34 ∧ c ≠ 92) :
    Reads bytes bytes := by
  have reads : Reads (bytes.flatMap fun c => [c]) (bytes.flatMap fun c => [c]) :=
    .flatMap fun c member => reads_plain (plain c member).1 (plain c member).2
  simpa using reads

theorem reads_letter {letter byte : UInt8} (escape : unescape letter = some byte) :
    Reads [92, letter] [byte] where
  scan := ⟨1, fun later => scanString_escape letter later⟩
  decode later more := by
    obtain ⟨d, rest, rfl⟩ := List.exists_cons_of_ne_nil more
    have short : letter ≠ 117 := by
      rintro rfl
      simp [unescape] at escape
    simp [decode, short, escape]

/-! ## Escaped code units -/

theorem hexByte_reads (upper : Bool) {d : Nat} (small : d < 16) :
    hexDigit (hexByte upper d) = some d ∧ hexByte upper d ≠ 34 ∧ hexByte upper d ≠ 92 ∧
      32 < hexByte upper d := by
  have all : ∀ upper : Bool, ∀ d : Fin 16, hexDigit (hexByte upper d.val) = some d.val ∧
      hexByte upper d.val ≠ 34 ∧ hexByte upper d.val ≠ 92 ∧ 32 < hexByte upper d.val := by
    decide +kernel
  exact all upper ⟨d, small⟩

theorem hex4_visible (upper : Fin 4 → Bool) (n : Nat) : ∀ c ∈ hex4 upper n, 32 < c := by
  have visible (u : Bool) (d : Nat) : 32 < hexByte u (d % 16) :=
    (hexByte_reads u (Nat.mod_lt _ (by decide))).2.2.2
  simp only [hex4, List.forall_mem_cons, visible, List.not_mem_nil, false_implies, implies_true,
    and_self]

theorem parseHex4_hex4 (upper : Fin 4 → Bool) {n : Nat} (small : n < 0x10000) (rest : List UInt8) :
    parseHex4 (hex4 upper n ++ rest) = n := by
  have digit (u : Bool) (d : Nat) : hexDigit (hexByte u (d % 16)) = some (d % 16) :=
    (hexByte_reads u (Nat.mod_lt _ (by decide))).1
  simp only [parseHex4, hex4, List.cons_append, List.nil_append, List.take_succ_cons,
    List.take_zero, parseHex4.go, digit]
  omega

theorem scanString_hex4 (upper : Fin 4 → Bool) (n : Nat) (later : List UInt8) :
    scanString (hex4 upper n ++ later) =
      (scanString later).map fun (length, k) => (length + 4, k) := by
  have plain (u : Bool) (d : Nat) := (hexByte_reads u (Nat.mod_lt d (show 0 < 16 by decide))).2
  simp only [hex4, List.cons_append, List.nil_append, scanString_plain (plain _ _).1 (plain _ _).2.1,
    Option.map_map]
  rfl

theorem decode_unicode {rest bytes : List UInt8} {length : Nat}
    (read : utf16LiteralToUtf8 (92 :: 117 :: rest).dropLast = some (length + 1, bytes)) :
    decode 0 (92 :: 117 :: rest) = (decode 0 ((117 :: rest).drop length)).after bytes := by
  rw [List.dropLast_cons_cons] at read
  rw [← decode_skip]
  simp [decode, read]

theorem utf16_basic (c : Char) (basic : c.toNat < 0x10000) (upper : Fin 4 → Bool)
    (rest : List UInt8) : utf16LiteralToUtf8 (92 :: 117 :: (hex4 upper c.toNat ++ rest)) =
      some (6, String.utf8EncodeChar c) := by
  have range := char_range c
  have long : ¬ (92 :: 117 :: (hex4 upper c.toNat ++ rest)).length < 6 := by
    simp [hex4]
  have low : ¬ (0xDC00 ≤ c.toNat ∧ c.toNat ≤ 0xDFFF) := by omega
  have high : ¬ (0xD800 ≤ c.toNat ∧ c.toNat ≤ 0xDBFF) := by omega
  rw [utf16LiteralToUtf8, if_neg long]
  simp only [List.drop_succ_cons, List.drop_zero, parseHex4_hex4 upper basic, if_neg low,
    if_neg high, encodeUtf8_char, Option.map_some]

/-- The ten bits of each half. -/
theorem surrogates_codepoint {n : Nat} (small : n < 0x100000) :
    ((0xD800 + n / 1024) &&& 0x3FF) <<< 10 ||| ((0xDC00 + n % 1024) &&& 0x3FF) = n := by
  have bits (x : Nat) : x &&& 0x3FF = x % 1024 := Nat.and_two_pow_sub_one_eq_mod x 10
  have low : (0xDC00 + n % 1024) % 1024 < 2 ^ 10 := Nat.mod_lt _ (by decide)
  rw [bits, bits, ← Nat.shiftLeft_add_eq_or_of_lt low, Nat.shiftLeft_eq]
  omega

theorem utf16_surrogates (c : Char) (beyond : 0x10000 ≤ c.toNat) (upperHigh upperLow : Fin 4 → Bool)
    (rest : List UInt8) : utf16LiteralToUtf8 (92 :: 117 ::
      (hex4 upperHigh (0xD800 + (c.toNat - 0x10000) / 1024) ++ (92 :: 117 ::
        (hex4 upperLow (0xDC00 + (c.toNat - 0x10000) % 1024) ++ rest)))) =
      some (12, String.utf8EncodeChar c) := by
  have range := char_range c
  have codepoint := surrogates_codepoint (n := c.toNat - 0x10000) (by omega)
  generalize split : c.toNat - 0x10000 = n at codepoint
  have first : 0xD800 + n / 1024 < 0x10000 ∧ 0xD800 ≤ 0xD800 + n / 1024 ∧
      0xD800 + n / 1024 ≤ 0xDBFF := by omega
  have second : 0xDC00 + n % 1024 < 0x10000 ∧ ¬ (0xDC00 + n % 1024 < 0xDC00 ∨
      0xDC00 + n % 1024 > 0xDFFF) := by omega
  have low : ¬ (0xDC00 ≤ 0xD800 + n / 1024 ∧ 0xD800 + n / 1024 ≤ 0xDFFF) := by omega
  generalize high : 92 :: 117 :: (hex4 upperLow (0xDC00 + n % 1024) ++ rest) = later
  have whole : ¬ (92 :: 117 :: (hex4 upperHigh (0xD800 + n / 1024) ++ later)).length < 6 := by
    simp [hex4]
  have half : (92 :: 117 :: (hex4 upperHigh (0xD800 + n / 1024) ++ later)).drop 6 = later := rfl
  have cut : ¬ later.length < 6 := by
    rw [← high]
    simp [hex4]
  have introduced : later.take 2 = [92, 117] := by
    rw [← high]
    rfl
  have digits : parseHex4 (later.drop 2) = 0xDC00 + n % 1024 := by
    rw [← high]
    exact parseHex4_hex4 upperLow second.1 rest
  rw [utf16LiteralToUtf8, if_neg whole]
  simp only [List.drop_succ_cons, List.drop_zero, parseHex4_hex4 upperHigh first.1, if_neg low,
    if_pos first.2, half, if_neg cut, introduced, digits, if_neg second.2, codepoint,
    ne_eq, not_true_eq_false, if_false]
  rw [← split, show 0x10000 + (c.toNat - 0x10000) = c.toNat by omega, encodeUtf8_char]
  rfl

theorem utf8_plain {c : Char} (quote : c ≠ '"') (backslash : c ≠ '\\') :
    ∀ b ∈ String.utf8EncodeChar c, b ≠ 34 ∧ b ≠ 92 := by
  intro b member
  rcases utf8_bytes c b member with byte | high
  · constructor
    · rintro rfl
      exact quote (Char.toNat_inj.mp byte.symm)
    · rintro rfl
      exact backslash (Char.toNat_inj.mp byte.symm)
  · constructor
    · rintro rfl
      exact absurd high (by decide)
    · rintro rfl
      exact absurd high (by decide)

/-- Every piece the grammar allows is read as its character. -/
theorem reads_piece (p : Piece) : Reads p.raw (String.utf8EncodeChar p.char) := by
  cases p with
  | plain c printable quote backslash => exact reads_plains (utf8_plain quote backslash)
  | short s =>
    cases s
    all_goals exact reads_letter rfl
  | unicode c basic upper =>
    refine ⟨⟨1, fun later => ?_⟩, fun later more => ?_⟩
    · simp only [Piece.raw, List.cons_append, scanString_escape, scanString_hex4, Option.map_map]
      rfl
    · have read : utf16LiteralToUtf8 ((Piece.unicode c basic upper).raw ++ later).dropLast =
          some (5 + 1, String.utf8EncodeChar c) := by
        rw [List.dropLast_append_of_ne_nil more]
        exact utf16_basic c basic upper _
      exact decode_unicode read
  | surrogates c beyond upperHigh upperLow =>
    refine ⟨⟨2, fun later => ?_⟩, fun later more => ?_⟩
    · simp only [Piece.raw, List.cons_append, List.append_assoc, scanString_escape, scanString_hex4,
        Option.map_map]
      rfl
    · have read : utf16LiteralToUtf8 ((Piece.surrogates c beyond upperHigh upperLow).raw ++
          later).dropLast = some (11 + 1, String.utf8EncodeChar c) := by
        rw [List.dropLast_append_of_ne_nil more]
        simp only [Piece.raw, List.cons_append, List.append_assoc]
        exact utf16_surrogates c beyond upperHigh upperLow _
      exact decode_unicode read

/-! ## Numerals -/

/-- A numeral `strtod` takes as a whole, no longer than the array it is copied to. -/
structure NumeralText (text : List UInt8) : Prop where
  begins : ∃ c tail, text = c :: tail ∧ (c = 45 ∨ (48 ≤ c ∧ c ≤ 57))
  letters : ∀ c ∈ text, isNumeral c = true
  whole : strtodLength text = text.length
  short : text.length ≤ 63

theorem letters_clean {text : List UInt8} (letters : ∀ c ∈ text, isNumeral c = true) : 0 ∉ text :=
  fun member => absurd (letters 0 member) (by decide)

theorem takeWhile_stops {p : UInt8 → Bool} {rest : List UInt8} (stops : ∀ c ∈ rest.head?, p c = false) :
    rest.takeWhile p = [] := by
  cases rest with
  | nil => rfl
  | cons c rest => simp [stops c rfl]

theorem Stops.take {rest : List UInt8} (stops : Stops rest) (k : Nat) : Stops (rest.take k) := by
  intro c first
  cases k with
  | zero => cases first
  | succ k =>
    cases rest with
    | nil => cases first
    | cons d rest => exact stops c first

theorem parseNumber_text {text rest : List UInt8} (h : NumeralText text) (stops : Stops rest) :
    parseNumber (text ++ rest) = some (.number text, rest) := by
  have copied : ((text ++ rest).take 63).takeWhile isNumeral = text := by
    rw [List.take_append, List.take_of_length_le h.short, List.takeWhile_append_of_pos h.letters,
      takeWhile_stops (stops.take _), List.append_nil]
  obtain ⟨c, tail, rfl, _⟩ := h.begins
  have length : strtodLength (c :: tail) = tail.length + 1 := h.whole
  simp only [parseNumber, copied, length]
  rw [show tail.length + 1 = (c :: tail).length from rfl, List.take_left, List.drop_left]

theorem digits_isDigit (ds : List (Fin 10)) : ∀ c ∈ digits ds, isDigit c = true := by
  have all : ∀ d : Fin 10, isDigit (48 + d.val).toUInt8 = true := by decide
  intro c member
  obtain ⟨d, _, rfl⟩ := List.mem_map.mp member
  exact all d

theorem digitsLength_digits (ds : List (Fin 10)) {rest : List UInt8}
    (stops : ∀ c ∈ rest.head?, isDigit c = false) : digitsLength (digits ds ++ rest) = ds.length := by
  rw [digitsLength, List.takeWhile_append_of_pos (digits_isDigit ds), takeWhile_stops stops]
  simp [digits]

theorem signLength_raw (sign : Option Bool) {ds : List (Fin 10)} (some_digits : ds ≠ [])
    (rest : List UInt8) : signLength (signRaw sign ++ (digits ds ++ rest)) = (signRaw sign).length := by
  match sign with
  | some true | some false => rfl
  | none =>
    obtain ⟨d, ds, rfl⟩ := List.exists_cons_of_ne_nil some_digits
    have all : ∀ d : Fin 10, ¬ ((48 + d.val).toUInt8 = 43 ∨ (48 + d.val).toUInt8 = 45) := by decide
    exact if_neg (all d)

theorem digitsLength_end (ds : List (Fin 10)) : digitsLength (digits ds) = ds.length := by
  simpa using @digitsLength_digits ds [] nofun

theorem exponentLength_raw (e : Option Exponent) :
    exponentLength (exponentRaw e) = (exponentRaw e).length := by
  cases e with
  | none => rfl
  | some e =>
    have sign := signLength_raw e.sign e.some_digits []
    rw [List.append_nil] at sign
    obtain ⟨d, ds, power⟩ := List.exists_cons_of_ne_nil e.some_digits
    have letter : (if e.upper then (69 : UInt8) else 101) = 101 ∨
        (if e.upper then (69 : UInt8) else 101) = 69 := by
      cases e.upper
      · exact .inl rfl
      · exact .inr rfl
    have count : digitsLength (digits e.power) = ds.length + 1 := by
      rw [digitsLength_end, power, List.length_cons]
    simp only [exponentRaw, Option.map_some, Option.getD_some, Exponent.raw, exponentLength,
      if_pos letter, sign, List.drop_left, count, List.length_cons, List.length_append]
    simp only [digits, List.length_map, power, List.length_cons]
    omega

/-- What may follow the digits before it. -/
theorem exponent_begins (e : Option Exponent) : ∀ c ∈ (exponentRaw e).head?, c = 69 ∨ c = 101 := by
  intro c first
  cases e with
  | none => cases first
  | some e =>
    cases first
    cases e.upper
    · exact .inr rfl
    · exact .inl rfl

theorem exponent_stops (e : Option Exponent) : ∀ c ∈ (exponentRaw e).head?, isDigit c = false := by
  intro c first
  rcases exponent_begins e c first with rfl | rfl
  · decide
  · decide

theorem fraction_stops (fraction : List (Fin 10)) (e : Option Exponent) :
    ∀ c ∈ (fractionRaw fraction ++ exponentRaw e).head?, isDigit c = false := by
  unfold fractionRaw
  split
  · exact exponent_stops e
  · intro c first
    cases first
    decide

theorem fractionLength_raw (fraction : List (Fin 10)) (e : Option Exponent) :
    fractionLength (fractionRaw fraction ++ exponentRaw e) = (fractionRaw fraction).length := by
  unfold fractionRaw
  split
  · have begins := exponent_begins e
    rw [List.nil_append]
    cases found : exponentRaw e with
    | nil => rfl
    | cons c rest =>
      rw [found] at begins
      have other : c ≠ 46 := by
        rcases begins c rfl with rfl | rfl
        · decide
        · decide
      exact if_neg other
  · rw [List.cons_append, fractionLength, if_pos rfl, digitsLength_digits _ (exponent_stops e)]
    simp [digits]

theorem strtodLength_raw (n : Numeral) : strtodLength n.raw = n.raw.length := by
  have sign := signLength_raw (if n.negative then some true else none) n.whole_digits
    (fractionRaw n.fraction ++ exponentRaw n.exponent)
  have whole := digitsLength_digits n.whole (fraction_stops n.fraction n.exponent)
  have some_digits : n.whole.length ≠ 0 := fun none => n.whole_digits (List.length_eq_zero_iff.mp none)
  have count : (digits n.whole).length = n.whole.length := List.length_map _
  rw [Numeral.raw]
  generalize signRaw (if n.negative then some true else none) = sign_bytes at sign
  have first : (sign_bytes ++ (digits n.whole ++ (fractionRaw n.fraction ++
      exponentRaw n.exponent))).drop (sign_bytes.length + n.whole.length) =
      fractionRaw n.fraction ++ exponentRaw n.exponent := by
    rw [List.drop_length_add_append, ← count, List.drop_left]
  have last : (sign_bytes ++ (digits n.whole ++ (fractionRaw n.fraction ++
      exponentRaw n.exponent))).drop (sign_bytes.length + n.whole.length +
        (fractionRaw n.fraction).length) = exponentRaw n.exponent := by
    rw [← List.drop_drop, first, List.drop_left]
  simp only [strtodLength, sign, List.drop_left, whole, first, fractionLength_raw, last,
    exponentLength_raw, some_digits, false_and, if_false, List.length_append, count]
  omega

theorem digits_letters (ds : List (Fin 10)) : ∀ c ∈ digits ds, isNumeral c = true := by
  intro c member
  simp [isNumeral, digits_isDigit ds c member]

theorem sign_letters (sign : Option Bool) : ∀ c ∈ signRaw sign, isNumeral c = true := by
  match sign with
  | none => exact List.forall_mem_nil _
  | some true => decide +kernel
  | some false => decide +kernel

theorem fraction_letters (fraction : List (Fin 10)) :
    ∀ c ∈ fractionRaw fraction, isNumeral c = true := by
  unfold fractionRaw
  split
  · exact List.forall_mem_nil _
  · exact List.forall_mem_cons.mpr ⟨by decide, digits_letters fraction⟩

theorem exponent_letters (e : Option Exponent) : ∀ c ∈ exponentRaw e, isNumeral c = true := by
  cases e with
  | none => exact List.forall_mem_nil _
  | some e =>
    refine List.forall_mem_cons.mpr ⟨?_, ?_⟩
    · cases e.upper
      · decide
      · decide
    · exact List.forall_mem_append.mpr ⟨sign_letters e.sign, digits_letters e.power⟩

theorem numeral_begins (n : Numeral) :
    ∃ c tail, n.raw = c :: tail ∧ (c = 45 ∨ (48 ≤ c ∧ c ≤ 57)) := by
  obtain ⟨d, ds, whole⟩ := List.exists_cons_of_ne_nil n.whole_digits
  have digit : ∀ d : Fin 10, 48 ≤ (48 + d.val).toUInt8 ∧ (48 + d.val).toUInt8 ≤ 57 := by decide
  rw [Numeral.raw, whole]
  cases n.negative with
  | true => exact ⟨45, _, rfl, .inl rfl⟩
  | false => exact ⟨(48 + d.val).toUInt8, _, rfl, .inr (digit d)⟩

theorem numeral_letters (n : Numeral) : ∀ c ∈ n.raw, isNumeral c = true :=
  List.forall_mem_append.mpr ⟨sign_letters _, List.forall_mem_append.mpr
    ⟨digits_letters n.whole, List.forall_mem_append.mpr
      ⟨fraction_letters n.fraction, exponent_letters n.exponent⟩⟩⟩

/-- A numeral of the grammar is one for `strtod`, where it is not too long. -/
theorem numeral_text (n : Numeral) (short : n.raw.length ≤ 63) : NumeralText n.raw where
  begins := numeral_begins n
  letters := numeral_letters n
  whole := strtodLength_raw n
  short := short

/-! ## The leaves of RFC 8259 -/

/-- The UTF-8 text of a literal. -/
def literalBytes (l : Literal) : List UInt8 := l.chars.flatMap String.utf8EncodeChar

/-- No control byte stands in a literal. -/
theorem piece_printable (p : Piece) : ∀ c ∈ p.raw, 32 ≤ c := by
  have visible (upper : Fin 4 → Bool) (n : Nat) : ∀ c ∈ hex4 upper n, 32 ≤ c :=
    fun c member => UInt8.le_of_lt (hex4_visible upper n c member)
  cases p with
  | plain c printable quote backslash =>
    intro b member
    rw [UInt8.le_iff_toNat_le]
    rcases utf8_bytes c b member with byte | high
    · exact byte ▸ printable
    · exact Nat.le_trans (by decide) (UInt8.le_iff_toNat_le.mp high)
  | short s => cases s <;> decide +kernel
  | unicode c basic upper =>
    exact List.forall_mem_cons.mpr ⟨by decide, List.forall_mem_cons.mpr ⟨by decide, visible _ _⟩⟩
  | surrogates c beyond upperHigh upperLow =>
    refine List.forall_mem_cons.mpr ⟨by decide, List.forall_mem_cons.mpr ⟨by decide, ?_⟩⟩
    refine List.forall_mem_append.mpr ⟨visible _ _, ?_⟩
    exact List.forall_mem_cons.mpr ⟨by decide, List.forall_mem_cons.mpr ⟨by decide, visible _ _⟩⟩

theorem literal_printable (l : Literal) : ∀ c ∈ l.raw, 32 ≤ c := by
  refine List.forall_mem_cons.mpr ⟨by decide, List.forall_mem_append.mpr ⟨?_, by decide +kernel⟩⟩
  intro c member
  obtain ⟨p, _, inside⟩ := List.mem_flatMap.mp member
  exact piece_printable p c inside

theorem reads_literal (l : Literal) : Reads (l.flatMap Piece.raw) (literalBytes l) := by
  have reads := @Reads.flatMap _ _ _ l fun p _ => reads_piece p
  simpa [literalBytes, Literal.chars, List.flatMap_map] using reads

theorem rfc_leaves : Leaves Literal.raw Numeral.raw literalBytes (fun _ => True)
    (fun n => n.raw.length ≤ 63) where
  quoted l _ := ⟨_, rfl⟩
  string l _ rest := by
    have read := parseString_reads (reads_literal l) rest
    simpa [Literal.raw] using read
  begins n _ := numeral_begins n
  number n short rest stops := parseNumber_text (numeral_text n short) stops
  literal_clean l _ := fun member => absurd (literal_printable l 0 member) (by decide)
  numeral_clean n _ := letters_clean (numeral_letters n)

/-- A text of RFC 8259 is read as the value it stands for, its strings in UTF-8, up to the
nesting limit and no further. Numerals must not be longer than the parser's array. -/
theorem wellformed_parsed (bom : Bool) (layout : List Blank) (t : Tree Literal Numeral)
    (short : t.All (fun _ => True) fun n => n.raw.length ≤ 63) {trailing : List UInt8}
    (stops : Stops trailing) :
    parse (mark bom ++ (blanks layout ++ t.raw Literal.raw Numeral.raw) ++ trailing) =
      if t.depth ≤ nestingLimit then some (value literalBytes Numeral.raw t) else none :=
  parse_raw rfc_leaves bom layout short stops

/-- An array of one escaped character, behind a byte order mark and before an `x`. -/
theorem wellformed_parsed_sample :
    parse [0xEF, 0xBB, 0xBF, 91, 32, 34, 92, 117, 48, 48, 101, 57, 34, 32, 93, 120] =
      some (.array [.string [0xC3, 0xA9]]) := by
  have stops : Stops [120] := fun c first => Option.some.inj first ▸ rfl
  exact wellformed_parsed true [] (.array [] (.cons [.space]
    (.string [.unicode (Char.ofNat 0xE9) (by decide) fun _ => false]) [.space] .nil))
    ⟨trivial, trivial⟩ stops

end Assistantd.CJson
