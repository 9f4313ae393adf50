import Assistantd.Lib.Utf8
import Assistantd.CJson.Literals

/-! cJSON.c: the text `cJSON_PrintUnformatted` gives for an item. -/
namespace Assistantd.CJson

open CText (ascii)
open JsonText

/-- `print_string_ptr` at one byte. -/
def escape (c : UInt8) : List UInt8 :=
  if 31 < c ∧ c ≠ 34 ∧ c ≠ 92 then [c]
  else if c = 92 then [92, 92]
  else if c = 34 then [92, 34]
  else if c = 8 then [92, 98]
  else if c = 12 then [92, 102]
  else if c = 10 then [92, 110]
  else if c = 13 then [92, 114]
  else if c = 9 then [92, 116]
  else 92 :: 117 :: hex4 (fun _ => false) c.toNat

def printString (text : List UInt8) : List UInt8 :=
  34 :: ((CText.upToNul text).flatMap escape ++ [34])

mutual

/-- `print_value`. A number is printed as the numeral it is kept as: that `print_number`
takes the double, and which of `%d`, `%1.15g` and `%1.17g` it prints it with, is left out. -/
def print : Json → List UInt8
  | .null => ascii "null"
  | .bool false => ascii "false"
  | .bool true => ascii "true"
  | .number text => text
  | .string text => printString text
  | .array items => 91 :: (printElements items ++ [93])
  | .object members => 123 :: (printMembers members ++ [125])

def printElements : List Json → List UInt8
  | [] => []
  | [item] => print item
  | item :: next :: rest => print item ++ 44 :: printElements (next :: rest)

def printMembers : List (List UInt8 × Json) → List UInt8
  | [] => []
  | [(key, item)] => printString key ++ 58 :: print item
  | (key, item) :: next :: rest =>
    printString key ++ 58 :: (print item ++ 44 :: printMembers (next :: rest))

end

/-! ## The text of an item -/

mutual

/-- The text without layout, its leaves the item's own bytes. -/
def compact : Json → Tree (List UInt8) (List UInt8)
  | .null => .null
  | .bool b => .bool b
  | .number text => .number text
  | .string text => .string text
  | .array items => .array [] (compactItems items)
  | .object members => .object [] (compactMembers members)

def compactItems : List Json → Items (List UInt8) (List UInt8)
  | [] => .nil
  | item :: rest => .cons [] (compact item) [] (compactItems rest)

def compactMembers : List (List UInt8 × Json) → Members (List UInt8) (List UInt8)
  | [] => .nil
  | (key, item) :: rest => .cons [] key [] [] (compact item) [] (compactMembers rest)

end

section Leaves

variable {P Q : List UInt8 → Prop}

theorem all_items {items : List Json} :
    (compactItems items).All P Q ↔ ∀ v ∈ items, (compact v).All P Q := by
  induction items with
  | nil => simp [compactItems, Items.All]
  | cons v items ih => simp [compactItems, Items.All, ih]

theorem all_members {members : List (List UInt8 × Json)} :
    (compactMembers members).All P Q ↔ ∀ m ∈ members, P m.1 ∧ (compact m.2).All P Q := by
  induction members with
  | nil => simp [compactMembers, Members.All]
  | cons m members ih => simp [compactMembers, Members.All, ih, and_assoc]

theorem depth_items {items : List Json} {n : Nat} :
    (compactItems items).depth ≤ n ↔ ∀ v ∈ items, (compact v).depth ≤ n := by
  induction items with
  | nil => simp [compactItems, Items.depth]
  | cons v items ih => simp [compactItems, Items.depth, ih]

theorem depth_members {members : List (List UInt8 × Json)} {n : Nat} :
    (compactMembers members).depth ≤ n ↔ ∀ m ∈ members, (compact m.2).depth ≤ n := by
  induction members with
  | nil => simp [compactMembers, Members.depth]
  | cons m members ih => simp [compactMembers, Members.depth, ih]

end Leaves

mutual

theorem raw_compact (v : Json) : (compact v).raw printString id = print v := by
  match v with
  | .null | .bool false | .bool true | .number text | .string text => rfl
  | .array items => simp [compact, print, Tree.raw, blanks, itemsRaw_compact items]
  | .object members => simp [compact, print, Tree.raw, blanks, membersRaw_compact members]

theorem itemsRaw_compact (items : List Json) :
    (compactItems items).raw printString id = printElements items := by
  match items with
  | [] => rfl
  | [item] =>
    simp [compactItems, printElements, Items.raw, Items.separator, blanks, raw_compact item]
  | item :: next :: rest =>
    have later := itemsRaw_compact (next :: rest)
    rw [compactItems, Items.raw, raw_compact item, later]
    simp [blanks, printElements, compactItems, Items.separator]

theorem membersRaw_compact (members : List (List UInt8 × Json)) :
    (compactMembers members).raw printString id = printMembers members := by
  match members with
  | [] => rfl
  | [(key, item)] =>
    simp [compactMembers, printMembers, Members.raw, Members.separator, blanks, raw_compact item]
  | (key, item) :: next :: rest =>
    have later := membersRaw_compact (next :: rest)
    rw [compactMembers, Members.raw, raw_compact item, later]
    simp [blanks, printMembers, compactMembers, Members.separator]

end

mutual

theorem value_compact (v : Json) : value id id (compact v) = v := by
  match v with
  | .null | .bool _ | .number text | .string text => rfl
  | .array items => simp [compact, value, values_compact items]
  | .object members => simp [compact, value, memberValues_compact members]

theorem values_compact (items : List Json) : values id id (compactItems items) = items := by
  match items with
  | [] => rfl
  | item :: rest => simp [compactItems, values, value_compact item, values_compact rest]

theorem memberValues_compact (members : List (List UInt8 × Json)) :
    memberValues id id (compactMembers members) = members := by
  match members with
  | [] => rfl
  | (key, item) :: rest =>
    simp [compactMembers, memberValues, value_compact item, memberValues_compact rest]

end

/-! ## Reading it back -/

/-- A byte as a character, below 128. -/
theorem ascii_char {c : UInt8} (small : c.toNat < 0x80) :
    (Char.ofNat c.toNat).toNat = c.toNat ∧ String.utf8EncodeChar (Char.ofNat c.toNat) = [c] := by
  have char : (Char.ofNat c.toNat).toNat = c.toNat := by
    have valid : c.toNat.isValidChar := .inl (by omega)
    rw [Char.ofNat, dif_pos valid]
    rfl
  refine ⟨char, ?_⟩
  have one : String.utf8EncodeChar (Char.ofNat c.toNat) = [UInt8.ofNat (Char.ofNat c.toNat).toNat] :=
    if_pos (show (Char.ofNat c.toNat).toNat ≤ 0x7F by omega)
  rw [one, char, UInt8.ofNat_toNat]

/-- What is escaped is one of the two letters that have to be, or a control byte. -/
theorem escape_other {c : UInt8} (other : ¬ (31 < c ∧ c ≠ 34 ∧ c ≠ 92)) :
    c = 34 ∨ c = 92 ∨ c.toNat < 32 := by
  simp only [UInt8.lt_iff_toNat_lt, ← UInt8.toNat_inj, ne_eq, UInt8.reduceToNat] at other ⊢
  omega

theorem reads_escape (c : UInt8) : Reads (escape c) [c] := by
  unfold escape
  by_cases plain : 31 < c ∧ c ≠ 34 ∧ c ≠ 92
  · rw [if_pos plain]
    exact reads_plain plain.2.1 plain.2.2
  rw [if_neg plain]
  split_ifs with backslash quote backspace form line carriage tab
  · exact backslash ▸ @reads_letter 92 92 rfl
  · exact quote ▸ @reads_letter 34 34 rfl
  · exact backspace ▸ reads_letter rfl
  · exact form ▸ reads_letter rfl
  · exact line ▸ reads_letter rfl
  · exact carriage ▸ reads_letter rfl
  · exact tab ▸ reads_letter rfl
  · have small : c.toNat < 32 := by
      rcases escape_other plain with same | same | small
      · exact absurd same quote
      · exact absurd same backslash
      · exact small
    obtain ⟨char, one⟩ := ascii_char (c := c) (by omega)
    have read := reads_piece (.unicode (Char.ofNat c.toNat) (by omega) fun _ => false)
    simpa [Piece.raw, Piece.char, char, one] using read

theorem escape_printable (c : UInt8) : ∀ b ∈ escape c, 32 ≤ b := by
  unfold escape
  split_ifs with plain
  · intro b member
    rw [List.mem_singleton.mp member, UInt8.le_iff_toNat_le]
    exact UInt8.lt_iff_toNat_lt.mp plain.1
  all_goals try decide +kernel
  refine List.forall_mem_cons.mpr ⟨by decide, List.forall_mem_cons.mpr ⟨by decide, ?_⟩⟩
  exact fun b member => UInt8.le_of_lt (hex4_visible _ _ b member)

theorem printString_printable (text : List UInt8) : ∀ b ∈ printString text, 32 ≤ b := by
  refine List.forall_mem_cons.mpr ⟨by decide, List.forall_mem_append.mpr ⟨?_, by decide +kernel⟩⟩
  intro b member
  obtain ⟨c, _, inside⟩ := List.mem_flatMap.mp member
  exact escape_printable c b inside

mutual

/-- Nothing that is printed has a control byte in it. -/
theorem print_printable (v : Json)
    (all : (compact v).All (fun _ => True) fun text => ∀ c ∈ text, 32 ≤ c) :
    ∀ c ∈ print v, 32 ≤ c := by
  match v with
  | .null => simp only [print]; decide +kernel
  | .bool true | .bool false => simp only [print]; decide +kernel
  | .number text => exact all
  | .string text => exact printString_printable text
  | .array items =>
    have inside := printElements_printable items all
    rw [print]
    exact List.forall_mem_cons.mpr ⟨by decide, List.forall_mem_append.mpr ⟨inside, by decide +kernel⟩⟩
  | .object members =>
    have inside := printMembers_printable members all
    rw [print]
    exact List.forall_mem_cons.mpr ⟨by decide, List.forall_mem_append.mpr ⟨inside, by decide +kernel⟩⟩

theorem printElements_printable (items : List Json)
    (all : (compactItems items).All (fun _ => True) fun text => ∀ c ∈ text, 32 ≤ c) :
    ∀ c ∈ printElements items, 32 ≤ c := by
  match items with
  | [] => exact List.forall_mem_nil _
  | [item] => exact print_printable item all.1
  | item :: next :: rest =>
    rw [printElements]
    exact List.forall_mem_append.mpr ⟨print_printable item all.1, List.forall_mem_cons.mpr
      ⟨by decide, printElements_printable (next :: rest) all.2⟩⟩

theorem printMembers_printable (members : List (List UInt8 × Json))
    (all : (compactMembers members).All (fun _ => True) fun text => ∀ c ∈ text, 32 ≤ c) :
    ∀ c ∈ printMembers members, 32 ≤ c := by
  match members with
  | [] => exact List.forall_mem_nil _
  | [(key, item)] =>
    rw [printMembers]
    exact List.forall_mem_append.mpr ⟨printString_printable key, List.forall_mem_cons.mpr
      ⟨by decide, print_printable item all.2.1⟩⟩
  | (key, item) :: next :: rest =>
    rw [printMembers]
    exact List.forall_mem_append.mpr ⟨printString_printable key, List.forall_mem_cons.mpr
      ⟨by decide, List.forall_mem_append.mpr ⟨print_printable item all.2.1,
        List.forall_mem_cons.mpr ⟨by decide, printMembers_printable (next :: rest) all.2.2⟩⟩⟩⟩

end

theorem printed_leaves : Leaves printString id id (fun text => 0 ∉ text) NumeralText where
  quoted s _ := ⟨_, rfl⟩
  string s clean rest := by
    have reads : Reads (s.flatMap escape) (s.flatMap fun c => [c]) :=
      .flatMap fun c _ => reads_escape c
    simpa [printString, CText.upToNul_eq clean] using parseString_reads reads rest
  begins n numeral := numeral.begins
  number n numeral rest stops := parseNumber_text numeral stops
  literal_clean s _ := fun member => absurd (printString_printable s 0 member) (by decide)
  numeral_clean n numeral := letters_clean numeral.letters

/-- What is printed is read back, byte for byte: any item whose strings end where C has
them end, and whose numerals are some, nested no deeper than the parser goes. -/
theorem print_parsed {v : Json} (all : (compact v).All (fun text => 0 ∉ text) NumeralText)
    (depth : (compact v).depth ≤ nestingLimit) {trailing : List UInt8} (stops : Stops trailing) :
    parse (print v ++ trailing) = some v := by
  have read := parse_raw printed_leaves false [] all stops
  rwa [value_compact, raw_compact, if_pos depth] at read

/-! ## It is a text of RFC 8259 -/

/-- The piece that is printed for a character. -/
def pieceOf (c : Char) : Piece :=
  if plain : 32 ≤ c.toNat ∧ c ≠ '"' ∧ c ≠ '\\' then .plain c plain.1 plain.2.1 plain.2.2
  else if backslash : c = '\\' then .short .backslash
  else if quote : c = '"' then .short .quote
  else if c = '\x08' then .short .backspace
  else if c = '\x0c' then .short .formFeed
  else if c = '\n' then .short .newline
  else if c = '\r' then .short .carriageReturn
  else if c = '\t' then .short .tab
  else .unicode c (by
    have control : ¬ 32 ≤ c.toNat := fun printable => plain ⟨printable, quote, backslash⟩
    omega) fun _ => false

theorem pieceOf_char (c : Char) : (pieceOf c).char = c := by
  unfold pieceOf
  split_ifs with plain backslash quote backspace form line carriage tab
  · rfl
  · exact backslash.symm
  · exact quote.symm
  · exact backspace.symm
  · exact form.symm
  · exact line.symm
  · exact carriage.symm
  · exact tab.symm
  · rfl

theorem escape_plains {bytes : List UInt8} (plain : ∀ b ∈ bytes, 31 < b ∧ b ≠ 34 ∧ b ≠ 92) :
    bytes.flatMap escape = bytes := by
  induction bytes with
  | nil => rfl
  | cons b bytes ih =>
    obtain ⟨here, later⟩ := List.forall_mem_cons.mp plain
    rw [List.flatMap_cons, ih later, escape, if_pos here]
    rfl

/-- A control byte without a letter of its own. -/
theorem escape_control {b : UInt8} (control : b.toNat < 32)
    (other : b ≠ 8 ∧ b ≠ 12 ∧ b ≠ 10 ∧ b ≠ 13 ∧ b ≠ 9) :
    escape b = 92 :: 117 :: hex4 (fun _ => false) b.toNat := by
  have plain : ¬ (31 < b ∧ b ≠ 34 ∧ b ≠ 92) := by
    rw [UInt8.lt_iff_toNat_lt]
    simp only [UInt8.reduceToNat]
    omega
  have letters : b ≠ 92 ∧ b ≠ 34 := by
    simp only [← UInt8.toNat_inj, ne_eq, UInt8.reduceToNat]
    omega
  simp only [escape, plain, letters, other, if_false]

theorem pieceOf_raw (c : Char) : (pieceOf c).raw = (String.utf8EncodeChar c).flatMap escape := by
  unfold pieceOf
  split_ifs with plain backslash quote backspace form line carriage tab
  · refine (escape_plains fun b member => ?_).symm
    obtain ⟨printable, quote, backslash⟩ := plain
    refine ⟨?_, utf8_plain quote backslash b member⟩
    rw [UInt8.lt_iff_toNat_lt]
    rcases utf8_bytes c b member with byte | high
    · exact byte ▸ printable
    · exact Nat.lt_of_lt_of_le (by decide) (UInt8.le_iff_toNat_le.mp high)
  · exact backslash ▸ rfl
  · exact quote ▸ rfl
  · exact backspace ▸ rfl
  · exact form ▸ rfl
  · exact line ▸ rfl
  · exact carriage ▸ rfl
  · exact tab ▸ rfl
  · have control : c.toNat < 32 := by
      by_contra printable
      exact plain ⟨Nat.not_lt.mp printable, quote, backslash⟩
    have one : String.utf8EncodeChar c = [UInt8.ofNat c.toNat] :=
      if_pos (show c.toNat ≤ 0x7F by omega)
    have byte : (UInt8.ofNat c.toNat).toNat = c.toNat := by
      rw [UInt8.toNat_ofNat']
      omega
    have apart {d : Char} (other : c ≠ d) {e : UInt8} (same : e.toNat = d.toNat) :
        UInt8.ofNat c.toNat ≠ e := by
      rintro rfl
      exact other (Char.toNat_inj.mp (byte.symm.trans same))
    rw [one, List.flatMap_singleton, escape_control (by rw [byte]; exact control) ⟨apart backspace rfl,
      apart form rfl, apart line rfl, apart carriage rfl, apart tab rfl⟩, byte]
    rfl

/-- UTF-8 without a NUL. -/
def Utf8Text (text : List UInt8) : Prop := Utf8.Valid text ∧ 0 ∉ text

theorem printed_literal {text : List UInt8} (valid : Utf8Text text) :
    ∃ l : Literal, l.raw = printString text ∧ literalBytes l = text := by
  obtain ⟨⟨chars, encoded⟩, clean⟩ := valid
  have bytes : text = chars.flatMap String.utf8EncodeChar :=
    List.toByteArray_inj.mp encoded
  refine ⟨chars.map pieceOf, ?_, ?_⟩
  · rw [printString, CText.upToNul_eq clean, bytes, Literal.raw, List.flatMap_map, List.flatMap_assoc]
    simp only [pieceOf_raw]
  · rw [literalBytes, Literal.chars, List.map_map, bytes]
    simp [Function.comp_def, pieceOf_char]

/-- A numeral of the grammar. -/
def NumeralOf (text : List UInt8) : Prop := ∃ n : Numeral, n.raw = text

theorem separator_items {items : Items Literal Numeral} {item : Json} {rest : List Json}
    (same : values literalBytes Numeral.raw items = item :: rest) : items.separator = [44] := by
  cases items with
  | nil => cases same
  | cons => rfl

theorem separator_members {members : Members Literal Numeral} {member : List UInt8 × Json}
    {rest : List (List UInt8 × Json)}
    (same : memberValues literalBytes Numeral.raw members = member :: rest) :
    members.separator = [44] := by
  cases members with
  | nil => cases same
  | cons => rfl

mutual

/-- What is printed for an item is a text of the grammar, and stands for that item. -/
theorem print_wellformed (v : Json) (all : (compact v).All Utf8Text NumeralOf) :
    ∃ t : Tree Literal Numeral, t.raw Literal.raw Numeral.raw = print v ∧
      value literalBytes Numeral.raw t = v := by
  match v with
  | .null => exact ⟨.null, rfl, rfl⟩
  | .bool true => exact ⟨.bool true, rfl, rfl⟩
  | .bool false => exact ⟨.bool false, rfl, rfl⟩
  | .number text =>
    obtain ⟨n, same⟩ := all
    exact ⟨.number n, same, congrArg Json.number same⟩
  | .string text =>
    obtain ⟨l, raw, bytes⟩ := printed_literal all
    exact ⟨.string l, raw, congrArg Json.string bytes⟩
  | .array items =>
    obtain ⟨ts, raw, same⟩ := printElements_wellformed items all
    exact ⟨.array [] ts, by simp [Tree.raw, blanks, raw, print], congrArg Json.array same⟩
  | .object members =>
    obtain ⟨ts, raw, same⟩ := printMembers_wellformed members all
    exact ⟨.object [] ts, by simp [Tree.raw, blanks, raw, print], congrArg Json.object same⟩

theorem printElements_wellformed (items : List Json)
    (all : (compactItems items).All Utf8Text NumeralOf) :
    ∃ ts : Items Literal Numeral, ts.raw Literal.raw Numeral.raw = printElements items ∧
      values literalBytes Numeral.raw ts = items := by
  match items with
  | [] => exact ⟨.nil, rfl, rfl⟩
  | [item] =>
    obtain ⟨t, raw, same⟩ := print_wellformed item all.1
    exact ⟨.cons [] t [] .nil, by simp [Items.raw, Items.separator, blanks, raw, printElements],
      by simp [values, same]⟩
  | item :: next :: rest =>
    obtain ⟨t, raw, same⟩ := print_wellformed item all.1
    obtain ⟨ts, rawRest, sameRest⟩ := printElements_wellformed (next :: rest) all.2
    refine ⟨.cons [] t [] ts, ?_, by rw [values, same, sameRest]⟩
    rw [Items.raw, raw, rawRest, separator_items sameRest]
    simp [blanks, printElements]

theorem printMembers_wellformed (members : List (List UInt8 × Json))
    (all : (compactMembers members).All Utf8Text NumeralOf) :
    ∃ ts : Members Literal Numeral, ts.raw Literal.raw Numeral.raw = printMembers members ∧
      memberValues literalBytes Numeral.raw ts = members := by
  match members with
  | [] => exact ⟨.nil, rfl, rfl⟩
  | [(key, item)] =>
    obtain ⟨l, rawKey, sameKey⟩ := printed_literal all.1
    obtain ⟨t, raw, same⟩ := print_wellformed item all.2.1
    exact ⟨.cons [] l [] [] t [] .nil,
      by simp [Members.raw, Members.separator, blanks, raw, rawKey, printMembers],
      by simp [memberValues, same, sameKey]⟩
  | (key, item) :: next :: rest =>
    obtain ⟨l, rawKey, sameKey⟩ := printed_literal all.1
    obtain ⟨t, raw, same⟩ := print_wellformed item all.2.1
    obtain ⟨ts, rawRest, sameRest⟩ := printMembers_wellformed (next :: rest) all.2.2
    refine ⟨.cons [] l [] [] t [] ts, ?_, by rw [memberValues, same, sameKey, sameRest]⟩
    rw [Members.raw, rawKey, raw, rawRest, separator_members sameRest]
    simp [blanks, printMembers]

end

/-! ## Numbers -/

/-- What `%d` prints of an `int`. -/
def IntText (text : List UInt8) : Prop := ∃ n : Int, -2 ^ 31 ≤ n ∧ n < 2 ^ 31 ∧ text = CText.printInt n

/-- The digits of a number, the first of them first. -/
def wholeDigits (n : Nat) : List (Fin 10) :=
  (CText.padded 1 n).reverse.map fun d => ⟨d % 10, Nat.mod_lt d (Nat.succ_pos 9)⟩

theorem wholeDigits_raw (n : Nat) : digits (wholeDigits n) = CText.zeroPadded 1 n := by
  rw [digits, wholeDigits, List.map_map, CText.zeroPadded]
  apply List.map_congr_left
  intro d member
  have small := CText.padded_lt (List.mem_reverse.mp member)
  simp [Nat.mod_eq_of_lt small]

theorem wholeDigits_ne_nil (n : Nat) : wholeDigits n ≠ [] := by
  intro none
  have raw := wholeDigits_raw n
  rw [none] at raw
  exact CText.zeroPadded_ne_nil n (by decide) raw.symm

theorem wholeDigits_leading {n : Nat} (zero : (wholeDigits n).head? = some 0) :
    wholeDigits n = [0] := by
  cases n with
  | zero => rfl
  | succ n =>
    have some_digits : Nat.digits 10 (n + 1) ≠ [] := Nat.digits_ne_nil_iff_ne_zero.mpr (by omega)
    have exact : CText.padded 1 (n + 1) = Nat.digits 10 (n + 1) := by
      have length := List.length_pos_iff.mpr some_digits
      rw [CText.padded, Nat.sub_eq_zero_of_le length, List.replicate_zero, List.append_nil]
    have last := Nat.getLast_digit_ne_zero 10 (m := n + 1) (by omega)
    have small := Nat.digits_lt_base (by decide) (List.getLast_mem some_digits)
    rw [wholeDigits, exact, List.head?_map, List.head?_reverse,
      List.getLast?_eq_some_getLast some_digits, Option.map_some, Option.some.injEq, Fin.ext_iff] at zero
    exact absurd ((Nat.mod_eq_of_lt small).symm.trans zero) last

/-- A whole number behind a sign or none. -/
def wholeNumeral (negative : Bool) (n : Nat) : Numeral where
  negative := negative
  whole := wholeDigits n
  whole_digits := wholeDigits_ne_nil n
  no_leading_zero := wholeDigits_leading
  fraction := []
  exponent := none

/-- The numeral that `%d` prints. -/
def intNumeral (n : Int) : Numeral := wholeNumeral (n < 0) n.natAbs

theorem intNumeral_raw (n : Int) : (intNumeral n).raw = CText.printInt n := by
  by_cases negative : n < 0 <;>
    simp [intNumeral, wholeNumeral, Numeral.raw, negative, signRaw, fractionRaw, exponentRaw, wholeDigits_raw,
      CText.printInt]

theorem IntText.numeralOf {text : List UInt8} (h : IntText text) : NumeralOf text := by
  obtain ⟨n, _, _, rfl⟩ := h
  exact ⟨_, intNumeral_raw n⟩

theorem IntText.numeral {text : List UInt8} (h : IntText text) : NumeralText text := by
  obtain ⟨n, low, high, rfl⟩ := h
  have length : (CText.printInt n).length ≤ 10 + 1 := CText.printInt_length (by omega) (by decide)
  rw [← intNumeral_raw] at length ⊢
  exact numeral_text _ (by omega)

/-- Printing loses nothing of an item whose numbers are `int`s. What is printed reads back
as the same item, byte for byte, and whatever follows it that does not go on with a numeral;
and where the item's texts are UTF-8, what is printed is a text of RFC 8259 that stands for
it. -/
theorem print_faithful {v : Json} (all : (compact v).All (fun text => 0 ∉ text) IntText)
    (depth : (compact v).depth ≤ nestingLimit) :
    (∀ trailing, Stops trailing → parse (print v ++ trailing) = some v) ∧
      ((compact v).All Utf8Text IntText → ∃ t : Tree Literal Numeral,
        t.raw Literal.raw Numeral.raw = print v ∧ value literalBytes Numeral.raw t = v) := by
  constructor
  · intro trailing stops
    exact print_parsed (Tree.All.imp (fun _ clean => clean) (fun _ => IntText.numeral) _ all) depth
      stops
  · intro texts
    exact print_wellformed v (Tree.All.imp (fun _ text => text) (fun _ => IntText.numeralOf) _ texts)

/-- A string of a byte that is not UTF-8, two that are escaped and one that has a letter, and a
number, with another behind them. -/
theorem print_faithful_bytes :
    parse (print (.array [.string [0xFF, 31, 34, 10], .number (ascii "-12"), .null]) ++ ascii " 5") =
      some (.array [.string [0xFF, 31, 34, 10], .number (ascii "-12"), .null]) := by
  refine (@print_faithful (.array [.string [0xFF, 31, 34, 10], .number (ascii "-12"), .null])
    ⟨(by decide : (0 : UInt8) ∉ [0xFF, 31, 34, 10]), ?_, trivial, trivial⟩ (by decide)).1
    (ascii " 5") ?_
  · exact ⟨-12, by decide, by decide, by decide⟩
  · intro c first
    cases first
    decide

end Assistantd.CJson
