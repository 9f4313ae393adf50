import Assistantd.CJson.Parse

/-! The parser against the texts of JSON: where it reads the leaves, it reads the whole. -/
namespace Assistantd.CJson

open CText (ascii)
open JsonText

/-! ## What a text stands for -/

section Value

variable {σ ν : Type} (bytes : σ → List UInt8) (numeral : ν → List UInt8)

mutual

def value : Tree σ ν → Json
  | .null => .null
  | .bool b => .bool b
  | .number n => .number (numeral n)
  | .string s => .string (bytes s)
  | .array _ items => .array (values items)
  | .object _ members => .object (memberValues members)

def values : Items σ ν → List Json
  | .nil => []
  | .cons _ item _ rest => value item :: values rest

def memberValues : Members σ ν → List (List UInt8 × Json)
  | .nil => []
  | .cons _ key _ _ item _ rest => (bytes key, value item) :: memberValues rest

end

end Value

/-! ## Reading it -/

/-- A numeral before these bytes ends there. -/
def Stops (rest : List UInt8) : Prop := ∀ c ∈ rest.head?, isNumeral c = false

/-- The literals and numerals for which the parser's own functions do what they should. -/
structure Leaves {σ ν : Type} (literal : σ → List UInt8) (numeral : ν → List UInt8)
    (bytes : σ → List UInt8) (P : σ → Prop) (Q : ν → Prop) : Prop where
  quoted : ∀ s, P s → ∃ tail, literal s = 34 :: tail
  string : ∀ s, P s → ∀ rest, parseString (literal s ++ rest) = some (bytes s, rest)
  begins : ∀ n, Q n → ∃ c tail, numeral n = c :: tail ∧ (c = 45 ∨ (48 ≤ c ∧ c ≤ 57))
  number : ∀ n, Q n → ∀ rest, Stops rest →
    parseNumber (numeral n ++ rest) = some (.number (numeral n), rest)
  literal_clean : ∀ s, P s → 0 ∉ literal s
  numeral_clean : ∀ n, Q n → 0 ∉ numeral n

theorem skipWhitespace_visible {c : UInt8} (visible : 32 < c) (rest : List UInt8) :
    skipWhitespace (c :: rest) = c :: rest := by
  cases rest with
  | nil => rfl
  | cons d rest => rw [skipWhitespace, if_neg (UInt8.not_le.mpr visible)]

theorem skipWhitespace_blanks (layout : List Blank) {rest : List UInt8} (more : rest ≠ []) :
    skipWhitespace (blanks layout ++ rest) = skipWhitespace rest := by
  induction layout with
  | nil => rfl
  | cons b layout ih =>
    obtain ⟨d, later, split⟩ : ∃ d later, blanks layout ++ rest = d :: later :=
      List.exists_cons_of_ne_nil (List.append_ne_nil_of_right_ne_nil _ more)
    rw [blanks, List.map_cons, List.cons_append, ← blanks, split, skipWhitespace,
      if_pos b.byte_le, ← split, ih]

theorem skipWhitespace_to {layout : List Blank} {c : UInt8} (visible : 32 < c) (rest : List UInt8) :
    skipWhitespace (blanks layout ++ c :: rest) = c :: rest := by
  rw [skipWhitespace_blanks layout (List.cons_ne_nil c rest), skipWhitespace_visible visible]

theorem begins_other {c d : UInt8} (other : c ≠ d) (xs ys : List UInt8) : ¬ c :: xs <+: d :: ys :=
  fun begins => other (List.cons_prefix_cons.mp begins).1

theorem null_bytes : ascii "null" = [110, 117, 108, 108] := by decide

theorem false_bytes : ascii "false" = [102, 97, 108, 115, 101] := by decide

theorem true_bytes : ascii "true" = [116, 114, 117, 101] := by decide

theorem names_other {c : UInt8} {rest : List UInt8} (other : c ≠ 110 ∧ c ≠ 102 ∧ c ≠ 116) :
    ¬ ascii "null" <+: c :: rest ∧ ¬ ascii "false" <+: c :: rest ∧ ¬ ascii "true" <+: c :: rest := by
  rw [null_bytes, false_bytes, true_bytes]
  exact ⟨begins_other other.1.symm _ _, begins_other other.2.1.symm _ _,
    begins_other other.2.2.symm _ _⟩

theorem parseValue_quote (levels : Nat) (rest : List UInt8) : parseValue levels (34 :: rest) =
    (parseString (34 :: rest)).map fun (text, rest) => (.string text, rest) := by
  obtain ⟨null, wrong, right⟩ := @names_other 34 rest (by decide)
  rw [parseValue.eq_def]
  simp only [null, wrong, right, if_false, if_true]

theorem parseValue_numeral (levels : Nat) {c : UInt8} (numeral : c = 45 ∨ (48 ≤ c ∧ c ≤ 57))
    (rest : List UInt8) : parseValue levels (c :: rest) = parseNumber (c :: rest) := by
  have other : (c ≠ 110 ∧ c ≠ 102 ∧ c ≠ 116) ∧ c ≠ 34 := by
    simp only [UInt8.le_iff_toNat_le, ← UInt8.toNat_inj, ne_eq, UInt8.reduceToNat] at numeral ⊢
    omega
  obtain ⟨null, wrong, right⟩ := @names_other c rest other.1
  rw [parseValue.eq_def]
  simp only [null, wrong, right, if_false, if_neg other.2, if_pos numeral]

theorem parseValue_array (levels : Nat) (rest : List UInt8) :
    parseValue (levels + 1) (91 :: rest) = parseArray (parseValue levels) (91 :: rest) := by
  obtain ⟨null, wrong, right⟩ := @names_other 91 rest (by decide)
  rw [parseValue.eq_def]
  simp only [null, wrong, right, if_false]
  rfl

theorem parseValue_object (levels : Nat) (rest : List UInt8) :
    parseValue (levels + 1) (123 :: rest) = parseObject (parseValue levels) (123 :: rest) := by
  obtain ⟨null, wrong, right⟩ := @names_other 123 rest (by decide)
  rw [parseValue.eq_def]
  simp only [null, wrong, right, if_false]
  rfl

theorem parseValue_null (levels : Nat) (rest : List UInt8) :
    parseValue levels (ascii "null" ++ rest) = some (.null, rest) := by
  rw [parseValue.eq_def]
  simp only [List.prefix_append, if_true]
  rfl

theorem parseValue_false (levels : Nat) (rest : List UInt8) :
    parseValue levels (ascii "false" ++ rest) = some (.bool false, rest) := by
  have null : ¬ ascii "null" <+: ascii "false" ++ rest := by
    rw [null_bytes, false_bytes]
    exact begins_other (by decide) _ _
  rw [parseValue.eq_def]
  simp only [null, List.prefix_append, if_false, if_true]
  rfl

theorem parseValue_true (levels : Nat) (rest : List UInt8) :
    parseValue levels (ascii "true" ++ rest) = some (.bool true, rest) := by
  have null : ¬ ascii "null" <+: ascii "true" ++ rest := by
    rw [null_bytes, true_bytes]
    exact begins_other (by decide) _ _
  have wrong : ¬ ascii "false" <+: ascii "true" ++ rest := by
    rw [false_bytes, true_bytes]
    exact begins_other (by decide) _ _
  rw [parseValue.eq_def]
  simp only [null, wrong, List.prefix_append, if_false, if_true]
  rfl

/-! ## Whole texts -/

section Texts

variable {σ ν : Type} {literal : σ → List UInt8} {numeral : ν → List UInt8}
  {bytes : σ → List UInt8} {P : σ → Prop} {Q : ν → Prop}

/-- A text begins with a visible byte that does not close an array. -/
theorem raw_begins (leaves : Leaves literal numeral bytes P Q) {t : Tree σ ν} (all : t.All P Q) :
    ∃ c tail, t.raw literal numeral = c :: tail ∧ 32 < c ∧ c < 127 ∧ c ≠ 93 := by
  cases t with
  | null => exact ⟨110, _, rfl, by decide⟩
  | bool b =>
    cases b with
    | false => exact ⟨102, _, rfl, by decide⟩
    | true => exact ⟨116, _, rfl, by decide⟩
  | number n =>
    obtain ⟨c, tail, same, begins⟩ := leaves.begins n all
    refine ⟨c, tail, same, ?_⟩
    simp only [UInt8.le_iff_toNat_le, UInt8.lt_iff_toNat_lt, ← UInt8.toNat_inj, ne_eq,
      UInt8.reduceToNat] at begins ⊢
    omega
  | string s =>
    obtain ⟨tail, same⟩ := leaves.quoted s all
    exact ⟨34, tail, same, by decide⟩
  | array inside items => exact ⟨91, _, rfl, by decide⟩
  | object inside members => exact ⟨123, _, rfl, by decide⟩

theorem raw_ne_nil (leaves : Leaves literal numeral bytes P Q) {t : Tree σ ν} (all : t.All P Q) :
    t.raw literal numeral ≠ [] := by
  obtain ⟨c, tail, same, _⟩ := raw_begins leaves all
  rw [same]
  exact List.cons_ne_nil c tail

theorem skipWhitespace_raw (leaves : Leaves literal numeral bytes P Q) (layout : List Blank)
    {t : Tree σ ν} (all : t.All P Q) (rest : List UInt8) :
    skipWhitespace (blanks layout ++ (t.raw literal numeral ++ rest)) =
      t.raw literal numeral ++ rest := by
  obtain ⟨c, tail, same, visible, _⟩ := raw_begins leaves all
  rw [same, List.cons_append, skipWhitespace_to visible]

theorem skipWhitespace_items (leaves : Leaves literal numeral bytes P Q) (inside before : List Blank)
    {item : Tree σ ν} (all : item.All P Q) (after : List Blank) (items : Items σ ν)
    (rest : List UInt8) : skipWhitespace (blanks inside ++
        ((Items.cons before item after items).raw literal numeral ++ rest)) =
      item.raw literal numeral ++ (blanks after ++
        (items.separator ++ (items.raw literal numeral ++ rest))) := by
  simp only [Items.raw, List.append_assoc]
  rw [skipWhitespace_blanks inside, skipWhitespace_raw leaves before all]
  exact List.append_ne_nil_of_right_ne_nil _
    (List.append_ne_nil_of_left_ne_nil (raw_ne_nil leaves all) _)

/-- What follows an item is not a numeral's. -/
theorem stops_after (layout : List Blank) {c : UInt8} (stops : isNumeral c = false)
    (rest : List UInt8) : Stops (blanks layout ++ c :: rest) := by
  intro d first
  cases layout with
  | nil =>
    cases first
    exact stops
  | cons b layout =>
    cases first
    cases b <;> decide

theorem parseArray_nil {parseValue : Parser Json} {text rest : List UInt8}
    (next : skipWhitespace text = 93 :: rest) :
    parseArray parseValue (91 :: text) = some (.array [], rest) := by
  simp [parseArray, next]

theorem parseArray_cons {parseValue : Parser Json} {text later rest : List UInt8} {c : UInt8}
    {items : List Json} (next : skipWhitespace text = c :: later) (more : c ≠ 93)
    (read : parseElements parseValue text.length text = some (items, rest)) :
    parseArray parseValue (91 :: text) = some (.array items, rest) := by
  simp [parseArray, next, more, read]

/-- One round of the loop over an array's elements, the value read. -/
theorem parseElements_next {levels rounds : Nat} {text rest : List UInt8} {item : Json}
    (read : parseValue levels (skipWhitespace text) = some (item, rest)) {c : UInt8}
    {later : List UInt8} (next : skipWhitespace rest = c :: later) :
    parseElements (parseValue levels) (rounds + 1) text =
      if c = 44 then
        (parseElements (parseValue levels) rounds later).map fun (items, rest) => (item :: items, rest)
      else if c = 93 then some ([item], later)
      else none := by
  rw [parseElements, read]
  simp only [next]

theorem parseObject_nil {parseValue : Parser Json} {text rest : List UInt8}
    (next : skipWhitespace text = 125 :: rest) :
    parseObject parseValue (123 :: text) = some (.object [], rest) := by
  simp [parseObject, next]

theorem parseObject_cons {parseValue : Parser Json} {text later rest : List UInt8} {c : UInt8}
    {members : List (List UInt8 × Json)} (next : skipWhitespace text = c :: later) (more : c ≠ 125)
    (read : parseMembers parseValue text.length text = some (members, rest)) :
    parseObject parseValue (123 :: text) = some (.object members, rest) := by
  simp [parseObject, next, more, read]

theorem parseMembers_next {levels rounds : Nat} {text rest : List UInt8}
    {member : List UInt8 × Json} (read : parseMember (parseValue levels) text = some (member, rest))
    {c : UInt8} {later : List UInt8} (next : skipWhitespace rest = c :: later) :
    parseMembers (parseValue levels) (rounds + 1) text =
      if c = 44 then
        (parseMembers (parseValue levels) rounds later).map fun (members, rest) =>
          (member :: members, rest)
      else if c = 125 then some ([member], later)
      else none := by
  rw [parseMembers, read]
  simp only [next]

theorem skipWhitespace_key (leaves : Leaves literal numeral bytes P Q) (inside before : List Blank)
    {key : σ} (valid : P key) (rest : List UInt8) :
    skipWhitespace (blanks inside ++ (blanks before ++ (literal key ++ rest))) =
      literal key ++ rest := by
  obtain ⟨tail, same⟩ := leaves.quoted key valid
  rw [same, List.cons_append, skipWhitespace_blanks inside, skipWhitespace_to (by decide)]
  exact List.append_ne_nil_of_right_ne_nil _ (List.cons_ne_nil _ _)

theorem skipWhitespace_members (leaves : Leaves literal numeral bytes P Q)
    (inside before : List Blank) {key : σ} (valid : P key) (afterKey beforeItem : List Blank)
    (item : Tree σ ν) (after : List Blank) (members : Members σ ν) (rest : List UInt8) :
    ∃ later, skipWhitespace (blanks inside ++ ((Members.cons before key afterKey beforeItem item after
      members).raw literal numeral ++ rest)) = literal key ++ later := by
  simp only [Members.raw, List.append_assoc]
  exact ⟨_, skipWhitespace_key leaves inside before valid _⟩

theorem parseMember_raw (leaves : Leaves literal numeral bytes P Q) {levels : Nat}
    (inside before : List Blank) {key : σ} (valid : P key) (afterKey beforeItem : List Blank)
    {item : Tree σ ν} (all : item.All P Q) {rest : List UInt8} {read : Json}
    (reads : parseValue levels (item.raw literal numeral ++ rest) = some (read, rest)) :
    parseMember (parseValue levels) (blanks inside ++ (blanks before ++ (literal key ++
        (blanks afterKey ++ 58 :: (blanks beforeItem ++ (item.raw literal numeral ++ rest)))))) =
      some ((bytes key, read), rest) := by
  rw [parseMember, skipWhitespace_key leaves inside before valid, leaves.string key valid]
  simp only [skipWhitespace_to (show (32 : UInt8) < 58 by decide), ne_eq, not_true_eq_false,
    if_false, skipWhitespace_raw leaves beforeItem all, reads, Option.map_some]

mutual

theorem parseValue_raw (leaves : Leaves literal numeral bytes P Q) {levels : Nat} (t : Tree σ ν)
    (all : t.All P Q) (depth : t.depth ≤ levels) {rest : List UInt8} (stops : Stops rest) :
    parseValue levels (t.raw literal numeral ++ rest) = some (value bytes numeral t, rest) := by
  match t with
  | .null => exact parseValue_null levels rest
  | .bool false => exact parseValue_false levels rest
  | .bool true => exact parseValue_true levels rest
  | .number n =>
    have read := leaves.number n all rest stops
    obtain ⟨c, tail, same, begins⟩ := leaves.begins n all
    rw [Tree.raw, value, ← read, same]
    exact parseValue_numeral levels begins _
  | .string s =>
    have read := leaves.string s all rest
    obtain ⟨tail, same⟩ := leaves.quoted s all
    rw [same] at read
    rw [Tree.raw, value, same, List.cons_append, parseValue_quote, ← List.cons_append, read]
    rfl
  | .array inside items =>
    match levels with
    | 0 => simp [Tree.depth] at depth
    | levels + 1 =>
      simp only [Tree.raw, List.cons_append, List.append_assoc, List.nil_append]
      rw [parseValue_array]
      match items with
      | .nil => exact parseArray_nil (skipWhitespace_to (by decide) rest)
      | .cons before item after items =>
        have next := skipWhitespace_items leaves inside before all.1 after items (93 :: rest)
        obtain ⟨c, tail, same, _, _, more⟩ := raw_begins leaves all.1
        rw [same] at next
        exact parseArray_cons next more (parseElements_raw leaves (.cons before item after items) nofun
          all (Nat.le_of_succ_le_succ depth) inside rest _ (List.infix_append' _ _ _).length_le)
  | .object inside members =>
    match levels with
    | 0 => simp [Tree.depth] at depth
    | levels + 1 =>
      simp only [Tree.raw, List.cons_append, List.append_assoc, List.nil_append]
      rw [parseValue_object]
      match members with
      | .nil => exact parseObject_nil (skipWhitespace_to (by decide) rest)
      | .cons before key afterKey beforeItem item after members =>
        obtain ⟨later, next⟩ := skipWhitespace_members leaves inside before all.1 afterKey beforeItem item after
          members (125 :: rest)
        obtain ⟨tail, same⟩ := leaves.quoted key all.1
        rw [same, List.cons_append] at next
        exact parseObject_cons next (by decide) (parseMembers_raw leaves
          (.cons before key afterKey beforeItem item after members) nofun all
          (Nat.le_of_succ_le_succ depth) inside rest _ (List.infix_append' _ _ _).length_le)

theorem parseElements_raw (leaves : Leaves literal numeral bytes P Q) {levels : Nat}
    (items : Items σ ν) (some_items : items ≠ .nil) (all : items.All P Q)
    (depth : items.depth ≤ levels) (inside : List Blank) (rest : List UInt8) (rounds : Nat)
    (enough : (items.raw literal numeral).length ≤ rounds) :
    parseElements (parseValue levels) rounds
      (blanks inside ++ (items.raw literal numeral ++ 93 :: rest)) =
      some (values bytes numeral items, rest) := by
  match items with
  | .nil => exact absurd rfl some_items
  | .cons before item after items =>
    have visible := List.length_pos_iff.mpr (raw_ne_nil leaves all.1)
    simp only [Items.raw, List.length_append] at enough
    match rounds with
    | 0 => omega
    | rounds + 1 =>
      have skipped := skipWhitespace_items leaves inside before all.1 after items (93 :: rest)
      have deep : item.depth ≤ levels := Nat.le_trans (Nat.le_max_left _ _) depth
      match items with
      | .nil =>
        have read := parseValue_raw leaves item all.1 deep (stops_after after (c := 93) (by decide) rest)
        rw [parseElements_next (skipped ▸ read) (skipWhitespace_to (by decide) rest)]
        rfl
      | .cons before' item' after' items' =>
        have read := parseValue_raw leaves item all.1 deep (stops_after after (c := 44) (by decide)
          ((Items.cons before' item' after' items').raw literal numeral ++ 93 :: rest))
        have later := parseElements_raw leaves (.cons before' item' after' items') nofun all.2
          (Nat.le_trans (Nat.le_max_right _ _) depth) [] rest rounds
          (by simp only [Items.separator, List.length_singleton] at enough; omega)
        rw [parseElements_next (skipped ▸ read) (skipWhitespace_to (by decide) _), if_pos rfl]
        exact congrArg (Option.map _) later

theorem parseMembers_raw (leaves : Leaves literal numeral bytes P Q) {levels : Nat}
    (members : Members σ ν) (some_members : members ≠ .nil) (all : members.All P Q)
    (depth : members.depth ≤ levels) (inside : List Blank) (rest : List UInt8) (rounds : Nat)
    (enough : (members.raw literal numeral).length ≤ rounds) :
    parseMembers (parseValue levels) rounds
      (blanks inside ++ (members.raw literal numeral ++ 125 :: rest)) =
      some (memberValues bytes numeral members, rest) := by
  match members with
  | .nil => exact absurd rfl some_members
  | .cons before key afterKey beforeItem item after members =>
    simp only [Members.raw, List.length_append, List.length_singleton] at enough
    match rounds with
    | 0 => omega
    | rounds + 1 =>
      have deep : item.depth ≤ levels := Nat.le_trans (Nat.le_max_left _ _) depth
      simp only [Members.raw, List.append_assoc, List.cons_append, List.nil_append]
      match members with
      | .nil =>
        have reads := parseValue_raw leaves item all.2.1 deep
          (stops_after after (c := 125) (by decide) rest)
        have read := parseMember_raw leaves inside before all.1 afterKey beforeItem all.2.1 reads
        simp only [Members.separator, Members.raw, List.nil_append]
        rw [parseMembers_next read (skipWhitespace_to (by decide) rest)]
        rfl
      | .cons before' key' afterKey' beforeItem' item' after' members' =>
        have reads := parseValue_raw leaves item all.2.1 deep (stops_after after (c := 44) (by decide)
          ((Members.cons before' key' afterKey' beforeItem' item' after' members').raw literal numeral
            ++ 125 :: rest))
        have read := parseMember_raw leaves inside before all.1 afterKey beforeItem all.2.1 reads
        have later := parseMembers_raw leaves
          (.cons before' key' afterKey' beforeItem' item' after' members') nofun all.2.2
          (Nat.le_trans (Nat.le_max_right _ _) depth) [] rest rounds (by omega)
        simp only [Members.separator, List.cons_append, List.nil_append]
        rw [parseMembers_next read (skipWhitespace_to (by decide) _), if_pos rfl]
        exact congrArg (Option.map _) later

end

theorem parseValue_bottom {c : UInt8} (opens : c = 91 ∨ c = 123) (rest : List UInt8) :
    parseValue 0 (c :: rest) = none := by
  have other : c ≠ 110 ∧ c ≠ 102 ∧ c ≠ 116 := by
    rcases opens with rfl | rfl
    · decide
    · decide
  have leaf : c ≠ 34 ∧ ¬ (c = 45 ∨ 48 ≤ c ∧ c ≤ 57) := by
    rcases opens with rfl | rfl
    · decide
    · decide
  obtain ⟨null, wrong, right⟩ := @names_other c rest other
  rw [parseValue.eq_def]
  simp only [null, wrong, right, if_false, leaf, if_pos opens]

theorem parseArray_fails {parseValue : Parser Json} {text later : List UInt8} {c : UInt8}
    (next : skipWhitespace text = c :: later) (more : c ≠ 93)
    (unread : parseElements parseValue text.length text = none) :
    parseArray parseValue (91 :: text) = none := by
  simp [parseArray, next, more, unread]

theorem parseObject_fails {parseValue : Parser Json} {text later : List UInt8} {c : UInt8}
    (next : skipWhitespace text = c :: later) (more : c ≠ 125)
    (unread : parseMembers parseValue text.length text = none) :
    parseObject parseValue (123 :: text) = none := by
  simp [parseObject, next, more, unread]

theorem parseMembers_fails {parseValue : Parser Json} {rounds : Nat} {text : List UInt8}
    (unread : parseMember parseValue text = none) : parseMembers parseValue rounds text = none := by
  cases rounds with
  | zero => rfl
  | succ rounds => simp only [parseMembers, unread]

theorem parseMember_fails (leaves : Leaves literal numeral bytes P Q) {levels : Nat}
    (inside before : List Blank) {key : σ} (valid : P key) (afterKey beforeItem : List Blank)
    {item : Tree σ ν} (all : item.All P Q) {rest : List UInt8}
    (unread : parseValue levels (item.raw literal numeral ++ rest) = none) :
    parseMember (parseValue levels) (blanks inside ++ (blanks before ++ (literal key ++
        (blanks afterKey ++ 58 :: (blanks beforeItem ++ (item.raw literal numeral ++ rest)))))) =
      none := by
  rw [parseMember, skipWhitespace_key leaves inside before valid, leaves.string key valid]
  simp only [skipWhitespace_to (show (32 : UInt8) < 58 by decide), ne_eq, not_true_eq_false,
    if_false, skipWhitespace_raw leaves beforeItem all, unread, Option.map_none]

theorem parseElements_fails {parseValue : Parser Json} {rounds : Nat} {text : List UInt8}
    (unread : parseValue (skipWhitespace text) = none) : parseElements parseValue rounds text = none := by
  cases rounds with
  | zero => rfl
  | succ rounds => simp only [parseElements, unread]

mutual

/-- Where there are too few levels for a text, it is refused. -/
theorem parseValue_deep (leaves : Leaves literal numeral bytes P Q) {levels : Nat} (t : Tree σ ν)
    (all : t.All P Q) (deep : levels < t.depth) (rest : List UInt8) :
    parseValue levels (t.raw literal numeral ++ rest) = none := by
  match t with
  | .null | .bool _ | .number _ | .string _ => simp [Tree.depth] at deep
  | .array inside items =>
    match levels with
    | 0 => exact parseValue_bottom (.inl rfl) _
    | levels + 1 =>
      simp only [Tree.raw, List.cons_append, List.append_assoc, List.nil_append]
      rw [parseValue_array]
      match items with
      | .nil => simp [Tree.depth, Items.depth] at deep
      | .cons before item after items =>
        have next := skipWhitespace_items leaves inside before all.1 after items (93 :: rest)
        obtain ⟨c, tail, same, _, _, more⟩ := raw_begins leaves all.1
        rw [same] at next
        exact parseArray_fails next more (parseElements_deep leaves (.cons before item after items) all
          (Nat.lt_of_succ_lt_succ deep) inside rest _)
  | .object inside members =>
    match levels with
    | 0 => exact parseValue_bottom (.inr rfl) _
    | levels + 1 =>
      simp only [Tree.raw, List.cons_append, List.append_assoc, List.nil_append]
      rw [parseValue_object]
      match members with
      | .nil => simp [Tree.depth, Members.depth] at deep
      | .cons before key afterKey beforeItem item after members =>
        obtain ⟨later, next⟩ := skipWhitespace_members leaves inside before all.1 afterKey beforeItem
          item after members (125 :: rest)
        obtain ⟨tail, same⟩ := leaves.quoted key all.1
        rw [same, List.cons_append] at next
        exact parseObject_fails next (by decide) (parseMembers_deep leaves
          (.cons before key afterKey beforeItem item after members) all
          (Nat.lt_of_succ_lt_succ deep) inside rest _)

theorem parseElements_deep (leaves : Leaves literal numeral bytes P Q) {levels : Nat}
    (items : Items σ ν) (all : items.All P Q) (deep : levels < items.depth) (inside : List Blank)
    (rest : List UInt8) (rounds : Nat) :
    parseElements (parseValue levels) rounds
      (blanks inside ++ (items.raw literal numeral ++ 93 :: rest)) = none := by
  match items with
  | .nil => simp [Items.depth] at deep
  | .cons before item after items =>
    have skipped := skipWhitespace_items leaves inside before all.1 after items (93 :: rest)
    by_cases here : levels < item.depth
    · exact parseElements_fails (skipped ▸ parseValue_deep leaves item all.1 here _)
    match rounds, items with
    | 0, _ => rfl
    | _ + 1, .nil => simp [Items.depth, here] at deep
    | rounds + 1, .cons before' item' after' items' =>
      have later : levels < (Items.cons before' item' after' items').depth := by
        rw [Items.depth] at deep
        omega
      have read := parseValue_raw leaves item all.1 (Nat.not_lt.mp here)
        (stops_after after (c := 44) (by decide)
          ((Items.cons before' item' after' items').raw literal numeral ++ 93 :: rest))
      rw [parseElements_next (skipped ▸ read) (skipWhitespace_to (by decide) _), if_pos rfl]
      exact congrArg (Option.map _)
        (parseElements_deep leaves (.cons before' item' after' items') all.2 later [] rest rounds)

theorem parseMembers_deep (leaves : Leaves literal numeral bytes P Q) {levels : Nat}
    (members : Members σ ν) (all : members.All P Q) (deep : levels < members.depth)
    (inside : List Blank) (rest : List UInt8) (rounds : Nat) :
    parseMembers (parseValue levels) rounds
      (blanks inside ++ (members.raw literal numeral ++ 125 :: rest)) = none := by
  match members with
  | .nil => simp [Members.depth] at deep
  | .cons before key afterKey beforeItem item after members =>
    simp only [Members.raw, List.append_assoc, List.cons_append, List.nil_append]
    by_cases here : levels < item.depth
    · exact parseMembers_fails (parseMember_fails leaves inside before all.1 afterKey beforeItem
        all.2.1 (parseValue_deep leaves item all.2.1 here _))
    match rounds, members with
    | 0, _ => rfl
    | _ + 1, .nil => simp [Members.depth, here] at deep
    | rounds + 1, .cons before' key' afterKey' beforeItem' item' after' members' =>
      have later : levels <
          (Members.cons before' key' afterKey' beforeItem' item' after' members').depth := by
        rw [Members.depth] at deep
        omega
      have reads := parseValue_raw leaves item all.2.1 (Nat.not_lt.mp here)
        (stops_after after (c := 44) (by decide)
          ((Members.cons before' key' afterKey' beforeItem' item' after' members').raw literal numeral
            ++ 125 :: rest))
      have read := parseMember_raw leaves inside before all.1 afterKey beforeItem all.2.1 reads
      simp only [Members.separator, List.cons_append, List.nil_append]
      rw [parseMembers_next read (skipWhitespace_to (by decide) _), if_pos rfl]
      exact congrArg (Option.map _) (parseMembers_deep leaves
        (.cons before' key' afterKey' beforeItem' item' after' members') all.2.2 later [] rest rounds)

end

theorem blanks_clean (layout : List Blank) : (0 : UInt8) ∉ blanks layout := by
  intro member
  obtain ⟨b, _, same⟩ := List.mem_map.mp member
  cases b <;> cases same

mutual

theorem raw_clean (leaves : Leaves literal numeral bytes P Q) (t : Tree σ ν) (all : t.All P Q) :
    0 ∉ t.raw literal numeral := by
  match t with
  | .null | .bool false | .bool true => simp only [Tree.raw]; decide
  | .number n => exact leaves.numeral_clean n all
  | .string s => exact leaves.literal_clean s all
  | .array inside items =>
    have clean := itemsRaw_clean leaves items all
    simp [Tree.raw, blanks_clean inside, clean]
  | .object inside members =>
    have clean := membersRaw_clean leaves members all
    simp [Tree.raw, blanks_clean inside, clean]

theorem itemsRaw_clean (leaves : Leaves literal numeral bytes P Q) (items : Items σ ν)
    (all : items.All P Q) : 0 ∉ items.raw literal numeral := by
  match items with
  | .nil => exact List.not_mem_nil
  | .cons before item after items =>
    have first := raw_clean leaves item all.1
    have later := itemsRaw_clean leaves items all.2
    have separator : 0 ∉ items.separator := by cases items <;> simp [Items.separator]
    simp [Items.raw, blanks_clean, first, later, separator]

theorem membersRaw_clean (leaves : Leaves literal numeral bytes P Q) (members : Members σ ν)
    (all : members.All P Q) : 0 ∉ members.raw literal numeral := by
  match members with
  | .nil => exact List.not_mem_nil
  | .cons before key afterKey beforeItem item after members =>
    have name := leaves.literal_clean key all.1
    have first := raw_clean leaves item all.2.1
    have later := membersRaw_clean leaves members all.2.2
    have separator : 0 ∉ members.separator := by cases members <;> simp [Members.separator]
    simp [Members.raw, blanks_clean, name, first, later, separator]

end

/-- A text may begin with a byte order mark. -/
def mark (bom : Bool) : List UInt8 := if bom then [0xEF, 0xBB, 0xBF] else []

theorem mark_clean (bom : Bool) : 0 ∉ mark bom := by
  cases bom <;> decide

theorem skipUtf8Bom_mark (bom : Bool) {c : UInt8} (ascii : c ≠ 0xEF) {rest : List UInt8}
    (more : rest ≠ []) : skipUtf8Bom (mark bom ++ c :: rest) = c :: rest := by
  obtain ⟨d, rest, rfl⟩ := List.exists_cons_of_ne_nil more
  cases bom with
  | true => simp [mark, skipUtf8Bom]
  | false => simp [mark, skipUtf8Bom, ascii.symm]

/-- The byte a text begins with, behind its blanks. -/
theorem laid_begins (leaves : Leaves literal numeral bytes P Q) (layout : List Blank)
    {t : Tree σ ν} (all : t.All P Q) :
    ∃ c tail, blanks layout ++ t.raw literal numeral = c :: tail ∧ c ≠ 0xEF := by
  cases layout with
  | nil =>
    obtain ⟨c, tail, same, _, low, _⟩ := raw_begins leaves all
    refine ⟨c, tail, same, ?_⟩
    rintro rfl
    exact absurd low (by decide)
  | cons b layout => exact ⟨b.byte, _, rfl, by cases b <;> decide⟩

theorem Stops.upToNul {rest : List UInt8} (stops : Stops rest) : Stops (CText.upToNul rest ++ [0]) := by
  intro c first
  cases rest with
  | nil =>
    cases first
    decide
  | cons d rest =>
    by_cases zero : d = 0
    · simp [CText.upToNul, zero] at first
      exact first ▸ by decide
    · simp [CText.upToNul, zero] at first
      exact first ▸ stops d rfl

/-- A text is read as what it stands for, with or without a byte order mark, and whatever
follows it, unless it is nested too deep. -/
theorem parse_raw (leaves : Leaves literal numeral bytes P Q) (bom : Bool) (layout : List Blank)
    {t : Tree σ ν} (all : t.All P Q) {trailing : List UInt8} (stops : Stops trailing) :
    parse (mark bom ++ (blanks layout ++ t.raw literal numeral) ++ trailing) =
      if t.depth ≤ nestingLimit then some (value bytes numeral t) else none := by
  have clean : 0 ∉ mark bom ++ (blanks layout ++ t.raw literal numeral) := by
    simp [mark_clean, blanks_clean, raw_clean leaves t all]
  obtain ⟨c, tail, same, ascii⟩ := laid_begins leaves layout all
  have skipped := skipWhitespace_raw leaves layout all (CText.upToNul trailing ++ [0])
  rw [parse, CText.upToNul_append clean, List.append_assoc, List.append_assoc, same, List.cons_append,
    skipUtf8Bom_mark bom ascii (by simp), ← List.cons_append, ← same, List.append_assoc, skipped]
  by_cases depth : t.depth ≤ nestingLimit
  · rw [if_pos depth, parseValue_raw leaves t all depth stops.upToNul]
    rfl
  · rw [if_neg depth, parseValue_deep leaves t all (Nat.not_le.mp depth)]
    rfl

end Texts

end Assistantd.CJson
