import Assistantd.Lib.CText

/-! JSON texts as RFC 8259 has them: a tree that keeps the layout, the bytes it stands
for, and the leaves the grammar allows. -/
namespace JsonText

open CText (ascii)

inductive Blank where
  | space
  | tab
  | newline
  | carriageReturn

def Blank.byte : Blank → UInt8
  | .space => 32
  | .tab => 9
  | .newline => 10
  | .carriageReturn => 13

theorem Blank.byte_le (b : Blank) : b.byte ≤ 32 := by
  cases b <;> decide

def blanks (layout : List Blank) : List UInt8 := layout.map Blank.byte

/-! ## Trees -/

mutual

/-- A text with `σ` for its string literals and `ν` for its numerals. What stands in
`inside` comes before the first item. -/
inductive Tree (σ ν : Type) where
  | null
  | bool (value : Bool)
  | number (numeral : ν)
  | string (literal : σ)
  | array (inside : List Blank) (items : Items σ ν)
  | object (inside : List Blank) (members : Members σ ν)

inductive Items (σ ν : Type) where
  | nil
  | cons (before : List Blank) (item : Tree σ ν) (after : List Blank) (rest : Items σ ν)

inductive Members (σ ν : Type) where
  | nil
  | cons (before : List Blank) (key : σ) (afterKey beforeItem : List Blank) (item : Tree σ ν)
      (after : List Blank) (rest : Members σ ν)

end

section Trees

variable {σ ν : Type} (literal : σ → List UInt8) (numeral : ν → List UInt8)

def Items.separator : Items σ ν → List UInt8
  | .nil => []
  | .cons .. => [44]

def Members.separator : Members σ ν → List UInt8
  | .nil => []
  | .cons .. => [44]

mutual

/-- The bytes of the text. -/
def Tree.raw : Tree σ ν → List UInt8
  | .null => ascii "null"
  | .bool false => ascii "false"
  | .bool true => ascii "true"
  | .number n => numeral n
  | .string s => literal s
  | .array inside items => 91 :: (blanks inside ++ items.raw ++ [93])
  | .object inside members => 123 :: (blanks inside ++ members.raw ++ [125])

def Items.raw : Items σ ν → List UInt8
  | .nil => []
  | .cons before item after rest =>
    blanks before ++ item.raw ++ blanks after ++ rest.separator ++ rest.raw

def Members.raw : Members σ ν → List UInt8
  | .nil => []
  | .cons before key afterKey beforeItem item after rest =>
    blanks before ++ literal key ++ blanks afterKey ++ [58] ++ blanks beforeItem ++ item.raw ++
      blanks after ++ rest.separator ++ rest.raw

end

mutual

/-- How deep arrays and objects are nested. -/
def Tree.depth : Tree σ ν → Nat
  | .null | .bool _ | .number _ | .string _ => 0
  | .array _ items => items.depth + 1
  | .object _ members => members.depth + 1

def Items.depth : Items σ ν → Nat
  | .nil => 0
  | .cons _ item _ rest => max item.depth rest.depth

def Members.depth : Members σ ν → Nat
  | .nil => 0
  | .cons _ _ _ _ item _ rest => max item.depth rest.depth

end

variable (P : σ → Prop) (Q : ν → Prop)

mutual

/-- Every literal and key satisfies `P` and every numeral `Q`. -/
def Tree.All : Tree σ ν → Prop
  | .null | .bool _ => True
  | .number n => Q n
  | .string s => P s
  | .array _ items => items.All
  | .object _ members => members.All

def Items.All : Items σ ν → Prop
  | .nil => True
  | .cons _ item _ rest => item.All ∧ rest.All

def Members.All : Members σ ν → Prop
  | .nil => True
  | .cons _ key _ _ item _ rest => P key ∧ item.All ∧ rest.All

end

mutual

theorem Tree.All.imp {P P' : σ → Prop} {Q Q' : ν → Prop} (literals : ∀ s, P s → P' s)
    (numerals : ∀ n, Q n → Q' n) (t : Tree σ ν) (h : t.All P Q) : t.All P' Q' := by
  match t with
  | .null | .bool _ => trivial
  | .number n => exact numerals n h
  | .string s => exact literals s h
  | .array _ items => exact Items.All.imp literals numerals items h
  | .object _ members => exact Members.All.imp literals numerals members h

theorem Items.All.imp {P P' : σ → Prop} {Q Q' : ν → Prop} (literals : ∀ s, P s → P' s)
    (numerals : ∀ n, Q n → Q' n) (items : Items σ ν) (h : items.All P Q) : items.All P' Q' := by
  match items with
  | .nil => trivial
  | .cons _ item _ rest =>
    exact ⟨Tree.All.imp literals numerals item h.1, Items.All.imp literals numerals rest h.2⟩

theorem Members.All.imp {P P' : σ → Prop} {Q Q' : ν → Prop} (literals : ∀ s, P s → P' s)
    (numerals : ∀ n, Q n → Q' n) (members : Members σ ν) (h : members.All P Q) :
    members.All P' Q' := by
  match members with
  | .nil => trivial
  | .cons _ key _ _ item _ rest =>
    exact ⟨literals key h.1, Tree.All.imp literals numerals item h.2.1,
      Members.All.imp literals numerals rest h.2.2⟩

end

end Trees

/-! ## Numerals -/

def digits (ds : List (Fin 10)) : List UInt8 := ds.map fun d => (48 + d.val).toUInt8

structure Exponent where
  upper : Bool
  sign : Option Bool
  power : List (Fin 10)
  some_digits : power ≠ []

structure Numeral where
  negative : Bool
  whole : List (Fin 10)
  whole_digits : whole ≠ []
  no_leading_zero : whole.head? = some 0 → whole = [0]
  /-- Without digits there is no point. -/
  fraction : List (Fin 10)
  exponent : Option Exponent

/-- A minus for true, a plus for false. -/
def signRaw : Option Bool → List UInt8
  | none => []
  | some true => [45]
  | some false => [43]

def Exponent.raw (e : Exponent) : List UInt8 :=
  (if e.upper then 69 else 101) :: (signRaw e.sign ++ digits e.power)

def fractionRaw (fraction : List (Fin 10)) : List UInt8 :=
  if fraction = [] then [] else 46 :: digits fraction

def exponentRaw (exponent : Option Exponent) : List UInt8 := (exponent.map Exponent.raw).getD []

def Numeral.raw (n : Numeral) : List UInt8 :=
  signRaw (if n.negative then some true else none) ++
    (digits n.whole ++ (fractionRaw n.fraction ++ exponentRaw n.exponent))

/-! ## String literals -/

inductive Short where
  | quote
  | backslash
  | slash
  | backspace
  | formFeed
  | newline
  | carriageReturn
  | tab

/-- The letter behind the backslash. -/
def Short.letter : Short → UInt8
  | .quote => 34
  | .backslash => 92
  | .slash => 47
  | .backspace => 98
  | .formFeed => 102
  | .newline => 110
  | .carriageReturn => 114
  | .tab => 116

def Short.char : Short → Char
  | .quote => '"'
  | .backslash => '\\'
  | .slash => '/'
  | .backspace => '\x08'
  | .formFeed => '\x0c'
  | .newline => '\n'
  | .carriageReturn => '\r'
  | .tab => '\t'

/-- A hexadecimal digit, its letter in either case. -/
def hexByte (upper : Bool) (d : Nat) : UInt8 :=
  (if d < 10 then 48 + d else if upper then 55 + d else 87 + d).toUInt8

/-- Four hexadecimal digits, and which of them are in upper case. -/
def hex4 (upper : Fin 4 → Bool) (n : Nat) : List UInt8 :=
  [hexByte (upper 0) (n / 4096 % 16), hexByte (upper 1) (n / 256 % 16),
    hexByte (upper 2) (n / 16 % 16), hexByte (upper 3) (n % 16)]

/-- One character of a literal, in one of the ways the grammar has for it. -/
inductive Piece where
  | plain (c : Char) (printable : 32 ≤ c.toNat) (quote : c ≠ '"') (backslash : c ≠ '\\')
  | short (s : Short)
  | unicode (c : Char) (basic : c.toNat < 0x10000) (upper : Fin 4 → Bool)
  | surrogates (c : Char) (beyond : 0x10000 ≤ c.toNat) (upperHigh upperLow : Fin 4 → Bool)

def Piece.char : Piece → Char
  | .plain c _ _ _ => c
  | .short s => s.char
  | .unicode c _ _ => c
  | .surrogates c _ _ _ => c

def Piece.raw : Piece → List UInt8
  | .plain c _ _ _ => String.utf8EncodeChar c
  | .short s => [92, s.letter]
  | .unicode c _ upper => 92 :: 117 :: hex4 upper c.toNat
  | .surrogates c _ upperHigh upperLow =>
    92 :: 117 :: (hex4 upperHigh (0xD800 + (c.toNat - 0x10000) / 1024) ++
      92 :: 117 :: hex4 upperLow (0xDC00 + (c.toNat - 0x10000) % 1024))

abbrev Literal := List Piece

def Literal.raw (l : Literal) : List UInt8 := 34 :: (l.flatMap Piece.raw ++ [34])

def Literal.chars (l : Literal) : List Char := l.map Piece.char

end JsonText
