import Assistantd.Adapter.Http
import Assistantd.CJson.Strings

/-! cJSON.c: `cJSON_Parse`. A buffer at an offset is the list of the bytes from there on,
the NUL last. -/
namespace Assistantd.CJson

open CText (ascii)

abbrev Parser (α : Type) := List UInt8 → Option (α × List UInt8)

/-- What skips everything steps back to the last byte. -/
def skipWhitespace : List UInt8 → List UInt8
  | [] => []
  | [c] => [c]
  | c :: d :: rest => if c ≤ 32 then skipWhitespace (d :: rest) else c :: d :: rest

/-! ## Numbers -/

def isDigit (c : UInt8) : Bool := 48 ≤ c && c ≤ 57

/-- What `parse_number` copies. -/
def isNumeral (c : UInt8) : Bool :=
  isDigit c || c = 43 || c = 45 || c = 101 || c = 69 || c = 46

def signLength (text : List UInt8) : Nat :=
  match text with
  | [] => 0
  | c :: _ => if c = 43 ∨ c = 45 then 1 else 0

def digitsLength (text : List UInt8) : Nat := (text.takeWhile isDigit).length

/-- The point counts where there is one. -/
def fractionLength (text : List UInt8) : Nat :=
  match text with
  | [] => 0
  | c :: rest => if c = 46 then digitsLength rest + 1 else 0

/-- An `e` without digits is not part of the number. -/
def exponentLength (text : List UInt8) : Nat :=
  match text with
  | [] => 0
  | c :: rest =>
    if c = 101 ∨ c = 69 then
      let sign := signLength rest
      match digitsLength (rest.drop sign) with
      | 0 => 0
      | digits + 1 => 1 + sign + (digits + 1)
    else 0

/-- How much of these bytes `strtod` takes for a number, 0 for none. -/
def strtodLength (text : List UInt8) : Nat :=
  let sign := signLength text
  let whole := digitsLength (text.drop sign)
  let fraction := fractionLength (text.drop (sign + whole))
  if whole = 0 ∧ fraction ≤ 1 then 0
  else sign + whole + fraction + exponentLength (text.drop (sign + whole + fraction))

/-- The number is kept as its numeral. -/
def parseNumber : Parser Json := fun rest =>
  let numberCString := (rest.take 63).takeWhile isNumeral
  match strtodLength numberCString with
  | 0 => none
  | length + 1 => some (.number (rest.take (length + 1)), rest.drop (length + 1))

/-! ## Values -/

section Containers

variable (parseValue : Parser Json)

/-- The loop over the elements of an array, from behind the bracket or a comma. Each
round advances. -/
def parseElements : Nat → Parser (List Json)
  | 0, _ => none
  | rounds + 1, rest =>
    match parseValue (skipWhitespace rest) with
    | none => none
    | some (item, rest) =>
      match skipWhitespace rest with
      | [] => none
      | c :: rest =>
        if c = 44 then (parseElements rounds rest).map fun (items, rest) => (item :: items, rest)
        else if c = 93 then some ([item], rest)
        else none

def parseArray : Parser Json
  | [] => none
  | c :: rest =>
    if c ≠ 91 then none
    else
      match skipWhitespace rest with
      | [] => none
      | c :: after =>
        if c = 93 then some (.array [], after)
        else (parseElements parseValue rest.length rest).map fun (items, rest) => (.array items, rest)

/-- One member, up to what follows its value. -/
def parseMember : Parser (List UInt8 × Json) := fun rest =>
  match parseString (skipWhitespace rest) with
  | none => none
  | some (key, rest) =>
    match skipWhitespace rest with
    | [] => none
    | c :: rest =>
      if c ≠ 58 then none
      else (parseValue (skipWhitespace rest)).map fun (item, rest) => ((key, item), rest)

def parseMembers : Nat → Parser (List (List UInt8 × Json))
  | 0, _ => none
  | rounds + 1, rest =>
    match parseMember parseValue rest with
    | none => none
    | some (member, rest) =>
      match skipWhitespace rest with
      | [] => none
      | c :: rest =>
        if c = 44 then
          (parseMembers rounds rest).map fun (members, rest) => (member :: members, rest)
        else if c = 125 then some ([member], rest)
        else none

def parseObject : Parser Json
  | [] => none
  | c :: rest =>
    if c ≠ 123 then none
    else
      match skipWhitespace rest with
      | [] => none
      | c :: after =>
        if c = 125 then some (.object [], after)
        else (parseMembers parseValue rest.length rest).map fun (members, rest) => (.object members, rest)

end Containers

/-- `levels` is `CJSON_NESTING_LIMIT` without the depth. -/
def parseValue (levels : Nat) : Parser Json := fun rest =>
  if ascii "null" <+: rest then some (.null, rest.drop 4)
  else if ascii "false" <+: rest then some (.bool false, rest.drop 5)
  else if ascii "true" <+: rest then some (.bool true, rest.drop 4)
  else
    match rest with
    | [] => none
    | c :: _ =>
      if c = 34 then (parseString rest).map fun (text, rest) => (.string text, rest)
      else if c = 45 ∨ (48 ≤ c ∧ c ≤ 57) then parseNumber rest
      else if c = 91 ∨ c = 123 then
        match levels with
        | 0 => none
        | levels + 1 =>
          if c = 91 then parseArray (parseValue levels) rest
          else parseObject (parseValue levels) rest
      else none

def nestingLimit : Nat := 1000

def skipUtf8Bom (content : List UInt8) : List UInt8 :=
  if 4 < content.length ∧ [0xEF, 0xBB, 0xBF] <+: content then content.drop 3 else content

/-- What follows the value is not looked at. The allocations are taken to succeed. -/
def parse (value : List UInt8) : Option Json :=
  (parseValue nestingLimit (skipWhitespace (skipUtf8Bom (CText.upToNul value ++ [0])))).map Prod.fst

end Assistantd.CJson
