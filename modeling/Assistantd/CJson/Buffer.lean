import Assistantd.Lib.Blocks
import Assistantd.Lib.Calls
import Assistantd.Lib.Cells
import Assistantd.CJson.Print

/-! cJSON.c: the buffer a text is printed into, and what is asked of the allocator. -/
namespace Assistantd.CJson

open Calls
open CText (ascii)
open JsonText

/-- `INT_MAX` -/
def intMax : Nat := 2 ^ 31 - 1

/-- `printbuffer`, with what its block holds. The addresses count the requests to the
allocator, from 1; 0 is NULL. -/
structure PrintBuffer where
  buffer : Nat
  cells : Nat → UInt8
  length : Nat
  offset : Nat
  requests : Nat

/-- `memset` -/
def PrintBuffer.cleared (cells : Nat → UInt8) : PrintBuffer := ⟨0, cells, 0, 0, 0⟩

/-- What the allocator does with its requests, by their numbers: refuses, or gives a block
with something in it. -/
abbrev Allocator := Nat → Option (Nat → UInt8)

abbrev Printing := Call PrintBuffer Blocks.Event Unit

section Buffer

variable (sizeBits : Nat) (allocator : Allocator)

def allocate (size : Nat) : Printing Unit := do
  let p ← get
  modify fun p => { p with requests := p.requests + 1 }
  match allocator p.requests with
  | none => fail ()
  | some fresh =>
    emit (.acquire (p.requests + 1) size)
    modify fun p => { p with buffer := p.requests, cells := fresh, length := size }

/-- `realloc` keeps what fits of the old block. -/
def moved (p : PrintBuffer) (size : Nat) (fresh : Nat → UInt8) : Nat → UInt8 :=
  fun k => if k < min p.length size then p.cells k else fresh k

/-- The end of `ensure`. Where there is no block to be had the old one is given back. -/
def grow (newsize : Nat) : Printing Unit := do
  let p ← get
  emit (.release p.buffer)
  modify fun p => { p with buffer := 0, length := 0, requests := p.requests + 1 }
  match allocator p.requests with
  | none => fail ()
  | some fresh =>
    emit (.acquire (p.requests + 1) newsize)
    modify fun q =>
      { q with buffer := q.requests, cells := moved p newsize fresh, length := newsize }

/-- The result is where the room starts. -/
def ensure (needed : Nat) : Printing Nat := do
  let p ← get
  failIf (p.buffer = 0) ()
  failIf (0 < p.length ∧ p.length ≤ p.offset) ()
  failIf (intMax < needed) ()
  let needed := (needed + (p.offset + 1)) % 2 ^ sizeBits
  doIf (p.length < needed) do
    failIf (intMax / 2 < needed ∧ intMax < needed) ()
    grow allocator (if intMax / 2 < needed then intMax else needed * 2)
  pure p.offset

def store (start : Nat) (bytes : List UInt8) : Printing Unit := do
  let p ← get
  emit (.touch p.buffer start bytes.length)
  modify fun p => { p with cells := Cells.copyIn p.cells start bytes }

def advance (count : Nat) : Printing Unit :=
  modify fun p => { p with offset := p.offset + count }

/-- `strlen` of what the cells hold from `start` on, in a block with `room` behind it. -/
def strlen (cells : Nat → UInt8) (start room : Nat) : Nat :=
  ((Cells.slice cells start room).takeWhile (· ≠ 0)).length

def updateOffset : Printing Unit := do
  let p ← get
  doIf (p.buffer ≠ 0) do
    let length := strlen p.cells p.offset (p.length - p.offset)
    emit (.touch p.buffer p.offset (length + 1))
    advance length

/-! ## Values -/

def escapeCharacters (c : UInt8) : Nat :=
  if c = 34 ∨ c = 92 ∨ c = 8 ∨ c = 12 ∨ c = 10 ∨ c = 13 ∨ c = 9 then 1
  else if c < 32 then 5
  else 0

/-- The letter behind the backslash, where the escape has just one. -/
def escapeLetter (c : UInt8) : Option UInt8 :=
  if c = 92 then some 92
  else if c = 34 then some 34
  else if c = 8 then some 98
  else if c = 12 then some 102
  else if c = 10 then some 110
  else if c = 13 then some 114
  else if c = 9 then some 116
  else none

/-- The loop that copies the string. `sprintf` puts a NUL behind the four digits. -/
def copyEscaped (output : Nat) : List UInt8 → Printing Unit
  | [] => pure ()
  | c :: rest =>
    if 31 < c ∧ c ≠ 34 ∧ c ≠ 92 then do
      store output [c]
      copyEscaped (output + 1) rest
    else do
      store output [92]
      match escapeLetter c with
      | some letter => do
        store (output + 1) [letter]
        copyEscaped (output + 2) rest
      | none => do
        store (output + 1) (117 :: hex4 (fun _ => false) c.toNat ++ [0])
        copyEscaped (output + 6) rest

def printStringPtr (text : List UInt8) : Printing Unit := do
  let input := CText.upToNul text
  let escapes := (input.map escapeCharacters).sum % 2 ^ sizeBits
  let length := (input.length + escapes) % 2 ^ sizeBits
  let output ← ensure sizeBits allocator ((length + 3) % 2 ^ sizeBits)
  store output [34]
  if escapes = 0 then do
    store (output + 1) (input.take length)
    store (output + length + 1) [34]
    store (output + length + 2) [0]
  else do
    copyEscaped (output + 1) input
    store (output + length + 1) [34]
    store (output + length + 2) [0]

/-- `strcpy` of a word -/
def printWord (word : List UInt8) : Printing Unit := do
  let output ← ensure sizeBits allocator (word.length + 1)
  store output (word ++ [0])

/-- From the text on that `sprintf` gives. -/
def printNumber (text : List UInt8) : Printing Unit := do
  failIf (25 < text.length) ()
  let output ← ensure sizeBits allocator (text.length + 1)
  store output (text ++ [0])
  advance text.length

/-- What a container starts with, and the colon behind a key: no NUL is put there. -/
def printOpen (needed : Nat) (bracket : UInt8) : Printing Unit := do
  let output ← ensure sizeBits allocator needed
  store output [bracket]
  advance 1

def printClose (bracket : UInt8) : Printing Unit := do
  let output ← ensure sizeBits allocator 2
  store output [bracket]
  store (output + 1) [0]

/-- Behind an element of an array that is not the last. -/
def printComma : Printing Unit := do
  let output ← ensure sizeBits allocator 2
  store output [44]
  store (output + 1) [0]
  advance 1

def printColon : Printing Unit := printOpen sizeBits allocator 1 58

/-- Behind each member of an object: a comma if it is not the last, and a NUL. -/
def printSeparator (last : Bool) : Printing Unit := do
  let comma : List UInt8 := if last then [] else [44]
  let output ← ensure sizeBits allocator (comma.length + 1)
  store output comma
  store (output + comma.length) [0]
  advance comma.length

mutual

def printValue : Json → Printing Unit
  | .null => printWord sizeBits allocator (ascii "null")
  | .bool false => printWord sizeBits allocator (ascii "false")
  | .bool true => printWord sizeBits allocator (ascii "true")
  | .number text => printNumber sizeBits allocator text
  | .string text => printStringPtr sizeBits allocator text
  | .array items => do
    printOpen sizeBits allocator 1 91
    printItems items
    printClose sizeBits allocator 93
  | .object members => do
    printOpen sizeBits allocator 2 123
    printPairs members
    printClose sizeBits allocator 125

def printItems : List Json → Printing Unit
  | [] => pure ()
  | item :: rest => do
    printValue item
    updateOffset
    doIf (rest ≠ []) (printComma sizeBits allocator)
    printItems rest

def printPairs : List (List UInt8 × Json) → Printing Unit
  | [] => pure ()
  | (key, item) :: rest => do
    printStringPtr sizeBits allocator key
    updateOffset
    printColon sizeBits allocator
    printValue item
    updateOffset
    printSeparator sizeBits allocator rest.isEmpty
    printPairs rest

end

/-- The block that is given to the caller. -/
structure Printed where
  addr : Nat
  cells : Nat → UInt8

/-- The last `realloc`; it leaves the old block alone where it fails. -/
def finish : Printing Printed := do
  let p ← get
  modify fun p => { p with requests := p.requests + 1 }
  match allocator p.requests with
  | none => fail ()
  | some fresh =>
    emits [.release p.buffer, .acquire (p.requests + 1) ((p.offset + 1) % 2 ^ sizeBits)]
    modify fun p => { p with buffer := 0 }
    pure ⟨p.requests + 1, moved p ((p.offset + 1) % 2 ^ sizeBits) fresh⟩

/-- `fail:` -/
def discard : Printing Unit := do
  let p ← get
  doIf (p.buffer ≠ 0) do
    emit (.release p.buffer)
    modify fun p => { p with buffer := 0 }

/-- `print` without format -/
def cJSONPrintUnformatted (item : Json) : Printing Printed :=
  onError (do
    allocate allocator 256
    printValue sizeBits allocator item
    updateOffset
    finish sizeBits allocator) discard

end Buffer

/-! ## Stores -/

/-- The block of the buffer is in use, and no other. -/
def Accounted (trace : List Blocks.Event) (p : PrintBuffer) : Prop :=
  Blocks.Owned trace (p.requests + 1) (if p.buffer = 0 then none else some (p.buffer, p.length))

theorem accounted_some {trace : List Blocks.Event} {p : PrintBuffer} (block : p.buffer ≠ 0) :
    Accounted trace p ↔ Blocks.Owned trace (p.requests + 1) (some (p.buffer, p.length)) := by
  rw [Accounted, if_neg block]

theorem accounted_none {trace : List Blocks.Event} {p : PrintBuffer} (block : p.buffer = 0) :
    Accounted trace p ↔ Blocks.Owned trace (p.requests + 1) none := by
  rw [Accounted, if_pos block]

/-- A part of the printer that cannot fail. -/
structure Stores (m : Printing Unit) (p : PrintBuffer) (Q : PrintBuffer → Prop) : Prop where
  keeps : Keeps Accounted m p
  ok : (m.run p).result = .ok ()
  reaches : Q (m.run p).state

theorem Stores.bind {m f : Printing Unit} {p : PrintBuffer} {P Q : PrintBuffer → Prop}
    (first : Stores m p P) (next : ∀ q, P q → Stores f q Q) : Stores (m >>= fun _ => f) p Q := by
  have later := next _ first.reaches
  have keeps := keeps_bind first.keeps fun _ _ => later.keeps
  have ok := first.ok
  rcases ran : m.run p with ⟨result, q, events⟩
  rw [ran] at ok later
  obtain rfl : result = .ok () := ok
  have same : ((m >>= fun _ => f).run p) = (f.run q).after events := by rw [run_bind, ran, andThen_ok]
  exact ⟨keeps, by rw [same]; exact later.ok, by rw [same]; exact later.reaches⟩

theorem Stores.weaken {m : Printing Unit} {p : PrintBuffer} {P Q : PrintBuffer → Prop}
    (h : Stores m p P) (weaker : ∀ q, P q → Q q) : Stores m p Q :=
  ⟨h.keeps, h.ok, weaker _ h.reaches⟩

theorem store_stores {p : PrintBuffer} {start : Nat} {bytes : List UInt8} (block : p.buffer ≠ 0)
    (room : start + bytes.length ≤ p.length) :
    Stores (store start bytes) p
      fun q => q = { p with cells := Cells.copyIn p.cells start bytes } where
  keeps := by
    refine keeps_get (keeps_bind (keeps_emit fun h inv => ?_) fun _ _ => keeps_modify fun h inv => inv)
    rw [accounted_some block] at inv ⊢
    exact inv.touch room
  ok := rfl
  reaches := rfl

theorem advance_stores (p : PrintBuffer) (count : Nat) :
    Stores (advance count) p fun q => q = { p with offset := p.offset + count } :=
  ⟨keeps_modify fun _ inv => inv, rfl, rfl⟩

/-- The cells hold a text from the start on; nothing else has changed. -/
structure Filled (p q : PrintBuffer) (text : List UInt8) : Prop where
  same : q = { p with cells := q.cells }
  text : Cells.slice q.cells 0 text.length = text

theorem Filled.prefix {p q : PrintBuffer} {text more : List UInt8} (h : Filled p q (text ++ more)) :
    Filled p q text where
  same := h.same
  text := by
    have whole := h.text
    rw [List.length_append, Cells.slice_append] at whole
    exact (List.append_inj whole (by simp)).1

/-- A text is filled in from where it has got to. -/
theorem Filled.store {p q : PrintBuffer} {text : List UInt8} (h : Filled p q text) (block : p.buffer ≠ 0)
    {bytes : List UInt8} (room : text.length + bytes.length ≤ p.length) {start : Nat}
    (here : start = text.length) :
    Stores (store start bytes) q fun r => Filled p r (text ++ bytes) := by
  obtain ⟨same, filled⟩ := h
  subst here
  have stores : Stores (CJson.store text.length bytes) q _ :=
    store_stores (same ▸ block) (same ▸ room)
  refine ⟨stores.keeps, stores.ok, ?_⟩
  rw [stores.reaches]
  refine ⟨by rw [same], ?_⟩
  rw [List.length_append, Cells.slice_copyIn_append, filled]

theorem escape_plain {c : UInt8} (plain : 31 < c ∧ c ≠ 34 ∧ c ≠ 92) :
    escape c = [c] ∧ escapeCharacters c = 0 := by
  refine ⟨if_pos plain, ?_⟩
  obtain ⟨visible, quote, backslash⟩ := plain
  have control : ¬ c < 32 := by
    rw [UInt8.lt_iff_toNat_lt] at visible ⊢
    exact Nat.not_lt.mpr visible
  have others : ∀ d : UInt8, d ≤ 31 → c ≠ d := by
    rintro d small rfl
    exact absurd visible (UInt8.not_lt.mpr small)
  rw [escapeCharacters, if_neg, if_neg control]
  simp only [quote, backslash, others 8 (by decide), others 12 (by decide), others 10 (by decide),
    others 13 (by decide), others 9 (by decide), or_self, not_false_eq_true]

theorem escape_letter {c letter : UInt8} (short : escapeLetter c = some letter) :
    escape c = [92, letter] ∧ escapeCharacters c = 1 := by
  unfold escapeLetter at short
  split_ifs at short
  all_goals
    obtain rfl := Option.some.inj short
    subst c
    exact ⟨rfl, rfl⟩

theorem escape_unicode {c : UInt8} (other : ¬ (31 < c ∧ c ≠ 34 ∧ c ≠ 92))
    (long : escapeLetter c = none) :
    escape c = 92 :: 117 :: hex4 (fun _ => false) c.toNat ∧ escapeCharacters c = 5 := by
  have letters : c ≠ 92 ∧ c ≠ 34 ∧ c ≠ 8 ∧ c ≠ 12 ∧ c ≠ 10 ∧ c ≠ 13 ∧ c ≠ 9 := by
    unfold escapeLetter at long
    split_ifs at long
    refine ⟨?_, ?_, ?_, ?_, ?_, ?_, ?_⟩ <;> assumption
  obtain ⟨backslash, quote, backspace, form, line, carriage, tab⟩ := letters
  have control : c < 32 := by
    simp only [quote, backslash, ne_eq, not_false_eq_true, and_true, UInt8.not_lt] at other
    rw [UInt8.le_iff_toNat_le] at other
    exact UInt8.lt_iff_toNat_lt.mpr (Nat.lt_succ_of_le other)
  constructor
  · rw [escape, if_neg other, if_neg backslash, if_neg quote, if_neg backspace, if_neg form,
      if_neg line, if_neg carriage, if_neg tab]
  · rw [escapeCharacters, if_neg, if_pos control]
    simp [quote, backslash, backspace, form, line, carriage, tab]

/-- What the escapes of a byte add is what was counted for it. -/
theorem escape_length (c : UInt8) : (escape c).length = 1 + escapeCharacters c := by
  by_cases plain : 31 < c ∧ c ≠ 34 ∧ c ≠ 92
  · obtain ⟨text, count⟩ := escape_plain plain
    rw [text, count]
    rfl
  cases short : escapeLetter c with
  | some letter =>
    obtain ⟨text, count⟩ := escape_letter short
    rw [text, count]
    rfl
  | none =>
    obtain ⟨text, count⟩ := escape_unicode plain short
    rw [text, count]
    rfl

theorem escapes_length (text : List UInt8) :
    (text.flatMap escape).length = text.length + (text.map escapeCharacters).sum := by
  induction text with
  | nil => rfl
  | cons c text ih =>
    rw [List.flatMap_cons, List.length_append, escape_length, ih, List.length_cons, List.map_cons,
      List.sum_cons]
    omega

/-- Where nothing was counted the text is its own escape. -/
theorem escapes_none {text : List UInt8} (none : (text.map escapeCharacters).sum = 0) :
    text.flatMap escape = text := by
  induction text with
  | nil => rfl
  | cons c text ih =>
    rw [List.map_cons, List.sum_cons, Nat.add_eq_zero_iff] at none
    have plain : 31 < c ∧ c ≠ 34 ∧ c ≠ 92 := by
      by_contra other
      cases short : escapeLetter c with
      | some letter => simp [(escape_letter short).2] at none
      | none => simp [(escape_unicode other short).2] at none
    rw [List.flatMap_cons, (escape_plain plain).1, ih none.2]
    rfl

/-- The loop writes the escapes, one after the other. -/
theorem copyEscaped_stores {p q : PrintBuffer} {done : List UInt8} (input : List UInt8)
    (filled : Filled p q done) (block : p.buffer ≠ 0)
    (room : done.length + (input.flatMap escape).length + 1 ≤ p.length) {output : Nat}
    (here : output = done.length) :
    Stores (copyEscaped output input) q fun r => Filled p r (done ++ input.flatMap escape) := by
  induction input generalizing q done output with
  | nil =>
    rw [List.flatMap_nil, List.append_nil]
    exact ⟨keeps_pure (), rfl, filled⟩
  | cons c input ih =>
    rw [List.flatMap_cons, List.length_append] at room
    rw [copyEscaped, List.flatMap_cons, ← List.append_assoc]
    by_cases plain : 31 < c ∧ c ≠ 34 ∧ c ≠ 92
    · rw [if_pos plain]
      rw [(escape_plain plain).1] at room ⊢
      simp only [List.length_singleton] at room
      refine (filled.store block (by simp; omega) here).bind fun r now => ?_
      exact ih now (by simp only [List.length_append, List.length_cons, List.length_nil]; omega)
        (by simp [here])
    · rw [if_neg plain]
      cases short : escapeLetter c with
      | some letter =>
        rw [(escape_letter short).1] at room ⊢
        simp only [List.length_cons, List.length_nil] at room
        refine (filled.store block (by simp; omega) here).bind fun r slash => ?_
        refine (slash.store block (by simp; omega) (by simp [here])).bind fun r now => ?_
        rw [List.append_assoc] at now
        exact ih now (by simp only [List.length_append, List.length_cons, List.length_nil]; omega)
          (by simp [here])
      | none =>
        rw [(escape_unicode plain short).1] at room ⊢
        have digits : (hex4 (fun _ => false) c.toNat).length = 4 := rfl
        simp only [List.length_cons, digits] at room
        refine (filled.store block (by simp; omega) here).bind fun r slash => ?_
        refine (slash.store block (by simp; omega) (by simp [here])).bind fun r now => ?_
        rw [List.append_assoc, ← List.append_assoc [92], ← List.append_assoc done] at now
        exact ih now.prefix (by simp only [List.length_append, List.length_cons, List.length_nil, digits]; omega)
          (by simp [here, digits])

/-! ## Parts of the printer -/

/-- Why a text of `n` bytes is not printed. -/
def Short (allocator : Allocator) (n : Nat) : Prop := (∃ k, allocator k = none) ∨ intMax < n + 2

theorem Short.mono {allocator : Allocator} {k n : Nat} (h : Short allocator k) (le : k ≤ n) :
    Short allocator n :=
  h.imp id fun long => by omega

/-- A part of the printer on the way to a text of `n` bytes. -/
structure Part {α : Type} (allocator : Allocator) (m : Printing α) (p : PrintBuffer) (n : Nat)
    (Q : α → PrintBuffer → Prop) : Prop where
  keeps : Keeps Accounted m p
  ends : (∃ a, (m.run p).result = .ok a ∧ Q a (m.run p).state) ∨
    (m.run p).result = .error () ∧ Short allocator n

section Parts

variable {α β : Type} {sizeBits : Nat} {allocator : Allocator} {p : PrintBuffer} {n : Nat}

theorem Part.bind {m : Printing α} {f : α → Printing β} {P : α → PrintBuffer → Prop}
    {Q : β → PrintBuffer → Prop} {k : Nat} (first : Part allocator m p k P) (le : k ≤ n)
    (next : ∀ a q, P a q → Part allocator (f a) q n Q) : Part allocator (m >>= f) p n Q := by
  obtain ⟨keeps, ⟨a, ok, now⟩ | ⟨failed, short⟩⟩ := first
  · have later := next a _ now
    refine ⟨keeps_bind keeps fun b same => ?_, ?_⟩
    · obtain rfl := Except.ok.inj (ok.symm.trans same)
      exact later.keeps
    · rcases ran : m.run p with ⟨result, q, events⟩
      rw [ran] at ok later
      obtain rfl : result = .ok a := ok
      have same : (m >>= f).run p = ((f a).run q).after events := by rw [run_bind, ran, andThen_ok]
      rw [same]
      exact later.ends
  · refine ⟨keeps_bind keeps fun b same => (by rw [failed] at same; cases same), .inr ?_⟩
    rcases ran : m.run p with ⟨result, q, events⟩
    rw [ran] at failed
    obtain rfl : result = .error () := failed
    rw [run_bind, ran, andThen_error]
    exact ⟨rfl, short.mono le⟩

theorem Part.weaken {m : Printing α} {P Q : α → PrintBuffer → Prop} (h : Part allocator m p n P)
    (weaker : ∀ a q, P a q → Q a q) : Part allocator m p n Q :=
  ⟨h.keeps, h.ends.imp (fun ⟨a, ok, now⟩ => ⟨a, ok, weaker a _ now⟩) id⟩

theorem Stores.part {m : Printing Unit} {Q : PrintBuffer → Prop} (h : Stores m p Q) :
    Part allocator m p n fun _ => Q :=
  ⟨h.keeps, .inl ⟨(), h.ok, h.reaches⟩⟩

theorem Part.pure {a : α} {Q : α → PrintBuffer → Prop} (now : Q a p) :
    Part allocator (pure a) p n Q :=
  ⟨keeps_pure a, .inl ⟨a, rfl, now⟩⟩

theorem Part.get {f : PrintBuffer → Printing α} {Q : α → PrintBuffer → Prop}
    (h : Part allocator (f p) p n Q) : Part allocator (get >>= f) p n Q :=
  ⟨keeps_get h.keeps, h.ends⟩

theorem Part.failIf {c : Prop} [Decidable c] (short : c → Short allocator n) :
    Part allocator (failIf c ()) p n fun _ q => q = p ∧ ¬ c := by
  refine ⟨keeps_failIf c (), ?_⟩
  by_cases failed : c
  · exact .inr ⟨by rw [run_failIf, if_pos failed], short failed⟩
  · exact .inl ⟨(), by rw [run_failIf, if_neg failed], by rw [run_failIf, if_neg failed], failed⟩

theorem Part.doIf {c : Prop} [Decidable c] {m : Printing Unit} {Q : Unit → PrintBuffer → Prop}
    (taken : c → Part allocator m p n Q) (skipped : ¬ c → Q () p) :
    Part allocator (doIf c m) p n Q := by
  by_cases take : c
  · rw [Calls.doIf, if_pos take]
    exact taken take
  · rw [Calls.doIf, if_neg take]
    exact .pure (skipped take)

/-- The text has been printed, and what comes next starts behind it. -/
structure Holds (p : PrintBuffer) (text : List UInt8) : Prop where
  block : p.buffer ≠ 0
  offset : p.offset = text.length
  cells : Cells.slice p.cells 0 text.length = text
  room : text.length < p.length
  small : p.length ≤ intMax

theorem grow_part {newsize : Nat} (block : p.buffer ≠ 0) (larger : p.length ≤ newsize) :
    Part allocator (grow allocator newsize) p n fun _ q =>
      q.buffer ≠ 0 ∧ q.length = newsize ∧ q.offset = p.offset ∧
        ∀ k < p.length, q.cells k = p.cells k := by
  cases given : allocator p.requests with
  | none =>
    refine ⟨fun h inv => ?_, .inr ⟨by simp [grow, given], .inl ⟨_, given⟩⟩⟩
    rw [accounted_some block] at inv
    simpa [grow, given, Accounted] using inv.release.mono (Nat.le_succ _)
  | some fresh =>
    refine ⟨fun h inv => ?_, .inl ⟨(), by simp [grow, given], ?_⟩⟩
    · rw [accounted_some block] at inv
      simpa [grow, given, Accounted] using inv.release.acquire newsize
    · simp only [grow, run_bind, run_get, andThen_ok, run_emit, run_modify, given, after_mk]
      refine ⟨Nat.succ_ne_zero _, trivial, trivial, fun k inside => ?_⟩
      exact if_pos (Nat.lt_min.mpr ⟨inside, Nat.lt_of_lt_of_le inside larger⟩)

theorem slice_same {cells cells' : Nat → UInt8} {room count : Nat}
    (same : ∀ k < room, cells k = cells' k) (inside : count ≤ room) :
    Cells.slice cells 0 count = Cells.slice cells' 0 count := by
  apply List.map_congr_left
  intro k below
  rw [Nat.zero_add]
  exact same k (Nat.lt_of_lt_of_le (List.mem_range.mp below) inside)

/-- There is room behind the text, or the whole text is not printed. -/
theorem ensure_part {text : List UInt8} {needed : Nat} (wide : 32 ≤ sizeBits) (holds : Holds p text)
    (enough : text.length + needed ≤ n + 1) :
    Part allocator (ensure sizeBits allocator needed) p n fun start q =>
      start = text.length ∧ Holds q text ∧ text.length + needed + 1 ≤ q.length := by
  obtain ⟨block, offset, written, room, small⟩ := holds
  have size : 2 ^ 32 ≤ 2 ^ sizeBits := Nat.pow_le_pow_right (by decide) wide
  have limit : intMax = 2 ^ 31 - 1 := rfl
  refine .get (Part.bind (.failIf fun null => absurd null block) (Nat.le_refl n) ?_)
  rintro _ q ⟨rfl, -⟩
  refine .bind (.failIf fun full => ?_) (Nat.le_refl n) ?_
  · exact absurd full.2 (by omega)
  rintro _ q ⟨rfl, -⟩
  refine .bind (.failIf fun long => .inr (by omega)) (Nat.le_refl n) ?_
  rintro _ q ⟨rfl, short⟩
  have whole : (needed + (q.offset + 1)) % 2 ^ sizeBits = text.length + needed + 1 := by
    rw [Nat.mod_eq_of_lt (by omega)]
    omega
  rw [whole]
  refine .bind (P := fun _ r => r.buffer ≠ 0 ∧ r.offset = text.length ∧
    Cells.slice r.cells 0 text.length = text ∧ text.length + needed + 1 ≤ r.length ∧
    r.length ≤ intMax) (.doIf (fun more => ?_) fun fits => ?_) (Nat.le_refl n) ?_
  · refine .bind (.failIf fun long => .inr (by omega)) (Nat.le_refl n) ?_
    rintro _ r ⟨rfl, fits⟩
    have larger : text.length + needed + 1 ≤
        (if intMax / 2 < text.length + needed + 1 then intMax else (text.length + needed + 1) * 2) ∧
        (if intMax / 2 < text.length + needed + 1 then intMax else (text.length + needed + 1) * 2) ≤
          intMax := by
      split <;> omega
    refine (grow_part block (by omega)).weaken ?_
    rintro _ s ⟨block, length, same_offset, same⟩
    refine ⟨block, same_offset.trans offset, ?_, length ▸ larger.1, length ▸ larger.2⟩
    rw [slice_same same (Nat.le_of_lt room), written]
  · exact ⟨block, offset, written, Nat.le_of_not_lt fits, small⟩
  · rintro _ r ⟨block, there, now, fits, small⟩
    exact .pure ⟨offset, ⟨block, there, now, by omega, small⟩, fits⟩

/-- A text has been printed behind another, with a NUL; the offset is on the way through it. -/
structure Ends (p : PrintBuffer) (before text : List UInt8) : Prop where
  block : p.buffer ≠ 0
  low : before.length ≤ p.offset
  high : p.offset ≤ (before ++ text).length
  cells : Cells.slice p.cells 0 ((before ++ text).length + 1) = before ++ text ++ [0]
  room : (before ++ text).length + 2 ≤ p.length
  small : p.length ≤ intMax

/-- The part puts a text behind whatever is there, with a NUL. -/
def Prints (allocator : Allocator) (m : Printing Unit) (text : List UInt8) : Prop :=
  ∀ p before, Holds p before →
    Part allocator m p (before ++ text).length fun _ q => Ends q before text

/-- The part puts a text behind whatever is there, and goes on behind it. -/
def Advances (allocator : Allocator) (m : Printing Unit) (text : List UInt8) : Prop :=
  ∀ p before, Holds p before →
    Part allocator m p (before ++ text).length fun _ q => Holds q (before ++ text)

variable {before text more : List UInt8} {m f : Printing Unit}

theorem Advances.bind (first : Advances allocator m text) (next : Advances allocator f more) :
    Advances allocator (m >>= fun _ => f) (text ++ more) := by
  intro p before holds
  refine (first p before holds).bind (by simp) fun _ q now => ?_
  rw [← List.append_assoc]
  exact next q (before ++ text) now

theorem Advances.prints (first : Advances allocator m text) (next : Prints allocator f more) :
    Prints allocator (m >>= fun _ => f) (text ++ more) := by
  intro p before holds
  refine (first p before holds).bind (by simp) fun _ q now => ?_
  rw [← List.append_assoc]
  refine (next q (before ++ text) now).weaken fun _ r ⟨block, low, high, cells, room, small⟩ => ?_
  rw [List.append_assoc] at high cells room
  rw [List.length_append] at low
  exact ⟨block, by omega, high, cells, room, small⟩

theorem advances_nil : Advances allocator (pure ()) [] := by
  intro p before holds
  rw [List.append_nil]
  exact .pure holds

theorem strlen_eq {cells : Nat → UInt8} {start room count : Nat}
    (clean : 0 ∉ Cells.slice cells start count) (ends : cells (start + count) = 0)
    (inside : count < room) : strlen cells start room = count := by
  have split : Cells.slice cells start room = Cells.slice cells start count ++
      0 :: Cells.slice cells (start + count + 1) (room - count - 1) := by
    have one : Cells.slice cells (start + count) 1 = [0] := by simp [Cells.slice, ends]
    have parts := Cells.slice_append cells start count (1 + (room - count - 1))
    rw [Cells.slice_append cells (start + count), one,
      show count + (1 + (room - count - 1)) = room by omega] at parts
    exact parts
  have kept : ∀ c ∈ Cells.slice cells start count, decide (c ≠ 0) = true :=
    fun c member => decide_eq_true fun zero => clean (zero ▸ member)
  rw [strlen, split, List.takeWhile_append_of_pos kept]
  simp

/-- `update_offset` goes to the end of what has been printed. -/
theorem updateOffset_stores (clean : 0 ∉ text) (ends : Ends p before text) :
    Stores updateOffset p fun q => q = { p with offset := (before ++ text).length } := by
  obtain ⟨block, low, high, cells, room, small⟩ := ends
  obtain ⟨count, total⟩ : ∃ count, (before ++ text).length = p.offset + count :=
    ⟨_, (Nat.add_sub_cancel' high).symm⟩
  have split : Cells.slice p.cells 0 p.offset ++ (Cells.slice p.cells p.offset count ++
      [p.cells (p.offset + count)]) = before ++ text ++ [0] := by
    rw [← cells, total, Nat.add_assoc, Cells.slice_append, Cells.slice_append, Nat.zero_add]
    simp [Cells.slice]
  rw [← List.append_assoc] at split
  obtain ⟨written, last⟩ := List.append_inj' split rfl
  have tail : Cells.slice p.cells p.offset count = text.drop (p.offset - before.length) := by
    have dropped := congrArg (List.drop p.offset) written
    rwa [List.drop_append, List.drop_of_length_le (by simp), Cells.slice_length, Nat.sub_self,
      List.drop_zero, List.nil_append, List.drop_append, List.drop_of_length_le low,
      List.nil_append] at dropped
  have length : strlen p.cells p.offset (p.length - p.offset) = count := by
    refine strlen_eq ?_ (List.singleton_inj.mp last) (by omega)
    rw [tail]
    exact fun member => clean (List.mem_of_mem_drop member)
  refine ⟨?_, ?_, ?_⟩
  · refine keeps_get (keeps_doIf fun _ => keeps_bind (keeps_emit fun h inv => ?_) fun _ _ =>
      (advance_stores _ _).keeps)
    rw [accounted_some block] at inv ⊢
    rw [length]
    exact inv.touch (by omega)
  · simp [updateOffset, block, advance]
  · simp [updateOffset, block, advance, length, total]

theorem Ends.holds (ends : Ends p before text) :
    Holds { p with offset := (before ++ text).length } (before ++ text) where
  block := ends.block
  offset := rfl
  cells := by
    have cells := ends.cells
    rw [Cells.slice_append] at cells
    exact (List.append_inj cells (by simp)).1
  room := Nat.lt_of_succ_lt ends.room
  small := ends.small

theorem Prints.advances (h : Prints allocator m text) (clean : 0 ∉ text) :
    Advances allocator (m >>= fun _ => updateOffset) text := by
  intro p before holds
  refine (h p before holds).bind (Nat.le_refl _) fun _ q ends => ?_
  exact ((updateOffset_stores clean ends).weaken fun r same => same ▸ ends.holds).part

variable {q r : PrintBuffer}

theorem Holds.filled (holds : Holds q before) : Filled q q before := ⟨rfl, holds.cells⟩

theorem Filled.ends (filled : Filled q r (before ++ (text ++ [0]))) (holds : Holds q before)
    (room : (before ++ text).length + 2 ≤ q.length) : Ends r before text := by
  obtain ⟨same, cells⟩ := filled
  rw [same]
  rw [← List.append_assoc, List.length_append, List.length_singleton] at cells
  exact ⟨holds.block, Nat.le_of_eq holds.offset.symm,
    holds.offset ▸ (by simp : before.length ≤ (before ++ text).length), cells, room, holds.small⟩

theorem Filled.advanced (filled : Filled q r (before ++ (text ++ more))) (holds : Holds q before)
    (room : (before ++ text).length < q.length) {count : Nat} (length : count = text.length) :
    Stores (advance count) r fun s => Holds s (before ++ text) := by
  subst length
  rw [← List.append_assoc] at filled
  obtain ⟨same, cells⟩ := filled.prefix
  have stores := advance_stores r text.length
  refine ⟨stores.keeps, stores.ok, ?_⟩
  rw [stores.reaches, same]
  refine ⟨holds.block, ?_, cells, room, holds.small⟩
  rw [List.length_append, ← holds.offset]

/-- Room for a text and its NUL, and then only stores that put them there. -/
theorem prints_stores (wide : 32 ≤ sizeBits) {needed : Nat} {put : Nat → Printing Unit}
    (enough : needed = text.length + 1)
    (puts : ∀ q before, Holds q before → (before ++ text).length + 2 ≤ q.length →
      Stores (put before.length) q fun r => Ends r before text) :
    Prints allocator (ensure sizeBits allocator needed >>= put) text := by
  intro p before holds
  refine (ensure_part wide holds (by simp; omega)).bind (Nat.le_refl _) ?_
  rintro _ q ⟨rfl, now, room⟩
  refine (puts q before now ?_).part
  rw [List.length_append]
  omega

/-- Room for a text, and then stores that put it there and go on behind it. -/
theorem advances_stores (wide : 32 ≤ sizeBits) {needed : Nat} {put : Nat → Printing Unit}
    (enough : needed ≤ text.length + 1)
    (puts : ∀ q before, Holds q before → before.length + needed + 1 ≤ q.length →
      Stores (put before.length) q fun r => Holds r (before ++ text)) :
    Advances allocator (ensure sizeBits allocator needed >>= put) text := by
  intro p before holds
  refine (ensure_part wide holds (by simp; omega)).bind (Nat.le_refl _) ?_
  rintro _ q ⟨rfl, now, room⟩
  exact (puts q before now room).part

theorem printWord_prints (wide : 32 ≤ sizeBits) (word : List UInt8) :
    Prints allocator (printWord sizeBits allocator word) word := by
  refine prints_stores wide rfl fun q before holds room => ?_
  have stores : Stores (store before.length (word ++ [0])) q _ :=
    holds.filled.store holds.block (by simp at room ⊢; omega) rfl
  exact stores.weaken fun r filled => filled.ends holds room

theorem printNumber_prints (wide : 32 ≤ sizeBits) {number : List UInt8} (short : number.length ≤ 25) :
    Prints allocator (printNumber sizeBits allocator number) number := by
  have puts : Prints allocator (ensure sizeBits allocator (number.length + 1) >>= fun output =>
      store output (number ++ [0]) >>= fun _ => advance number.length) number := by
    refine prints_stores wide rfl fun q before holds room => ?_
    have stores : Stores (store before.length (number ++ [0])) q _ :=
    holds.filled.store holds.block (by simp at room ⊢; omega) rfl
    refine stores.bind fun r filled => ?_
    have ends := filled.ends holds room
    have moved := advance_stores r number.length
    refine ⟨moved.keeps, moved.ok, ?_⟩
    rw [moved.reaches]
    have start : r.offset = before.length := (congrArg PrintBuffer.offset filled.same).trans holds.offset
    exact ⟨ends.block, by simp only [start]; omega, by simp [start], ends.cells, ends.room, ends.small⟩
  intro p before holds
  refine Part.bind (.failIf fun long => absurd short (Nat.not_le.mpr long)) (Nat.le_refl _) ?_
  rintro _ q ⟨rfl, -⟩
  exact puts q before holds

theorem printOpen_advances (wide : 32 ≤ sizeBits) {needed : Nat} (one : 1 ≤ needed) (two : needed ≤ 2)
    (bracket : UInt8) : Advances allocator (printOpen sizeBits allocator needed bracket) [bracket] := by
  refine advances_stores wide two fun q before holds room => ?_
  have fits : (before ++ [bracket]).length < q.length := by simp; omega
  refine (holds.filled.store holds.block (by simp; omega) rfl).bind fun r filled => ?_
  rw [← List.append_nil [bracket]] at filled
  exact filled.advanced holds fits rfl

theorem printClose_prints (wide : 32 ≤ sizeBits) (bracket : UInt8) :
    Prints allocator (printClose sizeBits allocator bracket) [bracket] := by
  refine prints_stores wide rfl fun q before holds room => ?_
  have space := room
  simp only [List.length_append, List.length_singleton] at space
  refine (holds.filled.store holds.block (by simp; omega) rfl).bind fun r filled => ?_
  refine (filled.store holds.block (by simp; omega) (by simp)).weaken fun s full => ?_
  rw [List.append_assoc] at full
  exact full.ends holds room

theorem printComma_advances (wide : 32 ≤ sizeBits) :
    Advances allocator (printComma sizeBits allocator) [44] := by
  refine advances_stores wide (Nat.le_refl _) fun q before holds room => ?_
  have fits : (before ++ [44]).length < q.length := by simp; omega
  refine (holds.filled.store holds.block (by simp; omega) rfl).bind fun r filled => ?_
  refine (filled.store holds.block (by simp; omega) (by simp)).bind fun s full => ?_
  rw [List.append_assoc] at full
  exact full.advanced holds fits rfl

theorem printSeparator_advances (wide : 32 ≤ sizeBits) (last : Bool) :
    Advances allocator (printSeparator sizeBits allocator last) (if last then [] else [44]) := by
  refine advances_stores wide (Nat.le_refl _) fun q before holds room => ?_
  generalize (if last then [] else [44] : List UInt8) = comma at room ⊢
  have fits : (before ++ comma).length < q.length := by simp; omega
  refine (holds.filled.store holds.block (by omega) rfl).bind fun r filled => ?_
  refine (filled.store holds.block (by simp; omega) (by simp)).bind fun s full => ?_
  rw [List.append_assoc] at full
  exact full.advanced holds fits rfl

/-- Both branches of `print_string_ptr` end with the quote and the NUL. -/
theorem quote_closes (holds : Holds q before) {body : List UInt8}
    (room : (before ++ ([34] ++ body ++ [34])).length + 2 ≤ q.length)
    (filled : Filled q r (before ++ [34] ++ body)) :
    Stores (store (before.length + body.length + 1) [34] >>= fun _ =>
      store (before.length + body.length + 2) [0]) r fun s => Ends s before ([34] ++ body ++ [34]) := by
  have space := room
  simp only [List.length_append, List.length_singleton] at space
  refine (filled.store holds.block (by simp; omega) (by simp; omega)).bind fun s close => ?_
  refine (close.store holds.block (by simp; omega) (by simp; omega)).weaken fun t whole => ?_
  have same : before ++ [34] ++ body ++ [34] ++ [0] = before ++ ([34] ++ body ++ [34] ++ [0]) := by
    simp only [List.append_assoc]
  exact (same ▸ whole).ends holds room

theorem printStringPtr_prints (wide : 32 ≤ sizeBits) {string : List UInt8}
    (fits : (printString string).length + 1 < 2 ^ sizeBits) :
    Prints allocator (printStringPtr sizeBits allocator string) (printString string) := by
  generalize input_eq : CText.upToNul string = input
  have text : printString string = [34] ++ input.flatMap escape ++ [34] := by
    rw [printString, input_eq]
    rfl
  have total := escapes_length input
  rw [text] at fits ⊢
  simp only [List.length_append, List.length_singleton] at fits
  have count : (input.map escapeCharacters).sum % 2 ^ sizeBits = (input.map escapeCharacters).sum :=
    Nat.mod_eq_of_lt (by omega)
  have length : (input.length + (input.map escapeCharacters).sum) % 2 ^ sizeBits =
      (input.flatMap escape).length := by
    rw [Nat.mod_eq_of_lt (by omega), total]
  simp only [printStringPtr, input_eq, count, length]
  refine prints_stores wide ?_ fun q before holds room => ?_
  · rw [Nat.mod_eq_of_lt (by omega)]
    simp
  have space := room
  simp only [List.length_append, List.length_singleton] at space
  refine (holds.filled.store holds.block (by simp; omega) rfl).bind fun r quoted => ?_
  split
  · rename_i none
    have plain := escapes_none none
    rw [plain, List.take_length]
    rw [plain] at room space
    refine (quoted.store holds.block (by simp; omega) (by simp)).bind fun s filled => ?_
    exact quote_closes holds room filled
  · refine (copyEscaped_stores input quoted holds.block (by simp at space ⊢; omega) (by simp)).bind ?_
    exact fun s filled => quote_closes holds room filled

theorem printElements_cons (item : Json) (rest : List Json) :
    printElements (item :: rest) =
      print item ++ ((if rest ≠ [] then [44] else []) ++ printElements rest) := by
  cases rest with
  | nil => simp [printElements]
  | cons next rest => simp [printElements]

theorem printMembers_cons (key : List UInt8) (item : Json) (rest : List (List UInt8 × Json)) :
    printMembers ((key, item) :: rest) = printString key ++ ([58] ++ (print item ++
      ((if rest.isEmpty then [] else [44]) ++ printMembers rest))) := by
  cases rest with
  | nil => simp [printMembers]
  | cons next rest => simp [printMembers]

/-- A `size_t` holds the length of a string as it is printed, and a number fits the buffer
of `print_number`. -/
abbrev Fitting (sizeBits : Nat) (v : Tree (List UInt8) (List UInt8)) : Prop :=
  v.All (fun text => (printString text).length + 1 < 2 ^ sizeBits)
    fun text => text.length ≤ 25 ∧ ∀ c ∈ text, 32 ≤ c

theorem print_nonzero {v : Json} (fits : Fitting sizeBits (compact v)) : 0 ∉ print v := by
  have numerals := Tree.All.imp (fun _ _ => trivial) (fun _ fits => fits.2) _ fits
  exact fun member => absurd (print_printable v numerals 0 member) (by decide)

theorem printString_nonzero (text : List UInt8) : 0 ∉ printString text :=
  fun member => absurd (printString_printable text 0 member) (by decide)

mutual

/-- A value is printed behind whatever has been printed before. -/
theorem printValue_prints (wide : 32 ≤ sizeBits) (v : Json) (fits : Fitting sizeBits (compact v)) :
    Prints allocator (printValue sizeBits allocator v) (print v) := by
  match v with
  | .null => exact printWord_prints wide (ascii "null")
  | .bool false => exact printWord_prints wide (ascii "false")
  | .bool true => exact printWord_prints wide (ascii "true")
  | .number text => exact printNumber_prints wide fits.1
  | .string text => exact printStringPtr_prints wide fits
  | .array items =>
    rw [printValue, print]
    exact (printOpen_advances wide (by decide) (by decide) 91).prints
      ((printItems_advances wide items fits).prints (printClose_prints wide 93))
  | .object members =>
    rw [printValue, print]
    exact (printOpen_advances wide (by decide) (by decide) 123).prints
      ((printPairs_advances wide members fits).prints (printClose_prints wide 125))

theorem printItems_advances (wide : 32 ≤ sizeBits) (items : List Json)
    (fits : (compactItems items).All (fun text => (printString text).length + 1 < 2 ^ sizeBits)
      fun text => text.length ≤ 25 ∧ ∀ c ∈ text, 32 ≤ c) :
    Advances allocator (printItems sizeBits allocator items) (printElements items) := by
  match items with
  | [] => exact advances_nil
  | item :: rest =>
    have value := (printValue_prints wide item fits.1).advances (print_nonzero fits.1)
    have later := printItems_advances wide rest fits.2
    have comma : Advances allocator (doIf (rest ≠ []) (printComma sizeBits allocator))
        (if rest ≠ [] then [44] else []) := by
      unfold doIf
      split
      · exact printComma_advances wide
      · exact advances_nil
    have joined := value.bind (comma.bind later)
    rw [bind_bind] at joined
    rwa [printItems, printElements_cons]

theorem printPairs_advances (wide : 32 ≤ sizeBits) (members : List (List UInt8 × Json))
    (fits : (compactMembers members).All (fun text => (printString text).length + 1 < 2 ^ sizeBits)
      fun text => text.length ≤ 25 ∧ ∀ c ∈ text, 32 ≤ c) :
    Advances allocator (printPairs sizeBits allocator members) (printMembers members) := by
  match members with
  | [] => exact advances_nil
  | (key, item) :: rest =>
    have name := (@printStringPtr_prints _ allocator wide _ fits.1).advances (printString_nonzero key)
    have colon := @printOpen_advances _ allocator wide 1 (by decide) (by decide) 58
    have value := (printValue_prints wide item fits.2.1).advances (print_nonzero fits.2.1)
    have later := printPairs_advances wide rest fits.2.2
    have joined := name.bind (colon.bind (value.bind
      ((printSeparator_advances wide rest.isEmpty).bind later)))
    rw [bind_bind, bind_bind] at joined
    rwa [printPairs, printMembers_cons]

end

theorem allocate_part (cells : Nat → UInt8) :
    Part allocator (allocate allocator 256) (.cleared cells) n fun _ q => Holds q [] := by
  cases given : allocator 0 with
  | none =>
    refine ⟨fun h inv => ?_, .inr ⟨by simp [allocate, PrintBuffer.cleared, given], .inl ⟨_, given⟩⟩⟩
    rw [accounted_none rfl] at inv
    simpa [allocate, PrintBuffer.cleared, given, Accounted] using inv.mono (Nat.le_succ _)
  | some fresh =>
    refine ⟨fun h inv => ?_, .inl ⟨(), by simp [allocate, PrintBuffer.cleared, given], ?_⟩⟩
    · rw [accounted_none rfl] at inv
      simpa [allocate, PrintBuffer.cleared, given, Accounted] using inv.acquire 256
    · simp only [allocate, PrintBuffer.cleared, run_bind, run_get, andThen_ok, run_emit, run_modify,
        given, after_mk]
      exact ⟨Nat.one_ne_zero, rfl, rfl, show 0 < 256 by decide, show 256 ≤ intMax by decide⟩

/-- Where the text has been printed the last `realloc` fits the block to it. -/
theorem finish_cases (wide : 32 ≤ sizeBits) {v : Json} {trace : List Blocks.Event}
    (accounted : Accounted trace p) (ends : Ends p [] (print v)) :
    let done := (finish sizeBits allocator).run { p with offset := (print v).length }
    (∃ text next, done.result = .ok text ∧
        Blocks.Owned (trace ++ done.events) next (some (text.addr, (print v).length + 1)) ∧
        Cells.slice text.cells 0 ((print v).length + 1) = print v ++ [0]) ∨
      done.result = .error () ∧ done.state.buffer ≠ 0 ∧ Accounted (trace ++ done.events) done.state ∧
        ∃ k, allocator k = none := by
  obtain ⟨block, low, high, cells, room, small⟩ := ends
  rw [List.nil_append] at cells room
  rw [accounted_some block] at accounted
  have size : ((print v).length + 1) % 2 ^ sizeBits = (print v).length + 1 := by
    have wider : 2 ^ 32 ≤ 2 ^ sizeBits := Nat.pow_le_pow_right (by decide) wide
    have limit : intMax = 2 ^ 31 - 1 := rfl
    exact Nat.mod_eq_of_lt (by omega)
  cases given : allocator p.requests with
  | none =>
    refine .inr ⟨by simp [finish, given], by simp [finish, given, block], ?_, _, given⟩
    simpa [finish, given, Accounted, block] using accounted.mono (Nat.le_succ _)
  | some fresh =>
    refine .inl ⟨⟨p.requests + 1, moved { p with offset := (print v).length } ((print v).length + 1)
      fresh⟩, p.requests + 2, by simp [finish, given, size], ?_, ?_⟩
    · simpa [finish, given, size] using accounted.release.acquire ((print v).length + 1)
    · have kept : ∀ k < (print v).length + 1,
          moved { p with offset := (print v).length } ((print v).length + 1) fresh k = p.cells k :=
        fun k inside => if_pos (Nat.lt_min.mpr ⟨Nat.lt_of_lt_of_le inside (Nat.le_of_succ_le room), inside⟩)
      rw [slice_same kept (Nat.le_refl _)]
      exact cells

theorem discard_released {trace : List Blocks.Event} (accounted : Accounted trace p) :
    ∃ q events next, (discard.run p) = ⟨.ok (), q, events⟩ ∧
      Blocks.Owned (trace ++ events) next none := by
  by_cases block : p.buffer = 0
  · rw [accounted_none block] at accounted
    exact ⟨p, [], _, by simp [discard, block], by simpa using accounted⟩
  · rw [accounted_some block] at accounted
    exact ⟨{ p with buffer := 0 }, [.release p.buffer], _, by simp [discard, block], accounted.release⟩

/-- The text of an item is printed into a block that grows with it and ends as large as the
text: no store or load leaves the block there is, no block is used after it was given back
or given back twice, and the caller gets the only one that is left. Nothing is given out, and
nothing is left, only where the allocator refuses or the text is too long for an `int`. -/
theorem text_allocated (wide : 32 ≤ sizeBits) (allocator : Allocator) (cells : Nat → UInt8) (v : Json)
    (fits : Fitting sizeBits (compact v)) :
    let done := (cJSONPrintUnformatted sizeBits allocator v).run (.cleared cells)
    (∃ text next, done.result = .ok text ∧
        Blocks.Owned done.events next (some (text.addr, (print v).length + 1)) ∧
        Cells.slice text.cells 0 ((print v).length + 1) = print v ++ [0] ∧
        (print v).length + 2 ≤ intMax) ∨
      ∃ next, done.result = .error () ∧ Blocks.Owned done.events next none ∧
        ((∃ k, allocator k = none) ∨ intMax < (print v).length + 2) := by
  intro done
  have work : Part allocator (allocate allocator 256 >>= fun _ =>
      printValue sizeBits allocator v >>= fun _ => updateOffset) (.cleared cells) (print v).length
      fun _ q => ∃ p, Ends p [] (print v) ∧ q = { p with offset := (print v).length } := by
    refine (allocate_part cells).bind (Nat.le_refl _) fun _ q started => ?_
    refine (printValue_prints wide v fits q [] started).bind (Nat.le_refl _) fun _ r ends => ?_
    exact ((updateOffset_stores (print_nonzero fits) ends).weaken fun s same => ⟨r, ends, same⟩).part
  have parts : done = (onError ((allocate allocator 256 >>= fun _ =>
      printValue sizeBits allocator v >>= fun _ => updateOffset) >>= fun _ =>
      finish sizeBits allocator) discard).run (.cleared cells) := by
    simp only [bind_bind]
    rfl
  obtain ⟨keeps, ends⟩ := work
  have accounted := keeps [] ((accounted_none rfl).mpr (.start 1))
  generalize (allocate allocator 256 >>= fun _ =>
    printValue sizeBits allocator v >>= fun _ => updateOffset) = work at parts ends accounted
  rcases ran : work.run (.cleared cells) with ⟨result, q, events⟩
  rw [ran] at ends accounted
  rw [List.nil_append] at accounted
  rcases ends with ⟨_, ok, p, ends, rfl⟩ | ⟨failed, short⟩
  · obtain rfl : result = .ok _ := ok
    rcases finished : (finish sizeBits allocator).run { p with offset := (print v).length } with
      ⟨result, q, last⟩
    have whole : (work >>= fun _ => finish sizeBits allocator).run (.cleared cells) =
        ⟨result, q, events ++ last⟩ := by rw [run_bind, ran, andThen_ok, finished, after_mk]
    have cases := @finish_cases sizeBits allocator p wide v events accounted ends
    rw [finished] at cases
    rcases cases with ⟨text, next, rfl, owned, holds⟩ | ⟨rfl, block, kept, refused⟩
    · rw [parts, onError_ok whole]
      exact .inl ⟨text, next, rfl, owned, holds, Nat.le_trans ends.room ends.small⟩
    · obtain ⟨r, freed, next, discarded, owned⟩ := discard_released kept
      rw [parts, onError_error whole discarded]
      exact .inr ⟨next, rfl, owned, .inl refused⟩
  · obtain rfl : result = .error () := failed
    have whole : (work >>= fun _ => finish sizeBits allocator).run (.cleared cells) =
        ⟨.error (), q, events⟩ := by rw [run_bind, ran, andThen_error]
    obtain ⟨r, freed, next, discarded, owned⟩ := discard_released accounted
    rw [parts, onError_error whole discarded]
    exact .inr ⟨next, rfl, owned, short⟩

end Parts

/-- `{"a":["\n",1]}` behind a first block full of ones, which the text fits. -/
theorem text_allocated_newline :
    let done := (cJSONPrintUnformatted 64 (fun _ => some fun _ => 1) (.object
      [(ascii "a", .array [.string [10], .number [49]])])).run (.cleared fun _ => 1)
    ∃ text next, done.result = .ok text ∧
      Blocks.Owned done.events next (some (text.addr, 15)) ∧
      Cells.slice text.cells 0 15 =
        [123, 34, 97, 34, 58, 91, 34, 92, 110, 34, 44, 49, 93, 125, 0] := by
  have fits : Fitting 64 (compact (.object [(ascii "a", .array [.string [10], .number [49]])])) := by
    simp only [Fitting, compact, compactMembers, compactItems, Tree.All, Members.All, Items.All]
    decide +kernel
  rcases text_allocated (by decide) (fun _ => some fun _ => 1) (fun _ => 1) _ fits with
    ⟨text, next, ok, owned, holds, _⟩ | ⟨_, _, _, refused | long⟩
  · exact ⟨text, next, ok, owned, holds⟩
  · simp at refused
  · exact absurd long (by decide +kernel)

end Assistantd.CJson
