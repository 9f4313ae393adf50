import Mathlib.Data.List.DropRight
import Mathlib.Data.Nat.Digits.Lemmas

/-! Text as C handles it: byte strings that end at a NUL, in arrays of a fixed size. -/
namespace CText

def ascii (text : String) : List UInt8 := text.toList.map fun c => c.toNat.toUInt8

/-- `isspace` in the C locale. -/
def isspace (c : UInt8) : Bool := c = 32 || (9 ≤ c && c ≤ 13)

/-- The string that starts at the first of these bytes. -/
def upToNul (bytes : List UInt8) : List UInt8 := bytes.takeWhile (· ≠ 0)

def trim (text : List UInt8) : List UInt8 :=
  (text.dropWhile isspace).rdropWhile isspace

/-- A string in an array that has room for `n` bytes and the NUL. -/
structure CString (n : Nat) where
  bytes : List UInt8
  fits : bytes.length ≤ n
  clean : 0 ∉ bytes
  deriving DecidableEq

theorem upToNul_clean (bytes : List UInt8) : 0 ∉ upToNul bytes := by
  intro zero
  have nonzero := List.mem_takeWhile_imp zero
  simp at nonzero

theorem upToNul_eq {bytes : List UInt8} (clean : 0 ∉ bytes) : upToNul bytes = bytes := by
  apply List.takeWhile_eq_self_iff.mpr
  intro c member
  simp only [ne_eq, decide_eq_true_eq]
  rintro rfl
  exact clean member

theorem upToNul_append {xs : List UInt8} (clean : 0 ∉ xs) (ys : List UInt8) :
    upToNul (xs ++ ys) = xs ++ upToNul ys := by
  apply List.takeWhile_append_of_pos
  intro c member
  simp only [ne_eq, decide_eq_true_eq]
  rintro rfl
  exact clean member

/-- `snprintf(dest, n + 1, "%s", src)`: what does not fit is cut off. -/
def CString.copy (n : Nat) (src : List UInt8) : CString n where
  bytes := (upToNul src).take n
  fits := List.length_take_le _ _
  clean := fun zero => upToNul_clean src (List.mem_of_mem_take zero)

def CString.empty (n : Nat) : CString n := ⟨[], Nat.zero_le _, List.not_mem_nil⟩

def CString.isEmpty {n : Nat} (s : CString n) : Bool := s.bytes.isEmpty

theorem CString.ext {n : Nat} {s t : CString n} (same : s.bytes = t.bytes) : s = t := by
  cases s
  cases t
  cases same
  rfl

theorem CString.copy_take {n : Nat} {src : List UInt8} (clean : 0 ∉ src) :
    (CString.copy n src).bytes = src.take n := by
  simp only [CString.copy, upToNul_eq clean]

theorem CString.copy_bytes {n : Nat} {src : List UInt8} (clean : 0 ∉ src)
    (fits : src.length ≤ n) : (CString.copy n src).bytes = src := by
  rw [copy_take clean, List.take_of_length_le fits]

/-- Copying into an array at least as large loses nothing. -/
theorem CString.copy_self {n : Nat} (s : CString n) : CString.copy n s.bytes = s :=
  CString.ext (CString.copy_bytes s.clean s.fits)

theorem mem_trim {text : List UInt8} {c : UInt8} (member : c ∈ trim text) : c ∈ text :=
  (List.dropWhile_sublist _).subset ((List.rdropWhile_prefix _ _).subset member)

/-- Whitespace at the end does not count. -/
theorem trim_snoc {text : List UInt8} {c : UInt8} (space : isspace c = true) :
    trim (text ++ [c]) = trim text := by
  unfold trim
  rw [List.dropWhile_append]
  by_cases blank : (text.dropWhile isspace).isEmpty = true
  · rw [if_pos blank, List.isEmpty_iff.mp blank]
    simp [space]
  · rw [if_neg blank, List.rdropWhile_concat_pos _ _ _ space]

/-- Neither the first nor the last byte is whitespace. -/
structure Trimmed (text : List UInt8) : Prop where
  starts : ∀ c ∈ text.head?, isspace c = false
  ends : ∀ c ∈ text.getLast?, isspace c = false

theorem Trimmed.trim {text : List UInt8} (h : Trimmed text) : trim text = text := by
  have start : text.dropWhile isspace = text := by
    cases text with
    | nil => rfl
    | cons c rest => simp [h.starts c (by simp)]
  rw [CText.trim, start, List.rdropWhile_eq_self_iff]
  intro some_bytes space
  rw [h.ends _ (List.getLast?_eq_some_getLast some_bytes)] at space
  cases space

/-! ## Lines and numbers -/

/-- What repeated `fgets` into a buffer of `room + 1` bytes returns: a chunk ends
behind a newline, or when the buffer is full, or with the file. -/
def fgetsChunks (room : Nat) (content : List UInt8) : List (List UInt8) :=
  fill room content
where
  fill : Nat → List UInt8 → List (List UInt8)
  | _, [] => []
  | left, c :: rest =>
    if c = 10 ∨ left ≤ 1 then [c] :: fill room rest
    else match fill (left - 1) rest with
      | [] => [[c]]
      | chunk :: chunks => (c :: chunk) :: chunks

section Chunks

variable {room left : Nat} {line : List UInt8}

/-- The chunks are the file. -/
theorem fill_flatten (room left : Nat) (content : List UInt8) :
    (fgetsChunks.fill room left content).flatten = content := by
  induction content generalizing left with
  | nil => rfl
  | cons c rest ih =>
    by_cases ends : c = 10 ∨ left ≤ 1
    · simp [fgetsChunks.fill, ends, ih]
    · have flat := ih (left - 1)
      simp only [fgetsChunks.fill, if_neg ends]
      cases chunks : fgetsChunks.fill room (left - 1) rest with
      | nil => simpa [chunks] using flat
      | cons chunk others => simpa [chunks] using flat

theorem fill_ne_nil {content : List UInt8} (some_bytes : content ≠ []) :
    fgetsChunks.fill room left content ≠ [] := by
  intro none_read
  have flat := fill_flatten room left content
  rw [none_read] at flat
  exact some_bytes flat.symm

/-- Where the buffer does not end with the byte, the byte joins the chunk behind it. -/
theorem fill_cons {c : UInt8} {rest chunk : List UInt8} {chunks : List (List UInt8)}
    (inside : c ≠ 10) (room_left : 1 < left)
    (filled : fgetsChunks.fill room (left - 1) rest = chunk :: chunks) :
    fgetsChunks.fill room left (c :: rest) = (c :: chunk) :: chunks := by
  have more : ¬ (c = 10 ∨ left ≤ 1) := by
    rintro (newline | few)
    · exact inside newline
    · omega
  simp only [fgetsChunks.fill, if_neg more, filled]

/-- A buffer never reaches across a newline. -/
theorem fill_line (unbroken : 10 ∉ line) (later : List UInt8) :
    fgetsChunks.fill room left (line ++ 10 :: later) =
      fgetsChunks.fill room left (line ++ [10]) ++ fgetsChunks.fill room room later := by
  induction line generalizing left with
  | nil => simp [fgetsChunks.fill]
  | cons c line ih =>
    simp only [List.mem_cons, not_or] at unbroken
    by_cases full : left ≤ 1
    · simp [fgetsChunks.fill, full, ih unbroken.2]
    · have split : fgetsChunks.fill room (left - 1) (line ++ 10 :: later) = _ := ih unbroken.2
      cases chunks : fgetsChunks.fill room (left - 1) (line ++ [10]) with
      | nil => exact absurd chunks (fill_ne_nil (by simp))
      | cons chunk others =>
        rw [chunks] at split
        simp only [List.cons_append]
        rw [fill_cons (Ne.symm unbroken.1) (by omega) split,
          fill_cons (Ne.symm unbroken.1) (by omega) chunks]
        rfl

/-- A line that fits is read in one piece. -/
theorem fill_fits (unbroken : 10 ∉ line) (fits : line.length < left) :
    fgetsChunks.fill room left (line ++ [10]) = [line ++ [10]] := by
  induction line generalizing left with
  | nil => simp [fgetsChunks.fill]
  | cons c line ih =>
    simp only [List.mem_cons, not_or] at unbroken
    simp only [List.length_cons] at fits
    exact fill_cons (Ne.symm unbroken.1) (by omega) (ih unbroken.2 (by omega))

/-- A line as long as the buffer leaves its newline for the next chunk. -/
theorem fill_full (unbroken : 10 ∉ line) (full : line.length = left) (positive : 0 < left) :
    fgetsChunks.fill room left (line ++ [10]) = [line, [10]] := by
  induction line generalizing left with
  | nil =>
    rw [← full] at positive
    cases positive
  | cons c line ih =>
    simp only [List.mem_cons, not_or] at unbroken
    simp only [List.length_cons] at full
    by_cases last : line = []
    · subst last
      simp only [List.length_nil] at full
      simp [fgetsChunks.fill, ← full]
    · have longer : 0 < line.length := List.length_pos_iff.mpr last
      exact fill_cons (Ne.symm unbroken.1) (by omega) (ih unbroken.2 (by omega) (by omega))

/-- The same at the end of a file that does not end with a newline. -/
theorem fill_end (unbroken : 10 ∉ line) (some_bytes : line ≠ []) (fits : line.length ≤ left) :
    fgetsChunks.fill room left line = [line] := by
  induction line generalizing left with
  | nil => exact absurd rfl some_bytes
  | cons c line ih =>
    simp only [List.mem_cons, not_or] at unbroken
    simp only [List.length_cons] at fits
    by_cases last : line = []
    · subst last
      by_cases full : left ≤ 1
      · simp [fgetsChunks.fill, full]
      · simp [fgetsChunks.fill]
    · have longer : 0 < line.length := List.length_pos_iff.mpr last
      exact fill_cons (Ne.symm unbroken.1) (by omega) (ih unbroken.2 last (by omega))

end Chunks

/-- `strtol` clamps to a `long` of `longBits` bits, and the cast keeps the low 32 bits. -/
def atoi (longBits : Nat) (text : List UInt8) : Int :=
  let body := text.dropWhile isspace
  let negative := body.head? = some 45
  let digits := (if body.head? = some 45 ∨ body.head? = some 43 then body.tail else body).takeWhile
    fun c => 48 ≤ c && c ≤ 57
  let magnitude : Int := Nat.ofDigits 10 (digits.reverse.map fun c => c.toNat - 48)
  let value := if negative then max (-magnitude) (-2 ^ (longBits - 1))
    else min magnitude (2 ^ (longBits - 1) - 1)
  Int.bmod value (2 ^ 32)

/-- The decimal digits of `n`, least first, and zeros up to `width` of them. -/
def padded (width n : Nat) : List Nat :=
  Nat.digits 10 n ++ List.replicate (width - (Nat.digits 10 n).length) 0

def zeroPadded (width n : Nat) : List UInt8 :=
  (padded width n).reverse.map fun d => (48 + d).toUInt8

theorem padded_lt {width n d : Nat} (member : d ∈ padded width n) : d < 10 := by
  rcases List.mem_append.mp member with digit | padding
  · exact Nat.digits_lt_base (by decide) digit
  · rw [(List.mem_replicate.mp padding).2]
    decide

theorem digit_toNat {d : Nat} (small : d < 10) : ((48 + d).toUInt8).toNat = 48 + d := by
  simp only [Nat.toUInt8, UInt8.toNat_ofNat']
  omega

theorem zeroPadded_length {width n : Nat} (small : n < 10 ^ width) :
    (zeroPadded width n).length = width := by
  have digits := (Nat.digits_length_le_iff (by decide) n).mpr small
  simp only [zeroPadded, padded, List.length_map, List.length_reverse, List.length_append,
    List.length_replicate]
  omega

theorem zeroPadded_clean (width n : Nat) : 0 ∉ zeroPadded width n := by
  intro zero
  obtain ⟨d, member, code⟩ := List.mem_map.mp zero
  have value := digit_toNat (padded_lt (List.mem_reverse.mp member))
  rw [code, UInt8.toNat_zero] at value
  omega

theorem zeroPadded_digits (width n : Nat) :
    (zeroPadded width n).reverse.map (fun c => c.toNat - 48) = padded width n := by
  have decoded : (padded width n).map (fun d => ((48 + d).toUInt8).toNat - 48) =
      (padded width n).map id := by
    apply List.map_congr_left
    intro d member
    rw [digit_toNat (padded_lt member)]
    simp
  simpa [zeroPadded, List.map_reverse, Function.comp_def] using decoded

theorem padded_ofDigits (width n : Nat) : Nat.ofDigits 10 (padded width n) = n := by
  simp only [padded, Nat.ofDigits_append_replicate_zero, Nat.ofDigits_digits]

/-- Padding with zeros loses nothing: the number can be read back. -/
theorem zeroPadded_injective {width m n : Nat} (same : zeroPadded width m = zeroPadded width n) :
    m = n := by
  have digits := zeroPadded_digits width m
  rw [same, zeroPadded_digits width n] at digits
  have numbers := congrArg (Nat.ofDigits 10) digits
  rw [padded_ofDigits, padded_ofDigits] at numbers
  exact numbers.symm

def isDigit (c : UInt8) : Bool := 48 ≤ c && c ≤ 57

theorem zeroPadded_isDigit {width n : Nat} {c : UInt8} (member : c ∈ zeroPadded width n) :
    isDigit c = true := by
  obtain ⟨d, digit, rfl⟩ := List.mem_map.mp member
  have small := padded_lt (List.mem_reverse.mp digit)
  have code := digit_toNat small
  simp only [isDigit, Bool.and_eq_true, decide_eq_true_eq, UInt8.le_iff_toNat_le, code]
  constructor
  · exact Nat.le_add_right 48 d
  · show 48 + d ≤ 57
    omega

theorem zeroPadded_ne_nil {width : Nat} (n : Nat) (wide : 0 < width) : zeroPadded width n ≠ [] := by
  intro empty
  have length := congrArg List.length empty
  simp only [zeroPadded, padded, List.length_map, List.length_reverse, List.length_append,
    List.length_replicate, List.length_nil] at length
  omega

/-- `%d` -/
def printInt (n : Int) : List UInt8 :=
  (if n < 0 then [45] else []) ++ zeroPadded 1 n.natAbs

theorem digit_plain {c : UInt8} (digit : isDigit c = true) :
    isspace c = false ∧ c ≠ 45 ∧ c ≠ 43 := by
  simp only [isDigit, Bool.and_eq_true, decide_eq_true_eq, UInt8.le_iff_toNat_le] at digit
  simp only [isspace, Bool.or_eq_false_iff, Bool.and_eq_false_iff, decide_eq_false_iff_not,
    UInt8.le_iff_toNat_le, ← UInt8.toNat_inj, ne_eq]
  refine ⟨⟨?_, ?_⟩, ?_, ?_⟩
  all_goals simp only [UInt8.reduceToNat] at digit ⊢
  all_goals omega

/-- The part of a numeral behind its sign. -/
def unsigned (text : List UInt8) : List UInt8 :=
  if text.head? = some 45 ∨ text.head? = some 43 then text.tail else text

def magnitude (digits : List UInt8) : Int :=
  Nat.ofDigits 10 (digits.reverse.map fun c => c.toNat - 48)

theorem magnitude_eq (digits : List UInt8) : magnitude digits =
    (Nat.ofDigits 10 (digits.reverse.map fun c => c.toNat - 48) : Nat) := by
  rw [magnitude, Nat.coe_ofDigits]
  rfl

theorem magnitude_nonneg (digits : List UInt8) : 0 ≤ magnitude digits := by
  rw [magnitude_eq]
  exact Int.natCast_nonneg _

/-- The value of a decimal numeral: an optional sign, one or more digits, nothing else. -/
def numeral (text : List UInt8) : Option Int :=
  if unsigned text ≠ [] ∧ (unsigned text).all isDigit = true then
    some (if text.head? = some 45 then -magnitude (unsigned text) else magnitude (unsigned text))
  else none

theorem numeral_iff {text : List UInt8} {v : Int} : numeral text = some v ↔
    (unsigned text ≠ [] ∧ (unsigned text).all isDigit = true) ∧
      v = if text.head? = some 45 then -magnitude (unsigned text) else magnitude (unsigned text) := by
  unfold numeral
  split
  · rename_i formed
    simp only [Option.some.injEq, formed, ne_eq, not_false_eq_true, and_self, true_and]
    exact eq_comm
  · rename_i formed
    exact iff_of_false (by simp) (fun both => formed both.1)

/-- No whitespace comes before the sign or the first digit. -/
theorem numeral_unspaced {text : List UInt8} {v : Int} (formed : numeral text = some v) :
    text.dropWhile isspace = text := by
  obtain ⟨⟨some_digits, digits⟩, _⟩ := numeral_iff.mp formed
  cases text with
  | nil => rfl
  | cons c rest =>
    have first : isspace c = false := by
      by_cases sign : c = 45 ∨ c = 43
      · rcases sign with rfl | rfl <;> decide
      · have body : unsigned (c :: rest) = c :: rest := by simp [unsigned, sign]
        rw [body, List.all_cons, Bool.and_eq_true] at digits
        exact (digit_plain digits.1).1
    simp [first]

theorem atoi_eq {longBits : Nat} {text : List UInt8} {v : Int} (formed : numeral text = some v) :
    atoi longBits text =
      Int.bmod (max (min v (2 ^ (longBits - 1) - 1)) (-2 ^ (longBits - 1))) (2 ^ 32) := by
  obtain ⟨⟨_, digits⟩, value⟩ := numeral_iff.mp formed
  have all : (unsigned text).takeWhile (fun c => 48 ≤ c && c ≤ 57) = unsigned text :=
    List.takeWhile_eq_self_iff.mpr (List.all_eq_true.mp digits)
  have positive : (0 : Int) < 2 ^ (longBits - 1) := by positivity
  have size := magnitude_nonneg (unsigned text)
  have whole : atoi longBits text = Int.bmod (if text.head? = some 45 then
      max (-magnitude (unsigned text)) (-2 ^ (longBits - 1))
      else min (magnitude (unsigned text)) (2 ^ (longBits - 1) - 1)) (2 ^ 32) := by
    simp only [atoi, numeral_unspaced formed]
    rw [show (if text.head? = some 45 ∨ text.head? = some 43 then text.tail else text) =
      unsigned text from rfl, all]
    rfl
  rw [whole, value]
  split
  · rw [min_eq_left (by omega)]
  · rw [max_eq_left (by omega)]

/-- A numeral for an `int` is converted exactly. -/
theorem atoi_numeral {longBits : Nat} (long : 32 ≤ longBits) {text : List UInt8} {v : Int}
    (formed : numeral text = some v) (fits : -2 ^ 31 ≤ v ∧ v < 2 ^ 31) :
    atoi longBits text = v := by
  have wide : (2 : Int) ^ 31 ≤ 2 ^ (longBits - 1) := by
    exact_mod_cast Nat.pow_le_pow_right (by decide : 0 < 2) (by omega : 31 ≤ longBits - 1)
  rw [atoi_eq formed, min_eq_left (by omega), max_eq_left (by omega)]
  exact Int.bmod_eq_of_le (by omega) (by omega)

theorem magnitude_zeroPadded (width n : Nat) : magnitude (zeroPadded width n) = n := by
  rw [magnitude_eq, zeroPadded_digits, padded_ofDigits]

theorem zeroPadded_unsigned (n : Nat) : (zeroPadded 1 n).head? ≠ some 45 ∧
    unsigned (zeroPadded 1 n) = zeroPadded 1 n := by
  cases digits : zeroPadded 1 n with
  | nil => simp [unsigned]
  | cons c rest =>
    have first := digit_plain (zeroPadded_isDigit (digits ▸ List.mem_cons_self : c ∈ zeroPadded 1 n))
    simp [unsigned, first.2.1, first.2.2]

theorem printInt_length {n : Int} {k : Nat} (small : n.natAbs < 10 ^ k) (wide : 0 < k) :
    (printInt n).length ≤ k + 1 := by
  have digits := (Nat.digits_length_le_iff (by decide) n.natAbs).mpr small
  have sign : (if n < 0 then [(45 : UInt8)] else []).length ≤ 1 := by
    split
    · exact Nat.le_refl 1
    · exact Nat.zero_le 1
  simp only [printInt, zeroPadded, padded, List.length_append, List.length_map,
    List.length_reverse, List.length_replicate] at sign ⊢
  omega

theorem mem_printInt {n : Int} {c : UInt8} (member : c ∈ printInt n) :
    c = 45 ∨ isDigit c = true := by
  unfold printInt at member
  rcases List.mem_append.mp member with sign | digit
  · split at sign
    · exact .inl (List.mem_singleton.mp sign)
    · cases sign
  · exact .inr (zeroPadded_isDigit digit)

theorem printInt_plain {n : Int} {c : UInt8} (member : c ∈ printInt n) :
    isspace c = false := by
  rcases mem_printInt member with rfl | digit
  · decide
  · exact (digit_plain digit).1

theorem printInt_trimmed (n : Int) : Trimmed (printInt n) :=
  ⟨fun _ first => printInt_plain (List.mem_of_mem_head? first),
    fun _ last => printInt_plain (List.mem_of_mem_getLast? last)⟩

theorem numeral_printInt (n : Int) : numeral (printInt n) = some n := by
  have some_digits := zeroPadded_ne_nil n.natAbs (by decide : 0 < 1)
  have digits : (zeroPadded 1 n.natAbs).all isDigit = true :=
    List.all_eq_true.mpr fun c member => zeroPadded_isDigit member
  rw [numeral_iff, printInt]
  by_cases negative : n < 0
  · have body : unsigned ([45] ++ zeroPadded 1 n.natAbs) = zeroPadded 1 n.natAbs := by
      simp [unsigned]
    rw [if_pos negative, body, magnitude_zeroPadded, if_pos (by simp)]
    exact ⟨⟨some_digits, digits⟩, by omega⟩
  · obtain ⟨plain, body⟩ := zeroPadded_unsigned n.natAbs
    rw [if_neg negative, List.nil_append, body, magnitude_zeroPadded, if_neg plain]
    exact ⟨⟨some_digits, digits⟩, by omega⟩

end CText
