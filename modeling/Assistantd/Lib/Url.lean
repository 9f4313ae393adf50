import Mathlib.Data.List.TakeWhile
import Assistantd.Lib.CText

/-! URLs of the form `[scheme:/[/[/]]][userinfo@]name[:port][tail]`, and the host that
libcurl reads from one. -/
namespace Url

open CText (ascii isDigit zeroPadded)

theorem takeWhile_stop {p : UInt8 → Bool} {xs ys : List UInt8} (all : ∀ c ∈ xs, p c = true)
    (stop : ∀ c ∈ ys.head?, p c = false) : (xs ++ ys).takeWhile p = xs := by
  rw [List.takeWhile_append_of_pos all]
  cases ys with
  | nil => simp
  | cons y ys => simp [stop y rfl]

/-! ## IPv4 addresses in numbers -/

def hexDigit (c : UInt8) : Option Nat :=
  if 48 ≤ c ∧ c ≤ 57 then some (c.toNat - 48)
  else if 97 ≤ c ∧ c ≤ 102 then some (c.toNat - 87)
  else if 65 ≤ c ∧ c ≤ 70 then some (c.toNat - 55)
  else none

/-- What the digits stand for in this base. There is at least one. -/
def number (base : Nat) (ds : List UInt8) : Option Nat :=
  if ds = [] then none
  else ds.foldlM (fun n c => do
    let d ← hexDigit c
    if d < base then some (n * base + d) else none) 0

/-- A number as in C: hexadecimal behind `0x`, octal behind another `0`. -/
def part : List UInt8 → Option Nat
  | 48 :: c :: ds => if c = 120 ∨ c = 88 then number 16 ds else number 8 (c :: ds)
  | ds => number 10 ds

/-- One to four numbers, a byte each but for the last, which fills what is left. -/
def address (name : List UInt8) : Option Nat :=
  match (name.splitOn 46).map part with
  | [some a] => if a < 2 ^ 32 then some a else none
  | [some a, some b] => if a < 2 ^ 8 ∧ b < 2 ^ 24 then some (a * 2 ^ 24 + b) else none
  | [some a, some b, some c] =>
    if a < 2 ^ 8 ∧ b < 2 ^ 8 ∧ c < 2 ^ 16 then some (a * 2 ^ 24 + b * 2 ^ 16 + c) else none
  | [some a, some b, some c, some d] =>
    if a < 2 ^ 8 ∧ b < 2 ^ 8 ∧ c < 2 ^ 8 ∧ d < 2 ^ 8 then
      some (a * 2 ^ 24 + b * 2 ^ 16 + c * 2 ^ 8 + d)
    else none
  | _ => none

def dotted (a : Nat) : List UInt8 :=
  zeroPadded 1 (a / 2 ^ 24) ++ 46 :: (zeroPadded 1 (a / 2 ^ 16 % 2 ^ 8) ++
    46 :: (zeroPadded 1 (a / 2 ^ 8 % 2 ^ 8) ++ 46 :: zeroPadded 1 (a % 2 ^ 8)))

theorem dotless (n : Nat) : ∀ c ∈ zeroPadded 1 n, decide (c ≠ 46) = true := by
  intro c member
  have digit := CText.zeroPadded_isDigit member
  rw [decide_eq_true_eq]
  rintro rfl
  cases digit

/-- What stands before a dot and behind it, where that is the first. -/
theorem dotted_split {m n : Nat} {xs ys : List UInt8}
    (same : zeroPadded 1 m ++ 46 :: xs = zeroPadded 1 n ++ 46 :: ys) : m = n ∧ xs = ys := by
  have front := congrArg (List.takeWhile fun c => decide (c ≠ 46)) same
  rw [takeWhile_stop (dotless m) (by simp), takeWhile_stop (dotless n) (by simp)] at front
  rw [front] at same
  exact ⟨CText.zeroPadded_injective front, (List.cons.inj (List.append_cancel_left same)).2⟩

theorem dotted_injective {a b : Nat} (same : dotted a = dotted b) : a = b := by
  obtain ⟨first, same⟩ := dotted_split same
  obtain ⟨second, same⟩ := dotted_split same
  obtain ⟨third, same⟩ := dotted_split same
  have fourth := CText.zeroPadded_injective same
  omega

/-! ## URLs -/

def alpha (c : UInt8) : Bool := (65 ≤ c && c ≤ 90) || (97 ≤ c && c ≤ 122)

def schemeChar (c : UInt8) : Bool := alpha c || isDigit c || c = 43 || c = 45 || c = 46

/-- Of a host name or an address: a letter, a digit, `-` or `.`. -/
def nameChar (c : UInt8) : Bool := alpha c || isDigit c || c = 45 || c = 46

/-- One of `/`, `?` and `#`. -/
def delimiter (c : UInt8) : Bool := c = 47 || c = 63 || c = 35

def lower (c : UInt8) : UInt8 := if 65 ≤ c ∧ c ≤ 90 then c + 32 else c

/-- A `file` URL has no host to connect to. -/
structure Scheme (name : List UInt8) : Prop where
  letter : name.head?.any alpha = true
  all : ∀ c ∈ name, schemeChar c = true
  short : name.length ≤ 40
  remote : name.map lower ≠ ascii "file"

instance (name : List UInt8) : Decidable (Scheme name) :=
  decidable_of_iff (name.head?.any alpha = true ∧ name.all schemeChar = true ∧
    name.length ≤ 40 ∧ name.map lower ≠ ascii "file")
    ⟨fun ⟨letter, all, short, remote⟩ => ⟨letter, List.all_eq_true.mp all, short, remote⟩,
      fun h => ⟨h.letter, List.all_eq_true.mpr h.all, h.short, h.remote⟩⟩

/-- What a URL is put together from; the scheme with its number of slashes. -/
structure Parts where
  scheme : Option (List UInt8 × Nat)
  userinfo : Option (List UInt8)
  name : List UInt8
  port : Option (List UInt8)
  tail : List UInt8

namespace Parts

def schemeText (u : Parts) : List UInt8 :=
  match u.scheme with
  | none => []
  | some (name, slashes) => name ++ 58 :: List.replicate slashes 47

def userText (u : Parts) : List UInt8 :=
  match u.userinfo with
  | none => []
  | some info => info ++ [64]

def portText (u : Parts) : List UInt8 :=
  match u.port with
  | none => []
  | some digits => 58 :: digits

def authority (u : Parts) : List UInt8 := u.userText ++ (u.name ++ u.portText)

def url (u : Parts) : List UInt8 := u.schemeText ++ (u.authority ++ u.tail)

/-- An empty port needs a scheme: `name:` with slashes behind it would be one. -/
structure Valid (u : Parts) : Prop where
  scheme : ∀ s ∈ u.scheme, Scheme s.1 ∧ 1 ≤ s.2 ∧ s.2 ≤ 3
  userinfo : ∀ info ∈ u.userinfo, ∀ c ∈ info, delimiter c = false ∧ c ≠ 64
  nonempty : u.name ≠ []
  name : ∀ c ∈ u.name, nameChar c = true
  port : ∀ digits ∈ u.port, (∀ c ∈ digits, isDigit c = true) ∧
    (number 10 digits).getD 0 ≤ 65535 ∧ (digits = [] → u.scheme.isSome = true)
  tail : ∀ c ∈ u.tail.head?, delimiter c = true
  visible : ∀ c ∈ u.url, 32 < c ∧ c ≠ 127

theorem valid_iff (u : Parts) : u.Valid ↔ (∀ s ∈ u.scheme, Scheme s.1 ∧ 1 ≤ s.2 ∧ s.2 ≤ 3) ∧
    (∀ info ∈ u.userinfo, (info.all fun c => !delimiter c && c != 64) = true) ∧
    u.name ≠ [] ∧ u.name.all nameChar = true ∧
    (∀ digits ∈ u.port, digits.all isDigit = true ∧
      (number 10 digits).getD 0 ≤ 65535 ∧ (digits = [] → u.scheme.isSome = true)) ∧
    u.tail.head?.all delimiter = true ∧ (u.url.all fun c => 32 < c && c != 127) = true := by
  simp only [List.all_eq_true, Option.all_eq_true, Bool.and_eq_true, Bool.not_eq_true',
    bne_iff_ne, decide_eq_true_eq]
  constructor
  · intro h
    exact ⟨h.scheme, h.userinfo, h.nonempty, h.name, h.port, h.tail, h.visible⟩
  · rintro ⟨scheme, userinfo, nonempty, name, port, tail, visible⟩
    exact ⟨scheme, userinfo, nonempty, name, port, tail, visible⟩

instance (u : Parts) : Decidable u.Valid := decidable_of_iff' _ u.valid_iff

end Parts

/-- The URL has this form. -/
def Formed (url : List UInt8) : Prop := ∃ u : Parts, u.Valid ∧ u.url = url

/-- The name in it is the address, however that is spelled. -/
def Spells (url : List UInt8) (a : Nat) : Prop :=
  ∃ u : Parts, u.Valid ∧ u.url = url ∧ address u.name = some a

theorem Spells.formed {url : List UInt8} {a : Nat} (h : Spells url a) : Formed url := by
  obtain ⟨u, valid, same, _⟩ := h
  exact ⟨u, valid, same⟩

/-- What libcurl reads as the host of such a URL: an address in dotted form, and any other
name as it stands. Nothing is said about other URLs. -/
structure Reads (host : List UInt8 → Option (List UInt8)) : Prop where
  numeric : ∀ u : Parts, u.Valid → ∀ a, address u.name = some a → host u.url = some (dotted a)
  named : ∀ u : Parts, u.Valid → address u.name = none → host u.url = some u.name

/-- The host is an address where the name spells it, and nowhere else. -/
theorem Reads.host_iff {host : List UInt8 → Option (List UInt8)} (h : Reads host) {u : Parts}
    (valid : u.Valid) {a : Nat} (plain : address (dotted a) = some a) :
    host u.url = some (dotted a) ↔ address u.name = some a := by
  cases spelled : address u.name with
  | some b =>
    rw [h.numeric u valid b spelled, Option.some.injEq, Option.some.injEq]
    exact ⟨dotted_injective, congrArg dotted⟩
  | none =>
    rw [h.named u valid spelled, Option.some.injEq]
    refine iff_of_false ?_ nofun
    intro same
    rw [same, plain] at spelled
    cases spelled

/-- A path behind a URL leaves its name alone. -/
theorem Parts.Valid.below {u : Parts} (h : u.Valid) {path : List UInt8}
    (start : u.tail = [] → ∀ c ∈ path.head?, delimiter c = true)
    (visible : ∀ c ∈ path, 32 < c ∧ c ≠ 127) :
    { u with tail := u.tail ++ path }.Valid ∧ { u with tail := u.tail ++ path }.url = u.url ++ path := by
  have url : { u with tail := u.tail ++ path }.url = u.url ++ path := by
    simp only [Parts.url, Parts.authority, Parts.schemeText, Parts.userText, Parts.portText,
      List.append_assoc]
  refine ⟨⟨h.scheme, h.userinfo, h.nonempty, h.name, h.port, ?_, ?_⟩, url⟩
  · intro c first
    cases tail : u.tail with
    | nil =>
      rw [tail] at first
      exact start tail c first
    | cons d rest =>
      rw [tail] at first
      exact h.tail c (tail ▸ first)
  · rw [url]
    exact List.forall_mem_append.mpr ⟨h.visible, visible⟩

/-! ## A reader -/

def afterScheme (url : List UInt8) : List UInt8 :=
  if url.head?.any alpha = true ∧ (url.dropWhile schemeChar).take 2 = [58, 47] then
    ((url.dropWhile schemeChar).drop 1).dropWhile fun c => c = 47
  else url

def behindUser (text : List UInt8) : List UInt8 :=
  match text.dropWhile fun c => c ≠ 64 with
  | [] => text
  | _ :: rest => rest

/-- A reader that does this much and no more. -/
def read (url : List UInt8) : Option (List UInt8) :=
  let authority := (afterScheme url).takeWhile fun c => !delimiter c
  let name := (behindUser authority).takeWhile fun c => c ≠ 58
  match address name with
  | some a => some (dotted a)
  | none => some name

theorem schemeChar_plain {c : UInt8} (h : schemeChar c = true) : delimiter c = false := by
  cases stop : delimiter c with
  | false => rfl
  | true =>
    have which : (c = 47 ∨ c = 63) ∨ c = 35 := by simpa [delimiter] using stop
    rcases which with (rfl | rfl) | rfl <;> cases h

theorem nameChar_plain {c : UInt8} (h : nameChar c = true) :
    delimiter c = false ∧ c ≠ 58 ∧ c ≠ 64 := by
  refine ⟨schemeChar_plain ?_, ?_, ?_⟩
  · simp only [nameChar, schemeChar, Bool.or_eq_true] at h ⊢
    tauto
  · rintro rfl
    cases h
  · rintro rfl
    cases h

theorem digit_plain {c : UInt8} (h : isDigit c = true) : delimiter c = false ∧ c ≠ 58 ∧ c ≠ 64 :=
  nameChar_plain (by simp [nameChar, h])

namespace Parts.Valid

variable {u : Parts}

theorem port_plain (h : u.Valid) : ∀ c ∈ u.portText, delimiter c = false ∧ c ≠ 64 := by
  have port := h.port
  unfold Parts.portText
  cases ported : u.port with
  | none => exact List.forall_mem_nil _
  | some digits =>
    refine List.forall_mem_cons.mpr ⟨by decide, fun c member => ?_⟩
    obtain ⟨plain, _, other⟩ := digit_plain ((port digits ported).1 c member)
    exact ⟨plain, other⟩

theorem authority_plain (h : u.Valid) : ∀ c ∈ u.authority, (!delimiter c) = true := by
  have user : ∀ c ∈ u.userText, (!delimiter c) = true := by
    have userinfo := h.userinfo
    unfold Parts.userText
    cases given : u.userinfo with
    | none => exact List.forall_mem_nil _
    | some info =>
      refine List.forall_mem_append.mpr
        ⟨fun c member => ?_, List.forall_mem_singleton.mpr rfl⟩
      simp [(userinfo info given c member).1]
  refine List.forall_mem_append.mpr ⟨user, List.forall_mem_append.mpr ⟨?_, ?_⟩⟩
  · intro c member
    simp [(nameChar_plain (h.name c member)).1]
  · intro c member
    simp [(h.port_plain c member).1]

theorem authority_ne_nil (h : u.Valid) : u.authority ≠ [] := by
  simp [Parts.authority, h.nonempty]

theorem authority_ends (h : u.Valid) :
    (u.authority ++ u.tail).takeWhile (fun c => !delimiter c) = u.authority :=
  takeWhile_stop h.authority_plain fun c first => by simp [h.tail c first]

/-- Where the last byte is a slash, it belongs to the tail. -/
theorem tail_ne_nil (h : u.Valid) (slash : u.url.getLast? = some 47) : u.tail ≠ [] := by
  intro none
  rw [Parts.url, none, List.append_nil, List.getLast?_append_of_ne_nil _ h.authority_ne_nil] at slash
  cases h.authority_plain 47 (List.mem_of_getLast? slash)

/-- The authority does not end like a scheme. -/
theorem authority_unschemed (h : u.Valid) (bare : u.scheme = none) {name : List UInt8}
    (all : ∀ c ∈ name, schemeChar c = true) : u.authority ≠ name ++ [58] := by
  intro same
  have atless : (64 : UInt8) ∉ name ++ [58] := by
    intro member
    rcases List.mem_append.mp member with named | colon
    · cases all 64 named
    · cases List.mem_singleton.mp colon
  cases given : u.userinfo with
  | some info =>
    apply atless
    rw [← same, Parts.authority, Parts.userText, given]
    simp
  | none =>
    have last := congrArg List.getLast? same
    rw [Parts.authority, Parts.userText, given, List.nil_append, List.getLast?_concat] at last
    cases ported : u.port with
    | none =>
      rw [Parts.portText, ported, List.append_nil] at last
      cases h.name 58 (List.mem_of_getLast? last)
    | some digits =>
      obtain ⟨all, _, schemed⟩ := h.port digits ported
      cases digits with
      | nil =>
        rw [bare] at schemed
        cases schemed rfl
      | cons d digits =>
        rw [Parts.portText, ported, List.getLast?_append_of_ne_nil _ (by simp),
          List.getLast?_cons_cons] at last
        cases all 58 (List.mem_of_getLast? last)

/-- Where `:/` stands behind bytes of a scheme, the first delimiter is that slash. -/
theorem colon_ends {text : List UInt8} (colon : (text.dropWhile schemeChar).take 2 = [58, 47]) :
    text.takeWhile (fun c => !delimiter c) = text.takeWhile schemeChar ++ [58] := by
  have split : text = (text.takeWhile schemeChar ++ [58]) ++
      47 :: (text.dropWhile schemeChar).drop 2 := by
    conv_lhs => rw [← List.takeWhile_append_dropWhile (p := schemeChar) (l := text),
      ← List.take_append_drop 2 (text.dropWhile schemeChar), colon]
    simp
  conv_lhs => rw [split]
  refine takeWhile_stop (List.forall_mem_append.mpr
    ⟨fun c member => ?_, List.forall_mem_singleton.mpr rfl⟩) ?_
  · simp [schemeChar_plain (List.mem_takeWhile_imp member)]
  · simp [delimiter]

theorem afterScheme_url (h : u.Valid) : afterScheme u.url = u.authority ++ u.tail := by
  cases schemed : u.scheme with
  | none =>
    have url : u.url = u.authority ++ u.tail := by simp [Parts.url, Parts.schemeText, schemed]
    rw [url, afterScheme, if_neg]
    rintro ⟨_, colon⟩
    exact h.authority_unschemed schemed (fun c member => List.mem_takeWhile_imp member)
      (h.authority_ends.symm.trans (colon_ends colon))
  | some scheme =>
    obtain ⟨name, slashes⟩ := scheme
    obtain ⟨named, some_slash, _⟩ := h.scheme _ schemed
    obtain ⟨more, rfl⟩ : ∃ more, slashes = more + 1 := ⟨slashes - 1, by omega⟩
    have url : u.url = name ++ 58 :: (List.replicate (more + 1) 47 ++ (u.authority ++ u.tail)) := by
      simp [Parts.url, Parts.schemeText, schemed]
    have behind : u.url.dropWhile schemeChar =
        58 :: (List.replicate (more + 1) 47 ++ (u.authority ++ u.tail)) := by
      rw [url, List.dropWhile_append_of_pos named.all]
      rfl
    have letter : u.url.head?.any alpha = true := by
      rw [url, List.head?_append_of_ne_nil _ (by rintro rfl; cases named.letter)]
      exact named.letter
    rw [afterScheme, behind, if_pos ⟨letter, rfl⟩, List.drop_one, List.tail_cons,
      List.dropWhile_append_of_pos (by simp)]
    obtain ⟨c, rest, text⟩ := List.exists_cons_of_ne_nil h.authority_ne_nil
    have plain := h.authority_plain c (by rw [text]; exact List.mem_cons_self)
    have other : c ≠ 47 := by
      rintro rfl
      cases plain
    rw [text, List.cons_append, List.dropWhile_cons_of_neg (by simpa using other)]

theorem behindUser_authority (h : u.Valid) : behindUser u.authority = u.name ++ u.portText := by
  have atless : ∀ c ∈ u.name ++ u.portText, decide (c ≠ 64) = true := by
    refine List.forall_mem_append.mpr ⟨fun c member => ?_, fun c member => ?_⟩
    · exact decide_eq_true (nameChar_plain (h.name c member)).2.2
    · exact decide_eq_true (h.port_plain c member).2
  unfold behindUser Parts.authority Parts.userText
  cases given : u.userinfo with
  | none => rw [List.nil_append, List.dropWhile_eq_nil_iff.mpr atless]
  | some info =>
    have clean : ∀ c ∈ info, decide (c ≠ 64) = true :=
      fun c member => decide_eq_true (h.userinfo info given c member).2
    rw [List.append_assoc, List.dropWhile_append_of_pos clean]
    rfl

theorem name_ends (h : u.Valid) : (u.name ++ u.portText).takeWhile (fun c => c ≠ 58) = u.name := by
  refine takeWhile_stop (fun c member => ?_) fun c first => ?_
  · exact decide_eq_true (nameChar_plain (h.name c member)).2.1
  · unfold Parts.portText at first
    cases ported : u.port with
    | none =>
      rw [ported] at first
      cases first
    | some digits =>
      rw [ported] at first
      cases first
      rfl

end Parts.Valid

theorem read_reads : Reads read := by
  have name : ∀ {u : Parts}, u.Valid → read u.url =
      match address u.name with
      | some a => some (dotted a)
      | none => some u.name := by
    intro u valid
    simp only [read, valid.afterScheme_url, valid.authority_ends, valid.behindUser_authority,
      valid.name_ends]
  constructor
  · intro u valid a spelled
    rw [name valid, spelled]
  · intro u valid spelled
    rw [name valid, spelled]

/-- A URL can be put together in one way only, as far as its address goes. -/
theorem spells_iff {u : Parts} (valid : u.Valid) {a : Nat} (plain : address (dotted a) = some a) :
    Spells u.url a ↔ address u.name = some a := by
  constructor
  · rintro ⟨v, formed, same, spelled⟩
    have heard := (read_reads.host_iff formed plain).mpr spelled
    exact (read_reads.host_iff valid plain).mp (same ▸ heard)
  · intro spelled
    exact ⟨u, valid, rfl, spelled⟩

end Url
