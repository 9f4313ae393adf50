import Assistantd.Adapter.Stt
import Assistantd.Lib.Span

/-! How a transcript gets into the caller's buffer, pointer by pointer. -/
namespace Assistantd.SttAdapter

open Calls
open CText (CString ascii isspace)

/-! ## The code -/

/-- A string in memory, with its NUL behind it. -/
def stringAt (text : List UInt8) : Nat → UInt8 := fun i => text.getD i 0

/-- `start` and `stop` are the offsets of the source's two pointers. -/
def trimSpanPointers (mem : Nat → UInt8) (start stop : Nat) : Nat × Nat :=
  let start := Span.skipStart isspace mem stop (stop - start) start
  (start, Span.skipEnd isspace mem start (stop - start) stop)

/-- The caller's array. What is behind its size is not the caller's. -/
abbrev BufferCall (α : Type) := Call (Nat → UInt8) HttpEvent Status α

/-- The part behind the checks of the `text` field. -/
def storeTranscript (text : List UInt8) (transcriptSize : Nat) : BufferCall Unit := do
  let (start, stop) := trimSpanPointers (stringAt text) 0 text.length
  if start ≥ stop then fail .errIo
  else
    let copyLen := if stop - start ≥ transcriptSize then transcriptSize - 1 else stop - start
    modify fun transcript => Function.update
      (Cells.copyIn transcript 0 (Cells.slice (stringAt text) start copyLen)) copyLen 0

/-- `parse_json_response` for an array of any size. -/
def parseJsonResponseInto (p : Platform) (raw : List UInt8) (transcriptSize : Nat) :
    BufferCall Unit := do
  failIf (transcriptSize = 0) .errInvalidArgument
  match p.cJSONParse raw with
  | none => fail .errIo
  | some root =>
    emit (.alloc .parsedJson)
    let stored ← attempt (match Json.valueString (Json.getObjectItem (some root) (ascii "text")) with
      | none => fail .errIo
      | some text => storeTranscript text transcriptSize)
    emit (.free .parsedJson)
    match stored with
    | .error status => fail status
    | .ok () => pure ()

/-! ## The span -/

section Span

variable {mem : Nat → UInt8} {start stop : Nat}

theorem trimSpanPointers_passes (mem : Nat → UInt8) (start stop : Nat) :
    Relation.ReflTransGen (Span.Pass isspace mem) (start, stop) (trimSpanPointers mem start stop) :=
  (Span.skipStart_passes stop (stop - start) start).trans
    (Span.skipEnd_passes _ _ stop)

theorem trimSpanPointers_within (ordered : start ≤ stop) :
    start ≤ (trimSpanPointers mem start stop).1 ∧
      (trimSpanPointers mem start stop).1 ≤ (trimSpanPointers mem start stop).2 ∧
      (trimSpanPointers mem start stop).2 ≤ stop :=
  Span.passes_within (trimSpanPointers_passes mem start stop) ordered

theorem trimSpanPointers_stays (starts : ¬ (start < stop ∧ isspace (mem start) = true))
    (ends : ¬ (stop > start ∧ isspace (mem (stop - 1)) = true)) :
    trimSpanPointers mem start stop = (start, stop) := by
  simp only [trimSpanPointers, Span.skipStart_stays starts, Span.skipEnd_stays ends]

/-- A span that is trimmed stays as it is. -/
theorem trimSpanPointers_again (ordered : start ≤ stop) :
    trimSpanPointers mem (trimSpanPointers mem start stop).1 (trimSpanPointers mem start stop).2 =
      trimSpanPointers mem start stop := by
  obtain ⟨_, _, inside⟩ := @trimSpanPointers_within mem start stop ordered
  have starts := @Span.skipStart_ends _ isspace mem start stop (stop - start) (by omega)
  apply trimSpanPointers_stays
  · rintro ⟨less, blank⟩
    exact starts ⟨Nat.lt_of_lt_of_le less inside, blank⟩
  · exact Span.skipEnd_ends (by omega)

theorem stringAt_slice (text : List UInt8) : Cells.slice (stringAt text) 0 text.length = text := by
  apply List.ext_getElem (Cells.slice_length _ _ _)
  intro i inside _
  rw [Cells.slice_length] at inside
  rw [Cells.slice_getElem, Nat.zero_add, stringAt, List.getD_eq_getElem _ _ inside]

theorem trimSpanPointers_text (text : List UInt8) :
    let span := trimSpanPointers (stringAt text) 0 text.length
    Cells.slice (stringAt text) span.1 (span.2 - span.1) = CText.trim text := by
  intro span
  obtain ⟨_, ordered, inside⟩ := @trimSpanPointers_within (stringAt text) 0 text.length
    (Nat.zero_le _)
  have front := @Span.skipStart_slice _ isspace (stringAt text) 0 text.length
  have back := @Span.skipEnd_slice _ isspace (stringAt text) span.1 (text.length - span.1)
  have length : span.1 + (text.length - span.1) = text.length :=
    Nat.add_sub_cancel' (Nat.le_trans ordered inside)
  rw [Nat.zero_add, stringAt_slice] at front
  rw [length] at back
  rw [CText.trim, ← front]
  exact back

end Span

/-! ## The array -/

/-- What an array has of a text that is cut to its size. -/
structure Stored (core : List UInt8) (transcriptSize : Nat) (before after : Nat → UInt8) :
    Prop where
  text : Cells.slice after 0 (min core.length (transcriptSize - 1)) =
    core.take (transcriptSize - 1)
  ended : after (min core.length (transcriptSize - 1)) = 0
  inside : min core.length (transcriptSize - 1) < transcriptSize
  beyond : ∀ k, min core.length (transcriptSize - 1) < k → after k = before k

section Array

variable {transcriptSize : Nat}

theorem stored (core : List UInt8) (room : 1 ≤ transcriptSize) (transcript : Nat → UInt8) :
    Stored core transcriptSize transcript (Function.update
      (Cells.copyIn transcript 0 (core.take (transcriptSize - 1)))
      (min core.length (transcriptSize - 1)) 0) := by
  have length : (core.take (transcriptSize - 1)).length = min core.length (transcriptSize - 1) := by
    rw [List.length_take, Nat.min_comm]
  constructor
  · have copied := Cells.slice_copyIn_same transcript 0 (core.take (transcriptSize - 1))
    rw [length] at copied
    rw [Cells.slice_update_outside _ _ _ _ _ (.inr (by omega)), copied]
  · exact Function.update_self _ _ _
  · omega
  · intro k behind
    rw [Function.update_of_ne (by omega), Cells.copyIn_outside _ _ _ _ (.inr (by omega))]

theorem slice_take (mem : Nat → UInt8) (off : Nat) {k n : Nat} (short : k ≤ n) :
    (Cells.slice mem off n).take k = Cells.slice mem off k := by
  rw [← Nat.add_sub_cancel' short, Cells.slice_append, List.take_left' (Cells.slice_length _ _ _)]

theorem storeTranscript_run (text : List UInt8) (room : 1 ≤ transcriptSize)
    (transcript : Nat → UInt8) : (storeTranscript text transcriptSize).run transcript =
      if CText.trim text = [] then ⟨.error .errIo, transcript, []⟩
      else ⟨.ok (), Function.update
        (Cells.copyIn transcript 0 ((CText.trim text).take (transcriptSize - 1)))
        (min (CText.trim text).length (transcriptSize - 1)) 0, []⟩ := by
  have core := trimSpanPointers_text text
  unfold storeTranscript
  generalize trimSpanPointers (stringAt text) 0 text.length = span at core ⊢
  obtain ⟨start, stop⟩ := span
  dsimp only at core ⊢
  rw [← core, Cells.slice_length]
  by_cases blank : start ≥ stop
  · have nothing : stop - start = 0 := by omega
    rw [if_pos blank, nothing, if_pos (Cells.slice_zero _ _)]
    rfl
  · have some : Cells.slice (stringAt text) start (stop - start) ≠ [] := by
      apply List.ne_nil_of_length_pos
      rw [Cells.slice_length]
      omega
    rw [if_neg blank, if_neg some, run_modify]
    by_cases long : stop - start ≥ transcriptSize
    · rw [if_pos long, slice_take _ _ (by omega), Nat.min_eq_right (by omega)]
    · rw [if_neg long, List.take_of_length_le (by rw [Cells.slice_length]; omega),
        Nat.min_eq_left (by omega)]

/-- The call stores what is left of the field, or fails and leaves the array alone. -/
theorem parseJsonResponseInto_cases (p : Platform) (raw : List UInt8) (room : 1 ≤ transcriptSize)
    (transcript : Nat → UInt8) :
    let field := textField p raw
    ((∀ text, field = some text → CText.trim text = []) ∧ ∃ events,
      (parseJsonResponseInto p raw transcriptSize).run transcript =
        ⟨.error .errIo, transcript, events⟩) ∨
    ∃ text events, field = some text ∧ CText.trim text ≠ [] ∧
      (parseJsonResponseInto p raw transcriptSize).run transcript = ⟨.ok (), Function.update
        (Cells.copyIn transcript 0 ((CText.trim text).take (transcriptSize - 1)))
        (min (CText.trim text).length (transcriptSize - 1)) 0, events⟩ := by
  intro field
  have given : ¬ transcriptSize = 0 := by omega
  unfold parseJsonResponseInto
  cases parsed : p.cJSONParse raw with
  | none =>
    have missing : field = none := by
      simp [field, textField, parsed, Json.getObjectItem, Json.valueString]
    exact .inl ⟨by simp [missing], [], by simp [given]⟩
  | some root =>
    cases found : Json.valueString (Json.getObjectItem (some root) (ascii "text")) with
    | none =>
      have missing : field = none := by simp only [field, textField, parsed, found]
      exact .inl ⟨by simp [missing], [.alloc .parsedJson, .free .parsedJson], by simp [given, found]⟩
    | some text =>
      have present : field = some text := by simp only [field, textField, parsed, found]
      have stored := storeTranscript_run text room transcript
      by_cases blank : CText.trim text = []
      · rw [if_pos blank] at stored
        exact .inl ⟨by simp [present, blank], [.alloc .parsedJson, .free .parsedJson],
          by simp [given, found, stored]⟩
      · rw [if_neg blank] at stored
        exact .inr ⟨text, [.alloc .parsedJson, .free .parsedJson], present, blank,
          by simp [given, found, stored]⟩

end Array

/-- The text field without the whitespace around it ends up in the array, cut to
its size, or nothing does. -/
theorem transcript_extracted (p : Platform) (raw : List UInt8) {transcriptSize : Nat}
    (room : 1 ≤ transcriptSize) (transcript : Nat → UInt8) :
    let o := (parseJsonResponseInto p raw transcriptSize).run transcript
    let field := textField p raw
    (o.result = .ok () ↔ ∃ text, field = some text ∧ ∃ c ∈ text, isspace c = false) ∧
    (o.result ≠ .ok () → o.result = .error .errIo ∧ o.state = transcript) ∧
    ∀ text, field = some text →
      (∃! core, Span.Stripped isspace text core) ∧
      (o.result = .ok () → ∀ core, Span.Stripped isspace text core →
        Stored core transcriptSize transcript o.state) ∧
      (∀ span, Relation.ReflTransGen (Span.Pass isspace (stringAt text)) (0, text.length) span →
        span.1 ≤ span.2 ∧ span.2 ≤ text.length) ∧
      let span := trimSpanPointers (stringAt text) 0 text.length
      Relation.ReflTransGen (Span.Pass isspace (stringAt text)) (0, text.length) span ∧
        trimSpanPointers (stringAt text) span.1 span.2 = span := by
  intro o field
  have blank_iff : ∀ text : List UInt8, CText.trim text = [] ↔ ∀ c ∈ text, isspace c = true :=
    fun _ => Span.stripped_nil_iff
  have spans : ∀ text : List UInt8, (∃! core, Span.Stripped isspace text core) ∧
      ∀ span, Relation.ReflTransGen (Span.Pass isspace (stringAt text)) (0, text.length) span →
        span.1 ≤ span.2 ∧ span.2 ≤ text.length :=
    fun text => ⟨⟨CText.trim text, Span.stripped isspace text, fun _ parts => parts.unique⟩,
      fun _ passes => (Span.passes_within passes (Nat.zero_le _)).2⟩
  rcases parseJsonResponseInto_cases p raw room transcript with
    ⟨blank, events, failed⟩ | ⟨text, events, found, some, done⟩
  · have outcome : o = ⟨.error .errIo, transcript, events⟩ := failed
    rw [outcome]
    refine ⟨iff_of_false nofun ?_, fun _ => ⟨rfl, rfl⟩, ?_⟩
    · rintro ⟨text, found, c, member, visible⟩
      rw [(blank_iff text).mp (blank text found) c member] at visible
      cases visible
    · intro text _
      exact ⟨(spans text).1, nofun, (spans text).2, trimSpanPointers_passes _ _ _,
        trimSpanPointers_again (Nat.zero_le _)⟩
  · have outcome : o = _ := done
    rw [outcome]
    refine ⟨iff_of_true rfl ⟨text, found, ?_⟩, fun failed => absurd rfl failed, ?_⟩
    · by_contra none
      push Not at none
      exact some ((blank_iff text).mpr fun c member => by simpa using none c member)
    · intro text' found'
      obtain rfl : text = text' := Option.some.inj (found.symm.trans found')
      refine ⟨(spans text).1, ?_, (spans text).2, trimSpanPointers_passes _ _ _,
        trimSpanPointers_again (Nat.zero_le _)⟩
      intro _ core parts
      rw [parts.unique]
      exact stored _ room transcript

/-- An answer with blanks around its text. -/
def spacedBody : List UInt8 := ascii "\x7b\"text\":\" a b \"\x7d"

/-- A small target that parses it. -/
def spacedPlatform : Platform where
  sizeBits := 16
  wide := by decide
  longBits := 32
  cJSONParse raw :=
    if raw = spacedBody then some (.object [(ascii "text", .string (ascii " a b "))]) else none
  cJSONPrint _ := []

/-- Two bytes of the text and the NUL. -/
theorem transcript_extracted_cut :
    let o := (parseJsonResponseInto spacedPlatform spacedBody 3).run fun _ => 7
    o.result = .ok () ∧ Stored (ascii "a b") 3 (fun _ => 7) o.state := by
  intro o
  obtain ⟨succeeds, _, parsed⟩ :=
    transcript_extracted spacedPlatform spacedBody (by decide : 1 ≤ 3) fun _ => 7
  have done : o.result = .ok () := succeeds.mpr ⟨ascii " a b ", by decide, 97, by decide, by decide⟩
  have core : CText.trim (ascii " a b ") = ascii "a b" := by decide
  exact ⟨done, (parsed (ascii " a b ") (by decide)).2.1 done _ (core ▸ Span.stripped isspace _)⟩

theorem Stored.string {core : List UInt8} {transcriptSize : Nat} {before after : Nat → UInt8}
    (h : Stored core transcriptSize before after) (clean : 0 ∉ core) :
    CText.upToNul (Cells.slice after 0 transcriptSize) = core.take (transcriptSize - 1) := by
  have inside := h.inside
  have whole : transcriptSize = min core.length (transcriptSize - 1) + 1 +
      (transcriptSize - (min core.length (transcriptSize - 1) + 1)) := by omega
  have nul : Cells.slice after (0 + min core.length (transcriptSize - 1)) 1 = [0] := by
    rw [Nat.zero_add, ← h.ended]
    rfl
  have visible : ∀ c ∈ core.take (transcriptSize - 1), decide (c ≠ 0) = true := by
    intro c member
    rw [decide_eq_true_eq]
    rintro rfl
    exact clean (List.mem_of_mem_take member)
  conv_lhs => rw [whole]
  rw [Cells.slice_append, Cells.slice_append, h.text, nul, List.append_assoc, CText.upToNul,
    List.takeWhile_append_of_pos visible]
  simp

/-- In the adapter's own array this is the call of the adapter. -/
theorem parseJsonResponseInto_refines (p : Platform) (raw : List UInt8) (transcript : Nat → UInt8)
    (t : SttTask) :
    let o := (parseJsonResponseInto p raw 4096).run transcript
    let called := (parseJsonResponse p raw).run t
    o.result = called.result ∧
      (o.result = .ok () → CText.upToNul (Cells.slice o.state 0 4096) =
        called.state.transcript.bytes) := by
  obtain ⟨_, _, ⟨blank, failed⟩ | ⟨text, found, some, done⟩⟩ := parseJsonResponse_cases p raw t
  · obtain ⟨_, _, refused⟩ | ⟨text, _, found, some, _⟩ :=
      parseJsonResponseInto_cases p raw (by decide : 1 ≤ 4096) transcript
    · rw [failed, refused]
      exact ⟨rfl, nofun⟩
    · exact absurd (blank text found) some
  · obtain ⟨blank, _⟩ | ⟨text', _, found', _, stores⟩ :=
      parseJsonResponseInto_cases p raw (by decide : 1 ≤ 4096) transcript
    · exact absurd (blank text found) some
    · obtain rfl : text = text' := Option.some.inj (found.symm.trans found')
      have clean : 0 ∉ CText.trim text := fun zero => Json.valueString_clean found (CText.mem_trim zero)
      have text_held := (stored _ (by decide : 1 ≤ 4096) transcript).string clean
      rw [done, stores]
      exact ⟨rfl, fun _ => text_held.trans (CString.copy_take clean).symm⟩

end Assistantd.SttAdapter
