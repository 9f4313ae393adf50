import Assistantd.Adapter.Bodies
import Assistantd.Adapter.Outcomes
import Assistantd.CJson.Print

/-! The adapters with cJSON in its place: what becomes of a server's reply, however it is
written and in whatever chunks it comes. -/
namespace Assistantd

open CText (ascii)
open JsonText

/-- A target, with the cJSON the program brings along. -/
def vendored (sizeBits : Nat) (wide : 16 ≤ sizeBits) (longBits : Nat) : Platform where
  sizeBits := sizeBits
  wide := wide
  longBits := longBits
  cJSONParse := CJson.parse
  cJSONPrint := CJson.print

/-- A text of JSON as a server may send it. -/
structure Reply where
  bom : Bool
  before : List Blank
  tree : Tree Literal Numeral
  after : List Blank
  short : tree.All (fun _ => True) fun n => n.raw.length ≤ 63

namespace Reply

def raw (r : Reply) : List UInt8 :=
  CJson.mark r.bom ++ (blanks r.before ++ r.tree.raw Literal.raw Numeral.raw) ++ blanks r.after

/-- What it stands for, where it is not nested too deep. -/
def item (r : Reply) : Option Json :=
  if r.tree.depth ≤ CJson.nestingLimit then
    some (CJson.value CJson.literalBytes Numeral.raw r.tree)
  else none

theorem parsed (r : Reply) : CJson.parse r.raw = r.item := by
  apply CJson.parse_raw CJson.rfc_leaves r.bom r.before r.short
  cases r.after with
  | nil => exact nofun
  | cons b after =>
    intro c first
    cases first
    cases b <;> rfl

theorem clean (r : Reply) : 0 ∉ r.raw := by
  simp [raw, CJson.mark_clean, CJson.blanks_clean,
    CJson.raw_clean CJson.rfc_leaves r.tree r.short]

theorem raw_pos (r : Reply) : 0 < r.raw.length := by
  have some_bytes := List.length_pos_iff.mpr (CJson.raw_ne_nil CJson.rfc_leaves r.short)
  simp only [raw, List.length_append]
  omega

/-- The `text` of a transcription. -/
def text (r : Reply) : Option (List UInt8) :=
  Json.valueString (Json.getObjectItem r.item (ascii "text"))

/-- The `choices[0].message.content` of an answer. -/
def content (r : Reply) : Option (List UInt8) :=
  Json.valueString (Json.getObjectItem (Json.getObjectItem (Json.firstItem
    (Json.getObjectItem r.item (ascii "choices"))) (ascii "message")) (ascii "content"))

end Reply

/-! ## The text of a buffer -/

namespace ResponseBuffer

theorem Body.text {b : ResponseBuffer} {bytes : List UInt8} (body : b.Body bytes)
    (clean : 0 ∉ bytes) : b.text = bytes := by
  obtain ⟨data, present, ended⟩ := body.terminated
  have room := body.room
  have contents := body.contents
  simp only [ResponseBuffer.contents, present, Option.getD_some] at contents
  obtain ⟨more, capacity⟩ : ∃ more, b.capacity = b.size + (1 + more) :=
    ⟨b.capacity - b.size - 1, by omega⟩
  have nul : Cells.slice data b.size 1 = [0] := by simp [Cells.slice, ended]
  simp only [ResponseBuffer.text, present, capacity, Cells.slice_append, contents, Nat.zero_add, nul]
  rw [CText.upToNul_append clean]
  simp [CText.upToNul]

theorem Body.size {b : ResponseBuffer} {bytes : List UInt8} (body : b.Body bytes) :
    b.size = bytes.length := by
  rw [← body.contents, ResponseBuffer.contents, Cells.slice_length]

/-- What is left of a reply is in the buffer, the last chunk taken. -/
theorem Rebuilds.body {w : Nat} {callback : ResponseBuffer → Chunk → Option (Nat × ResponseBuffer)}
    {start : Nat → Nat} {empty b : ResponseBuffer} {chunks : List Chunk}
    (rebuilt : Rebuilds w callback start empty chunks b) (some_bytes : received chunks ≠ []) :
    b.Body (received chunks) := by
  cases rebuilt with
  | nil => exact absurd rfl some_bytes
  | snoc _ _ body => exact body

end ResponseBuffer

open ResponseBuffer (received)

/-- A reply in chunks that there is memory for. -/
structure Delivered (w : Nat) (r : Reply) (chunks : List Chunk) : Prop where
  whole : received chunks = r.raw
  fits : r.raw.length + 1 ≤ 2 ^ (w - 1)
  memory : ∀ chunk ∈ chunks, chunk.realloc = true

namespace SttAdapter

theorem collect_delivered {w : Nat} (wide : 16 ≤ w) {r : Reply} {chunks : List Chunk}
    (delivered : Delivered w r chunks) :
    ∃ b, collect (writeCallback w) emptyResponse chunks = some (true, b) ∧ b.text = r.raw := by
  have fits := delivered.fits
  rw [← delivered.whole] at fits
  obtain ⟨b, rebuilt, _⟩ := (ResponseBuffer.stt_collector w).rebuilds (ResponseBuffer.stt_starts wide)
    wide (ResponseBuffer.stt_empty w wide) rfl fits delivered.memory
  have collected := rebuilt.collect []
  rw [List.append_nil] at collected
  have body := rebuilt.body (delivered.whole ▸ List.length_pos_iff.mp r.raw_pos)
  rw [delivered.whole] at body
  exact ⟨b, collected, body.text r.clean⟩

end SttAdapter

namespace LlmAdapter

theorem collect_delivered {w : Nat} (wide : 16 ≤ w) {r : Reply} {chunks : List Chunk}
    (delivered : Delivered w r chunks) :
    ∃ b, collect (writeCallback w) emptyResponse chunks = some (true, b) ∧ b.Body r.raw := by
  have fits := delivered.fits
  rw [← delivered.whole] at fits
  obtain ⟨b, rebuilt, _⟩ := (ResponseBuffer.llm_collector w).rebuilds (ResponseBuffer.llm_starts wide)
    wide (ResponseBuffer.llm_empty w) rfl fits delivered.memory
  have collected := rebuilt.collect []
  rw [List.append_nil] at collected
  have body := rebuilt.body (delivered.whole ▸ List.length_pos_iff.mp r.raw_pos)
  rw [delivered.whole] at body
  exact ⟨b, collected, body⟩

end LlmAdapter

section Sample

/-- A literal of lower-case letters, each of them escaped. -/
def letters (text : List (Fin 26)) : Literal :=
  text.map fun k => .unicode (Char.ofNat (97 + k.val)) (by
    have small : (97 + k.val).isValidChar := .inl (by omega)
    rw [Char.ofNat, dif_pos small]
    show 97 + k.val < 0x10000
    omega) fun _ => true

/-- An answer of `hi`. -/
def answeredReply : Reply where
  bom := true
  before := []
  tree := .object [] (.cons [] (letters [2, 7, 14, 8, 2, 4, 18]) [] [.tab]
    (.array [] (.cons [] (.object [] (.cons [] (letters [12, 4, 18, 18, 0, 6, 4]) [] []
      (.object [] (.cons [] (letters [2, 14, 13, 19, 4, 13, 19]) [] []
        (.string (letters [7, 8])) [] .nil)) [] .nil)) [] .nil)) [] .nil)
  after := []
  short := ⟨trivial, ⟨⟨trivial, ⟨trivial, trivial, trivial⟩, trivial⟩, trivial⟩, trivial⟩

def answeredActivities : List LlmAdapter.Activity :=
  [.chunk ⟨answeredReply.raw.take 20, true⟩, .poll false, .chunk ⟨answeredReply.raw.drop 20, true⟩]

theorem answeredActivities_delivered :
    Delivered 16 answeredReply (LlmAdapter.Activity.chunks answeredActivities) where
  whole := by decide +kernel
  fits := by decide +kernel
  memory := by decide +kernel

def answeredWhole : LlmAdapter.Answers 16 where
  build := ⟨true, true, true, true, true, true, true, true, true, true, true, true⟩
  headers := true
  activities := answeredActivities
  code := .ok
  httpStatus := 200
  signal := false
  returns := by
    obtain ⟨b, collected, _⟩ := LlmAdapter.collect_delivered (by decide) answeredActivities_delivered
    rw [collected]
    rfl

end Sample

end Assistantd
