import Assistantd.Lib.Calls
import Assistantd.Lib.Cells
import Assistantd.Lib.CText
import Assistantd.Lib.Ledger

/-! What the two HTTP adapters share: cJSON values, the buffer a response is
collected in, and the trace their calls leave. -/
namespace Assistantd

open CText (CString)

/-- A cJSON item. Strings and keys are read as C strings. A number is its numeral; the
double and the int that cJSON keeps of it are left out. -/
inductive Json where
  | null
  | bool (value : Bool)
  | number (text : List UInt8)
  | string (value : List UInt8)
  | array (items : List Json)
  | object (members : List (List UInt8 × Json))

namespace Json

/-- `cJSON_GetObjectItemCaseSensitive`, which accepts NULL. -/
def getObjectItem (item : Option Json) (key : List UInt8) : Option Json :=
  match item with
  | some (.object members) => (members.find? fun m => CText.upToNul m.1 = key).map Prod.snd
  | _ => none

/-- `valuestring`, where `cJSON_IsString` holds. -/
def valueString (item : Option Json) : Option (List UInt8) :=
  match item with
  | some (.string value) => some (CText.upToNul value)
  | _ => none

theorem valueString_clean {item : Option Json} {text : List UInt8}
    (found : valueString item = some text) : 0 ∉ text := by
  unfold valueString at found
  split at found
  · rw [← Option.some.inj found]
    exact CText.upToNul_clean _
  · cases found

/-- `cJSON_GetArrayItem(item, 0)`, where `cJSON_IsArray` holds and the array is not empty. -/
def firstItem (item : Option Json) : Option Json :=
  match item with
  | some (.array (first :: _)) => some first
  | _ => none

end Json

/-- The target and the parts of its library that are used but not modelled:
the widths of `size_t` and `long`, and cJSON's parser and printer. -/
structure Platform where
  sizeBits : Nat
  wide : 16 ≤ sizeBits
  longBits : Nat
  cJSONParse : List UInt8 → Option Json
  cJSONPrint : Json → List UInt8

/-! ## Response buffers -/

structure ResponseBuffer where
  data : Option (Nat → UInt8)
  size : Nat
  capacity : Nat

/-- One chunk libcurl hands to the write callback, and whether a `realloc` for it succeeds. -/
structure Chunk where
  bytes : List UInt8
  realloc : Bool

/-- `new_capacity *= 2` until it is enough. The loop that has not ended after
`w` rounds has wrapped to 0 and never ends. -/
def doubleUntil (w : Nat) (enough : Nat → Bool) (capacity : Nat) : Option Nat :=
  go (w + 1) capacity
where
  go : Nat → Nat → Option Nat
  | 0, _ => none
  | rounds + 1, capacity =>
    if enough capacity then some capacity else go rounds (2 * capacity % 2 ^ w)

namespace ResponseBuffer

/-- The `memcpy` and the new terminator. -/
def append (w : Nat) (b : ResponseBuffer) (bytes : List UInt8) : ResponseBuffer :=
  { b with
    data := b.data.map fun data =>
      Function.update (Cells.copyIn data b.size bytes) ((b.size + bytes.length) % 2 ^ w) 0
    size := (b.size + bytes.length) % 2 ^ w }

/-- `realloc` keeps what is stored; where there was nothing, the new block is unset. -/
def resize (b : ResponseBuffer) (capacity : Nat) : ResponseBuffer :=
  { b with data := some (b.data.getD fun _ => 0), capacity }

/-- The text a callback leaves in the buffer, up to its NUL. -/
def text (b : ResponseBuffer) : List UInt8 :=
  match b.data with
  | none => []
  | some data => CText.upToNul (Cells.slice data 0 b.capacity)

end ResponseBuffer

/-- The callback's view of a whole response: whether every chunk was taken, and
the buffer. None where a callback never returns. -/
def collect (callback : ResponseBuffer → Chunk → Option (Nat × ResponseBuffer)) :
    ResponseBuffer → List Chunk → Option (Bool × ResponseBuffer)
  | b, [] => some (true, b)
  | b, chunk :: chunks =>
    match callback b chunk with
    | none => none
    | some (taken, b) => if taken = chunk.bytes.length then collect callback b chunks else some (false, b)

/-! ## Outcomes and events -/

inductive CurlCode where
  | ok
  | operationTimedout
  | abortedByCallback
  | writeError
  | other
  deriving DecidableEq

/-- What a call allocates and has to free. -/
inductive Owned where
  | requestJson
  | body
  | headers
  | form
  | response
  | parsedJson
  deriving DecidableEq

inductive HttpEvent where
  | curl (op : Ledger.Op) (addr : Nat)
  | alloc (what : Owned)
  | free (what : Owned)
  /-- A request of the STT adapter, and the file it sends. -/
  | upload (url : CString 543) (file : CString 511)
  /-- A request of the LLM adapter. -/
  | post (url : CString 543) (body : List UInt8)
  /-- A progress poll: whether shutdown is requested then, and whether the transfer goes on. -/
  | poll (requested continues : Bool)

end Assistantd
