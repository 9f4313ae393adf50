import Assistantd.Lib.CText
import Assistantd.Lib.SlotQueue

/-! artifact_queue.c: the two queues between the stages. -/
namespace Assistantd

open CText (CString)

structure Artifact where
  sequenceId : UInt64
  pcmBytes : Nat
  wavPath : CString 511
  deriving DecidableEq

structure LlmResponse where
  sequenceId : UInt64
  usedFallback : Int
  responseText : CString 8191
  deriving DecidableEq

abbrev ArtifactQueue := SlotQueue Artifact

abbrev LlmResponseQueue := SlotQueue LlmResponse

namespace ArtifactQueue

def zero : Artifact := ⟨0, 0, .empty 511⟩

def init : ArtifactQueue := SlotQueue.init zero

def enqueue (queue : ArtifactQueue) (artifact : Artifact) : Bool × ArtifactQueue :=
  SlotQueue.enqueue 16 queue artifact

def dequeue (queue : ArtifactQueue) : Option Artifact × ArtifactQueue :=
  SlotQueue.dequeue 16 zero queue

def size (queue : ArtifactQueue) : Nat := SlotQueue.size queue

end ArtifactQueue

namespace LlmResponseQueue

def zero : LlmResponse := ⟨0, 0, .empty 8191⟩

def init : LlmResponseQueue := SlotQueue.init zero

def enqueue (queue : LlmResponseQueue) (response : LlmResponse) : Bool × LlmResponseQueue :=
  SlotQueue.enqueue 16 queue response

def dequeue (queue : LlmResponseQueue) : Option LlmResponse × LlmResponseQueue :=
  SlotQueue.dequeue 16 zero queue

def size (queue : LlmResponseQueue) : Nat := SlotQueue.size queue

end LlmResponseQueue

end Assistantd
