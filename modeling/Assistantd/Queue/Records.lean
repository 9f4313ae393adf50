import Assistantd.Lib.SlotRun
import Assistantd.Queue

/-! The queues of artifact_queue.c with their items byte by byte, against a
bounded list. -/
namespace Assistantd

open Calls CText SlotQueue

/-- An artifact with all of its array, also what stands behind the terminator. -/
structure ArtifactRecord where
  sequenceId : UInt64
  pcmBytes : Nat
  wavPath : Vector UInt8 512

structure LlmResponseRecord where
  sequenceId : UInt64
  usedFallback : Int
  responseText : Vector UInt8 8192

def ArtifactRecord.read (r : ArtifactRecord) : Artifact :=
  ⟨r.sequenceId, r.pcmBytes, .copy 511 r.wavPath.toList⟩

def LlmResponseRecord.read (r : LlmResponseRecord) : LlmResponse :=
  ⟨r.sequenceId, r.usedFallback, .copy 8191 r.responseText.toList⟩

theorem copy_zeros (n k : Nat) : CString.copy n (.replicate k 0) = .empty n := by
  apply CString.ext
  cases k with
  | zero => simp [CString.copy, CString.empty, upToNul]
  | succ k => simp [CString.copy, CString.empty, upToNul, List.replicate_succ]

abbrev ArtifactRecords := SlotQueue ArtifactRecord

abbrev LlmResponseRecords := SlotQueue LlmResponseRecord

namespace ArtifactRecords

def zero : ArtifactRecord := ⟨0, 0, .replicate 512 0⟩

def init : ArtifactRecords := SlotQueue.init zero

def enqueue (queue : ArtifactRecords) (artifact : ArtifactRecord) : Bool × ArtifactRecords :=
  SlotQueue.enqueue 16 queue artifact

def dequeue (queue : ArtifactRecords) : Option ArtifactRecord × ArtifactRecords :=
  SlotQueue.dequeue 16 zero queue

def size (queue : ArtifactRecords) : Nat := SlotQueue.size queue

/-- The three calls on an initialised queue. -/
def serve (queue : ArtifactRecords) : Op ArtifactRecord → Reply ArtifactRecord × ArtifactRecords
  | .enqueue artifact => (⟨(enqueue queue artifact).1.toNat, none⟩, (enqueue queue artifact).2)
  | .dequeue artifact =>
    (⟨(dequeue queue).1.isSome.toNat, some ((dequeue queue).1.getD artifact)⟩, (dequeue queue).2)
  | .size => (⟨size queue, none⟩, queue)

theorem serve_eq : serve = served 16 zero := by
  funext queue op
  cases op <;> rfl

theorem zero_read : zero.read = ArtifactQueue.zero := by
  simp only [ArtifactRecord.read, zero, ArtifactQueue.zero, Artifact.mk.injEq, true_and]
  rw [Vector.toList_replicate]
  exact copy_zeros _ _

end ArtifactRecords

namespace LlmResponseRecords

def zero : LlmResponseRecord := ⟨0, 0, .replicate 8192 0⟩

def init : LlmResponseRecords := SlotQueue.init zero

def enqueue (queue : LlmResponseRecords) (response : LlmResponseRecord) :
    Bool × LlmResponseRecords :=
  SlotQueue.enqueue 16 queue response

def dequeue (queue : LlmResponseRecords) : Option LlmResponseRecord × LlmResponseRecords :=
  SlotQueue.dequeue 16 zero queue

def size (queue : LlmResponseRecords) : Nat := SlotQueue.size queue

def serve (queue : LlmResponseRecords) :
    Op LlmResponseRecord → Reply LlmResponseRecord × LlmResponseRecords
  | .enqueue response => (⟨(enqueue queue response).1.toNat, none⟩, (enqueue queue response).2)
  | .dequeue response =>
    (⟨(dequeue queue).1.isSome.toNat, some ((dequeue queue).1.getD response)⟩, (dequeue queue).2)
  | .size => (⟨size queue, none⟩, queue)

theorem serve_eq : serve = served 16 zero := by
  funext queue op
  cases op <;> rfl

theorem zero_read : zero.read = LlmResponseQueue.zero := by
  simp only [LlmResponseRecord.read, zero, LlmResponseQueue.zero, LlmResponse.mk.injEq, true_and]
  rw [Vector.toList_replicate]
  exact copy_zeros _ _

end LlmResponseRecords

namespace ArtifactQueue

def serve (queue : ArtifactQueue) : Op Artifact → Reply Artifact × ArtifactQueue
  | .enqueue artifact => (⟨(enqueue queue artifact).1.toNat, none⟩, (enqueue queue artifact).2)
  | .dequeue artifact =>
    (⟨(dequeue queue).1.isSome.toNat, some ((dequeue queue).1.getD artifact)⟩, (dequeue queue).2)
  | .size => (⟨size queue, none⟩, queue)

theorem serve_eq : serve = served 16 zero := by
  funext queue op
  cases op <;> rfl

end ArtifactQueue

namespace LlmResponseQueue

def serve (queue : LlmResponseQueue) : Op LlmResponse → Reply LlmResponse × LlmResponseQueue
  | .enqueue response => (⟨(enqueue queue response).1.toNat, none⟩, (enqueue queue response).2)
  | .dequeue response =>
    (⟨(dequeue queue).1.isSome.toNat, some ((dequeue queue).1.getD response)⟩, (dequeue queue).2)
  | .size => (⟨size queue, none⟩, queue)

theorem serve_eq : serve = served 16 zero := by
  funext queue op
  cases op <;> rfl

end LlmResponseQueue

/-- The supervisor's view of the queues, with texts for arrays, misses nothing. -/
theorem queues_read :
    Agree (fun r a => r.read = a) ArtifactRecords.zero ArtifactQueue.zero ArtifactRecords.serve
        ArtifactQueue.serve ∧
      Agree (fun r a => r.read = a) LlmResponseRecords.zero LlmResponseQueue.zero
        LlmResponseRecords.serve LlmResponseQueue.serve := by
  rw [ArtifactRecords.serve_eq, ArtifactQueue.serve_eq, LlmResponseRecords.serve_eq,
    LlmResponseQueue.serve_eq]
  exact ⟨served_agree 16 ArtifactRecords.zero_read, served_agree 16 LlmResponseRecords.zero_read⟩

/-- Both queues are bounded lists of 16 items with all other slots zero, and one
is the other but for its items. -/
theorem queues_bounded :
    (∀ ops, Bounded 16 ArtifactRecords.zero ArtifactRecords.serve ops) ∧
      (∀ ops, Bounded 16 LlmResponseRecords.zero LlmResponseRecords.serve ops) ∧
      ∀ R : ArtifactRecord → LlmResponseRecord → Prop,
        R ArtifactRecords.zero LlmResponseRecords.zero →
        Agree R ArtifactRecords.zero LlmResponseRecords.zero ArtifactRecords.serve
          LlmResponseRecords.serve := by
  rw [ArtifactRecords.serve_eq, LlmResponseRecords.serve_eq]
  exact ⟨served_bounded (by decide) _, served_bounded (by decide) _,
    fun _ zeros => served_agree 16 zeros⟩

theorem queues_bounded_numbered :
    Agree (fun a r => a.sequenceId = r.sequenceId) ArtifactRecords.zero LlmResponseRecords.zero
      ArtifactRecords.serve LlmResponseRecords.serve :=
  queues_bounded.2.2 _ rfl

end Assistantd
