import Assistantd.Lib.Calls
import Assistantd.Status

/-! tts_adapter.c, as far as the supervisor uses it. -/
namespace Assistantd

structure TtsAdapter where
  initialized : Bool

namespace TtsAdapter

def zeroed : TtsAdapter := ⟨false⟩

def init : Calls.Call TtsAdapter Empty Status Unit := Calls.modify fun _ => ⟨true⟩

def shutdown : Calls.Call TtsAdapter Empty Status Unit := Calls.modify fun _ => zeroed

end TtsAdapter

end Assistantd
