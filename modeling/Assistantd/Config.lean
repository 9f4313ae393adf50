import Assistantd.Lib.CText
import Assistantd.Status

/-! config.c: defaults, the environment file over them, and validation. -/
namespace Assistantd

open CText (CString ascii trim)

/-- A setting of `ASSISTANTD_CONFIG_VALUE_MAX` bytes. -/
abbrev Value := CString 511

structure Config where
  assistantMode : CString 15
  runtimeDir : Value
  audioCaptureDevice : Value
  audioPlaybackDevice : Value
  sttApiBaseUrl : Value
  llmApiBaseUrl : Value
  llmModel : Value
  llmSystemPromptPath : Value
  ttsBin : Value
  ttsVoicePath : Value
  vadAggressiveness : Int
  vadSilenceMs : Int
  deriving DecidableEq

namespace Config

def initDefaults : Config where
  assistantMode := .copy 15 (ascii "local")
  runtimeDir := .copy 511 (ascii "/var/lib/local-ai-assistant")
  audioCaptureDevice := .copy 511 (ascii "default")
  audioPlaybackDevice := .copy 511 (ascii "default")
  sttApiBaseUrl := .copy 511 (ascii "http://127.0.0.1:8178")
  llmApiBaseUrl := .copy 511 (ascii "http://127.0.0.1:8080/v1")
  llmModel := .copy 511 (ascii "SmolLM2-1.7B-Instruct-Q4_K_M")
  llmSystemPromptPath := .copy 511 (ascii "/etc/local-ai-assistant/system_prompt.txt")
  ttsBin := .copy 511 (ascii "/usr/local/bin/piper")
  ttsVoicePath := .copy 511 (ascii "/opt/models/piper-voice.onnx")
  vadAggressiveness := 2
  vadSilenceMs := 700

/-- The key comparisons of `load_file`, in their order. -/
def assign (longBits : Nat) (c : Config) (key value : List UInt8) : Config :=
  if key = ascii "ASSISTANT_MODE" then { c with assistantMode := .copy 15 value }
  else if key = ascii "RUNTIME_DIR" then { c with runtimeDir := .copy 511 value }
  else if key = ascii "AUDIO_CAPTURE_DEVICE" then { c with audioCaptureDevice := .copy 511 value }
  else if key = ascii "AUDIO_PLAYBACK_DEVICE" then { c with audioPlaybackDevice := .copy 511 value }
  else if key = ascii "STT_API_BASE_URL" then { c with sttApiBaseUrl := .copy 511 value }
  else if key = ascii "LLM_API_BASE_URL" then { c with llmApiBaseUrl := .copy 511 value }
  else if key = ascii "LLM_MODEL" then { c with llmModel := .copy 511 value }
  else if key = ascii "LLM_SYSTEM_PROMPT_PATH" then
    { c with llmSystemPromptPath := .copy 511 value }
  else if key = ascii "TTS_BIN" then { c with ttsBin := .copy 511 value }
  else if key = ascii "TTS_VOICE_PATH" then { c with ttsVoicePath := .copy 511 value }
  else if key = ascii "VAD_AGGRESSIVENESS" then
    { c with vadAggressiveness := CText.atoi longBits value }
  else if key = ascii "VAD_SILENCE_MS" then { c with vadSilenceMs := CText.atoi longBits value }
  else c

/-- One pass of the loop in `load_file`. The buffer holds what `fgets` left in
it, so that a NUL in the file ends the line early. -/
def loadLine (longBits : Nat) (c : Config) (chunk : List UInt8) : Config :=
  let cursor := trim (CText.upToNul chunk)
  if cursor = [] ∨ cursor.head? = some 35 then c
  else if 61 ∉ cursor then c
  else c.assign longBits (trim (cursor.takeWhile (· ≠ 61))) (trim (cursor.dropWhile (· ≠ 61)).tail)

/-- `file` is the content `fopen` gives access to, none where it fails. -/
def loadFile (longBits : Nat) (c : Config) (file : Option (List UInt8)) : Status × Config :=
  match file with
  | none => (.errIo, c)
  | some content => (.ok, (CText.fgetsChunks 1023 content).foldl (loadLine longBits) c)

def validate (c : Config) : Status :=
  if c.assistantMode.bytes ≠ ascii "local" then .errConfig
  else if c.runtimeDir.isEmpty || c.audioCaptureDevice.isEmpty || c.audioPlaybackDevice.isEmpty ||
      c.sttApiBaseUrl.isEmpty || c.llmApiBaseUrl.isEmpty || c.llmModel.isEmpty ||
      c.llmSystemPromptPath.isEmpty || c.ttsBin.isEmpty || c.ttsVoicePath.isEmpty then .errConfig
  else if c.vadAggressiveness < 0 ∨ c.vadAggressiveness > 3 then .errConfig
  else if c.vadSilenceMs < 100 ∨ c.vadSilenceMs > 5000 then .errConfig
  else .ok

/-- `fprintf(stream, "KEY=%s\n", value)` -/
def dumpLine (key value : List UInt8) : List UInt8 := key ++ ascii "=" ++ value ++ ascii "\n"

def dump (c : Config) : List UInt8 :=
  dumpLine (ascii "ASSISTANT_MODE") c.assistantMode.bytes ++
  dumpLine (ascii "RUNTIME_DIR") c.runtimeDir.bytes ++
  dumpLine (ascii "AUDIO_CAPTURE_DEVICE") c.audioCaptureDevice.bytes ++
  dumpLine (ascii "AUDIO_PLAYBACK_DEVICE") c.audioPlaybackDevice.bytes ++
  dumpLine (ascii "STT_API_BASE_URL") c.sttApiBaseUrl.bytes ++
  dumpLine (ascii "LLM_API_BASE_URL") c.llmApiBaseUrl.bytes ++
  dumpLine (ascii "LLM_MODEL") c.llmModel.bytes ++
  dumpLine (ascii "LLM_SYSTEM_PROMPT_PATH") c.llmSystemPromptPath.bytes ++
  dumpLine (ascii "TTS_BIN") c.ttsBin.bytes ++
  dumpLine (ascii "TTS_VOICE_PATH") c.ttsVoicePath.bytes ++
  dumpLine (ascii "VAD_AGGRESSIVENESS") (CText.printInt c.vadAggressiveness) ++
  dumpLine (ascii "VAD_SILENCE_MS") (CText.printInt c.vadSilenceMs)

/-- What later stages rely on in a validated config. -/
structure Accepted (c : Config) : Prop where
  captureDevice : c.audioCaptureDevice.isEmpty = false
  sttApiBaseUrl : c.sttApiBaseUrl.isEmpty = false
  aggressiveness : 0 ≤ c.vadAggressiveness ∧ c.vadAggressiveness ≤ 3
  silence : 100 ≤ c.vadSilenceMs ∧ c.vadSilenceMs ≤ 5000

theorem validate_ok {c : Config} (valid : c.validate = .ok) : c.Accepted := by
  unfold validate at valid
  split at valid
  · cases valid
  · split at valid
    · cases valid
    · rename_i present
      split at valid
      · cases valid
      · split at valid
        · cases valid
        · simp only [Bool.or_eq_true, not_or, Bool.not_eq_true] at present
          exact ⟨by tauto, by tauto, by omega, by omega⟩

theorem initDefaults_valid : initDefaults.validate = .ok := by decide

end Config

end Assistantd
