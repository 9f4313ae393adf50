import Assistantd.Lib.Url
import Assistantd.Main

/-! Where recorded speech and transcripts are sent. -/
namespace Assistantd.Main

open Calls Supervisor
open CText (CString ascii)

variable {κ : Type}

/-- 127.0.0.1 -/
def loopback : Nat := 127 * 2 ^ 24 + 1

theorem loopback_dotted : Url.dotted loopback = ascii "127.0.0.1" := by decide

theorem loopback_plain : Url.address (Url.dotted loopback) = some loopback := by decide

/-- The requests of the two adapters when this config has initialised them. -/
inductive Asks (p : Platform) (config : Config) (url : CString 543) : Prop
  | stt (curl : Option Nat) (path : CString 511) (transcript : CString 4095)
      (answers : SttAdapter.Answers p.sizeBits) (file : CString 511)
      (asked : .upload url file ∈ ((SttAdapter.transcribe p path answers).run
        ⟨((SttAdapter.init config curl).run .zeroed).state, transcript⟩).events)
  | llm (prompts : Option LlmAdapter.PromptFile) (curl : Option Nat) (prompt : List UInt8)
      (response : CString 8191) (requested : Bool) (answers : LlmAdapter.Answers p.sizeBits)
      (body : List UInt8)
      (asked : .post url body ∈ ((LlmAdapter.generate p prompt answers).run
        ⟨((LlmAdapter.init config prompts curl).run .zeroed).state, response, requested⟩).events)

/-! ## The URLs of an accepted config -/

section Accepted

variable {p : Platform} {config : Config}

theorem configured_valid {longBits : Nat} {file : Option (List UInt8)}
    (accepted : configured longBits file = .ok config) : config.validate = .ok := by
  unfold configured at accepted
  split at accepted
  · split at accepted
    · rename_i valid
      cases accepted
      exact valid
    · cases accepted
  · cases accepted

/-- Everything goes well, and the servers answer with nothing. -/
def quietStt (w : Nat) : SttAdapter.Answers w :=
  ⟨true, true, true, ⟨true, true, true⟩, ⟨true, true, true⟩, ⟨true, true, true⟩, [], .ok, 200, rfl⟩

def quietLlm (w : Nat) : LlmAdapter.Answers w :=
  ⟨⟨true, true, true, true, true, true, true, true, true, true, true, true⟩, true, [], .ok, 200,
    false, rfl⟩

theorem stt_asks (set : config.sttApiBaseUrl.isEmpty = false) :
    Asks p config (SttAdapter.buildInferenceUrl config.sttApiBaseUrl) := by
  refine .stt (some 0) (.copy 511 (ascii "u")) (.empty 4095) (quietStt p.sizeBits)
    (.copy 511 (ascii "u")) ?_
  have named : (CString.copy 511 (ascii "u")).isEmpty = false := by decide
  simp [SttAdapter.init, SttAdapter.transcribe, SttAdapter.request, quietStt, set, named,
    SttAdapter.PartAnswers.built, SttAdapter.perform, collect, CString.copy_self, Outcome.after]

theorem llm_asks (p : Platform) (config : Config) :
    Asks p config (LlmAdapter.chatUrl config.llmApiBaseUrl) := by
  have loaded : (LlmAdapter.loadSystemPrompt (some ⟨[97], [1], false⟩)).run .zeroed =
      ⟨.ok (), { LlmAdapter.zeroed with systemPrompt := [97] }, []⟩ := rfl
  have sent : ∃ body, .post (LlmAdapter.chatUrl config.llmApiBaseUrl) body ∈
      ((LlmAdapter.generate p [] (quietLlm p.sizeBits)).run
        ⟨((LlmAdapter.init config (some ⟨[97], [1], false⟩) (some 0)).run .zeroed).state,
          .empty 8191, false⟩).events := by
    simp [LlmAdapter.init, loaded, LlmAdapter.generate, LlmAdapter.buildRequestJson,
      LlmAdapter.post, quietLlm, LlmAdapter.transfer, CString.copy_self, Outcome.after]
  obtain ⟨body, asked⟩ := sent
  exact .llm _ _ _ _ _ _ body asked

theorem asks_iff (valid : config.validate = .ok) {url : CString 543} :
    Asks p config url ↔ url = SttAdapter.buildInferenceUrl config.sttApiBaseUrl ∨
      url = LlmAdapter.chatUrl config.llmApiBaseUrl := by
  have set := (Config.validate_ok valid).sttApiBaseUrl
  constructor
  · rintro (⟨curl, path, transcript, answers, file, asked⟩ |
      ⟨prompts, curl, prompt, response, requested, answers, body, asked⟩)
    · have own : ((SttAdapter.init config curl).run .zeroed).state.apiBaseUrl =
          config.sttApiBaseUrl := by
        cases curl <;> simp [SttAdapter.init, set, CString.copy_self]
      have kept := SttAdapter.transcribe_confined _ p path answers
        ⟨((SttAdapter.init config curl).run .zeroed).state, transcript⟩ []
        ⟨rfl, List.forall_mem_nil _⟩
      left
      rw [← own]
      exact kept.2 _ asked
    · obtain ⟨result, systemPrompt, loaded⟩ :=
        LlmAdapter.loadSystemPrompt_run prompts LlmAdapter.zeroed
      cases result with
      | error status =>
        -- the base URL is not copied then, and the adapter not initialised
        have refused : ((LlmAdapter.init config prompts curl).run .zeroed).state.initialized =
            false := by
          simp [LlmAdapter.init, loaded]
          rfl
        simp [LlmAdapter.generate, refused] at asked
      | ok _ =>
        have own : ((LlmAdapter.init config prompts curl).run .zeroed).state.apiBaseUrl =
            config.llmApiBaseUrl := by
          cases curl <;> simp [LlmAdapter.init, loaded, CString.copy_self]
        have kept := LlmAdapter.generate_confined _ p prompt answers
          ⟨((LlmAdapter.init config prompts curl).run .zeroed).state, response, requested⟩ []
          ⟨rfl, List.forall_mem_nil _⟩
        right
        rw [← own]
        exact kept.2 _ asked
  · rintro (rfl | rfl)
    · exact stt_asks set
    · exact llm_asks p config

/-- What a base URL with a path behind it is put together from. It fits its buffer, so
nothing is cut off. -/
theorem below_formed {base : CString 511} {u : Url.Parts} (valid : u.Valid)
    (same : u.url = base.bytes) {path : List UInt8} (short : path.length ≤ 32)
    (start : u.tail = [] → ∀ c ∈ path.head?, Url.delimiter c = true)
    (visible : ∀ c ∈ path, 32 < c ∧ c ≠ 127) :
    ∃ v : Url.Parts, v.Valid ∧ v.name = u.name ∧
      v.url = (CString.copy 543 (base.bytes ++ path)).bytes := by
  obtain ⟨formed, url⟩ := valid.below start visible
  refine ⟨_, formed, rfl, ?_⟩
  rw [url, same, CString.copy_bytes]
  · intro zero
    rcases List.mem_append.mp zero with inside | inside
    · exact base.clean inside
    · exact absurd (visible 0 inside).1 (by decide)
  · have fits := base.fits
    rw [List.length_append]
    omega

theorem inference_formed {base : CString 511} {u : Url.Parts} (valid : u.Valid)
    (same : u.url = base.bytes) : ∃ v : Url.Parts, v.Valid ∧ v.name = u.name ∧
      v.url = (SttAdapter.buildInferenceUrl base).bytes := by
  unfold SttAdapter.buildInferenceUrl
  split
  · rename_i slash
    -- the slash belongs to the base here
    exact below_formed valid same (by decide)
      (fun none => absurd none (valid.tail_ne_nil (same ▸ slash))) (by decide +kernel)
  · exact below_formed valid same (by decide) (fun _ => by decide +kernel) (by decide +kernel)

theorem chat_formed {base : CString 511} {u : Url.Parts} (valid : u.Valid)
    (same : u.url = base.bytes) : ∃ v : Url.Parts, v.Valid ∧ v.name = u.name ∧
      v.url = (LlmAdapter.chatUrl base).bytes :=
  below_formed valid same (by decide) (fun _ => by decide +kernel) (by decide +kernel)

end Accepted

/-! ## Local-only mode -/

section LocalOnly

variable {host : List UInt8 → Option (List UInt8)}

/-- A request stays on the machine just where its base URL spells the loopback address. -/
theorem request_local (reads : Url.Reads host) {base url : List UInt8} {u v : Url.Parts}
    (valid : u.Valid) (same : u.url = base) (formed : v.Valid) (named : v.name = u.name)
    (below : v.url = url) : host url = some (ascii "127.0.0.1") ↔ Url.Spells base loopback := by
  rw [← same, ← below, ← loopback_dotted, reads.host_iff formed loopback_plain, named,
    Url.spells_iff valid loopback_plain]

/-- Where both base URLs of an accepted config have the usual form, the requests stay on the
machine if and only if both of them spell the loopback address. -/
theorem local_only (reads : Url.Reads host) (p : Platform) (core : VadCore κ)
    {file : Option (List UInt8)} {config : Config}
    (accepted : configured p.longBits file = .ok config) :
    (Url.Spells config.sttApiBaseUrl.bytes loopback ∧
        Url.Spells config.llmApiBaseUrl.bytes loopback →
      ∀ url, Asks p config url → host url.bytes = some (ascii "127.0.0.1")) ∧
    (Url.Formed config.sttApiBaseUrl.bytes → Url.Formed config.llmApiBaseUrl.bytes →
      ((∀ url, Asks p config url → host url.bytes = some (ascii "127.0.0.1")) ↔
        Url.Spells config.sttApiBaseUrl.bytes loopback ∧
          Url.Spells config.llmApiBaseUrl.bytes loopback)) ∧
    ∀ session : Session p, session.file = file → ∀ url path body,
      .stt (.upload url path) ∈ (main p core session).2 ∨
        .llm (.post url body) ∈ (main p core session).2 → Asks p config url := by
  have asks := @asks_iff p config (configured_valid accepted)
  have exact : Url.Formed config.sttApiBaseUrl.bytes → Url.Formed config.llmApiBaseUrl.bytes →
      ((∀ url, Asks p config url → host url.bytes = some (ascii "127.0.0.1")) ↔
        Url.Spells config.sttApiBaseUrl.bytes loopback ∧
          Url.Spells config.llmApiBaseUrl.bytes loopback) := by
    rintro ⟨u, valid, same⟩ ⟨u', valid', same'⟩
    obtain ⟨v, formed, named, below⟩ := inference_formed valid same
    obtain ⟨v', formed', named', below'⟩ := chat_formed valid' same'
    rw [← request_local reads valid same formed named below,
      ← request_local reads valid' same' formed' named' below']
    constructor
    · intro locally
      exact ⟨locally _ (asks.mpr (.inl rfl)), locally _ (asks.mpr (.inr rfl))⟩
    · rintro ⟨stt, llm⟩ url asked
      rcases asks.mp asked with rfl | rfl
      · exact stt
      · exact llm
  refine ⟨fun both => (exact both.1.formed both.2.formed).mpr both, exact, ?_⟩
  · rintro session rfl url path body (sent | sent)
    · exact asks.mpr (.inl (main_follows core session accepted _ sent))
    · exact asks.mpr (.inr (main_follows core session accepted _ sent))

end LocalOnly

section Sample

/-- A hexadecimal number and one that fills the rest, behind a single slash. -/
def spelled : Config :=
  { Config.initDefaults with sttApiBaseUrl := .copy 511 (ascii "http:/0x7f.1:8080") }

theorem local_only_spelled :
    configured samplePlatform.longBits (some (ascii "STT_API_BASE_URL=http:/0x7f.1:8080\n")) =
        .ok spelled ∧
      ∀ url, Asks samplePlatform spelled url → Url.read url.bytes = some (ascii "127.0.0.1") := by
  have accepted : configured samplePlatform.longBits
      (some (ascii "STT_API_BASE_URL=http:/0x7f.1:8080\n")) = .ok spelled := by rfl
  refine ⟨accepted, (local_only Url.read_reads samplePlatform VadStream.byteCore accepted).1 ⟨?_, ?_⟩⟩
  · exact ⟨⟨some (ascii "http", 1), none, ascii "0x7f.1", some (ascii "8080"), []⟩,
      by decide +kernel, by decide, by decide⟩
  · exact ⟨⟨some (ascii "http", 2), none, ascii "127.0.0.1", some (ascii "8080"), ascii "/v1"⟩,
      by decide +kernel, by decide, by decide⟩

/-- Validation only asks for base URLs that are not empty. -/
def elsewhere : Config :=
  { Config.initDefaults with sttApiBaseUrl := .copy 511 (ascii "http://other-host/") }

theorem local_only_elsewhere :
    ¬ ∃ host, Url.Reads host ∧
      ∀ file config, configured samplePlatform.longBits file = .ok config →
        ∀ url, Asks samplePlatform config url → host url.bytes = some (ascii "127.0.0.1") := by
  rintro ⟨host, reads, locally⟩
  have accepted : configured samplePlatform.longBits
      (some (ascii "STT_API_BASE_URL=http://other-host/\n")) = .ok elsewhere := by rfl
  have asked : Asks samplePlatform elsewhere
      (SttAdapter.buildInferenceUrl elsewhere.sttApiBaseUrl) := stt_asks (by decide)
  have read := reads.named ⟨some (ascii "http", 2), none, ascii "other-host", none,
    ascii "/inference"⟩ (by decide +kernel) (by decide)
  have odd := read.symm.trans (locally _ _ accepted _ asked)
  revert odd
  decide

end Sample

end Assistantd.Main
