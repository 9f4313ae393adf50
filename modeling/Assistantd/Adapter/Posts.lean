import Assistantd.Adapter.Replies

/-! What the LLM adapter sends: the conversation and nothing else, whatever is in the
transcript and the prompt. -/
namespace Assistantd.LlmAdapter

open Calls
open CText (CString ascii)
open JsonText

/-- The item `build_request_json` prints. -/
def requestItem (answers : BuildAnswers) (a : LlmAdapter) (prompt : List UInt8) : Json :=
  .object (member answers.model "model" (.string a.modelName.bytes) ++
    member true "messages" (.array
      (message answers.systemMessage answers.systemRole answers.systemContent (ascii "system")
          (CText.upToNul a.systemPrompt) ++
        message answers.userMessage answers.userRole answers.userContent (ascii "user") prompt)) ++
    member answers.maxTokens "max_tokens" (.number (ascii "300")) ++
    member answers.temperature "temperature" (.number (ascii "0.7")))

theorem buildRequestJson_body (p : Platform) (answers : BuildAnswers) (prompt : List UInt8)
    (t : LlmTask) :
    (¬ answers.Built ∧ ∃ events, (∀ url body, .post url body ∉ events) ∧
      (buildRequestJson p answers prompt).run t = ⟨.error .errIo, t, events⟩) ∨
    (answers.Built ∧ (buildRequestJson p answers prompt).run t =
      ⟨.ok (p.cJSONPrint (requestItem answers t.adapter prompt)), t,
        [.alloc .requestJson, .free .requestJson]⟩) := by
  unfold buildRequestJson
  by_cases root : answers.root = true
  swap
  · exact .inl ⟨fun all => root all.root, [], by simp, by simp [root]⟩
  by_cases whole : answers.messages = true ∧ answers.printed = true
  swap
  · have partly : answers.messages = false ∨ answers.printed = false := by grind
    exact .inl ⟨fun all => whole ⟨all.messages, all.printed⟩,
      [.alloc .requestJson, .free .requestJson], by simp, by simp [root, partly]⟩
  · exact .inr ⟨⟨root, whole.1, whole.2⟩, by simp [root, whole, requestItem]⟩

theorem polls_post (w : Nat) (flag : Option Flag) (code : CurlCode) (requested : Bool)
    (response : ResponseBuffer) (activities : List Activity) (url : CString 543)
    (body : List UInt8) :
    .post url body ∉ (transfer w flag code requested response activities).polls := by
  induction activities generalizing requested response with
  | nil => exact List.not_mem_nil
  | cons activity rest ih =>
    cases activity with
    | poll signal =>
      simp only [transfer]
      split_ifs
      · simp
      · simpa using ih _ _
    | chunk c =>
      simp only [transfer]
      split
      · split
        · exact ih _ _
        · exact List.not_mem_nil
      · exact List.not_mem_nil

/-- There is one post in the trace of a request. -/
theorem exchanged_post (addr : Nat) {url url' : CString 543} {body body' : List UInt8}
    {headers : Bool} {done : Transfer} {parsing : List HttpEvent}
    (quiet : .post url' body' ∉ done.polls)
    (parsed : parsing = [] ∨ parsing = [.alloc .parsedJson, .free .parsedJson])
    (sent : .post url' body' ∈ exchanged addr url body headers done parsing) :
    url' = url ∧ body' = body := by
  unfold exchanged posted at sent
  generalize done.response.data.isSome = block at sent
  rcases parsed with rfl | rfl <;> cases headers <;> cases block <;> simpa [quiet] using sent

/-- What a request posts is what its item prints to. -/
theorem generate_posts (p : Platform) (prompt : List UInt8) (answers : Answers p.sizeBits)
    (t : LlmTask) {url : CString 543} {body : List UInt8}
    (sent : .post url body ∈ ((generate p prompt answers).run t).events) :
    url = chatUrl t.adapter.apiBaseUrl ∧
      body = p.cJSONPrint (requestItem answers.build t.adapter prompt) := by
  unfold generate at sent
  by_cases initialized : t.adapter.initialized = true
  swap
  · simp [initialized] at sent
  cases handle : t.adapter.curlHandle with
  | none => simp [initialized, handle] at sent
  | some addr =>
    obtain ⟨_, events, quiet, failed⟩ | ⟨_, done⟩ :=
      buildRequestJson_body p answers.build prompt { t with response := .empty 8191 }
    · simp [initialized, handle, failed, quiet] at sent
    have same : exchange p { t with response := .empty 8191 } answers = exchange p t answers := rfl
    obtain ⟨parsing, parsed, received⟩ :=
      receive_cases p (exchange p t answers).code answers.httpStatus (exchange p t answers).response
        ⟨t.adapter, .empty 8191, (exchange p t answers).requested || answers.signal⟩
    have quiet : .post url body ∉ (exchange p t answers).polls := polls_post _ _ _ _ _ _ _ _
    apply exchanged_post addr quiet parsed
    rcases received with ⟨_, failed⟩ | ⟨text, _, stored⟩
    · simpa [initialized, handle, done, post_run, same, failed, exchanged] using sent
    · simpa [initialized, handle, done, post_run, same, stored, exchanged] using sent

/-! ## The item -/

theorem member_mem {m : List UInt8 × Json} {added : Bool} {key : String} {value : Json}
    (inside : m ∈ member added key value) : m = (ascii key, value) := by
  unfold member at inside
  split at inside
  · exact List.mem_singleton.mp inside
  · cases inside

/-- Each member of the item, where it is there. -/
theorem requestItem_mem {answers : BuildAnswers} {a : LlmAdapter} {prompt : List UInt8}
    {members : List (List UInt8 × Json)} (item : requestItem answers a prompt = .object members)
    {m : List UInt8 × Json} (inside : m ∈ members) :
    m = (ascii "model", .string a.modelName.bytes) ∨
      (∃ items, m = (ascii "messages", .array items) ∧ ∀ v ∈ items, ∃ role content speaker text,
        v = .object (member role "role" (.string speaker) ++ member content "content" (.string text)) ∧
          ((speaker = ascii "system" ∧ text = CText.upToNul a.systemPrompt) ∨
            (speaker = ascii "user" ∧ text = prompt))) ∨
      m = (ascii "max_tokens", .number (ascii "300")) ∨
      m = (ascii "temperature", .number (ascii "0.7")) := by
  cases item
  simp only [List.mem_append] at inside
  rcases inside with ((model | messages) | maxTokens) | temperature
  · exact .inl (member_mem model)
  · refine .inr (.inl ⟨_, member_mem messages, ?_⟩)
    intro v listed
    rcases List.mem_append.mp listed with system | user
    · unfold message at system
      split at system
      · exact ⟨_, _, _, _, List.mem_singleton.mp system, .inl ⟨rfl, rfl⟩⟩
      · cases system
    · unfold message at user
      split at user
      · exact ⟨_, _, _, _, List.mem_singleton.mp user, .inr ⟨rfl, rfl⟩⟩
      · cases user
  · exact .inr (.inr (.inl (member_mem maxTokens)))
  · exact .inr (.inr (.inr (member_mem temperature)))

/-- The names in an item. -/
def keys : List String :=
  ["model", "messages", "max_tokens", "temperature", "role", "content", "system", "user"]

theorem keys_clean : ∀ key ∈ keys, 0 ∉ ascii key := by decide +kernel

theorem keys_utf8 : ∀ key ∈ keys, Utf8.Valid (ascii key) := by
  have encoded : ∀ key ∈ keys, ascii key = key.toList.flatMap String.utf8EncodeChar := by
    decide +kernel
  exact fun key listed => ⟨key.toList, congrArg List.toByteArray (encoded key listed)⟩

/-- What holds of all the texts an item is made of. -/
structure Texts (P Q : List UInt8 → Prop) (a : LlmAdapter) (prompt : List UInt8) : Prop where
  names : ∀ key ∈ keys, P (ascii key)
  modelName : P a.modelName.bytes
  systemPrompt : P (CText.upToNul a.systemPrompt)
  prompt : P prompt
  numerals : Q (ascii "300") ∧ Q (ascii "0.7")

theorem requestItem_all {P Q : List UInt8 → Prop} {a : LlmAdapter} {prompt : List UInt8}
    (texts : Texts P Q a prompt) (answers : BuildAnswers) :
    (CJson.compact (requestItem answers a prompt)).All P Q := by
  have name := texts.names
  obtain ⟨members, item⟩ : ∃ members, requestItem answers a prompt = .object members := ⟨_, rfl⟩
  rw [item]
  refine CJson.all_members.mpr fun m inside => ?_
  rcases requestItem_mem item inside with rfl | ⟨items, rfl, messages⟩ | rfl | rfl
  · exact ⟨name "model" (by simp [keys]), texts.modelName⟩
  · refine ⟨name "messages" (by simp [keys]), CJson.all_items.mpr fun v listed => ?_⟩
    obtain ⟨role, content, speaker, text, rfl, which⟩ := messages v listed
    have known : P speaker ∧ P text := by
      rcases which with ⟨rfl, rfl⟩ | ⟨rfl, rfl⟩
      · exact ⟨name "system" (by simp [keys]), texts.systemPrompt⟩
      · exact ⟨name "user" (by simp [keys]), texts.prompt⟩
    refine CJson.all_members.mpr fun m inside => ?_
    rcases List.mem_append.mp inside with first | second
    · rw [member_mem first]
      exact ⟨name "role" (by simp [keys]), known.1⟩
    · rw [member_mem second]
      exact ⟨name "content" (by simp [keys]), known.2⟩
  · exact ⟨name "max_tokens" (by simp [keys]), texts.numerals.1⟩
  · exact ⟨name "temperature" (by simp [keys]), texts.numerals.2⟩

theorem requestItem_depth (answers : BuildAnswers) (a : LlmAdapter) (prompt : List UInt8) :
    (CJson.compact (requestItem answers a prompt)).depth ≤ 3 := by
  obtain ⟨members, item⟩ : ∃ members, requestItem answers a prompt = .object members := ⟨_, rfl⟩
  rw [item]
  refine Nat.succ_le_succ (CJson.depth_members.mpr fun m inside => ?_)
  rcases requestItem_mem item inside with rfl | ⟨items, rfl, messages⟩ | rfl | rfl
  · exact Nat.zero_le _
  · refine Nat.succ_le_succ (CJson.depth_items.mpr fun v listed => ?_)
    obtain ⟨role, content, speaker, text, rfl, _⟩ := messages v listed
    refine Nat.succ_le_succ (CJson.depth_members.mpr fun m inside => ?_)
    rcases List.mem_append.mp inside with first | second
    · rw [member_mem first]
      exact Nat.zero_le _
    · rw [member_mem second]
      exact Nat.zero_le _
  · exact Nat.zero_le _
  · exact Nat.zero_le _

/-! ## What is posted -/

def threeHundred : Numeral := ⟨false, [3, 0, 0], by decide, by decide, [], none⟩

def sevenTenths : Numeral := ⟨false, [0], by decide, by decide, [7], none⟩

theorem numerals_raw : threeHundred.raw = ascii "300" ∧ sevenTenths.raw = ascii "0.7" := by
  decide

theorem print_request {prompt : List UInt8} (ends : 0 ∉ prompt) (answers : BuildAnswers)
    (a : LlmAdapter) :
    CJson.parse (CJson.print (requestItem answers a prompt)) = some (requestItem answers a prompt) := by
  have texts : Texts (fun text => 0 ∉ text) CJson.NumeralText a prompt :=
    ⟨keys_clean, a.modelName.clean, CText.upToNul_clean _, ends,
      numerals_raw.1 ▸ CJson.numeral_text threeHundred (by decide),
      numerals_raw.2 ▸ CJson.numeral_text sevenTenths (by decide)⟩
  have ended : CJson.Stops [] := nofun
  have read := CJson.print_parsed (requestItem_all texts answers)
    (Nat.le_trans (requestItem_depth _ _ _) (by decide)) ended
  rwa [List.append_nil] at read

/-- The body of a request reads back as the conversation, whatever bytes are in the prompts:
nothing in them can end a string or add a member. It is one line without control bytes,
and where the texts are UTF-8 it is a text of RFC 8259 for that conversation. -/
theorem requests_faithful {sizeBits longBits : Nat} {wide : 16 ≤ sizeBits} {prompt : List UInt8}
    (ends : 0 ∉ prompt) (answers : Answers sizeBits) (t : LlmTask) {url : CString 543}
    {body : List UInt8}
    (sent : .post url body ∈
      ((generate (vendored sizeBits wide longBits) prompt answers).run t).events) :
    url = chatUrl t.adapter.apiBaseUrl ∧
      CJson.parse body = some (requestItem answers.build t.adapter prompt) ∧
      (∀ c ∈ body, 32 ≤ c) ∧
      (Utf8.Valid t.adapter.modelName.bytes → Utf8.Valid (CText.upToNul t.adapter.systemPrompt) →
        Utf8.Valid prompt → ∃ tree : Tree Literal Numeral, tree.raw Literal.raw Numeral.raw = body ∧
          CJson.value CJson.literalBytes Numeral.raw tree =
            requestItem answers.build t.adapter prompt) := by
  obtain ⟨same, rfl⟩ := generate_posts (vendored sizeBits wide longBits) prompt answers t sent
  refine ⟨same, print_request ends answers.build t.adapter, ?_, ?_⟩
  · have texts : Texts (fun _ => True) (fun text => ∀ c ∈ text, 32 ≤ c) t.adapter prompt :=
      ⟨fun _ _ => trivial, trivial, trivial, trivial, by decide +kernel⟩
    exact CJson.print_printable _ (requestItem_all texts answers.build)
  · intro model system user
    have texts : Texts CJson.Utf8Text CJson.NumeralOf t.adapter prompt :=
      ⟨fun key listed => ⟨keys_utf8 key listed, keys_clean key listed⟩,
        ⟨model, t.adapter.modelName.clean⟩, ⟨system, CText.upToNul_clean _⟩, ⟨user, ends⟩,
        ⟨threeHundred, numerals_raw.1⟩, ⟨sevenTenths, numerals_raw.2⟩⟩
    exact CJson.print_wellformed _ (requestItem_all texts answers.build)

/-- A prompt that tries to end its string. -/
def quoting : List UInt8 := [34, 125, 93, 10, 92]

theorem requests_faithful_quoting :
    CJson.parse (CJson.print (requestItem answeredWhole.build llmInUse.adapter quoting)) =
      some (requestItem answeredWhole.build llmInUse.adapter quoting) := by
  have sent : .post (chatUrl llmInUse.adapter.apiBaseUrl)
      (CJson.print (requestItem answeredWhole.build llmInUse.adapter quoting)) ∈
      ((generate (vendored 16 (by decide) 32) quoting answeredWhole).run llmInUse).events :=
    .tail _ (.tail _ (.tail _ (.tail _ (.tail _ (.tail _ (.head _))))))
  exact (requests_faithful (by decide) answeredWhole llmInUse sent).2.1

end Assistantd.LlmAdapter
