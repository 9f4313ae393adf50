import Assistantd.Adapter.Llm
import Assistantd.Adapter.Transcript
import Assistantd.Lib.Delivery

/-! How the system prompt gets into its array, one `fread` after the other. -/
namespace Assistantd.LlmAdapter

open Calls
open Delivery (Answer Delivers Ends Fails Made taken)
open SttAdapter (Stored)

/-! ## The code -/

/-- The array, the variable of the loop and the error indicator of the file. -/
structure Loading where
  systemPrompt : Nat → UInt8
  total : Nat
  error : Bool

/-- The loop, whose `k`th `fread` is answered by `answers k`. None where it has not
ended after `rounds` rounds. -/
def readLoop (answers : Nat → Answer UInt8) : Nat → Nat → Loading → Option Loading
  | 0, _, _ => none
  | rounds + 1, k, l =>
    if l.total < 4095 then
      let piece := (answers k).piece
      let l := { l with
        systemPrompt := Cells.copyIn l.systemPrompt l.total piece
        error := l.error || (answers k).failed }
      if piece.length > 0 then readLoop answers rounds (k + 1) { l with total := l.total + piece.length }
      else some l
    else some l

/-- `load_system_prompt` on the array itself. There is no file where `fopen` fails. -/
def loadSystemPromptInto (rounds : Nat) (file : Option (Nat → Answer UInt8))
    (systemPrompt : Nat → UInt8) : Option (Except Status Unit × (Nat → UInt8)) :=
  match file with
  | none => some (.error .errIo, systemPrompt)
  | some answers =>
    (readLoop answers rounds 0 ⟨systemPrompt, 0, false⟩).map fun l =>
      let systemPrompt := Function.update l.systemPrompt l.total 0
      if l.error then (.error .errIo, systemPrompt)
      else if l.total = 0 then (.error .errConfig, systemPrompt)
      else (.ok (), systemPrompt)

/-! ## The loop -/

section Loop

variable {content : List UInt8} {answers : Nat → Answer UInt8} {before : Nat → UInt8}
  {rounds k n : Nat} {l : Loading}

/-- The variables after `k` reads. -/
structure Loaded (answers : Nat → Answer UInt8) (before : Nat → UInt8) (k : Nat) (l : Loading) :
    Prop where
  total : l.total = (taken answers k).length
  text : Cells.slice l.systemPrompt 0 l.total = taken answers k
  beyond : ∀ i, l.total ≤ i → l.systemPrompt i = before i
  error : l.error = true ↔ ∃ j < k, (answers j).failed = true

theorem Loaded.start (answers : Nat → Answer UInt8) (before : Nat → UInt8) :
    Loaded answers before 0 ⟨before, 0, false⟩ where
  total := rfl
  text := rfl
  beyond _ _ := rfl
  error := by simp

theorem Loaded.next (h : Loaded answers before k l) : Loaded answers before (k + 1)
    ⟨Cells.copyIn l.systemPrompt l.total (answers k).piece, l.total + (answers k).piece.length,
      l.error || (answers k).failed⟩ where
  total := by simp [h.total]
  text := by rw [Cells.slice_copyIn_append, h.text, Delivery.taken_succ]
  beyond i behind := by
    dsimp only at behind ⊢
    rw [Cells.copyIn_outside _ _ _ _ (.inr behind)]
    exact h.beyond i (by omega)
  error := by
    rw [Bool.or_eq_true, h.error, Nat.exists_lt_succ_right]

/-- The loop ends, whatever the reads bring: each one that does not end it makes the
total larger. -/
theorem readLoop_ends (loaded : Loaded answers before k l) (brought : ∀ j < k, (answers j).piece ≠ [])
    (made : ∀ j < k, Made 4095 answers j) (enough : 4095 - l.total < rounds) :
    ∃ n l', Ends 4095 answers n ∧ Loaded answers before n l' ∧
      readLoop answers rounds k l = some l' := by
  induction rounds generalizing k l with
  | zero => cases enough
  | succ rounds ih =>
    unfold readLoop
    by_cases room : l.total < 4095
    · have here : Made 4095 answers k := ⟨brought, loaded.total ▸ room⟩
      have made' : ∀ j < k + 1, Made 4095 answers j := Nat.forall_lt_succ_right.mpr ⟨made, here⟩
      have next := loaded.next
      by_cases more : (answers k).piece.length > 0
      · have brought' : ∀ j < k + 1, (answers j).piece ≠ [] :=
          Nat.forall_lt_succ_right.mpr ⟨brought, List.length_pos_iff.mp more⟩
        obtain ⟨n, l', ends, loaded', run⟩ := ih next brought' made' (by dsimp only; omega)
        exact ⟨n, l', ends, loaded', by rw [if_pos room, ← run]; simp [more]⟩
      · have empty : (answers k).piece = [] := List.length_eq_zero_iff.mp (by omega)
        have ends : Ends 4095 answers (k + 1) :=
          ⟨made', fun further => further.1 k (Nat.lt_succ_self k) empty⟩
        refine ⟨k + 1, _, ends, next, ?_⟩
        rw [if_pos room]
        simp [empty]
    · exact ⟨k, l, ⟨made, fun further => room (loaded.total ▸ further.2)⟩, loaded, if_neg room⟩

/-- What is in the array behind the loop and its terminator. -/
theorem Loaded.stored (h : Loaded answers before n l) (ends : Ends 4095 answers n)
    (delivers : Delivers content 4095 answers) (sound : ¬ Fails 4095 answers) :
    Stored content 4096 before (Function.update l.systemPrompt l.total 0) := by
  have whole := ends.whole delivers sound
  have total : l.total = min content.length 4095 := by
    rw [h.total, whole, List.length_take, Nat.min_comm]
  refine ⟨?_, ?_, by omega, ?_⟩
  · rw [← whole, ← h.text, ← total, Cells.slice_update_outside _ _ _ _ _ (.inr (by omega))]
  · rw [total]
    exact Function.update_self _ _ _
  · intro i behind
    rw [Function.update_of_ne (by omega)]
    exact h.beyond i (by omega)

end Loop

/-! ## The adapter's record -/

/-- The reads of a file as the adapter's own model takes them. -/
def promptFile (content : List UInt8) (answers : Nat → Answer UInt8) : PromptFile where
  content := content
  counts := (List.range' 0 4096).map fun k => (answers k).piece.length
  readError := (List.range 4096).any fun k => decide (Made 4095 answers k) && (answers k).failed

section Record

variable {content : List UInt8} {answers : Nat → Answer UInt8} {k n : Nat}

theorem promptFile_readError (ends : Ends 4095 answers n)
    (delivers : Delivers content 4095 answers) :
    (promptFile content answers).readError = true ↔ Fails 4095 answers := by
  have few := ends.le
  simp only [promptFile, List.any_eq_true, List.mem_range, Bool.and_eq_true, decide_eq_true_iff,
    ends.fails_iff delivers]
  constructor
  · rintro ⟨k, _, made, failed⟩
    exact ⟨k, ends.made_iff.mp made, failed⟩
  · rintro ⟨k, less, failed⟩
    exact ⟨k, by omega, ends.made k less, failed⟩

theorem readPrompt_answers (delivers : Delivers content 4095 answers) (ends : Ends 4095 answers n)
    {rounds : Nat} (brought : ∀ j < k, (answers j).piece ≠ []) (started : k ≤ n)
    (enough : n < k + rounds) :
    readPrompt content (taken answers k)
      ((List.range' k rounds).map fun i => (answers i).piece.length) = taken answers n := by
  induction rounds generalizing k with
  | zero => omega
  | succ rounds ih =>
    rw [List.range'_succ, List.map_cons, readPrompt]
    by_cases room : (taken answers k).length < 4095
    · have made : Made 4095 answers k := ⟨brought, room⟩
      have less := ends.made_iff.mp made
      have next := delivers k room
      have piece : (content.drop (taken answers k).length).take
          (min (answers k).piece.length (4095 - (taken answers k).length)) = (answers k).piece := by
        rw [Nat.min_eq_left next.fits]
        exact (List.prefix_iff_eq_take.mp next.ordered).symm
      rw [if_pos room, piece]
      cases found : (answers k).piece with
      | nil =>
        -- nothing came, so this read is the last one
        have last : k + 1 = n := by
          by_contra other
          exact (ends.made (k + 1) (by omega)).1 k (Nat.lt_succ_self k) found
        rw [← last, Delivery.taken_succ, found, List.append_nil]
      | cons c rest =>
        have brought' : ∀ j < k + 1, (answers j).piece ≠ [] :=
          Nat.forall_lt_succ_right.mpr ⟨brought, by rw [found]; exact List.cons_ne_nil c rest⟩
        have later := ih brought' less (by omega)
        rw [Delivery.taken_succ, found] at later
        exact later
    · have last : n = k := by
        by_contra other
        exact room (ends.made k (by omega)).2
      rw [if_neg room, last]

theorem loadSystemPrompt_answers (delivers : Delivers content 4095 answers)
    (ends : Ends 4095 answers n) (a : LlmAdapter) :
    (loadSystemPrompt (some (promptFile content answers))).run a =
      ⟨if (promptFile content answers).readError = true then .error .errIo
        else if taken answers n = [] then .error .errConfig else .ok (),
        { a with systemPrompt := taken answers n }, []⟩ := by
  have few := ends.le
  have read : readPrompt (promptFile content answers).content [] (promptFile content answers).counts =
      taken answers n :=
    readPrompt_answers delivers ends (by omega) (Nat.zero_le n) (by omega)
  by_cases broken : (promptFile content answers).readError = true
  · simp [loadSystemPrompt, broken, read]
  · by_cases nothing : taken answers n = []
    · simp [loadSystemPrompt, broken, read, nothing]
    · simp [loadSystemPrompt, broken, read, nothing]

/-- What `load_system_prompt` returns and leaves in the array, and what the adapter's own
model of it returns for the same reads. -/
theorem loadSystemPromptInto_cases (delivers : Delivers content 4095 answers)
    (systemPrompt : Nat → UInt8) {rounds : Nat} (enough : 4096 ≤ rounds) :
    ∃ result after total,
      loadSystemPromptInto rounds (some answers) systemPrompt = some (result, after) ∧
      (∀ a, (loadSystemPrompt (some (promptFile content answers))).run a =
        ⟨result, { a with systemPrompt := Cells.slice after 0 total }, []⟩) ∧
      ((Fails 4095 answers ∧ result = .error .errIo) ∨
        (¬ Fails 4095 answers ∧ content = [] ∧ result = .error .errConfig) ∨
        (¬ Fails 4095 answers ∧ content ≠ [] ∧ result = .ok () ∧
          Stored content 4096 systemPrompt after)) := by
  obtain ⟨n, l, ends, loaded, run⟩ :=
    readLoop_ends (.start answers systemPrompt) (by omega) (by omega)
      (show 4095 - 0 < rounds by omega)
  have model := loadSystemPrompt_answers delivers ends
  have text : Cells.slice (Function.update l.systemPrompt l.total 0) 0 l.total = taken answers n := by
    rw [Cells.slice_update_outside _ _ _ _ _ (.inr (by omega)), loaded.text]
  have broken := promptFile_readError ends delivers
  have error : l.error = true ↔ Fails 4095 answers := loaded.error.trans (ends.fails_iff delivers).symm
  have into : loadSystemPromptInto rounds (some answers) systemPrompt = some
      (if l.error = true then .error .errIo else if l.total = 0 then .error .errConfig else .ok (),
        Function.update l.systemPrompt l.total 0) := by
    simp only [loadSystemPromptInto, run, Option.map_some]
    split_ifs <;> rfl
  refine ⟨_, _, l.total, into, ?_⟩
  by_cases fails : Fails 4095 answers
  · rw [if_pos (error.mpr fails)]
    exact ⟨fun a => by rw [model, text, if_pos (broken.mpr fails)], .inl ⟨fails, rfl⟩⟩
  have nothing := ends.empty_iff delivers fails (by decide)
  have total : l.total = 0 ↔ content = [] := by
    rw [loaded.total, List.length_eq_zero_iff, nothing]
  rw [if_neg (error.not.mpr fails)]
  by_cases empty : content = []
  · rw [if_pos (total.mpr empty)]
    exact ⟨fun a => by rw [model, text, if_neg (broken.not.mpr fails), if_pos (nothing.mpr empty)],
      .inr (.inl ⟨fails, empty, rfl⟩)⟩
  · rw [if_neg (total.not.mpr empty)]
    exact ⟨fun a => by rw [model, text, if_neg (broken.not.mpr fails), if_neg (nothing.not.mpr empty)],
      .inr (.inr ⟨fails, empty, rfl, loaded.stored ends delivers fails⟩)⟩

end Record

/-- Where the prompt cannot be loaded, the adapter is left out of use. -/
theorem init_unloaded {file : Option PromptFile} {status : Status}
    (failed : ∀ a, ∃ loaded, (loadSystemPrompt file).run a =
      ⟨.error status, { a with systemPrompt := loaded }, []⟩)
    (config : Config) (curl : Option Nat) (a : LlmAdapter) :
    let o := (init config file curl).run a
    o.result = .error status ∧ o.state.initialized = false ∧ o.state.curlHandle = none ∧
      o.events = [] := by
  obtain ⟨loaded, run⟩ := failed zeroed
  have stopped : (init config file curl).run a =
      ⟨.error status, { zeroed with systemPrompt := loaded }, []⟩ := by
    simp [init, run]
  intro o
  rw [show o = _ from stopped]
  exact ⟨rfl, rfl, rfl, rfl⟩

/-- However a prompt file comes in pieces, its beginning ends up in the array, with a
NUL behind it, or the status says why not. -/
theorem system_prompt_loaded (content : List UInt8) (file : Option (Nat → Answer UInt8))
    (delivers : ∀ answers, file = some answers → Delivers content 4095 answers)
    (systemPrompt : Nat → UInt8) {rounds : Nat} (enough : 4096 ≤ rounds) (config : Config)
    (curl : Option Nat) (a : LlmAdapter) :
    ∃ result after, loadSystemPromptInto rounds file systemPrompt = some (result, after) ∧
      (result = .ok () → Stored content 4096 systemPrompt after) ∧
      (result = .error .errIo ↔
        file = none ∨ ∃ answers, file = some answers ∧ Fails 4095 answers) ∧
      (result = .error .errConfig ↔
        ∃ answers, file = some answers ∧ ¬ Fails 4095 answers ∧ content = []) ∧
      (result = .ok () ↔
        ∃ answers, file = some answers ∧ ¬ Fails 4095 answers ∧ content ≠ []) ∧
      ∀ status, result = .error status →
        let o := (init config (file.map (promptFile content)) curl).run a
        o.result = .error status ∧ o.state.initialized = false ∧ o.state.curlHandle = none ∧
          o.events = [] := by
  cases file with
  | none =>
    refine ⟨.error .errIo, systemPrompt, rfl, nofun, by simp, by simp, by simp, ?_⟩
    intro status failed
    cases failed
    exact init_unloaded (fun a => ⟨a.systemPrompt, rfl⟩) config curl a
  | some answers =>
    obtain ⟨result, after, total, run, model, outcome⟩ :=
      loadSystemPromptInto_cases (delivers answers rfl) systemPrompt enough
    have unloaded : ∀ status, result = .error status →
        let o := (init config (some (promptFile content answers)) curl).run a
        o.result = .error status ∧ o.state.initialized = false ∧ o.state.curlHandle = none ∧
          o.events = [] :=
      fun status failed => init_unloaded (fun a => ⟨_, failed ▸ model a⟩) config curl a
    simp only [Option.some.injEq, exists_eq_left', reduceCtorEq, false_or, Option.map_some]
    rcases outcome with ⟨fails, rfl⟩ | ⟨sound, empty, rfl⟩ | ⟨sound, visible, rfl, stored⟩
    · exact ⟨_, after, run, nofun, iff_of_true rfl fails, iff_of_false nofun fun h => h.1 fails,
        iff_of_false nofun fun h => h.1 fails, unloaded⟩
    · exact ⟨_, after, run, nofun, iff_of_false nofun sound, iff_of_true rfl ⟨sound, empty⟩,
        iff_of_false nofun fun h => h.2 empty, unloaded⟩
    · exact ⟨_, after, run, fun _ => stored, iff_of_false nofun sound,
        iff_of_false nofun fun h => visible h.2, iff_of_true rfl ⟨sound, visible⟩, unloaded⟩

section Sample

/-- A file that comes byte by byte. -/
def byBytes (content : List UInt8) (k : Nat) : Answer UInt8 := ⟨(content.drop k).take 1, false⟩

theorem byBytes_taken (content : List UInt8) (k : Nat) :
    taken (byBytes content) k = content.take k := by
  induction k with
  | zero => rfl
  | succ k ih => rw [Delivery.taken_succ, ih, List.take_add, byBytes]

theorem byBytes_delivers (content : List UInt8) (room : Nat) :
    Delivers content room (byBytes content) := by
  intro k less
  have rest : content.drop (taken (byBytes content) k).length = content.drop k := by
    rw [byBytes_taken, List.length_take]
    rcases Nat.le_total k content.length with inside | behind
    · rw [Nat.min_eq_left inside]
    · rw [Nat.min_eq_right behind, List.drop_length, List.drop_eq_nil_iff.mpr behind]
  rw [rest]
  refine ⟨List.take_prefix _ _, ?_, ?_, nofun⟩
  · have one : (byBytes content k).piece.length ≤ 1 := List.length_take_le _ _
    omega
  · intro empty
    rcases List.take_eq_nil_iff.mp empty with zero | none
    · cases zero
    · exact .inl none

theorem system_prompt_loaded_by_bytes : ∃ after,
    loadSystemPromptInto 4096 (some (byBytes (CText.ascii "hi"))) (fun _ => 7) =
      some (.ok (), after) ∧ Stored (CText.ascii "hi") 4096 (fun _ => 7) after := by
  obtain ⟨result, after, run, stored, _, _, succeeds, _⟩ :=
    system_prompt_loaded (CText.ascii "hi") (some (byBytes (CText.ascii "hi")))
      (fun _ same => Option.some.inj same ▸ byBytes_delivers _ _) (fun _ => 7)
      (Nat.le_refl 4096) Config.initDefaults none zeroed
  have sound : ¬ Fails 4095 (byBytes (CText.ascii "hi")) := by
    rintro ⟨k, _, failed, _⟩
    cases failed
  have done : result = .ok () := succeeds.mpr ⟨_, rfl, sound, by decide⟩
  exact ⟨after, done ▸ run, stored done⟩

end Sample

end Assistantd.LlmAdapter
