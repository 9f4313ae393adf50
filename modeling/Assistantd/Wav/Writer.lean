import Assistantd.Lib.Riff

/-! dr_wav.h: a RIFF file, written sample by sample, with its lengths put in at the end. -/
namespace Assistantd.DrWav

open Riff (littleEndian)

/-! ## The file behind it -/

/-- A `FILE` that is written, with what its stream holds. -/
structure File where
  bytes : List UInt8
  cursor : Nat

/-- Bytes over those from `start` on. A gap before them is filled with zeros. -/
def overwrite (bytes : List UInt8) (start : Nat) (data : List UInt8) : List UInt8 :=
  if data = [] then bytes
  else (bytes ++ List.replicate (start - bytes.length) 0).take start ++ data ++
    bytes.drop (start + data.length)

/-- `fwrite`, which takes no more than `quota` bytes. -/
def File.fwrite (f : File) (data : List UInt8) (quota : Nat) : Nat × File :=
  ((data.take quota).length,
    ⟨overwrite f.bytes f.cursor (data.take quota), f.cursor + (data.take quota).length⟩)

/-- `fseek` from the start. Where it fails nothing is written. -/
def File.patch (f : File) (start : Nat) (data : List UInt8) (seek : Bool) (quota : Nat) : File :=
  if seek = true then (File.fwrite ⟨f.bytes, start⟩ data quota).2 else f

/-- What stdio answers: whether the file is opened, how much of each field of the header and
of each piece of the data it takes, and the same for what is put in at the end. -/
structure Answers where
  opens : Bool
  header : Nat → Nat
  data : Nat → Nat
  padding : Nat
  riffSeek : Bool
  riffSize : Nat
  dataSeek : Bool
  dataSize : Nat

/-! ## The writer -/

/-- `drwav_data_format` of a RIFF container -/
structure DataFormat where
  format : Nat
  channels : Nat
  sampleRate : Nat
  bitsPerSample : Nat

structure Drwav where
  file : File
  fmt : Riff.Format
  dataChunkDataSize : Nat
  dataChunkDataPos : Nat

/-- `drwav_preinit_write` -/
def preinitWrite (f : DataFormat) : Option Riff.Format :=
  if f.format = 0xFFFE then none
  else if f.format = 2 ∨ f.format = 0x11 then none
  else some
    { tag := f.format % 2 ^ 16
      channels := f.channels % 2 ^ 16
      sampleRate := f.sampleRate
      bytesPerSecond := f.bitsPerSample * f.sampleRate * f.channels % 2 ^ 32 / 8
      blockAlign := f.channels * f.bitsPerSample % 2 ^ 32 / 8 % 2 ^ 16
      bitsPerSample := f.bitsPerSample % 2 ^ 16 }

/-- The fields of the header, each written by a call of its own. -/
def header (fmt : Riff.Format) : List (List UInt8) :=
  [[82, 73, 70, 70], littleEndian 4 36, [87, 65, 86, 69], [102, 109, 116, 32], littleEndian 4 16,
    littleEndian 2 fmt.tag, littleEndian 2 fmt.channels, littleEndian 4 fmt.sampleRate,
    littleEndian 4 fmt.bytesPerSecond, littleEndian 2 fmt.blockAlign,
    littleEndian 2 fmt.bitsPerSample, [100, 97, 116, 97], littleEndian 4 0]

/-- The count of what was taken of the fields, and the file behind them. -/
def writeFields (quotas : Nat → Nat) : List (List UInt8) → File → Nat × File
  | [], f => (0, f)
  | field :: rest, f =>
    let written := f.fwrite field (quotas 0)
    let later := writeFields (fun k => quotas (k + 1)) rest written.2
    (written.1 + later.1, later.2)

/-- `drwav_init_write__internal`, not sequential: the lengths are not known yet. -/
def initWrite (answers : Answers) (fmt : Riff.Format) : Drwav where
  file := (writeFields answers.header (header fmt) ⟨[], 0⟩).2
  fmt := fmt
  dataChunkDataSize := 0
  dataChunkDataPos := (writeFields answers.header (header fmt) ⟨[], 0⟩).1

def initFileWrite (answers : Answers) (format : DataFormat) : Option Drwav :=
  if answers.opens = false then none else (preinitWrite format).map (initWrite answers)

def writeRaw (w : Drwav) (data : List UInt8) (quota : Nat) : Nat × Drwav :=
  if data = [] then (0, w)
  else ((w.file.fwrite data quota).1,
    { w with
      file := (w.file.fwrite data quota).2
      dataChunkDataSize := (w.dataChunkDataSize + (w.file.fwrite data quota).1) % 2 ^ 64 })

/-- The loop of `drwav_write_pcm_frames_le`, at most `rounds` times. -/
def writeLoop (quotas : Nat → Nat) : Nat → List UInt8 → Drwav → Nat × Drwav
  | 0, _, w => (0, w)
  | rounds + 1, data, w =>
    if data = [] then (0, w)
    else
      let written := writeRaw w data (quotas 0)
      if written.1 = 0 then written
      else
        let later := writeLoop (fun k => quotas (k + 1)) rounds (data.drop written.1) written.2
        (written.1 + later.1, later.2)

/-- `drwav_write_pcm_frames` where samples are little-endian: the number of frames. -/
def writePcmFrames (answers : Answers) (w : Drwav) (framesToWrite : Nat) (data : List UInt8) :
    Nat × Drwav :=
  if framesToWrite = 0 then (0, w)
  else
    let bytesToWrite := framesToWrite * w.fmt.channels * w.fmt.bitsPerSample % 2 ^ 64 / 8
    let written := writeLoop answers.data bytesToWrite (data.take bytesToWrite) w
    (written.1 * 8 % 2 ^ 64 / w.fmt.bitsPerSample / w.fmt.channels, written.2)

/-- `drwav__riff_chunk_size_riff` -/
def riffChunkSize (dataChunkSize : Nat) : Nat :=
  min (4 + 24 + 8 + dataChunkSize + dataChunkSize % 2) 0xFFFFFFFF

/-- `drwav__data_chunk_size_riff` -/
def dataChunkSizeRiff (dataChunkSize : Nat) : Nat := min dataChunkSize 0xFFFFFFFF

/-- `drwav_uninit`, which reports no failure to write. -/
def uninit (answers : Answers) (w : Drwav) : File :=
  let padded := if w.dataChunkDataSize % 2 = 0 then w.file else (w.file.fwrite [0] answers.padding).2
  let sized := padded.patch 4 (littleEndian 4 (riffChunkSize w.dataChunkDataSize)) answers.riffSeek
    answers.riffSize
  sized.patch (w.dataChunkDataPos - 4) (littleEndian 4 (dataChunkSizeRiff w.dataChunkDataSize))
    (decide (4 ≤ w.dataChunkDataPos) && answers.dataSeek) answers.dataSize

/-! ## What is in the file -/

/-- A stream at its end. -/
def File.atEnd (bytes : List UInt8) : File := ⟨bytes, bytes.length⟩

theorem fwrite_end (bytes data : List UInt8) (quota : Nat) :
    (File.atEnd bytes).fwrite data quota =
      ((data.take quota).length, .atEnd (bytes ++ data.take quota)) := by
  simp only [File.fwrite, File.atEnd, overwrite, List.length_append, Nat.sub_self,
    List.replicate_zero, List.append_nil, List.take_length]
  split
  · rename_i nothing
    simp [nothing]
  · rw [List.drop_of_length_le (Nat.le_add_right _ _), List.append_nil]

/-- Fields that are taken whole are all in the file, and counted. -/
theorem writeFields_end {quotas : Nat → Nat} {fields : List (List UInt8)} (bytes : List UInt8)
    (whole : ∀ k, ∀ field ∈ fields, field.length ≤ quotas k) :
    writeFields quotas fields (.atEnd bytes) = (fields.flatten.length, .atEnd (bytes ++ fields.flatten)) := by
  induction fields generalizing quotas bytes with
  | nil => simp [writeFields]
  | cons field fields ih =>
    have here : field.take (quotas 0) = field :=
      List.take_of_length_le (whole 0 field List.mem_cons_self)
    have later := @ih (fun k => quotas (k + 1)) (bytes ++ field)
      fun k other member => whole (k + 1) other (List.mem_cons_of_mem field member)
    simp only [writeFields, fwrite_end, here, later, List.flatten_cons, List.length_append,
      List.append_assoc]

/-- The loop puts the beginning of the data into the file, and counts it. -/
theorem writeLoop_end {quotas : Nat → Nat} {rounds : Nat} {data : List UInt8} {w : Drwav}
    {bytes : List UInt8} (start : w.file = .atEnd bytes)
    (small : w.dataChunkDataSize + data.length < 2 ^ 64) :
    ∃ count ≤ data.length, writeLoop quotas rounds data w =
        (count, { w with
          file := .atEnd (bytes ++ data.take count)
          dataChunkDataSize := w.dataChunkDataSize + count }) ∧
      ((∀ k, 0 < quotas k) → data.length ≤ rounds → count = data.length) := by
  induction rounds generalizing quotas data w bytes with
  | zero =>
    refine ⟨0, Nat.zero_le _, ?_, fun _ few => (Nat.le_zero.mp few).symm⟩
    simp [writeLoop, ← start]
  | succ rounds ih =>
    by_cases empty : data = []
    · refine ⟨0, Nat.zero_le _, ?_, fun _ _ => by simp [empty]⟩
      simp [writeLoop, empty, ← start]
    obtain ⟨first, piece, inside, taken⟩ : ∃ first, data.take (quotas 0) = data.take first ∧
        first ≤ data.length ∧ first = min (quotas 0) data.length :=
      ⟨min (quotas 0) data.length, List.take_eq_take_min, Nat.min_le_right _ _, rfl⟩
    have length : (data.take first).length = first := List.length_take_of_le inside
    have written : writeRaw w data (quotas 0) = (first, { w with
        file := .atEnd (bytes ++ data.take first)
        dataChunkDataSize := w.dataChunkDataSize + first }) := by
      simp only [writeRaw, if_neg empty, start, fwrite_end, piece, length,
        Nat.mod_eq_of_lt (show w.dataChunkDataSize + first < 2 ^ 64 by omega)]
    by_cases refused : first = 0
    · refine ⟨0, Nat.zero_le _, ?_, fun positive _ => ?_⟩
      · simp only [writeLoop, if_neg empty, written, refused, if_true]
      · have some_bytes := List.length_pos_iff.mpr empty
        have some_taken := positive 0
        omega
    obtain ⟨rest, fits, later, whole⟩ := @ih (fun k => quotas (k + 1)) (data.drop first)
      { w with
        file := .atEnd (bytes ++ data.take first)
        dataChunkDataSize := w.dataChunkDataSize + first }
      (bytes ++ data.take first) rfl (by dsimp only; rw [List.length_drop]; omega)
    rw [List.length_drop] at fits whole
    refine ⟨first + rest, by omega, ?_, fun positive enough => ?_⟩
    · simp only [writeLoop, if_neg empty, written, if_neg refused, later, List.take_add,
        List.append_assoc, Nat.add_assoc]
    · have all := whole (fun k => positive (k + 1)) (by omega)
      omega

/-- Bytes over as many others leave what is around them. -/
theorem overwrite_middle {before old new later : List UInt8} (same : new.length = old.length)
    (something : new ≠ []) :
    overwrite (before ++ (old ++ later)) before.length new = before ++ (new ++ later) := by
  have inside : before.length - (before ++ (old ++ later)).length = 0 := by simp
  have front : (before ++ (old ++ later)).take before.length = before := List.take_left
  have back : (before ++ (old ++ later)).drop (before.length + new.length) = later := by
    rw [same, ← List.append_assoc, ← List.length_append, List.drop_left]
  rw [overwrite, if_neg something, inside, List.replicate_zero, List.append_nil, front, back,
    List.append_assoc]

theorem patch_middle {f : File} {before old new later : List UInt8} {start quota : Nat}
    (split : f.bytes = before ++ (old ++ later)) (here : start = before.length)
    (same : new.length = old.length) (something : new ≠ []) (whole : new.length ≤ quota) :
    (f.patch start new true quota).bytes = before ++ (new ++ later) := by
  simp only [File.patch, if_true, File.fwrite, List.take_of_length_le whole, here, split]
  exact overwrite_middle same something

/-- Whatever is not data is written whole. -/
structure Answers.Sound (answers : Answers) : Prop where
  opens : answers.opens = true
  header : ∀ k, 4 ≤ answers.header k
  padding : 1 ≤ answers.padding
  riffSeek : answers.riffSeek = true
  riffSize : 4 ≤ answers.riffSize
  dataSeek : answers.dataSeek = true
  dataSize : 4 ≤ answers.dataSize

/-- The header between the length of the file and the length of the data. -/
def middle (fmt : Riff.Format) : List UInt8 :=
  [87, 65, 86, 69] ++ ([102, 109, 116, 32] ++ littleEndian 4 16 ++ fmt.raw) ++ [100, 97, 116, 97]

theorem header_flatten (fmt : Riff.Format) :
    (header fmt).flatten = [82, 73, 70, 70] ++ (littleEndian 4 36 ++ (middle fmt ++ littleEndian 4 0)) := by
  simp only [header, middle, Riff.Format.raw, List.flatten_cons, List.flatten_nil, List.append_nil,
    List.append_assoc]

theorem initWrite_sound {answers : Answers} (sound : answers.Sound) (fmt : Riff.Format) :
    initWrite answers fmt = ⟨.atEnd (header fmt).flatten, fmt, 0, 44⟩ := by
  have whole : ∀ k, ∀ field ∈ header fmt, field.length ≤ answers.header k := by
    intro k field member
    have short : field.length ≤ 4 := by
      simp only [header, List.mem_cons, List.not_mem_nil, or_false] at member
      rcases member with rfl | rfl | rfl | rfl | rfl | rfl | rfl | rfl | rfl | rfl | rfl | rfl | rfl
      all_goals simp
    exact Nat.le_trans short (sound.header k)
  have fields := writeFields_end [] whole
  rw [List.nil_append] at fields
  rw [initWrite, show (⟨[], 0⟩ : File) = .atEnd [] from rfl, fields]
  rfl

theorem padded_end {answers : Answers} (sound : answers.Sound) (bytes : List UInt8) (length : Nat) :
    (if length % 2 = 0 then File.atEnd bytes else ((File.atEnd bytes).fwrite [0] answers.padding).2) =
      .atEnd (bytes ++ Riff.padding length) := by
  split
  · rename_i even
    rw [Riff.padding, even, List.replicate_zero, List.append_nil]
  · rename_i odd
    have one : [0].take answers.padding = [(0 : UInt8)] := List.take_of_length_le sound.padding
    have rest : length % 2 = 1 := by omega
    rw [fwrite_end, one, Riff.padding, rest]
    rfl

/-- With the lengths put in it is the file of a recording. -/
theorem uninit_sound {answers : Answers} (sound : answers.Sound) (fmt : Riff.Format)
    {data : List UInt8} (length : 36 + data.length + data.length % 2 < 2 ^ 32) :
    (uninit answers ⟨.atEnd ((header fmt).flatten ++ data), fmt, data.length, 44⟩).bytes =
      Riff.Wave.raw ⟨fmt, data⟩ := by
  have riff : riffChunkSize data.length = 36 + data.length + data.length % 2 :=
    Nat.min_eq_left (by omega)
  have size : dataChunkSizeRiff data.length = data.length := Nat.min_eq_left (by omega)
  have seek : (decide (4 ≤ 44) && answers.dataSeek) = true := by rw [sound.dataSeek]; rfl
  have nonempty (n : Nat) : littleEndian 4 n ≠ [] := List.cons_ne_nil _ _
  simp only [uninit, padded_end sound, sound.riffSeek, seek, riff, size]
  have first : (File.patch (.atEnd ((header fmt).flatten ++ data ++ Riff.padding data.length)) 4
      (littleEndian 4 (36 + data.length + data.length % 2)) true answers.riffSize).bytes =
        [82, 73, 70, 70] ++ (littleEndian 4 (36 + data.length + data.length % 2) ++
          (middle fmt ++ (littleEndian 4 0 ++ (data ++ Riff.padding data.length)))) := by
    refine @patch_middle _ _ (littleEndian 4 36) _ _ _ _ ?_ rfl (by simp) (nonempty _)
      (by simpa using sound.riffSize)
    rw [header_flatten]
    simp only [File.atEnd, List.append_assoc]
  rw [← List.append_assoc, ← List.append_assoc] at first
  generalize File.patch _ 4 _ true _ = sized at first ⊢
  have second : (sized.patch (44 - 4) (littleEndian 4 data.length) true answers.dataSize).bytes = _ :=
    patch_middle first rfl rfl (nonempty _) (by simpa using sound.dataSize)
  have even : Riff.padding (36 + data.length + data.length % 2) = [] := by
    rw [Riff.padding, show (36 + data.length + data.length % 2) % 2 = 0 by omega, List.replicate_zero]
  rw [second, Riff.Wave.raw, Riff.Chunk.raw, Riff.Wave.file_length, even]
  simp only [Riff.file, Riff.Wave.chunks, Riff.Chunk.raw, middle, List.flatMap_cons, List.flatMap_nil,
    List.append_assoc, List.append_nil, fmt.raw_length]
  rfl

end Assistantd.DrWav
