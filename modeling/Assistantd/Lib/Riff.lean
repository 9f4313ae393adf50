import Mathlib.Data.Nat.Digits.Defs

/-! RIFF files: chunks with a length in front, padded to an even number of bytes, and
the sound files that are made of them. -/
namespace Riff

/-- A number in `width` bytes, the lowest first. -/
def littleEndian : Nat → Nat → List UInt8
  | 0, _ => []
  | width + 1, n => n.toUInt8 :: littleEndian width (n / 256)

def number (bytes : List UInt8) : Nat := Nat.ofDigits 256 (bytes.map UInt8.toNat)

@[simp] theorem littleEndian_length (width n : Nat) : (littleEndian width n).length = width := by
  induction width generalizing n with
  | zero => rfl
  | succ width ih => rw [littleEndian, List.length_cons, ih]

theorem number_littleEndian {width n : Nat} (fits : n < 256 ^ width) :
    number (littleEndian width n) = n := by
  induction width generalizing n with
  | zero =>
    obtain rfl : n = 0 := by simpa using fits
    rfl
  | succ width ih =>
    have later : number (littleEndian width (n / 256)) = n / 256 :=
      ih (Nat.div_lt_of_lt_mul (by rwa [Nat.pow_succ'] at fits))
    have byte : n.toUInt8.toNat = n % 256 := UInt8.toNat_ofNat'
    rw [number] at later
    rw [number, littleEndian, List.map_cons, Nat.ofDigits_cons, later, byte]
    exact Nat.mod_add_div n 256

/-! ## Chunks -/

structure Chunk where
  id : List UInt8
  data : List UInt8
  deriving DecidableEq

/-- An identifier has four letters, and the length is written in four bytes. -/
structure Chunk.Sized (c : Chunk) : Prop where
  letters : c.id.length = 4
  length : c.data.length < 2 ^ 32

def padding (length : Nat) : List UInt8 := List.replicate (length % 2) 0

def Chunk.raw (c : Chunk) : List UInt8 :=
  c.id ++ littleEndian 4 c.data.length ++ c.data ++ padding c.data.length

/-- The first chunk, and what is behind it. -/
def readChunk (bytes : List UInt8) : Option (Chunk × List UInt8) :=
  let length := number ((bytes.drop 4).take 4)
  if bytes.length < 8 + length + length % 2 then none
  else some (⟨bytes.take 4, (bytes.drop 8).take length⟩, bytes.drop (8 + length + length % 2))

/-- Chunks up to the end, at most `rounds` of them. -/
def readChunks : Nat → List UInt8 → Option (List Chunk)
  | _, [] => some []
  | 0, _ :: _ => none
  | rounds + 1, byte :: bytes => do
    let (c, rest) ← readChunk (byte :: bytes)
    let later ← readChunks rounds rest
    pure (c :: later)

theorem Chunk.raw_length (c : Chunk) (sized : c.Sized) :
    c.raw.length = 8 + c.data.length + c.data.length % 2 := by
  simp only [Chunk.raw, padding, List.length_append, littleEndian_length, List.length_replicate,
    sized.letters]

/-- A chunk is read back from the front of anything. -/
theorem readChunk_raw {c : Chunk} (sized : c.Sized) (rest : List UInt8) :
    readChunk (c.raw ++ rest) = some (c, rest) := by
  have letters := sized.letters
  have parts : c.raw ++ rest =
      c.id ++ (littleEndian 4 c.data.length ++ (c.data ++ (padding c.data.length ++ rest))) := by
    simp only [Chunk.raw, List.append_assoc]
  have size : ((c.raw ++ rest).drop 4).take 4 = littleEndian 4 c.data.length := by
    rw [parts, ← letters, List.drop_left, letters]
    exact List.take_left' (littleEndian_length _ _)
  have length : number (((c.raw ++ rest).drop 4).take 4) = c.data.length := by
    rw [size]
    exact number_littleEndian sized.length
  have id : (c.raw ++ rest).take 4 = c.id := by
    rw [parts]
    exact List.take_left' letters
  have data : ((c.raw ++ rest).drop 8).take c.data.length = c.data := by
    rw [parts, ← List.append_assoc, List.drop_left' (by simp [letters])]
    exact List.take_left
  have later : (c.raw ++ rest).drop (8 + c.data.length + c.data.length % 2) = rest :=
    List.drop_left' (c.raw_length sized)
  have long : ¬ (c.raw ++ rest).length < 8 + c.data.length + c.data.length % 2 := by
    rw [List.length_append, c.raw_length sized]
    omega
  simp only [readChunk, length, if_neg long, id, data, later]

theorem chunks_le {chunks : List Chunk} (sized : ∀ c ∈ chunks, c.Sized) :
    chunks.length ≤ (chunks.flatMap Chunk.raw).length := by
  induction chunks with
  | nil => exact Nat.le_refl 0
  | cons c chunks ih =>
    obtain ⟨here, later⟩ := List.forall_mem_cons.mp sized
    have rest := ih later
    rw [List.flatMap_cons, List.length_append, c.raw_length here, List.length_cons]
    omega

/-- Chunks are read back up to the end. -/
theorem readChunks_raw {chunks : List Chunk} (sized : ∀ c ∈ chunks, c.Sized) {rounds : Nat}
    (enough : chunks.length ≤ rounds) :
    readChunks rounds (chunks.flatMap Chunk.raw) = some chunks := by
  induction chunks generalizing rounds with
  | nil => cases rounds <;> rfl
  | cons c chunks ih =>
    obtain ⟨here, later⟩ := List.forall_mem_cons.mp sized
    obtain ⟨rounds, rfl⟩ : ∃ k, rounds = k + 1 := ⟨rounds - 1, by simp at enough; omega⟩
    have read := readChunk_raw here (chunks.flatMap Chunk.raw)
    rw [List.flatMap_cons]
    obtain ⟨byte, bytes, split⟩ : ∃ byte bytes, c.raw ++ chunks.flatMap Chunk.raw = byte :: bytes := by
      apply List.exists_cons_of_ne_nil
      intro empty
      have longer := c.raw_length here
      rw [(List.append_eq_nil_iff.mp empty).1, List.length_nil] at longer
      omega
    rw [split] at read
    rw [split, readChunks, read]
    simp [ih later (by simpa using enough)]

/-! ## Files -/

/-- A file is one chunk: its kind, and chunks. -/
def file (kind : List UInt8) (chunks : List Chunk) : Chunk :=
  ⟨[82, 73, 70, 70], kind ++ chunks.flatMap Chunk.raw⟩

/-- A file is read as its kind and chunks; what follows it is not looked at. -/
def readFile (bytes : List UInt8) : Option (List UInt8 × List Chunk) := do
  let (c, _) ← readChunk bytes
  if c.id = [82, 73, 70, 70] then
    let chunks ← readChunks c.data.length (c.data.drop 4)
    pure (c.data.take 4, chunks)
  else none

theorem readFile_raw {kind : List UInt8} {chunks : List Chunk} (letters : kind.length = 4)
    (sized : ∀ c ∈ chunks, c.Sized) (length : (file kind chunks).data.length < 2 ^ 32)
    (trailing : List UInt8) :
    readFile ((file kind chunks).raw ++ trailing) = some (kind, chunks) := by
  have read := @readChunk_raw (file kind chunks) ⟨rfl, length⟩ trailing
  have count : chunks.length ≤ (file kind chunks).data.length := by
    rw [file, List.length_append]
    exact Nat.le_trans (chunks_le sized) (Nat.le_add_left _ _)
  have chunked := readChunks_raw sized count
  have first : (file kind chunks).data.take 4 = kind := List.take_left' letters
  have others : (file kind chunks).data.drop 4 = chunks.flatMap Chunk.raw := List.drop_left' letters
  simp only [readFile, read, Option.bind_eq_bind, Option.bind_some, others, chunked, first]
  exact if_pos rfl

/-! ## Sound -/

structure Format where
  tag : Nat
  channels : Nat
  sampleRate : Nat
  bytesPerSecond : Nat
  blockAlign : Nat
  bitsPerSample : Nat
  deriving DecidableEq

structure Format.Fits (f : Format) : Prop where
  tag : f.tag < 2 ^ 16
  channels : f.channels < 2 ^ 16
  sampleRate : f.sampleRate < 2 ^ 32
  bytesPerSecond : f.bytesPerSecond < 2 ^ 32
  blockAlign : f.blockAlign < 2 ^ 16
  bitsPerSample : f.bitsPerSample < 2 ^ 16

def Format.raw (f : Format) : List UInt8 :=
  littleEndian 2 f.tag ++ littleEndian 2 f.channels ++ littleEndian 4 f.sampleRate ++
    littleEndian 4 f.bytesPerSecond ++ littleEndian 2 f.blockAlign ++
    littleEndian 2 f.bitsPerSample

def readFormat (bytes : List UInt8) : Format where
  tag := number (bytes.take 2)
  channels := number ((bytes.drop 2).take 2)
  sampleRate := number ((bytes.drop 4).take 4)
  bytesPerSecond := number ((bytes.drop 8).take 4)
  blockAlign := number ((bytes.drop 12).take 2)
  bitsPerSample := number ((bytes.drop 14).take 2)

theorem Format.raw_length (f : Format) : f.raw.length = 16 := by
  simp [Format.raw]

theorem readFormat_raw {f : Format} (fits : f.Fits) : readFormat f.raw = f := by
  have two {n : Nat} (small : n < 2 ^ 16) : number (littleEndian 2 n) = n := number_littleEndian small
  have four {n : Nat} (small : n < 2 ^ 32) : number (littleEndian 4 n) = n := number_littleEndian small
  have fields : readFormat f.raw = ⟨number (littleEndian 2 f.tag), number (littleEndian 2 f.channels),
      number (littleEndian 4 f.sampleRate), number (littleEndian 4 f.bytesPerSecond),
      number (littleEndian 2 f.blockAlign), number (littleEndian 2 f.bitsPerSample)⟩ := rfl
  rw [fields, two fits.tag, two fits.channels, four fits.sampleRate, four fits.bytesPerSecond,
    two fits.blockAlign, two fits.bitsPerSample]

/-- A recording: how its samples are to be read, and the samples. -/
structure Wave where
  format : Format
  samples : List UInt8
  deriving DecidableEq

def Wave.chunks (w : Wave) : List Chunk :=
  [⟨[102, 109, 116, 32], w.format.raw⟩, ⟨[100, 97, 116, 97], w.samples⟩]

/-- `WAVE` -/
def Wave.raw (w : Wave) : List UInt8 := (file [87, 65, 86, 69] w.chunks).raw

def readWave (bytes : List UInt8) : Option Wave := do
  let (kind, chunks) ← readFile bytes
  if kind = [87, 65, 86, 69] then
    let format ← chunks.find? fun c => c.id = [102, 109, 116, 32]
    let samples ← chunks.find? fun c => c.id = [100, 97, 116, 97]
    pure ⟨readFormat format.data, samples.data⟩
  else none

theorem Wave.file_length (w : Wave) :
    (file [87, 65, 86, 69] w.chunks).data.length = 36 + w.samples.length + w.samples.length % 2 := by
  simp only [file, Wave.chunks, List.flatMap_cons, List.flatMap_nil, Chunk.raw, padding,
    List.length_append, littleEndian_length, List.length_replicate, List.length_cons,
    List.length_nil, w.format.raw_length]
  omega

/-- A recording is read back from its file. -/
theorem readWave_raw {w : Wave} (fits : w.format.Fits)
    (length : 36 + w.samples.length + w.samples.length % 2 < 2 ^ 32) (trailing : List UInt8) :
    readWave (w.raw ++ trailing) = some w := by
  have sized : ∀ c ∈ w.chunks, c.Sized := by
    intro c member
    rcases List.mem_cons.mp member with rfl | member
    · exact ⟨rfl, by simp only [w.format.raw_length]; decide⟩
    · rw [List.mem_singleton.mp member]
      exact ⟨rfl, by dsimp only; omega⟩
  have read := @readFile_raw [87, 65, 86, 69] w.chunks rfl sized
    (by rw [w.file_length]; exact length) trailing
  rw [readWave, Wave.raw, read]
  simp [Wave.chunks, readFormat_raw fits]

end Riff
