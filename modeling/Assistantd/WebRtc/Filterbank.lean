import Assistantd.WebRtc.Spl

/-! vad_filterbank.c: the energy of a frame in six frequency bands. Arrays are lists, and
their lengths the `data_length` of the source. -/
namespace Assistantd.WebRtcVad

open Fixed WebRtcSpl

def kNumChannels : Nat := 6

def kMinEnergy : Int := 10

def kLogConst : Int := 24660

def kLogEnergyIntPart : Int := 14336

def kOffsetVector : List Int := [368, 368, 272, 176, 176, 176]

/-- `hp_filter_state`: the last two samples in, and the last two out. -/
structure HighPass where
  in1 : Int
  in2 : Int
  out1 : Int
  out2 : Int
  deriving DecidableEq, Repr

/-- `HighPassFilter` -/
def highPassFilter : List Int → HighPass → List Int × HighPass
  | [], state => ([], state)
  | sample :: dataIn, state =>
    let tmp32 := int32 (6631 * sample)
    let tmp32 := int32 (tmp32 + -13262 * state.in1)
    let tmp32 := int32 (tmp32 + 6631 * state.in2)
    let tmp32 := int32 (tmp32 - -7756 * state.out1)
    let tmp32 := int32 (tmp32 - 5620 * state.out2)
    let out := int16 (tmp32 / 2 ^ 14)
    let later := highPassFilter dataIn ⟨sample, state.in1, out, state.out1⟩
    (out :: later.1, later.2)

/-- The loop of `AllPassFilter`. -/
def allPassLoop (filterCoefficient : Int) : List Int → Int → List Int × Int
  | [], state32 => ([], state32)
  | sample :: dataIn, state32 =>
    let tmp16 := int16 (int32 (state32 + filterCoefficient * sample) / 2 ^ 16)
    let later := allPassLoop filterCoefficient dataIn
      (int32 (int32 (sample * 2 ^ 14 - filterCoefficient * tmp16) * 2))
    (tmp16 :: later.1, later.2)

/-- Every second sample, from the first on. -/
def alternate : List Int → List Int
  | [] => []
  | [sample] => [sample]
  | sample :: _ :: dataIn => sample :: alternate dataIn

/-- `AllPassFilter` -/
def allPassFilter (dataIn : List Int) (dataLength : Nat) (filterCoefficient filterState : Int) :
    List Int × Int :=
  let looped := allPassLoop filterCoefficient ((alternate dataIn).take dataLength)
    (filterState * 2 ^ 16)
  (looped.1, int16 (looped.2 / 2 ^ 16))

structure Split where
  hpDataOut : List Int
  lpDataOut : List Int
  upperState : Int
  lowerState : Int

/-- `SplitFilter`, with the coefficients of `kAllPassCoefsQ15`. -/
def splitFilter (dataIn : List Int) (upperState lowerState : Int) : Split :=
  let halfLength := dataIn.length / 2
  let upper := allPassFilter dataIn halfLength 20972 upperState
  let lower := allPassFilter dataIn.tail halfLength 5571 lowerState
  ⟨upper.1.zipWith (fun hp lp => int16 (hp - lp)) lower.1,
    upper.1.zipWith (fun hp lp => int16 (lp + hp)) lower.1, upper.2, lower.2⟩

/-- An energy in 15 bits, and the shifts to the right that it took. -/
def normalize (energy : Nat) : Nat × Int :=
  let normalizingRshifts := 17 - normU32 energy
  (if normalizingRshifts < 0 then (energy <<< (-normalizingRshifts).toNat) % 2 ^ 32
    else energy >>> normalizingRshifts.toNat, normalizingRshifts)

def logNormalized (energy : Nat) (totRshifts : Int) : Int :=
  let log2Energy := int16 (kLogEnergyIntPart + (((energy &&& 0x3FFF) >>> 4 : Nat) : Int))
  max 0 (int16 (kLogConst * log2Energy / 2 ^ 19 + totRshifts * kLogConst / 2 ^ 9))

/-- The total is an approximation that stops once it is above `kMinEnergy`. -/
def addEnergy (totalEnergy : Int) (energy : Nat) (totRshifts : Int) : Int :=
  if totalEnergy ≤ kMinEnergy then
    if totRshifts ≥ 0 then int16 (totalEnergy + (kMinEnergy + 1))
    else int16 (totalEnergy + int16 (energy >>> (-totRshifts).toNat : Nat))
  else totalEnergy

/-- `LogOfEnergy`: the total energy, and the logarithm. -/
def logOfEnergy (dataIn : List Int) (offset totalEnergy : Int) : Int × Int :=
  let measured := WebRtcSpl.energy dataIn
  let energy := (measured.1 % 2 ^ 32).toNat
  if energy ≠ 0 then
    let normalized := normalize energy
    let totRshifts := measured.2 + normalized.2
    (addEnergy totalEnergy normalized.1 totRshifts,
      int16 (logNormalized normalized.1 totRshifts + offset))
  else (totalEnergy, offset)

/-- The filter states of `VadInstT`. -/
structure Filters where
  upperState : List Int
  lowerState : List Int
  hpFilterState : HighPass
  deriving DecidableEq, Repr

/-- The bands of a frame, from the highest to the lowest, and the filters behind them. -/
def splitBands (self : Filters) (dataIn : List Int) : List (List Int) × Filters :=
  let split (band : Nat) (dataIn : List Int) :=
    splitFilter dataIn (self.upperState.getD band 0) (self.lowerState.getD band 0)
  let whole := split 0 dataIn
  let upper := split 1 whole.hpDataOut
  let lower := split 2 whole.lpDataOut
  let low := split 3 lower.lpDataOut
  let lowest := split 4 low.lpDataOut
  let high := highPassFilter lowest.lpDataOut self.hpFilterState
  ([upper.hpDataOut, upper.lpDataOut, lower.hpDataOut, low.hpDataOut, lowest.hpDataOut, high.1],
    ⟨[whole.upperState, upper.upperState, lower.upperState, low.upperState, lowest.upperState],
      [whole.lowerState, upper.lowerState, lower.lowerState, low.lowerState, lowest.lowerState],
      high.2⟩)

/-- The logarithms of the bands from the highest to the lowest: the total energy, and the
features from the lowest to the highest. -/
def logBands : List (List Int × Int) → Int → List Int → Int × List Int
  | [], totalEnergy, features => (totalEnergy, features)
  | (dataIn, offset) :: bands, totalEnergy, features =>
    let logged := logOfEnergy dataIn offset totalEnergy
    logBands bands logged.1 (logged.2 :: features)

/-- `WebRtcVad_CalculateFeatures`: the total energy, the features and the filters. -/
def calculateFeatures (self : Filters) (dataIn : List Int) : Int × List Int × Filters :=
  let split := splitBands self dataIn
  let logged := logBands (split.1.zip kOffsetVector.reverse) 0 []
  (logged.1, logged.2, split.2)

end Assistantd.WebRtcVad
