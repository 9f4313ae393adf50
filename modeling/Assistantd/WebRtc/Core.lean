import Assistantd.WebRtc.Filterbank
import Assistantd.WebRtc.Minimum
import Assistantd.WebRtc.Resample

/-! vad_gmm.c and vad_core.c: whether a frame is speech. The tables of `VadInstT` are kept
by columns: `noise_means[channel + k * kNumChannels]` is the mean of the noise model's
`k`th Gaussian in the channel's band. -/
namespace Assistantd.WebRtcVad

open Fixed WebRtcSpl

def kSpectrumWeight : List Int := [6, 8, 10, 12, 14, 16]

def kMinimumDifference : List Int := [544, 544, 576, 576, 576, 576]

def kMaximumSpeech : List Int := [11392, 11392, 11520, 11520, 11520, 11520]

def kMaximumNoise : List Int := [9216, 9088, 8960, 8832, 8704, 8576]

def kNoiseDataWeights : List Int := [34, 62, 72, 66, 53, 25, 94, 66, 56, 62, 75, 103]

def kSpeechDataWeights : List Int := [48, 82, 45, 87, 50, 47, 80, 46, 83, 41, 78, 81]

def kNoiseDataMeans : List Int :=
  [6738, 4892, 7065, 6715, 6771, 3369, 7646, 3863, 7820, 7266, 5020, 4362]

def kSpeechDataMeans : List Int :=
  [8306, 10085, 10078, 11823, 11843, 6309, 9473, 9571, 10879, 7581, 8180, 7483]

def kNoiseDataStds : List Int := [378, 1064, 493, 582, 688, 593, 474, 697, 475, 688, 421, 455]

def kSpeechDataStds : List Int := [555, 505, 567, 524, 585, 1231, 509, 828, 492, 1540, 1079, 850]

def kMinStd : Int := 384

def kMaxSpeechFrames : Int := 6

/-! ## vad_gmm.c -/

/-- `exp_value`: the exponential of a square distance, zero where it is too small. -/
def expValue (tmp32 : Int) : Int :=
  if tmp32 < 22005 then
    let tmp16 := int16 (-int16 (5909 * tmp32 / 2 ^ 12))
    let expValue := 0x0400 + tmp16 % 0x0400
    let tmp16 := int16 (~~~tmp16 / 2 ^ 10 + 1)
    expValue / 2 ^ tmp16.toNat
  else 0

/-- `WebRtcVad_GaussianProbability`: the probability, and `delta`. -/
def gaussianProbability (input mean std : Int) : Int × Int :=
  let invStd := int16 (divW32W16 (131072 + std / 2) std)
  let tmp16 := invStd / 2 ^ 2
  let invStd2 := int16 (tmp16 * tmp16 / 2 ^ 2)
  let tmp16 := int16 (int16 (input * 2 ^ 3) - mean)
  let delta := int16 (invStd2 * tmp16 / 2 ^ 10)
  let tmp32 := delta * tmp16 / 2 ^ 9
  (int32 (invStd * expValue tmp32), delta)

/-! ## vad_core.c -/

structure Gaussian where
  mean : Int
  std : Int
  deriving DecidableEq, Repr

/-- The two Gaussians of a model, `kNumGaussians` of them. -/
structure Mixture where
  first : Gaussian
  second : Gaussian
  deriving DecidableEq, Repr

structure Band where
  noise : Mixture
  speech : Mixture
  minimum : Minimum
  deriving DecidableEq, Repr

structure VadInst where
  vad : Int
  downsamplingFilterStates : (Int × Int) × (Int × Int)
  state48To8 : WebRtcSpl.State48khzTo8khz
  bands : List Band
  frameCounter : Int
  overHang : Int
  numOfSpeech : Int
  filters : Filters
  overHangMax1 : List Int
  overHangMax2 : List Int
  individual : List Int
  total : List Int
  deriving DecidableEq, Repr

/-- The table entries of the two Gaussians of a channel. -/
def column (table : List Int) (channel : Nat) : Int × Int :=
  (table.getD channel 0, table.getD (channel + kNumChannels) 0)

def Mixture.average (m : Mixture) (weights : Int × Int) : Int :=
  m.first.mean * weights.1 + m.second.mean * weights.2

/-- What `WeightedAverage` does to the means with an offset. -/
def Mixture.shift (m : Mixture) (offset : Int) : Mixture :=
  ⟨{ m.first with mean := int16 (m.first.mean + offset) },
    { m.second with mean := int16 (m.second.mean + offset) }⟩

/-- How likely a feature is in one model: the total, the conditional probabilities of the
two Gaussians, and how far the feature is from each. -/
structure Likelihood where
  test : Int
  probability : Int × Int
  delta : Int × Int
  deriving DecidableEq, Repr

/-- The conditional probabilities, with the share of the first Gaussian where the whole
model is `unlikely`. -/
def conditional (test probability unlikely : Int) : Int × Int :=
  let h := int16 (test / 2 ^ 12)
  if h > 0 then
    let tmp32 := int32 ((((probability % 2 ^ 32).toNat &&& 0xFFFFF000) <<< 2 : Nat) : Int)
    let share := int16 (divW32W16 tmp32 h)
    (share, int16 (16384 - share))
  else (unlikely, 0)

def Mixture.likelihood (m : Mixture) (weights : Int × Int) (feature unlikely : Int) : Likelihood :=
  let first := gaussianProbability feature m.first.mean m.first.std
  let second := gaussianProbability feature m.second.mean m.second.std
  let probability := int32 (weights.1 * first.1)
  let test := int32 (probability + int32 (weights.2 * second.1))
  ⟨test, conditional test probability unlikely, first.2, second.2⟩

def shifts (test : Int) : Int := if test = 0 then 31 else normW32 test

/-- The two models of a band on a feature. -/
structure Judged where
  noise : Likelihood
  speech : Likelihood
  logLikelihoodRatio : Int
  deriving DecidableEq, Repr

def Band.judge (b : Band) (channel : Nat) (feature : Int) : Judged :=
  let noise := b.noise.likelihood (column kNoiseDataWeights channel) feature 16384
  let speech := b.speech.likelihood (column kSpeechDataWeights channel) feature 0
  ⟨noise, speech, int16 (shifts noise.test - shifts speech.test)⟩

/-- The mean of a noise Gaussian, on a frame that is `noise` only or not. -/
def noiseMean (noise : Bool) (k channel : Nat) (g : Gaussian)
    (probability delta featureMinimum globalMean : Int) : Int :=
  let nmk2 :=
    if noise then
      let delt := int16 (probability * delta / 2 ^ 11)
      int16 (g.mean + int16 (delt * 655 / 2 ^ 22))
    else g.mean
  let ndelt := int16 (featureMinimum * 2 ^ 4 - globalMean)
  let nmk3 := int16 (nmk2 + int16 (ndelt * 154 / 2 ^ 9))
  min (max nmk3 ((k + 5) * 128)) ((72 + k - channel) * 128)

def noiseStd (feature : Int) (g : Gaussian) (probability delta : Int) : Int :=
  let tmp16 := int16 (feature - g.mean / 2 ^ 3)
  let tmp32 := int32 (delta * tmp16 / 2 ^ 3 - 4096)
  let tmp16 := (probability + 2) / 2 ^ 2
  let tmp32 := int32 (tmp16 * tmp32) / 2 ^ 14
  let tmp16 :=
    if tmp32 > 0 then int16 (divW32W16 tmp32 g.std)
    else int16 (-int16 (divW32W16 (-tmp32) g.std))
  max (int16 (g.std + int16 (tmp16 + 32) / 2 ^ 6)) kMinStd

def speechMean (minimumMean maxspe : Int) (g : Gaussian) (probability delta : Int) : Int :=
  let delt := int16 (probability * delta / 2 ^ 11)
  let tmp16 := int16 (delt * 6554 / 2 ^ 21)
  let smk2 := int16 (g.mean + (tmp16 + 1) / 2)
  min (max smk2 minimumMean) (int16 (maxspe + 640))

def speechStd (feature : Int) (g : Gaussian) (probability delta : Int) : Int :=
  let tmp16 := int16 (feature - int16 ((g.mean + 4) / 2 ^ 3))
  let tmp32 := int32 (delta * tmp16 / 2 ^ 3 - 4096)
  let tmp16 := probability / 2 ^ 2
  let tmp32 := int32 (tmp16 * tmp32) / 2 ^ 4
  let den := int16 (g.std * 10)
  let tmp16 :=
    if tmp32 > 0 then int16 (divW32W16 tmp32 den)
    else int16 (-int16 (divW32W16 (-tmp32) den))
  max (int16 (g.std + int16 (tmp16 + 128) / 2 ^ 8)) kMinStd

/-- The upper limit of a channel's speech means comes from the channel before. -/
def maxspe : Nat → Int
  | 0 => 12800
  | channel + 1 => kMaximumSpeech.getD channel 0

/-- The models are moved apart where they are too close: the noise, and the speech. -/
def separate (channel : Nat) (noise speech : Mixture) : Mixture × Mixture :=
  let speechGlobalMean := speech.average (column kSpeechDataWeights channel)
  let noiseGlobalMean := noise.average (column kNoiseDataWeights channel)
  let diff := int16 (int16 (speechGlobalMean / 2 ^ 9) - int16 (noiseGlobalMean / 2 ^ 9))
  let least := kMinimumDifference.getD channel 0
  if diff < least then
    let tmp16 := int16 (least - diff)
    (noise.shift (int16 (-int16 (3 * tmp16 / 2 ^ 2))), speech.shift (int16 (13 * tmp16 / 2 ^ 2)))
  else (noise, speech)

/-- A model that has drifted too high is moved down. -/
def Mixture.limit (m : Mixture) (weights : Int × Int) (maximum : Int) : Mixture :=
  let tmp16 := int16 (m.average weights / 2 ^ 7)
  if tmp16 > maximum then m.shift (-int16 (tmp16 - maximum)) else m

/-- The Gaussians of a band after a frame that is speech or not: the noise, and the speech. -/
def Band.update (b : Band) (speech : Bool) (featureMinimum : Int) (channel : Nat) (feature : Int)
    (judged : Judged) : Mixture × Mixture :=
  let globalMean := int16 (b.noise.average (column kNoiseDataWeights channel) / 2 ^ 6)
  let noise (k : Nat) (g : Gaussian) (probability delta : Int) : Gaussian :=
    ⟨noiseMean (!speech) k channel g probability delta featureMinimum globalMean,
      if speech then g.std else noiseStd feature g probability delta⟩
  let spoken (minimumMean : Int) (g : Gaussian) (probability delta : Int) : Gaussian :=
    if speech then
      ⟨speechMean minimumMean (maxspe channel) g probability delta,
        speechStd feature g probability delta⟩
    else g
  (⟨noise 0 b.noise.first judged.noise.probability.1 judged.noise.delta.1,
      noise 1 b.noise.second judged.noise.probability.2 judged.noise.delta.2⟩,
    ⟨spoken 640 b.speech.first judged.speech.probability.1 judged.speech.delta.1,
      spoken 768 b.speech.second judged.speech.probability.2 judged.speech.delta.2⟩)

/-- What a frame teaches the models of a band. -/
def Band.learn (b : Band) (speech : Bool) (frameCounter : Int) (channel : Nat) (feature : Int)
    (judged : Judged) : Band :=
  let minimum := findMinimum frameCounter b.minimum feature
  let updated := b.update speech minimum.meanValue channel feature judged
  let separated := separate channel updated.1 updated.2
  ⟨separated.1.limit (column kNoiseDataWeights channel) (kMaximumNoise.getD channel 0),
    separated.2.limit (column kSpeechDataWeights channel) (kMaximumSpeech.getD channel 0), minimum⟩

namespace VadInst

def emptyBand : Band := ⟨⟨⟨0, 0⟩, ⟨0, 0⟩⟩, ⟨⟨0, 0⟩, ⟨0, 0⟩⟩, ⟨[], 0⟩⟩

def band (self : VadInst) (channel : Nat) : Band := self.bands.getD channel emptyBand

def judge (self : VadInst) (features : List Int) : List Judged :=
  (List.range kNumChannels).map fun channel =>
    (self.band channel).judge channel (features.getD channel 0)

def sumLogLikelihoodRatios (judged : List Judged) : Int :=
  ((judged.zip kSpectrumWeight).map fun (j, weight) => j.logLikelihoodRatio * weight).sum

/-- Thresholds for frames of 80, 160 or 240 samples. -/
def threshold (table : List Int) (frameLength : Nat) : Int :=
  table.getD (if frameLength = 80 then 0 else if frameLength = 160 then 1 else 2) 0

/-- The decision on the frame alone: a local one in any of the bands, or the global one. -/
def decision (self : VadInst) (frameLength : Nat) (judged : List Judged) : Bool :=
  judged.any (fun j => j.logLikelihoodRatio * 4 > threshold self.individual frameLength) ||
    sumLogLikelihoodRatios judged ≥ threshold self.total frameLength

def learn (self : VadInst) (speech : Bool) (features : List Int) (judged : List Judged) : VadInst :=
  { self with
    bands := (List.range kNumChannels).map fun channel =>
      let silent : Likelihood := ⟨0, (0, 0), (0, 0)⟩
      (self.band channel).learn speech self.frameCounter channel (features.getD channel 0)
        (judged.getD channel ⟨silent, silent, 0⟩)
    frameCounter := int32 (self.frameCounter + 1) }

/-- The transition hysteresis: speech is reported for some frames longer. -/
def smooth (self : VadInst) (speech : Bool) (frameLength : Nat) : Int × VadInst :=
  if !speech then
    if self.overHang > 0 then
      (int16 (2 + self.overHang),
        { self with overHang := int16 (self.overHang - 1), numOfSpeech := 0 })
    else (0, { self with numOfSpeech := 0 })
  else if int16 (self.numOfSpeech + 1) > kMaxSpeechFrames then
    (1, { self with
      numOfSpeech := kMaxSpeechFrames
      overHang := threshold self.overHangMax2 frameLength })
  else
    (1, { self with
      numOfSpeech := int16 (self.numOfSpeech + 1)
      overHang := threshold self.overHangMax1 frameLength })

/-- `GmmProbability` -/
def gmmProbability (self : VadInst) (features : List Int) (totalPower : Int) (frameLength : Nat) :
    Int × VadInst :=
  if totalPower > kMinEnergy then
    let judged := self.judge features
    let speech := self.decision frameLength judged
    (self.learn speech features judged).smooth speech frameLength
  else self.smooth false frameLength

/-- `WebRtcVad_set_mode_core`; in any other mode nothing changes. -/
def setModeCore (self : VadInst) (mode : Int) : Int × VadInst :=
  match mode with
  | 0 => (0, { self with
      overHangMax1 := [8, 4, 3]
      overHangMax2 := [14, 7, 5]
      individual := [24, 21, 24]
      total := [57, 48, 57] })
  | 1 => (0, { self with
      overHangMax1 := [8, 4, 3]
      overHangMax2 := [14, 7, 5]
      individual := [37, 32, 37]
      total := [100, 80, 100] })
  | 2 => (0, { self with
      overHangMax1 := [6, 3, 2]
      overHangMax2 := [9, 5, 3]
      individual := [82, 78, 82]
      total := [285, 260, 285] })
  | 3 => (0, { self with
      overHangMax1 := [6, 3, 2]
      overHangMax2 := [9, 5, 3]
      individual := [94, 94, 94]
      total := [1100, 1050, 1100] })
  | _ => (-1, self)

def initBand (channel : Nat) : Band :=
  let mixture (means stds : List Int) : Mixture :=
    ⟨⟨(column means channel).1, (column stds channel).1⟩,
      ⟨(column means channel).2, (column stds channel).2⟩⟩
  ⟨mixture kNoiseDataMeans kNoiseDataStds, mixture kSpeechDataMeans kSpeechDataStds,
    ⟨List.replicate 16 ⟨0, 10000⟩, 1600⟩⟩

/-- `WebRtcVad_InitCore` -/
def initCore : VadInst :=
  (setModeCore
    { vad := 1
      downsamplingFilterStates := ((0, 0), (0, 0))
      state48To8 := .reset
      bands := (List.range kNumChannels).map initBand
      frameCounter := 0
      overHang := 0
      numOfSpeech := 0
      filters := ⟨List.replicate 5 0, List.replicate 5 0, ⟨0, 0, 0, 0⟩⟩
      overHangMax1 := []
      overHangMax2 := []
      individual := []
      total := [] } 0).2

/-- `WebRtcVad_CalcVad8khz` -/
def calcVad8khz (self : VadInst) (speechFrame : List Int) : Int × VadInst :=
  let calculated := calculateFeatures self.filters speechFrame
  let judged := { self with filters := calculated.2.2 }.gmmProbability calculated.2.1 calculated.1
    speechFrame.length
  (judged.1, { judged.2 with vad := judged.1 })

/-- `WebRtcVad_CalcVad16khz` -/
def calcVad16khz (self : VadInst) (speechFrame : List Int) : Int × VadInst :=
  let narrow := downsampling speechFrame self.downsamplingFilterStates.1
  calcVad8khz
    { self with downsamplingFilterStates := (narrow.2, self.downsamplingFilterStates.2) } narrow.1

/-- `WebRtcVad_CalcVad32khz` -/
def calcVad32khz (self : VadInst) (speechFrame : List Int) : Int × VadInst :=
  let wide := downsampling speechFrame self.downsamplingFilterStates.2
  let narrow := downsampling wide.1 self.downsamplingFilterStates.1
  calcVad8khz { self with downsamplingFilterStates := (narrow.2, wide.2) } narrow.1

/-- `WebRtcVad_CalcVad48khz`, which takes the first 10 ms again for every 10 ms. -/
def calcVad48khz (self : VadInst) (speechFrame : List Int) : Int × VadInst :=
  let resampled := (List.range (speechFrame.length / 480)).foldl (fun (out, state) _ =>
    let block := WebRtcSpl.resample48khzTo8khz (speechFrame.take 480) state
    (out ++ block.1, block.2)) ([], self.state48To8)
  calcVad8khz { self with state48To8 := resampled.2 } resampled.1

end VadInst

end Assistantd.WebRtcVad
