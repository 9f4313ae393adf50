import Mathlib.Tactic.IntervalCases
import Assistantd.WebRtc.Core

/-! The noise model and the speech model of each band, over any run of frames. -/
namespace Assistantd.WebRtcVad

open Fixed WebRtcSpl

namespace Mixture

/-- Both means moved, without a word's limits. -/
def moved (m : Mixture) (offset : Int) : Mixture :=
  ⟨{ m.first with mean := m.first.mean + offset },
    { m.second with mean := m.second.mean + offset }⟩

def Within (m : Mixture) (low high : Int) : Prop :=
  (low ≤ m.first.mean ∧ m.first.mean ≤ high) ∧ low ≤ m.second.mean ∧ m.second.mean ≤ high

/-- Both deviations are a word's, and none is narrower than the narrowest of the start. -/
def Broad (m : Mixture) : Prop :=
  (378 ≤ m.first.std ∧ m.first.std < 32768) ∧ 378 ≤ m.second.std ∧ m.second.std < 32768

theorem shift_moved {m : Mixture} {offset low high : Int} (within : m.Within low high)
    (small : -32768 ≤ low + offset ∧ high + offset < 32768) : m.shift offset = m.moved offset := by
  obtain ⟨⟨low₁, high₁⟩, low₂, high₂⟩ := within
  rw [shift, moved, int16_of_fits (by omega) (by omega), int16_of_fits (by omega) (by omega)]

theorem Within.moved {m : Mixture} {low high : Int} (within : m.Within low high) (offset : Int) :
    (m.moved offset).Within (low + offset) (high + offset) := by
  obtain ⟨⟨low₁, high₁⟩, low₂, high₂⟩ := within
  exact ⟨⟨Int.add_le_add_right low₁ _, Int.add_le_add_right high₁ _⟩,
    Int.add_le_add_right low₂ _, Int.add_le_add_right high₂ _⟩

theorem Broad.moved {m : Mixture} (broad : m.Broad) (offset : Int) : (m.moved offset).Broad := broad

/-- The weights of a model are parts of 128. -/
def Weights (w : Int × Int) : Prop := 0 ≤ w.1 ∧ 0 ≤ w.2 ∧ w.1 + w.2 = 128

theorem average_moved {m : Mixture} {w : Int × Int} (weights : Weights w) (offset : Int) :
    (m.moved offset).average w = m.average w + 128 * offset := by
  rw [← weights.2.2]
  simp only [average, moved]
  ring

theorem average_within {m : Mixture} {w : Int × Int} {low high : Int} (weights : Weights w)
    (within : m.Within low high) : 128 * low ≤ m.average w ∧ m.average w ≤ 128 * high := by
  obtain ⟨positive₁, positive₂, whole⟩ := weights
  obtain ⟨⟨low₁, high₁⟩, low₂, high₂⟩ := within
  rw [← whole, average]
  constructor <;> nlinarith

end Mixture

open Mixture

theorem noise_weights {channel : Nat} (listed : channel < kNumChannels) :
    Weights (column kNoiseDataWeights channel) := by
  have all : ∀ channel < kNumChannels, 0 ≤ (column kNoiseDataWeights channel).1 ∧
      0 ≤ (column kNoiseDataWeights channel).2 ∧
      (column kNoiseDataWeights channel).1 + (column kNoiseDataWeights channel).2 = 128 := by decide
  exact all channel listed

theorem speech_weights {channel : Nat} (listed : channel < kNumChannels) :
    Weights (column kSpeechDataWeights channel) := by
  have all : ∀ channel < kNumChannels, 0 ≤ (column kSpeechDataWeights channel).1 ∧
      0 ≤ (column kSpeechDataWeights channel).2 ∧
      (column kSpeechDataWeights channel).1 + (column kSpeechDataWeights channel).2 = 128 := by
    decide
  exact all channel listed

/-- What the limits of a channel have to do with each other. -/
theorem limits {channel : Nat} (listed : channel < kNumChannels) :
    (544 ≤ kMinimumDifference.getD channel 0 ∧ kMinimumDifference.getD channel 0 ≤ 576) ∧
      (8576 ≤ kMaximumNoise.getD channel 0 ∧ kMaximumNoise.getD channel 0 ≤ 9216) ∧
      (11392 ≤ kMaximumSpeech.getD channel 0 ∧ kMaximumSpeech.getD channel 0 ≤ 11520) ∧
      4 * kMinimumDifference.getD channel 0 + kMaximumNoise.getD channel 0 ≤
        kMaximumSpeech.getD channel 0 ∧
      11392 ≤ maxspe channel ∧ maxspe channel ≤ 12800 := by
  have all : ∀ channel < kNumChannels,
      (544 ≤ kMinimumDifference.getD channel 0 ∧ kMinimumDifference.getD channel 0 ≤ 576) ∧
      (8576 ≤ kMaximumNoise.getD channel 0 ∧ kMaximumNoise.getD channel 0 ≤ 9216) ∧
      (11392 ≤ kMaximumSpeech.getD channel 0 ∧ kMaximumSpeech.getD channel 0 ≤ 11520) ∧
      4 * kMinimumDifference.getD channel 0 + kMaximumNoise.getD channel 0 ≤
        kMaximumSpeech.getD channel 0 ∧
      11392 ≤ maxspe channel ∧ maxspe channel ≤ 12800 := by decide
  exact all channel listed

/-- The speech model of a channel: neither mean is far from the other, and their average is
not above the maximum. -/
structure Mixture.Spoken (m : Mixture) (channel : Nat) : Prop where
  low : 640 ≤ m.first.mean ∧ 640 ≤ m.second.mean
  spread : m.first.mean - m.second.mean ≤ maxspe channel ∧
    m.second.mean - m.first.mean ≤ maxspe channel
  ceiling : m.average (column kSpeechDataWeights channel) <
    128 * (kMaximumSpeech.getD channel 0 + 1)

structure Band.Sound (b : Band) (channel : Nat) : Prop where
  noise : b.noise.Within (-1424) 9344
  speech : b.speech.Spoken channel
  broad : b.noise.Broad ∧ b.speech.Broad

/-- The noise model is below its maximum, and the speech model above the noise model: the
averages are weighted by 128, and the minimum difference is in steps of 4. -/
structure Band.Apart (b : Band) (channel : Nat) : Prop where
  ceiling : b.noise.average (column kNoiseDataWeights channel) <
    128 * (kMaximumNoise.getD channel 0 + 1)
  apart : b.noise.average (column kNoiseDataWeights channel) +
      512 * kMinimumDifference.getD channel 0 ≤
    b.speech.average (column kSpeechDataWeights channel) + 639

/-- No mean of a speech model is so high that a feature's distance from it overflows. -/
theorem Mixture.Spoken.within {m : Mixture} {channel : Nat} (listed : channel < kNumChannels)
    (h : m.Spoken channel) : m.Within 640 19555 := by
  obtain ⟨⟨low₁, low₂⟩, ⟨spread₁, spread₂⟩, ceiling⟩ := h
  unfold kNumChannels at listed
  refine ⟨⟨low₁, ?_⟩, low₂, ?_⟩ <;> interval_cases channel <;>
    simp only [maxspe, Mixture.average, column, kMaximumSpeech, kSpeechDataWeights, kNumChannels,
      List.getD_cons_zero, List.getD_cons_succ, Nat.reduceAdd] at spread₁ spread₂ ceiling <;> omega

/-- Where a model that has drifted is moved back, its lower mean stays well above zero. -/
theorem limited_low {m : Mixture} {channel : Nat} (listed : channel < kNumChannels)
    (spread : m.first.mean - m.second.mean ≤ maxspe channel ∧
      m.second.mean - m.first.mean ≤ maxspe channel)
    (high : 128 * kMaximumSpeech.getD channel 0 ≤ m.average (column kSpeechDataWeights channel)) :
    640 ≤ m.first.mean ∧ 640 ≤ m.second.mean := by
  obtain ⟨spread₁, spread₂⟩ := spread
  unfold kNumChannels at listed
  constructor <;> interval_cases channel <;>
    simp only [maxspe, Mixture.average, column, kMaximumSpeech, kSpeechDataWeights, kNumChannels,
      List.getD_cons_zero, List.getD_cons_succ, Nat.reduceAdd] at spread₁ spread₂ high <;> omega

theorem limit_moved {m : Mixture} {w : Int × Int} {maximum low high : Int} (weights : Weights w)
    (within : m.Within low high) (bounds : -32768 ≤ low ∧ high < 32768)
    (reached : 0 ≤ maximum ∧ maximum < 32768 ∧ -32768 ≤ low + maximum - high) :
    ∃ excess, 0 ≤ excess ∧ m.limit w maximum = m.moved (-excess) ∧
      m.average w - 128 * excess < 128 * (maximum + 1) ∧
      (excess = 0 ∨ 128 * maximum ≤ m.average w - 128 * excess) := by
  have inside := average_within weights within
  have same : m.moved (-0) = m := by
    simp only [moved, neg_zero, add_zero]
  rw [limit, int16_of_fits (by omega) (by omega)]
  split
  · rename_i beyond
    rw [int16_of_fits (by omega) (by omega), shift_moved within (by omega)]
    exact ⟨_, by omega, rfl, by omega, .inr (by omega)⟩
  · rename_i under
    exact ⟨0, le_rfl, same.symm, by omega, .inl rfl⟩

/-- Moved apart, the models are as far from each other as they have to be, but for rounding. -/
theorem separate_moved {channel : Nat} (listed : channel < kNumChannels) {noise speech : Mixture}
    (low : noise.Within 640 9344) (high : speech.Within 640 19555) :
    ∃ down up, (0 ≤ down ∧ down ≤ 2064) ∧ (0 ≤ up ∧ up ≤ 8944) ∧
      separate channel noise speech = (noise.moved (-down), speech.moved up) ∧
      noise.average (column kNoiseDataWeights channel) - 128 * down +
          512 * kMinimumDifference.getD channel 0 ≤
        speech.average (column kSpeechDataWeights channel) + 128 * up + 639 := by
  have below := average_within (noise_weights listed) low
  have above := average_within (speech_weights listed) high
  obtain ⟨least, -⟩ := limits listed
  have unmoved (m : Mixture) : m.moved 0 = m := by
    simp only [moved, add_zero]
  simp only [separate]
  rw [int16_of_fits (x := speech.average _ / 2 ^ 9) (by omega) (by omega),
    int16_of_fits (x := noise.average _ / 2 ^ 9) (by omega) (by omega),
    int16_of_fits (x := speech.average _ / 2 ^ 9 - _) (by omega) (by omega)]
  split
  · rename_i close
    rw [int16_of_fits (x := kMinimumDifference.getD channel 0 - _) (by omega) (by omega),
      int16_of_fits (x := 3 * _ / 2 ^ 2) (by omega) (by omega),
      int16_of_fits (x := -_) (by omega) (by omega),
      int16_of_fits (x := 13 * _ / 2 ^ 2) (by omega) (by omega),
      shift_moved low (by omega), shift_moved high (by omega)]
    exact ⟨_, _, by omega, by omega, rfl, by omega⟩
  · rename_i far
    refine ⟨0, 0, by decide, by decide, ?_, by omega⟩
    rw [neg_zero, unmoved, unmoved]

theorem noiseMean_within {channel k : Nat} (listed : channel < kNumChannels) (second : k ≤ 1)
    (noise : Bool) (g : Gaussian) (probability delta featureMinimum globalMean : Int) :
    640 ≤ noiseMean noise k channel g probability delta featureMinimum globalMean ∧
      noiseMean noise k channel g probability delta featureMinimum globalMean ≤ 9344 := by
  unfold kNumChannels at listed
  rw [noiseMean]
  omega

theorem noiseStd_broad (feature : Int) (g : Gaussian) (probability delta : Int) :
    378 ≤ noiseStd feature g probability delta ∧ noiseStd feature g probability delta < 32768 :=
  ⟨le_trans (by decide) (le_max_right _ _), max_lt (int16_range _).2 (by decide)⟩

theorem speechStd_broad (feature : Int) (g : Gaussian) (probability delta : Int) :
    378 ≤ speechStd feature g probability delta ∧ speechStd feature g probability delta < 32768 :=
  ⟨le_trans (by decide) (le_max_right _ _), max_lt (int16_range _).2 (by decide)⟩

theorem speechMean_within {minimumMean maxspe : Int} (least : 640 ≤ minimumMean)
    (limits : minimumMean ≤ maxspe + 640 ∧ maxspe ≤ 12800) (g : Gaussian)
    (probability delta : Int) :
    640 ≤ speechMean minimumMean maxspe g probability delta ∧
      speechMean minimumMean maxspe g probability delta ≤ maxspe + 640 := by
  rw [speechMean, int16_of_fits (x := maxspe + 640) (by omega) (by omega)]
  omega

/-- The limits that each Gaussian is held to on its own. -/
theorem Band.Sound.update {b : Band} {channel : Nat} (listed : channel < kNumChannels)
    (h : b.Sound channel) (speech : Bool) (featureMinimum feature : Int) (judged : Judged) :
    let updated := b.update speech featureMinimum channel feature judged
    updated.1.Within 640 9344 ∧ updated.2.Within 640 19555 ∧
      (updated.2.first.mean - updated.2.second.mean ≤ maxspe channel ∧
        updated.2.second.mean - updated.2.first.mean ≤ maxspe channel) ∧
      updated.1.Broad ∧ updated.2.Broad := by
  obtain ⟨-, -, -, -, highest⟩ := limits listed
  refine ⟨⟨noiseMean_within listed (Nat.zero_le 1) _ _ _ _ _ _,
    noiseMean_within listed le_rfl _ _ _ _ _ _⟩, ?_⟩
  cases speech with
  | true =>
    have first := @speechMean_within 640 (maxspe channel) (by decide) (by omega) b.speech.first
      judged.speech.probability.1 judged.speech.delta.1
    have second := @speechMean_within 768 (maxspe channel) (by decide) (by omega) b.speech.second
      judged.speech.probability.2 judged.speech.delta.2
    have near {x y : Int} (hx : x ≤ maxspe channel + 640) (hy : 640 ≤ y) :
        x - y ≤ maxspe channel := by
      omega
    exact ⟨⟨⟨first.1, le_trans first.2 (by omega)⟩, second.1, le_trans second.2 (by omega)⟩,
      ⟨near first.2 second.1, near second.2 first.1⟩, h.broad.1, speechStd_broad _ _ _ _,
      speechStd_broad _ _ _ _⟩
  | false =>
    exact ⟨h.speech.within listed, h.speech.spread,
      ⟨noiseStd_broad _ _ _ _, noiseStd_broad _ _ _ _⟩, h.broad.2⟩

/-- Whatever a frame is taken for, it leaves a band sound, and its models apart. -/
theorem Band.Sound.learn {b : Band} {channel : Nat} (listed : channel < kNumChannels)
    (h : b.Sound channel) (speech : Bool) (frameCounter feature : Int) (judged : Judged) :
    (b.learn speech frameCounter channel feature judged).Sound channel ∧
      (b.learn speech frameCounter channel feature judged).Apart channel := by
  obtain ⟨-, maximumNoise, maximumSpeech, room, highest⟩ := limits listed
  let minimum := findMinimum frameCounter b.minimum feature
  obtain ⟨low, high, spread, broad⟩ :=
    h.update listed speech minimum.meanValue feature judged
  generalize updated : b.update speech minimum.meanValue channel feature judged = both at *
  obtain ⟨noise, spoken⟩ := both
  dsimp only at low high spread broad
  obtain ⟨down, up, small, moderate, apart, distance⟩ := separate_moved listed low high
  obtain ⟨sunk, positive, lowered, under, held⟩ := @limit_moved _ _ (kMaximumNoise.getD channel 0) _ _
    (noise_weights listed) (low.moved (-down)) (by omega) (by omega)
  obtain ⟨cut, positive', lowered', under', held'⟩ := @limit_moved _ _
    (kMaximumSpeech.getD channel 0) _ _ (speech_weights listed) (high.moved up) (by omega) (by omega)
  have learnt : b.learn speech frameCounter channel feature judged =
      ⟨(noise.moved (-down)).moved (-sunk), (spoken.moved up).moved (-cut), minimum⟩ := by
    rw [Band.learn, updated, apart, ← lowered, ← lowered']
  have below := average_within (noise_weights listed) low
  have above := average_within (speech_weights listed) high
  have noiseMeans := low
  have speechMeans := high
  obtain ⟨⟨low₁, high₁⟩, low₂, high₂⟩ := low
  obtain ⟨⟨low₃, high₃⟩, low₄, high₄⟩ := high
  simp only [average_moved (noise_weights listed)] at under held
  simp only [average_moved (speech_weights listed)] at under' held'
  rw [learnt]
  refine ⟨⟨?_, ⟨?_, ?_, ?_⟩, broad⟩, ?_, ?_⟩
  · simp only [Mixture.Within, Mixture.moved]
    omega
  · rcases held' with kept | reached
    · simp only [Mixture.moved]
      omega
    · refine limited_low listed ?_ ?_
      · simp only [Mixture.moved]
        omega
      · simp only [average_moved (speech_weights listed)]
        omega
  · simp only [Mixture.moved]
    omega
  · simp only [average_moved (speech_weights listed)]
    omega
  · simp only [average_moved (noise_weights listed)]
    omega
  · simp only [average_moved (noise_weights listed), average_moved (speech_weights listed)]
    omega

end Assistantd.WebRtcVad
