import Assistantd.WebRtc.Models

/-! The likelihood of a frame's features in sound models: nothing overflows, and the
conditional probabilities of the Gaussians are a partition of one. -/
namespace Assistantd.WebRtcVad

open Fixed WebRtcSpl

/-! ## The probability in one Gaussian -/

/-- `exp_value` in unbounded integers. -/
def expExact (exponent : Int) : Int :=
  let log := 5909 * exponent / 4096
  if exponent < 22005 then (1024 + -log % 1024) / 2 ^ ((log - 1) / 1024 + 1).toNat else 0

/-- `WebRtcVad_GaussianProbability` in unbounded integers. -/
def gaussianExact (input mean std : Int) : Int × Int :=
  let invStd := (131072 + std / 2) / std
  let invStd2 := invStd / 4 * (invStd / 4) / 4
  let distance := 8 * input - mean
  let delta := invStd2 * distance / 1024
  (invStd * expExact (delta * distance / 512), delta)

theorem expValue_exact {exponent : Int} (positive : 0 ≤ exponent) :
    expValue exponent = expExact exponent := by
  simp only [expValue, expExact]
  split
  · rw [int16_of_fits (x := 5909 * exponent / 2 ^ 12) (by omega) (by omega),
      int16_of_fits (x := -(5909 * exponent / 2 ^ 12)) (by omega) (by omega), not_sub,
      int16_of_fits (by omega) (by omega), neg_neg]
    rfl
  · rfl

theorem expExact_range {exponent : Int} (positive : 0 ≤ exponent) :
    0 ≤ expExact exponent ∧ expExact exponent ≤ 1024 := by
  simp only [expExact]
  split
  · rename_i near
    obtain ⟨log, same⟩ : ∃ log, log = 5909 * exponent / 4096 := ⟨_, rfl⟩
    rw [← same]
    have power : (0 : Int) < 2 ^ ((log - 1) / 1024 + 1).toNat := Int.pow_pos (by decide)
    have rest : 0 ≤ -log % 1024 ∧ -log % 1024 < 1024 := by omega
    refine ⟨Int.ediv_nonneg (by omega) power.le, ?_⟩
    by_cases zero : log = 0
    · subst zero
      decide
    · obtain ⟨shift, more⟩ : ∃ shift, ((log - 1) / 1024 + 1).toNat = shift + 1 :=
        ⟨((log - 1) / 1024).toNat, by omega⟩
      have least : (0 : Int) < 2 ^ shift := Int.pow_pos (by decide)
      rw [more, pow_succ]
      refine Int.ediv_le_of_le_mul (by omega) ?_
      omega
  · exact ⟨le_rfl, by decide⟩

/-- A Gaussian that sound models may have, and a feature that a frame may have. -/
structure InRange (input mean std : Int) : Prop where
  input : 176 ≤ input ∧ input ≤ 2053
  mean : -1424 ≤ mean ∧ mean ≤ 19555
  std : 378 ≤ std ∧ std < 32768

namespace InRange

variable {input mean std : Int}

theorem inverse (h : InRange input mean std) :
    0 ≤ (131072 + std / 2) / std ∧ (131072 + std / 2) / std ≤ 347 := by
  have broad := h.std
  have positive : 0 < std := by omega
  constructor
  · exact Int.ediv_nonneg (by omega) positive.le
  · refine Int.le_of_lt_add_one (Int.ediv_lt_of_lt_mul positive ?_)
    omega

theorem square {r : Int} (h : 0 ≤ r ∧ r ≤ 347) :
    0 ≤ r / 4 * (r / 4) / 4 ∧ r / 4 * (r / 4) / 4 ≤ 1849 := by
  have range : 0 ≤ r / 4 ∧ r / 4 ≤ 86 := by omega
  have product := mul_range range range
  omega

theorem distance (h : InRange input mean std) :
    -18147 ≤ 8 * input - mean ∧ 8 * input - mean ≤ 18147 := by
  have input := h.input
  have mean := h.mean
  omega

/-- The distance and its multiple have the same sign. -/
theorem scaled {r d : Int} (square : 0 ≤ r ∧ r ≤ 1849) (near : -18147 ≤ d ∧ d ≤ 18147) :
    (-32768 ≤ r * d / 1024 ∧ r * d / 1024 < 32768) ∧ 0 ≤ r * d / 1024 * d := by
  have product := mul_bounds (A := 1849) (B := 18147) (a := r) ⟨by omega, square.2⟩ near
  refine ⟨by omega, ?_⟩
  rcases Int.le_total 0 d with positive | negative
  · exact Int.mul_nonneg (Int.ediv_nonneg (Int.mul_nonneg square.1 positive) (by decide)) positive
  · have below : r * d ≤ 0 := Int.mul_nonpos_of_nonneg_of_nonpos square.1 negative
    exact Int.mul_nonneg_of_nonpos_of_nonpos (by omega) negative

theorem exact_range (h : InRange input mean std) :
    0 ≤ (gaussianExact input mean std).1 ∧ (gaussianExact input mean std).1 ≤ 347 * 1024 :=
  mul_range h.inverse (expExact_range (Int.ediv_nonneg (scaled (square h.inverse) h.distance).2
    (by decide)))

/-- No step overflows, and no shift is out of range. -/
theorem exact (h : InRange input mean std) :
    gaussianProbability input mean std = gaussianExact input mean std := by
  have inverse := h.inverse
  have square := square inverse
  obtain ⟨fits, positive⟩ := scaled square h.distance
  have feature := h.input
  have centre := h.mean
  have broad := h.std
  have range := h.exact_range
  have quotient : int16 (divW32W16 (131072 + std / 2) std) = (131072 + std / 2) / std := by
    rw [divW32W16, if_pos (by omega), Int.tdiv_eq_ediv_of_nonneg (by omega),
      int32_of_fits (by omega) (by omega), int16_of_fits (by omega) (by omega)]
  have squared : int16 ((131072 + std / 2) / std / 4 * ((131072 + std / 2) / std / 4) / 4) =
      (131072 + std / 2) / std / 4 * ((131072 + std / 2) / std / 4) / 4 :=
    int16_of_fits (by omega) (by omega)
  have apart : int16 (int16 (input * 8) - mean) = 8 * input - mean := by
    rw [int16_of_fits (x := input * 8) (by omega) (by omega), int16_of_fits (by omega) (by omega)]
    omega
  simp only [gaussianExact] at range
  simp only [gaussianProbability, gaussianExact, Int.reducePow, quotient, squared, apart]
  rw [int16_of_fits fits.1 fits.2, expValue_exact (Int.ediv_nonneg positive (by decide)),
    int32_of_fits (by omega) (by omega)]

end InRange

/-! ## Both Gaussians of a model -/

/-- The probabilities of the two Gaussians, where all of them together are 16384: either is a
share, or all of it is `unlikely`. -/
def Shares (unlikely : Int) (p : Int × Int) : Prop :=
  p = (unlikely, 0) ∨ 0 ≤ p.1 ∧ 0 ≤ p.2 ∧ p.1 + p.2 = 16384

theorem conditional_shares {test probability : Int} (positive : 0 ≤ probability)
    (whole : probability ≤ test) (bounded : test ≤ 128 * (347 * 1024)) (unlikely : Int) :
    Shares unlikely (conditional test probability unlikely) := by
  obtain ⟨p, rfl⟩ := Int.eq_ofNat_of_zero_le positive
  have masked : ((p : Int) % 2 ^ 32).toNat &&& 0xFFFFF000 = p / 2 ^ 12 * 2 ^ 12 := by
    have word : p < 2 ^ (20 + 12) := by omega
    have same : ((p : Int) % 2 ^ 32).toNat = p := by omega
    rw [same]
    exact mask_rounds word
  simp only [conditional, masked, Nat.shiftLeft_eq]
  rw [int16_of_fits (x := test / 2 ^ 12) (by omega) (by omega),
    int32_of_fits (x := ((p / 2 ^ 12 * 2 ^ 12 * 2 ^ 2 : Nat) : Int)) (by omega) (by omega)]
  split
  · rename_i likely
    have share : 0 ≤ ((p / 2 ^ 12 * 2 ^ 12 * 2 ^ 2 : Nat) : Int) / (test / 2 ^ 12) ∧
        ((p / 2 ^ 12 * 2 ^ 12 * 2 ^ 2 : Nat) : Int) / (test / 2 ^ 12) ≤ 16384 :=
      ⟨Int.ediv_nonneg (Int.natCast_nonneg _) likely.le, Int.ediv_le_of_le_mul likely (by omega)⟩
    have divided : int16 (divW32W16 ((p / 2 ^ 12 * 2 ^ 12 * 2 ^ 2 : Nat) : Int) (test / 2 ^ 12)) =
        ((p / 2 ^ 12 * 2 ^ 12 * 2 ^ 2 : Nat) : Int) / (test / 2 ^ 12) := by
      rw [divW32W16, if_pos likely.ne', Int.tdiv_eq_ediv_of_nonneg (Int.natCast_nonneg _),
        int32_of_fits (by omega) (by omega), int16_of_fits (by omega) (by omega)]
    rw [divided]
    refine .inr ⟨share.1, ?_⟩
    dsimp only
    rw [int16_of_fits (by omega) (by omega)]
    omega
  · exact .inl rfl

/-- A likelihood that nothing overflowed in. -/
structure Likelihood.Sound (l : Likelihood) (unlikely : Int) : Prop where
  test : 0 ≤ l.test ∧ l.test ≤ 128 * (347 * 1024)
  shares : Shares unlikely l.probability

theorem Mixture.likelihood_sound {m : Mixture} {w : Int × Int} {feature : Int}
    (weights : Mixture.Weights w) (first : InRange feature m.first.mean m.first.std)
    (second : InRange feature m.second.mean m.second.std) (unlikely : Int) :
    (m.likelihood w feature unlikely).Sound unlikely := by
  obtain ⟨positive₁, positive₂, whole⟩ := weights
  have range₁ : 0 ≤ (gaussianProbability feature m.first.mean m.first.std).1 ∧
      (gaussianProbability feature m.first.mean m.first.std).1 ≤ 347 * 1024 :=
    first.exact ▸ first.exact_range
  have range₂ : 0 ≤ (gaussianProbability feature m.second.mean m.second.std).1 ∧
      (gaussianProbability feature m.second.mean m.second.std).1 ≤ 347 * 1024 :=
    second.exact ▸ second.exact_range
  have part₁ := mul_range ⟨positive₁, le_rfl⟩ range₁
  have part₂ := mul_range ⟨positive₂, le_rfl⟩ range₂
  have least : w.1 ≤ 128 ∧ w.2 ≤ 128 := by omega
  have test : w.1 * (347 * 1024) + w.2 * (347 * 1024) = 128 * (347 * 1024) := by
    rw [← Int.add_mul, whole]
  simp only [Mixture.likelihood]
  rw [int32_of_fits (x := w.1 * _) (by omega) (by omega),
    int32_of_fits (x := w.2 * _) (by omega) (by omega), int32_of_fits (by omega) (by omega)]
  exact ⟨by dsimp only; omega, conditional_shares part₁.1 (by omega) (by omega) unlikely⟩

theorem shifts_range {test : Int} (h : 0 ≤ test ∧ test ≤ 128 * (347 * 1024)) :
    0 ≤ shifts test ∧ shifts test ≤ 31 := by
  unfold shifts
  split
  · decide
  · rename_i positive
    have fits : bits test.toNat ≤ 31 := bits_le.mpr (by omega)
    rw [normW32_bits (by omega)]
    omega

/-- What a band's models make of a feature. -/
structure Judged.Sound (j : Judged) : Prop where
  noise : j.noise.Sound 16384
  speech : j.speech.Sound 0
  ratio : -31 ≤ j.logLikelihoodRatio ∧ j.logLikelihoodRatio ≤ 31

def Band.gaussians (b : Band) : List Gaussian :=
  [b.noise.first, b.noise.second, b.speech.first, b.speech.second]

theorem Band.Sound.inRange {b : Band} {channel : Nat} (listed : channel < kNumChannels)
    (h : b.Sound channel) {feature : Int} (range : 176 ≤ feature ∧ feature ≤ 2053) :
    ∀ g ∈ b.gaussians, InRange feature g.mean g.std := by
  obtain ⟨⟨low₁, high₁⟩, low₂, high₂⟩ := h.noise
  obtain ⟨⟨low₃, high₃⟩, low₄, high₄⟩ := h.speech.within listed
  obtain ⟨⟨broad₁, broad₂⟩, broad₃, broad₄⟩ := h.broad
  simp only [Band.gaussians, List.forall_mem_cons]
  exact ⟨⟨range, ⟨low₁, by omega⟩, broad₁⟩, ⟨range, ⟨low₂, by omega⟩, broad₂⟩,
    ⟨range, ⟨by omega, high₃⟩, broad₃⟩, ⟨range, ⟨by omega, high₄⟩, broad₄⟩, List.forall_mem_nil _⟩

theorem Band.Sound.judge {b : Band} {channel : Nat} (listed : channel < kNumChannels)
    (h : b.Sound channel) {feature : Int} (range : 176 ≤ feature ∧ feature ≤ 2053) :
    (b.judge channel feature).Sound := by
  have inRange := h.inRange listed range
  simp only [Band.gaussians, List.forall_mem_cons] at inRange
  obtain ⟨first, second, third, fourth, -⟩ := inRange
  have noise := Mixture.likelihood_sound (noise_weights listed) first second 16384
  have speech := Mixture.likelihood_sound (speech_weights listed) third fourth 0
  have shift := shifts_range noise.test
  have shift' := shifts_range speech.test
  refine ⟨noise, speech, ?_⟩
  dsimp only [Band.judge]
  rw [int16_of_fits (by omega) (by omega)]
  omega

end Assistantd.WebRtcVad
