import Assistantd.WebRtc.Likelihood

/-! The features of a frame stay within bounds, whatever is in the frame and in the filters. -/
namespace Assistantd.WebRtcVad

open Fixed WebRtcSpl

/-! ## The bands -/

/-- Samples that are words, fewer than `2 ^ width` of them. -/
structure Words (width : Nat) (v : List Int) : Prop where
  fit : ∀ x ∈ v, -32768 ≤ x ∧ x < 32768
  few : v.length < 2 ^ width

theorem allPassLoop_length (filterCoefficient : Int) (dataIn : List Int) (state32 : Int) :
    (allPassLoop filterCoefficient dataIn state32).1.length = dataIn.length := by
  induction dataIn generalizing state32 with
  | nil => rfl
  | cons sample dataIn ih => simp only [allPassLoop, List.length_cons, ih]

theorem alternate_length (dataIn : List Int) :
    (alternate dataIn).length = (dataIn.length + 1) / 2 := by
  fun_induction alternate dataIn with
  | case1 => rfl
  | case2 sample => simp
  | case3 sample other dataIn ih =>
    simp only [List.length_cons, ih]
    omega

theorem allPassFilter_length (dataIn : List Int) (filterCoefficient filterState : Int)
    {length : Nat} (enough : length ≤ (dataIn.length + 1) / 2) :
    (allPassFilter dataIn length filterCoefficient filterState).1.length = length := by
  simp only [allPassFilter, allPassLoop_length, List.length_take, alternate_length]
  omega

theorem splitFilter_lengths (dataIn : List Int) (upperState lowerState : Int) :
    (splitFilter dataIn upperState lowerState).hpDataOut.length = dataIn.length / 2 ∧
      (splitFilter dataIn upperState lowerState).lpDataOut.length = dataIn.length / 2 := by
  have lower : dataIn.length / 2 ≤ (dataIn.tail.length + 1) / 2 := by
    rw [List.length_tail]
    omega
  simp only [splitFilter, List.length_zipWith, allPassFilter_length _ _ _ lower,
    allPassFilter_length dataIn _ _ (show dataIn.length / 2 ≤ (dataIn.length + 1) / 2 by omega)]
  omega

theorem zipWith_fit {f : Int → Int → Int} (v w : List Int) :
    ∀ x ∈ v.zipWith (fun a b => int16 (f a b)) w, -32768 ≤ x ∧ x < 32768 := by
  rw [← List.map_uncurry_zip_eq_zipWith]
  exact List.forall_mem_map.mpr fun pair _ => int16_range _

theorem splitFilter_words {dataIn : List Int} {width : Nat} (few : dataIn.length < 2 ^ (width + 1))
    (upperState lowerState : Int) :
    Words width (splitFilter dataIn upperState lowerState).hpDataOut ∧
      Words width (splitFilter dataIn upperState lowerState).lpDataOut := by
  obtain ⟨hp, lp⟩ := splitFilter_lengths dataIn upperState lowerState
  rw [pow_succ] at few
  exact ⟨⟨zipWith_fit _ _, by omega⟩, zipWith_fit _ _, by omega⟩

theorem highPassFilter_words {dataIn : List Int} {width : Nat} (few : dataIn.length < 2 ^ width)
    (state : HighPass) : Words width (highPassFilter dataIn state).1 := by
  constructor
  · clear few
    induction dataIn generalizing state with
    | nil => exact List.forall_mem_nil _
    | cons sample dataIn ih => exact List.forall_mem_cons.mpr ⟨int16_range _, ih _⟩
  · have same : (highPassFilter dataIn state).1.length = dataIn.length := by
      clear few
      induction dataIn generalizing state with
      | nil => rfl
      | cons sample dataIn ih => simp only [highPassFilter, List.length_cons, ih]
    rwa [same]

/-! ## The logarithm -/

theorem foldl_peak {v : List Int} (fit : ∀ x ∈ v, -32768 ≤ x ∧ x < 32768) {smax : Int}
    (start : -1 ≤ smax ∧ smax < 32768) :
    -1 ≤ v.foldl (fun smax x => max (if x > 0 then x else int16 (-x)) smax) smax ∧
      v.foldl (fun smax x => max (if x > 0 then x else int16 (-x)) smax) smax < 32768 := by
  induction v generalizing smax with
  | nil => exact start
  | cons x v ih =>
    refine ih (fun y member => fit y (List.mem_cons_of_mem _ member)) ?_
    have here := fit x List.mem_cons_self
    have negated := int16_range (-x)
    dsimp only
    split <;> omega

theorem scaling_range {v : List Int} {width : Nat} (words : Words (width + 1) v) (small : width < 32) :
    0 ≤ getScalingSquare v v.length ∧ getScalingSquare v v.length ≤ width := by
  obtain ⟨low, high⟩ := foldl_peak words.fit (show (-1 : Int) ≤ -1 ∧ (-1 : Int) < 32768 by decide)
  simp only [getScalingSquare]
  generalize v.foldl (fun smax x => max (if x > 0 then x else int16 (-x)) smax) (-1) = smax at low high ⊢
  split
  · omega
  · rename_i loud
    have squares := mul_bounds (A := 32767) (B := 32767) (a := smax) (b := smax) (by omega) (by omega)
    have positive : 0 < smax * smax := mul_self_pos.mpr loud
    have few : bits (smax * smax).toNat ≤ 30 := bits_le.mpr (by omega)
    have norm : normW32 (smax * smax) = 31 - bits (smax * smax).toNat := normW32_bits positive
    have length : v.length % 2 ^ 32 ≤ v.length := Nat.mod_le _ _
    have short : bits (v.length % 2 ^ 32) ≤ width + 1 :=
      bits_le.mpr (Nat.lt_of_le_of_lt length words.few)
    rw [norm, getSizeInBits, countLeadingZeros32_bits]
    split <;> omega

theorem logNormalized_range (energy : Nat) {totRshifts : Int} {width : Nat} (small : width < 8)
    (range : -14 ≤ totRshifts ∧ totRshifts ≤ 17 + width) :
    0 ≤ logNormalized energy totRshifts ∧
      logNormalized energy totRshifts ≤ 722 + (17 + width) * 24660 / 512 := by
  have masked : energy &&& 0x3FFF ≤ 0x3FFF := Nat.and_le_right
  have log : int16 (kLogEnergyIntPart + (((energy &&& 0x3FFF) >>> 4 : Nat) : Int)) =
      14336 + (((energy &&& 0x3FFF) >>> 4 : Nat) : Int) :=
    int16_of_fits (by unfold kLogEnergyIntPart; omega) (by unfold kLogEnergyIntPart; omega)
  have fraction : 674 ≤ 24660 * (14336 + (((energy &&& 0x3FFF) >>> 4 : Nat) : Int)) / 2 ^ 19 ∧
      24660 * (14336 + (((energy &&& 0x3FFF) >>> 4 : Nat) : Int)) / 2 ^ 19 ≤ 722 := by
    omega
  have whole : -675 ≤ totRshifts * 24660 / 2 ^ 9 ∧
      totRshifts * 24660 / 2 ^ 9 ≤ (17 + (width : Int)) * 24660 / 512 ∧
      (17 + (width : Int)) * 24660 / 512 ≤ 1155 := by
    omega
  rw [logNormalized, log, kLogConst, int16_of_fits (by omega) (by omega)]
  omega

theorem normalize_shifts {energy : Nat} (loud : energy ≠ 0) (word : energy < 2 ^ 32) :
    -14 ≤ (normalize energy).2 ∧ (normalize energy).2 ≤ 17 := by
  have tall : 0 < bits energy := lt_bits.mpr (by omega)
  have short : bits energy ≤ 32 := bits_le.mpr word
  change -14 ≤ 17 - normU32 energy ∧ 17 - normU32 energy ≤ 17
  rw [normU32, if_neg loud, countLeadingZeros32_bits]
  omega

/-- The logarithm is at most that of the loudest band of this size. -/
theorem logOfEnergy_range {v : List Int} {width : Nat} (words : Words (width + 1) v) (small : width < 8)
    {offset : Int} (near : 0 ≤ offset ∧ offset ≤ 368) (totalEnergy : Int) :
    offset ≤ (logOfEnergy v offset totalEnergy).2 ∧
      (logOfEnergy v offset totalEnergy).2 ≤ offset + 722 + (17 + width) * 24660 / 512 := by
  have scaling : 0 ≤ (WebRtcSpl.energy v).2 ∧ (WebRtcSpl.energy v).2 ≤ width :=
    scaling_range words (by omega)
  obtain ⟨energy, same⟩ : ∃ energy, energy = ((WebRtcSpl.energy v).1 % 2 ^ 32).toNat := ⟨_, rfl⟩
  rw [logOfEnergy, ← same]
  by_cases loud : energy ≠ 0
  · rw [if_pos loud]
    have shifts := normalize_shifts loud (by omega)
    have range := @logNormalized_range (normalize energy).1
      ((WebRtcSpl.energy v).2 + (normalize energy).2) width small (by omega)
    have room : (17 + (width : Int)) * 24660 / 512 ≤ 1155 := by omega
    dsimp only
    rw [int16_of_fits (by omega) (by omega)]
    omega
  · rw [if_neg loud]
    dsimp only
    omega

/-! ## The features -/

theorem logBands_range {bands : List (List Int × Int)} {low high : Int}
    (each : ∀ band ∈ bands, ∀ totalEnergy, low ≤ (logOfEnergy band.1 band.2 totalEnergy).2 ∧
      (logOfEnergy band.1 band.2 totalEnergy).2 ≤ high) (totalEnergy : Int) {features : List Int}
    (start : ∀ x ∈ features, low ≤ x ∧ x ≤ high) :
    (∀ x ∈ (logBands bands totalEnergy features).2, low ≤ x ∧ x ≤ high) ∧
      (logBands bands totalEnergy features).2.length = features.length + bands.length := by
  induction bands generalizing totalEnergy features with
  | nil => exact ⟨start, rfl⟩
  | cons band bands ih =>
    obtain ⟨range, length⟩ := ih (fun other member => each other (List.mem_cons_of_mem _ member))
      (logOfEnergy band.1 band.2 totalEnergy).1
      (List.forall_mem_cons.mpr ⟨each band List.mem_cons_self totalEnergy, start⟩)
    refine ⟨range, length.trans ?_⟩
    simp only [List.length_cons]
    omega

/-- Every feature of a frame of at most 240 samples. -/
theorem features_range (self : Filters) {dataIn : List Int} (short : dataIn.length ≤ 240)
    {channel : Nat} (listed : channel < kNumChannels) :
    176 ≤ (calculateFeatures self dataIn).2.1.getD channel 0 ∧
      (calculateFeatures self dataIn).2.1.getD channel 0 ≤ 2053 := by
  have words {v : List Int} {width : Nat} (few : v.length < 2 ^ (width + 1)) (band : Nat) :=
    splitFilter_words few (self.upperState.getD band 0) (self.lowerState.getD band 0)
  have whole := @words dataIn 7 (by omega) 0
  have upper := @words _ 6 whole.1.few 1
  have lower := @words _ 6 whole.2.few 2
  have low := @words _ 5 lower.2.few 3
  have lowest := @words _ 4 low.2.few 4
  have high := @highPassFilter_words _ 4 lowest.2.few self.hpFilterState
  have each : ∀ band ∈ (splitBands self dataIn).1.zip kOffsetVector.reverse, ∀ totalEnergy,
      176 ≤ (logOfEnergy band.1 band.2 totalEnergy).2 ∧
        (logOfEnergy band.1 band.2 totalEnergy).2 ≤ 2053 := by
    have bound {v : List Int} {width : Nat} (words : Words (width + 1) v) {offset : Int}
        (small : width < 8) (near : 176 ≤ offset ∧ offset ≤ 368)
        (room : offset + 722 + (17 + (width : Int)) * 24660 / 512 ≤ 2053) (totalEnergy : Int) :
        176 ≤ (logOfEnergy v offset totalEnergy).2 ∧ (logOfEnergy v offset totalEnergy).2 ≤ 2053 := by
      have range := @logOfEnergy_range v width words small offset (by omega) totalEnergy
      omega
    simp only [splitBands, kOffsetVector, List.reverse_cons, List.reverse_nil, List.nil_append,
      List.cons_append, List.zip_cons_cons, List.zip_nil_left, List.forall_mem_cons]
    exact ⟨bound upper.1 (by decide) (by decide) (by decide),
      bound upper.2 (by decide) (by decide) (by decide),
      bound lower.1 (by decide) (by decide) (by decide),
      bound low.1 (by decide) (by decide) (by decide),
      bound lowest.1 (by decide) (by decide) (by decide),
      bound high (by decide) (by decide) (by decide), List.forall_mem_nil _⟩
  obtain ⟨range, length⟩ := logBands_range each 0 (List.forall_mem_nil _)
  have inside : channel < (calculateFeatures self dataIn).2.1.length := by
    rwa [calculateFeatures, length]
  rw [List.getD_eq_getElem _ _ inside]
  exact range _ (List.getElem_mem inside)

end Assistantd.WebRtcVad
