import Assistantd.Lib.Fixed
import Mathlib.Data.List.GetD

/-! resample_by_2_internal.c, resample_fractional.c and resample_48khz.c: from 48 kHz to
8 kHz, 10 ms at a time. Overflow wraps, as the source lets it. -/
namespace Assistantd.WebRtcSpl

open Fixed

/-- Four words of a filter's state. -/
structure AllPass where
  s0 : Int
  s1 : Int
  s2 : Int
  s3 : Int
  deriving DecidableEq, Repr

namespace AllPass

def zero : AllPass := ⟨0, 0, 0, 0⟩

/-- One sample through the three allpass sections; its output is the last word of the state. -/
def step (coefficients : Int × Int × Int) (state : AllPass) (sample : Int) : AllPass :=
  let truncated (diff : Int) : Int := 
    if diff / 2 ^ 14 < 0 then diff / 2 ^ 14 + 1 else diff / 2 ^ 14
  let rounded := int32 (int32 (sample - state.s1) + 2 ^ 13) / 2 ^ 14
  let tmp1 := int32 (state.s0 + rounded * coefficients.1)
  let tmp0 := int32 (state.s1 + truncated (int32 (tmp1 - state.s2)) * coefficients.2.1)
  let out := int32 (state.s2 + truncated (int32 (tmp0 - state.s3)) * coefficients.2.2)
  ⟨sample, tmp1, tmp0, out⟩

/-- Half of each output, and the state behind the last. -/
def run (coefficients : Int × Int × Int) : AllPass → List Int → List Int × AllPass
  | state, [] => ([], state)
  | state, sample :: samples =>
    let next := step coefficients state sample
    let later := run coefficients next samples
    (next.s3 / 2 :: later.1, later.2)

end AllPass

def upperAllpass : Int × Int × Int := (821, 6110, 12382)

def lowerAllpass : Int × Int × Int := (3050, 9368, 15063)

/-- The samples at even places, and those at odd places. -/
def deal : List Int → List Int × List Int
  | even :: odd :: samples => (even :: (deal samples).1, odd :: (deal samples).2)
  | samples => (samples, [])

def interleave : List Int → List Int → List Int
  | even :: evens, odd :: odds => even :: odd :: interleave evens odds
  | _, _ => []

/-- `WebRtcSpl_DownBy2ShortToInt` -/
def downBy2ShortToInt (samples : List Int) (state : AllPass × AllPass) :
    List Int × (AllPass × AllPass) :=
  let dealt := deal (samples.map fun sample => sample * 2 ^ 15 + 2 ^ 14)
  let lower := AllPass.run lowerAllpass state.1 dealt.1
  let upper := AllPass.run upperAllpass state.2 dealt.2
  (lower.1.zipWith (fun low high => int32 (low + high)) upper.1, lower.2, upper.2)

/-- `WebRtcSpl_DownBy2IntToShort`, which saturates. -/
def downBy2IntToShort (samples : List Int) (state : AllPass × AllPass) :
    List Int × (AllPass × AllPass) :=
  let dealt := deal samples
  let lower := AllPass.run lowerAllpass state.1 dealt.1
  let upper := AllPass.run upperAllpass state.2 dealt.2
  (lower.1.zipWith (fun low high => max (-32768) (min 32767 (int32 (low + high) / 2 ^ 15))) upper.1,
    lower.2, upper.2)

/-- The states of `WebRtcSpl_LPBy2IntToInt`, for the even and the odd outputs. -/
structure LowPass where
  evenLower : AllPass
  evenUpper : AllPass
  oddLower : AllPass
  oddUpper : AllPass
  deriving DecidableEq, Repr

/-- `WebRtcSpl_LPBy2IntToInt`: the lower filter of the even outputs is one sample behind. -/
def lpBy2IntToInt (samples : List Int) (state : LowPass) : List Int × LowPass :=
  let dealt := deal samples
  let average (lower upper : List Int) := lower.zipWith (fun low high => int32 (low + high) / 2 ^ 15) upper
  let evenLower := AllPass.run lowerAllpass state.evenLower (state.oddUpper.s0 :: dealt.2.dropLast)
  let evenUpper := AllPass.run upperAllpass state.evenUpper dealt.1
  let oddLower := AllPass.run lowerAllpass state.oddLower dealt.1
  let oddUpper := AllPass.run upperAllpass state.oddUpper dealt.2
  (interleave (average evenLower.1 evenUpper.1) (average oddLower.1 oddUpper.1),
    ⟨evenLower.2, evenUpper.2, oddLower.2, oddUpper.2⟩)

def weighted (coefficients samples : List Int) : Int :=
  (coefficients.zip samples).foldl (fun tmp (coefficient, sample) =>
    int32 (tmp + int32 (coefficient * sample))) (2 ^ 14)

/-- `WebRtcSpl_Resample48khzTo32khz`: two samples for every three. -/
def resample48khzTo32khz : Nat → List Int → List Int
  | 0, _ => []
  | blocks + 1, samples =>
    weighted [778, -2050, 1087, 23285, 12903, -3783, 441, 222] samples ::
      weighted [222, 441, -3783, 12903, 23285, 1087, -2050, 778] samples.tail ::
      resample48khzTo32khz blocks (samples.drop 3)

structure State48khzTo8khz where
  s48To24 : AllPass × AllPass
  s24To24 : LowPass
  s24To16 : List Int
  s16To8 : AllPass × AllPass
  deriving DecidableEq, Repr

/-- `WebRtcSpl_ResetResample48khzTo8khz` -/
def State48khzTo8khz.reset : State48khzTo8khz :=
  ⟨(.zero, .zero), ⟨.zero, .zero, .zero, .zero⟩, List.replicate 8 0, (.zero, .zero)⟩

/-- `WebRtcSpl_Resample48khzTo8khz` -/
def resample48khzTo8khz (samples : List Int) (state : State48khzTo8khz) :
    List Int × State48khzTo8khz :=
  let half := downBy2ShortToInt samples state.s48To24
  let low := lpBy2IntToInt half.1 state.s24To24
  let third := resample48khzTo32khz 80 (state.s24To16 ++ low.1)
  let out := downBy2IntToShort third state.s16To8
  (out.1, ⟨half.2, low.2, low.1.drop 232, out.2⟩)

end Assistantd.WebRtcSpl
