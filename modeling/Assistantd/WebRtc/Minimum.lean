import Assistantd.Lib.Fixed
import Mathlib.Data.List.GetD

/-! vad_sp.c: halving the sample rate, and following the least energy of a band. -/
namespace Assistantd.WebRtcVad

open Fixed

/-- `WebRtcVad_Downsampling`, with the coefficients of `kAllPassCoefsQ13`. -/
def downsampling : List Int → Int × Int → List Int × (Int × Int)
  | first :: second :: signalIn, (tmp32_1, tmp32_2) =>
    let tmp16_1 := int16 (tmp32_1 / 2 + 5243 * first / 2 ^ 14)
    let tmp32_1 := int32 (first - 5243 * tmp16_1 / 2 ^ 12)
    let tmp16_2 := int16 (tmp32_2 / 2 + 1392 * second / 2 ^ 14)
    let signalOut := int16 (tmp16_1 + tmp16_2)
    let tmp32_2 := int32 (second - 1392 * tmp16_2 / 2 ^ 12)
    let later := downsampling signalIn (tmp32_1, tmp32_2)
    (signalOut :: later.1, later.2)
  | _, filterState => ([], filterState)

/-- One of the small values of a channel, and its age: an entry of `low_value_vector` and
of `index_vector`. -/
structure Small where
  age : Int
  value : Int
  deriving DecidableEq, Repr

/-- What `VadInstT` keeps of the feature of one channel. -/
structure Minimum where
  smallestValues : List Small
  meanValue : Int
  deriving DecidableEq, Repr

/-- The loop in which the values grow older. Where one is removed, the larger values move
down: the next one is passed over, and the last place, which the source fills from behind
the end of the array, is emptied. -/
def growOlder : Nat → List Small → List Small
  | count + 1, small :: larger =>
    if small.age ≠ 100 then ⟨int16 (small.age + 1), small.value⟩ :: growOlder count larger
    else match larger ++ [⟨101, 10000⟩] with
      | next :: larger => next :: growOlder count larger
      | [] => []
  | _, smallestValues => smallestValues

/-- Where a new value is to be inserted. -/
def position (featureValue : Int) (smallestValues : List Small) : Option Nat :=
  let smaller (i : Nat) : Prop := featureValue < (smallestValues.getD i ⟨0, 0⟩).value
  have (i : Nat) : Decidable (smaller i) := Int.decLt _ _
  if smaller 7 then
    if smaller 3 then
      if smaller 1 then
        if smaller 0 then some 0 else some 1
      else if smaller 2 then some 2 else some 3
    else if smaller 5 then
      if smaller 4 then some 4 else some 5
    else if smaller 6 then some 6 else some 7
  else if smaller 15 then
    if smaller 11 then
      if smaller 9 then
        if smaller 8 then some 8 else some 9
      else if smaller 10 then some 10 else some 11
    else if smaller 13 then
      if smaller 12 then some 12 else some 13
    else if smaller 14 then some 14 else some 15
  else none

/-- The larger values move up, and the largest is dropped. -/
def insertAt (featureValue : Int) (position : Nat) (smallestValues : List Small) : List Small :=
  (smallestValues.take position ++ ⟨1, featureValue⟩ :: smallestValues.drop position).take 16

def record (featureValue : Int) (smallestValues : List Small) : List Small :=
  let smallestValues := growOlder 16 smallestValues
  match position featureValue smallestValues with
  | some position => insertAt featureValue position smallestValues
  | none => smallestValues

/-- `WebRtcVad_FindMinimum` returns the mean value. -/
def findMinimum (frameCounter : Int) (self : Minimum) (featureValue : Int) : Minimum :=
  let smallestValues := record featureValue self.smallestValues
  let currentMedian :=
    if frameCounter > 2 then (smallestValues.getD 2 ⟨0, 0⟩).value
    else if frameCounter > 0 then (smallestValues.getD 0 ⟨0, 0⟩).value
    else 1600
  let alpha :=
    if frameCounter > 0 then if currentMedian < self.meanValue then 6553 else 32439
    else 0
  let tmp32 := int32 ((alpha + 1) * self.meanValue)
  let tmp32 := int32 (tmp32 + (32767 - alpha) * currentMedian)
  let tmp32 := int32 (tmp32 + 16384)
  ⟨smallestValues, int16 (tmp32 / 2 ^ 15)⟩

end Assistantd.WebRtcVad
