/-!
# Ranges of code points

Character properties are given as arrays of ranges, both ends included. A strided range takes every
`step`-th code point from its first one on, and a shift range also carries the distance to the image
of each of its members.
-/

namespace TransportGen.Text

/-- All code points from the first to the second, both included. -/
abbrev CodeRange := Nat × Nat

/-- Every `step`-th code point from the first to the second. -/
abbrev StridedRange := Nat × Nat × Nat

/-- Every `step`-th code point from the first to the second, with the distance to its image. -/
abbrev ShiftRange := Nat × Nat × Nat × Int

/-- Whether some range holds the code point. -/
def inRanges (ranges : Array CodeRange) (code : Nat) : Bool :=
  ranges.any fun (low, high) => low ≤ code && code ≤ high

/-- Whether some strided range holds the code point. -/
def inStrides (ranges : Array StridedRange) (code : Nat) : Bool :=
  ranges.any fun (low, high, step) => low ≤ code && code ≤ high && (code - low) % step == 0

/-- The image of a code point, or the code point itself where no range holds it. -/
def shiftCode (ranges : Array ShiftRange) (code : Nat) : Nat :=
  match ranges.find? fun (low, high, step, _) =>
      low ≤ code && code ≤ high && (code - low) % step == 0 with
  | some (_, _, _, distance) => (Int.ofNat code + distance).toNat
  | none => code

end TransportGen.Text
