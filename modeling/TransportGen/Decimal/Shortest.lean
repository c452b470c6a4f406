import TransportGen.Decimal.Binary

/-!
# The shortest decimal that reads back

Of the decimals that round to a given binary number, `shortest` takes one with the fewest digits,
and of those the nearest, with an even last digit at a tie. `FloatFormat` says how it is written.
-/

namespace TransportGen

/-- A decimal number `digits · 10 ^ exponent`. -/
structure Decimal where
  digits : Nat
  exponent : Int
  deriving DecidableEq, Repr, Inhabited

namespace Decimal

/-- Compares `a · 10 ^ p` with `b · 2 ^ q`. -/
def compareScaled (a : Nat) (p : Int) (b : Nat) (q : Int) : Ordering :=
  compare ((a * tenTo p.toNat) <<< (-q).toNat) ((b * tenTo (-p).toNat) <<< q.toNat)

/-- The numbers that round to a binary number lie between two bounds, given in quarters of its last
place. Below a power of two the distance is half as long. -/
def bounds (b : Binary) : Nat × Nat :=
  let below := if b.mantissa = Binary.mantissaBound / 2 && Binary.minExponent < b.exponent then 1
    else 2
  (4 * b.mantissa - below, 4 * b.mantissa + 2)

/-- Whether a decimal rounds to the binary number. The bounds do so if the mantissa is even. -/
def roundsTo (b : Binary) (d : Decimal) : Bool :=
  let (low, high) := bounds b
  let atLow := compareScaled d.digits d.exponent low (b.exponent - 2)
  let atHigh := compareScaled d.digits d.exponent high (b.exponent - 2)
  if b.mantissa % 2 = 0 then atLow != .lt && atHigh != .gt else atLow == .gt && atHigh == .lt

/-- The binary number in units of `10 ^ exponent`, as a ratio. -/
def inUnits (b : Binary) (exponent : Int) : Nat × Nat :=
  ((b.mantissa * tenTo (-exponent).toNat) <<< b.exponent.toNat,
    tenTo exponent.toNat <<< (-b.exponent).toNat)

/-- The neighbours of a binary number on the grid of the multiples of `10 ^ exponent` that round to
it; the nearer one is taken. -/
def onGrid? (b : Binary) (exponent : Int) : Option Decimal :=
  let (n, d) := inUnits b exponent
  let floor : Decimal := ⟨n / d, exponent⟩
  let ceiling : Decimal := ⟨n / d + 1, exponent⟩
  match roundsTo b floor && floor.digits != 0, roundsTo b ceiling with
  | true, true => some ⟨Binary.roundRatio n d, exponent⟩
  | true, false => some floor
  | false, true => some ceiling
  | false, false => none

/-- The number of decimal places before the point of `n / d`, which is at least one, found from an
estimate that is at most `fuel` too low. -/
def placesFrom : Nat → Int → Nat → Nat → Int
  | 0, places, _, _ => places
  | fuel + 1, places, n, d =>
    if n * tenTo (-places).toNat < d * tenTo places.toNat then places
    else placesFrom fuel (places + 1) n d

/-- The power of ten above a binary number that is not zero. -/
def places (b : Binary) : Int :=
  let (n, d) := inUnits b 0
  let log := (Int.ofNat n.log2 - Int.ofNat d.log2) * 30103 / 100000
  placesFrom 5 (log - 1) n d

/-- Without trailing zeros. -/
def strip : Nat → Decimal → Decimal
  | 0, d => d
  | fuel + 1, d =>
    if d.digits != 0 && d.digits % 10 = 0 then strip fuel ⟨d.digits / 10, d.exponent + 1⟩ else d

/-- The shortest decimal of a binary number. Seventeen digits are always enough. -/
def shortest (b : Binary) : Decimal :=
  if b.mantissa = 0 then ⟨0, 0⟩
  else
    let top := places b
    let found := (List.range 17).findSome? fun i => onGrid? b (top - Int.ofNat (i + 1))
    strip 20 (found.getD ⟨0, 0⟩)

end Decimal

/-- How decimals are written. -/
structure FloatFormat where
  /-- Whether a positive exponent has a plus sign. -/
  plusSign : Bool
  deriving DecidableEq, Repr

namespace FloatFormat

/-- The digits of a number. -/
def digitsOf (n : Nat) : List Char := Nat.toDigits 10 n

/-- Zeros. -/
def zeros (n : Nat) : List Char := List.replicate n '0'

/-- An exponent with its sign. -/
def exponentText (format : FloatFormat) (e : Int) : List Char :=
  (if e < 0 then ['-'] else if format.plusSign then ['+'] else []) ++ digitsOf e.natAbs

/-- A decimal as text: with a point where its first digit stands at most sixteen places before it or
five behind it, and with an exponent otherwise. -/
def decimalText (format : FloatFormat) (d : Decimal) : List Char :=
  let digits := digitsOf d.digits
  let point := Int.ofNat digits.length + d.exponent
  if d.digits = 0 then ['0', '.', '0']
  else if 0 ≤ d.exponent && point ≤ 16 then digits ++ zeros d.exponent.toNat ++ ['.', '0']
  else if 0 < point && point ≤ 16 then
    digits.take point.toNat ++ ['.'] ++ digits.drop point.toNat
  else if -5 < point && point ≤ 0 then ['0', '.'] ++ zeros (-point).toNat ++ digits
  else
    let fraction := if digits.length = 1 then [] else '.' :: digits.drop 1
    digits.take 1 ++ fraction ++ ['e'] ++ format.exponentText (point - 1)

end FloatFormat

end TransportGen
