/-!
# Binary floating-point numbers

A `Binary` is a number `mantissa · 2 ^ exponent` of the 64-bit format: the mantissa has at most 53
bits, and the exponent is at least -1074. All arithmetic is exact arithmetic on natural numbers
followed by one rounding, which goes to the nearest number and to an even mantissa at a tie.
-/

namespace TransportGen

/-- A power of ten. -/
def tenTo (n : Nat) : Nat := Nat.pow 10 n

/-- The absolute value of a floating-point number. -/
structure Binary where
  mantissa : Nat
  exponent : Int
  deriving DecidableEq, Repr, Inhabited

namespace Binary

/-- Mantissas are below this bound. -/
def mantissaBound : Nat := 1 <<< 53

/-- The exponent of the smallest numbers. -/
def minExponent : Int := -1074

/-- The exponent of the largest numbers. -/
def maxExponent : Int := 971

/-- A ratio rounded to the nearest natural number, and to an even one at a tie. -/
def roundRatio (num den : Nat) : Nat :=
  let floor := num / den
  let rest := num % den
  if 2 * rest < den then floor
  else if den < 2 * rest then floor + 1
  else if floor % 2 = 0 then floor else floor + 1

/-- A ratio scaled by a power of two, as a ratio. -/
def scale (num den : Nat) (power : Int) : Nat × Nat :=
  if 0 ≤ power then (num <<< power.toNat, den) else (num, den <<< (-power).toNat)

/-- The exponent for a ratio: the least one with which the mantissa stays within its bound. -/
def exponentFor (num den : Nat) : Int :=
  let guess := max (Int.ofNat num.log2 - Int.ofNat den.log2 - 53) minExponent
  let (n, d) := scale num den (-guess)
  if mantissaBound * d ≤ n then guess + 1 else guess

/-- The number nearest to a ratio, unless it is too large. -/
def ofRatio? (num den : Nat) : Option Binary :=
  if num = 0 then some ⟨0, 0⟩
  else
    let exponent := exponentFor num den
    let (n, d) := scale num den (-exponent)
    let mantissa := roundRatio n d
    let result : Binary :=
      if mantissa = mantissaBound then ⟨mantissa / 2, exponent + 1⟩ else ⟨mantissa, exponent⟩
    if maxExponent < result.exponent then none else some result

/-- The product, unless it is too large. -/
def mul? (a b : Binary) : Option Binary :=
  let (n, d) := scale (a.mantissa * b.mantissa) 1 (a.exponent + b.exponent)
  ofRatio? n d

/-- The quotient by a number that is not zero, unless it is too large. -/
def div? (a b : Binary) : Option Binary :=
  let (n, d) := scale a.mantissa b.mantissa (a.exponent - b.exponent)
  ofRatio? n d

/-- The number nearest to a power of ten. -/
def tenPower? (power : Nat) : Option Binary := ofRatio? (tenTo power) 1

/-- The greatest power of ten in one step of scaling. -/
def tenStep : Nat := 308

/-- A number times a power of ten, one step at a time. -/
def scaleTen? : Nat → Binary → Int → Option Binary
  | 0, a, _ => some a
  | fuel + 1, a, power =>
    if a.mantissa = 0 then some a
    else if power.natAbs ≤ tenStep then
      (tenPower? power.natAbs).bind fun ten => if 0 ≤ power then a.mul? ten else a.div? ten
    else if 0 ≤ power then none
    else ((tenPower? tenStep).bind a.div?).bind fun a => scaleTen? fuel a (power + tenStep)

/-- The number that an integer and a power of ten make: both are rounded, and so is their product or
quotient. An integer of 64 bits vanishes after three steps. -/
def ofDecimal? (significand : Nat) (power : Int) : Option Binary :=
  (ofRatio? significand 1).bind fun a => scaleTen? 4 a power

end Binary

end TransportGen
