set_option autoImplicit false

namespace ClientPackager

-- Numbers without their signs: 53 binary digits at a power of two that is at least
-- -1074 and at most 971. A quotient is rounded to the nearest of them, and halfway to
-- the one whose last digit is even.
structure Double where
  mantissa : Nat
  exponent : Int
deriving Repr, DecidableEq

def tenTo (zeros : Nat) : Nat := Nat.pow 10 zeros

def bitLength (n : Nat) : Nat := if n = 0 then 0 else n.log2 + 1

-- A half goes to the even neighbour.
def roundQuotient (num den : Nat) : Nat :=
  let below := num / den
  let twice := 2 * (num % den)
  if twice < den || (twice = den && below % 2 = 0) then below else below + 1

namespace Double

def zero : Double := ⟨0, -1074⟩

def fullMantissa : Nat := 1 <<< 52

def shifted (num den : Nat) (exponent : Int) : Nat × Nat :=
  if 0 ≤ exponent then (num, den <<< exponent.toNat) else (num <<< (-exponent).toNat, den)

-- The exponent at which the whole part of a quotient has 53 digits, or the least
-- exponent.
def exponentOf (num den : Nat) : Int :=
  let guess : Int := bitLength num - bitLength den - 53
  let (top, bottom) := shifted num den guess
  max (-1074) (if top / bottom < 2 * fullMantissa then guess else guess + 1)

def ofQuotient? (num den : Nat) : Option Double :=
  if num = 0 then some zero
  else
    let exponent := exponentOf num den
    let (top, bottom) := shifted num den exponent
    let mantissa := roundQuotient top bottom
    let (mantissa, exponent) :=
      if mantissa = 2 * fullMantissa then (fullMantissa, exponent + 1) else (mantissa, exponent)
    if exponent ≤ 971 then some ⟨mantissa, exponent⟩ else none

def toQuotient (x : Double) : Nat × Nat :=
  if 0 ≤ x.exponent then (x.mantissa <<< x.exponent.toNat, 1)
  else (x.mantissa, 1 <<< (-x.exponent).toNat)

def mul? (x y : Double) : Option Double :=
  ofQuotient? (x.toQuotient.1 * y.toQuotient.1) (x.toQuotient.2 * y.toQuotient.2)

def div? (x y : Double) : Option Double :=
  ofQuotient? (x.toQuotient.1 * y.toQuotient.2) (x.toQuotient.2 * y.toQuotient.1)

def isNormal (x : Double) : Bool := fullMantissa ≤ x.mantissa

end Double
end ClientPackager
