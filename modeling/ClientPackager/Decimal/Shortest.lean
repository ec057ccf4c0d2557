import ClientPackager.Decimal.Double

set_option autoImplicit false

namespace ClientPackager.Double

def firstDigit (num den : Nat) : Int :=
  if den ≤ num then (toString (num / den)).length
  else
    match (List.range 400).find? fun zeros => den ≤ num * tenTo (zeros + 1) with
    | some zeros => -zeros
    | none => -400

def spanBelow (x : Double) : Nat := if x.mantissa = fullMantissa && -1074 < x.exponent then 1 else 2

-- Whether a decimal number `digits * 10^power` is nearer to a double than to its
-- neighbours, or halfway to one of them where that rounds to the double.
def readsBack (x : Double) (digits : Nat) (power : Int) : Bool :=
  let (num, den) := toQuotient ⟨4 * x.mantissa, x.exponent⟩
  let (unit, _) := toQuotient ⟨1, x.exponent⟩
  let digits := 4 * (if 0 ≤ power then digits * tenTo power.toNat else digits)
  let scale := if 0 ≤ power then 1 else tenTo (-power).toNat
  let found := digits * den
  let low := (num - x.spanBelow * unit) * scale
  let high := (num + 2 * unit) * scale
  if x.mantissa % 2 = 0 then low ≤ found && found ≤ high else low < found && found < high

-- The decimal number with its last digit at `power` that reads back as a double, if
-- there is one: the nearest to it, and of two such the even one.
def onGrid? (x : Double) (power : Int) : Option Nat :=
  let (num, den) := x.toQuotient
  let (num, den) := if 0 ≤ power then (num, den * tenTo power.toNat) else (num * tenTo (-power).toNat, den)
  let nearest := roundQuotient num den
  let other := if num / den = nearest then nearest + 1 else num / den
  if x.readsBack nearest power then some nearest
  else if x.readsBack other power then some other
  else none

def withoutZeros : Nat → Nat → Int → Nat × Int
  | 0, digits, power => (digits, power)
  | fuel + 1, digits, power =>
    if digits % 10 = 0 then withoutZeros fuel (digits / 10) (power + 1) else (digits, power)

-- The fewest digits that read back, and the exponent of ten of the last one. Seventeen
-- digits always do.
def shortest (x : Double) : Nat × Int :=
  if x.mantissa = 0 then (0, 0)
  else
    let (num, den) := x.toQuotient
    let first := firstDigit num den
    let found := (List.range 17).findSome? fun count =>
      let power := first - (count + 1 : Nat)
      (x.onGrid? power).map fun digits => withoutZeros 17 digits power
    found.getD (0, 0)

-- Numbers from 0.00001 up to 16 digits before the point are written in full, others
-- with an exponent.
def text (x : Double) : String :=
  let (digits, power) := x.shortest
  let digits := (toString digits).toList
  let first : Int := digits.length + power
  String.ofList <|
    if x.mantissa = 0 then ['0', '.', '0']
    else if 0 ≤ power && first ≤ 16 then digits ++ List.replicate power.toNat '0' ++ ['.', '0']
    else if 0 < first && first ≤ 16 then digits.take first.toNat ++ '.' :: digits.drop first.toNat
    else if -5 < first && first ≤ 0 then '0' :: '.' :: List.replicate (-first).toNat '0' ++ digits
    else
      let exponent := first - 1
      let fraction := if digits.length = 1 then [] else '.' :: digits.drop 1
      digits.take 1 ++ fraction ++ 'e' :: (if exponent < 0 then '-' else '+') ::
        (toString exponent.natAbs).toList

end ClientPackager.Double
