import ClientPackager.Decimal.Double

set_option autoImplicit false

namespace ClientPackager

structure Decimal where
  whole : List Char
  fraction : List Char
  exponent : Int

namespace Decimal

def digit (c : Char) : Nat := c.toNat - 48

def natAfter (n : Nat) (digits : List Char) : Nat := digits.foldl (fun n c => 10 * n + digit c) n

def isMark (c : Char) : Bool := c == '.' || c == 'e' || c == 'E'

def exponentOf : List Char → Int
  | '-' :: digits => -(natAfter 0 digits : Int)
  | '+' :: digits => natAfter 0 digits
  | digits => natAfter 0 digits

def ofSpelling (spelling : List Char) : Decimal :=
  let whole := spelling.takeWhile fun c => !isMark c
  match spelling.dropWhile fun c => !isMark c with
  | '.' :: rest =>
    ⟨whole, rest.takeWhile Char.isDigit, exponentOf ((rest.dropWhile Char.isDigit).drop 1)⟩
  | rest => ⟨whole, [], exponentOf (rest.drop 1)⟩

-- The exponent is used only where the number is neither surely too large nor surely
-- next to zero.
def nearest? (d : Decimal) : Option Double :=
  let n := natAfter 0 (d.whole ++ d.fraction)
  let power := d.exponent - d.fraction.length
  let first : Int := (toString n).length + power
  if n = 0 || first < -330 then some .zero
  else if 310 < first then none
  else if 0 ≤ power then Double.ofQuotient? (n * tenTo power.toNat) 1
  else Double.ofQuotient? n (tenTo (-power).toNat)

def fitting (n : Nat) : List Char → Nat × List Char
  | [] => (n, [])
  | c :: rest => if 10 * n + digit c < 1 <<< 64 then fitting (10 * n + digit c) rest else (n, c :: rest)

def power? (zeros : Nat) : Option Double := Double.ofQuotient? (tenTo zeros) 1

-- A number times a power of ten, rounded before and after the product or quotient; two
-- quotients are needed for the least numbers.
def scaled? (n : Nat) (power : Int) : Option Double := do
  let x ← Double.ofQuotient? n 1
  if n = 0 || power < -616 then return .zero
  else if 308 < power then none
  else if 0 ≤ power then x.mul? (← power? power.toNat)
  else if -308 ≤ power then x.div? (← power? (-power).toNat)
  else (← x.div? (← power? 308)).div? (← power? (-power - 308).toNat)

-- Digits beyond 64 bits do not count: they only move the point.
def read? (d : Decimal) : Option Double :=
  let (n, left) := fitting 0 d.whole
  let (n, later) := fitting n d.fraction
  scaled? n (d.exponent + left.length - (d.fraction.length - later.length : Nat))

end Decimal
end ClientPackager
