set_option autoImplicit false

namespace ClientPackager

def total (sizes : List Nat) : Nat := sizes.foldr (· + ·) 0

theorem total_cons (size : Nat) (rest : List Nat) : total (size :: rest) = size + total rest := rfl

theorem total_append (front back : List Nat) : total (front ++ back) = total front + total back := by
  induction front with
  | nil => simp [total]
  | cons size front ih => rw [List.cons_append, total_cons, total_cons, ih, Nat.add_assoc]

namespace Text

-- The Unicode property White_Space.
def isBlank (c : Char) : Bool :=
  (0x09 ≤ c.toNat && c.toNat ≤ 0x0d) || c.toNat == 0x20 || c.toNat == 0x85 || c.toNat == 0xa0 ||
  c.toNat == 0x1680 || (0x2000 ≤ c.toNat && c.toNat ≤ 0x200a) || c.toNat == 0x2028 ||
  c.toNat == 0x2029 || c.toNat == 0x202f || c.toNat == 0x205f || c.toNat == 0x3000

def skipBlank (cs : List Char) : List Char := cs.dropWhile isBlank

def dropTrailingBlank (cs : List Char) : List Char := (cs.reverse.dropWhile isBlank).reverse

def trimEnd (s : String) : String := String.ofList (dropTrailingBlank s.toList)

def trim (s : String) : String := String.ofList (dropTrailingBlank (skipBlank s.toList))

def blank (s : String) : Bool := s.toList.all isBlank

def hexValue? (c : Char) : Option Nat :=
  if '0' ≤ c ∧ c ≤ '9' then some (c.toNat - 48)
  else if 'a' ≤ c ∧ c ≤ 'f' then some (c.toNat - 87)
  else if 'A' ≤ c ∧ c ≤ 'F' then some (c.toNat - 55)
  else none

def digitValue? (radix : Nat) (c : Char) : Option Nat := (hexValue? c).filter (· < radix)

def ofDigits? (radix : Nat) (digits : List Char) : Option Nat :=
  digits.foldlM (fun n c => (digitValue? radix c).map (radix * n + ·)) 0

end Text
end ClientPackager
