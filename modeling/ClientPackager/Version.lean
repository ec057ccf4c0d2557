set_option autoImplicit false

namespace ClientPackager

namespace Date

def isLeap (year : Int) : Bool := year % 4 == 0 && (year % 100 != 0 || year % 400 == 0)

-- The days of a month in the Gregorian calendar, which is taken to hold in every year.
def daysIn (year : Int) (month : Nat) : Nat :=
  if month = 2 then if isLeap year then 29 else 28
  else if month = 4 || month = 6 || month = 9 || month = 11 then 30
  else 31

def firstYear : Int := -262143
def lastYear : Int := 262142

def isDay (year : Int) (month day : Nat) : Bool :=
  firstYear ≤ year && year ≤ lastYear && 1 ≤ month && month ≤ 12 && 1 ≤ day &&
    day ≤ daysIn year month

end Date

structure Date where
  year : Int
  month : Nat
  day : Nat
  in_calendar : Date.isDay year month day = true
deriving DecidableEq, Repr

structure Version where
  text : String
deriving DecidableEq, Repr

namespace Version

def padded (width n : Nat) : String :=
  let digits := toString n
  String.ofList (List.replicate (width - digits.length) '0') ++ digits

-- At least four digits; a year before year zero has a minus sign, one after 9999 a plus
-- sign.
def year (y : Int) : String :=
  if y < 0 then "-" ++ padded 4 y.natAbs
  else if 9999 < y then "+" ++ toString y.natAbs
  else padded 4 y.natAbs

def ofDate (date : Date) : Version :=
  ⟨year date.year ++ "." ++ padded 2 date.month ++ "." ++ padded 2 date.day⟩

end Version
end ClientPackager
