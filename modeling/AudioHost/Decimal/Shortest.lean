/-!
# Shortest decimals

The digits of a double are the fewest that read back as the same double, and of those the nearest
to it. Everything is counted in whole numbers, so no rounding enters.
-/

set_option autoImplicit false

namespace AudioHost.Decimal

inductive Parts where
  | notANumber
  | infinite (negative : Bool)
  | finite (negative : Bool) (mantissa : Nat) (power : Int)

def Parts.ofFloat (value : Float) : Parts :=
  let bits := value.toBits.toNat
  let negative : Bool := bits >>> 63 == 1
  let field : Nat := (bits >>> 52) % (1 <<< 11)
  let fraction : Nat := bits % (1 <<< 52)
  if field = (1 <<< 11) - 1 then
    if fraction = 0 then .infinite negative else .notANumber
  else if field = 0 then .finite negative fraction (-1074)
  else .finite negative ((1 <<< 52) + fraction) ((field : Int) - 1075)

structure Digits where
  digits : List Char
  point : Int

/-- A positive double as a count of quarters of its last binary place, with the ends of the
interval of numbers that are rounded to it. -/
structure Reach where
  low : Nat
  value : Nat
  high : Nat
  power : Int
  closed : Bool

/-- The numbers that are rounded to `mantissa · 2^power`. The next double below is half as far
when the mantissa is the least of its power. -/
def Reach.of (mantissa : Nat) (power : Int) : Reach where
  low := 4 * mantissa - (if mantissa = 1 <<< 52 ∧ -1074 < power then 1 else 2)
  value := 4 * mantissa
  high := 4 * mantissa + 2
  power := power - 2
  closed := mantissa % 2 = 0

def digitCount (number : Nat) : Nat := (Nat.toDigits 10 number).length

def placeAbove (top bottom : Nat) : Int :=
  if bottom ≤ top then digitCount (top / bottom) else 1 - digitCount ((bottom - 1) / top)

/-- The member with `count` digits that is nearest to the double, if the interval has any. Of two
that are equally near the larger is taken. -/
def Reach.nearest? (reach : Reach) (place : Int) (count : Nat) : Option Nat :=
  -- The grid of decimals with `count` digits, and the two members around the double.
  let unit := place - count
  let scale := Nat.pow 2 reach.power.toNat * Nat.pow 10 (-unit).toNat
  let step := Nat.pow 10 unit.toNat * Nat.pow 2 (-reach.power).toNat
  let below := reach.value * scale / step
  let above := below + 1
  let belowFits := reach.low * scale < below * step ∨
    (reach.closed ∧ reach.low * scale = below * step)
  let aboveFits := above * step < reach.high * scale ∨
    (reach.closed ∧ above * step = reach.high * scale)
  if belowFits ∧ aboveFits then
    if 2 * (reach.value * scale) < (below + above) * step then some below else some above
  else if belowFits then some below
  else if aboveFits then some above
  else none

def Digits.ofNat (number : Nat) (unit : Int) : Digits :=
  let all := Nat.toDigits 10 number
  ⟨(all.reverse.dropWhile (· == '0')).reverse, unit + all.length⟩

/-- The shortest digits of `mantissa · 2^power`, for a positive mantissa. Seventeen digits are
always enough. -/
def shortest (mantissa : Nat) (power : Int) : Digits :=
  let reach := Reach.of mantissa power
  let place := placeAbove (reach.value * Nat.pow 2 reach.power.toNat)
    (Nat.pow 2 (-reach.power).toNat)
  let attempt (less : Nat) : Option Digits :=
    (reach.nearest? place (less + 1)).map fun number => Digits.ofNat number (place - (less + 1))
  ((List.range 17).findSome? attempt).getD ⟨['0'], 1⟩

end AudioHost.Decimal
