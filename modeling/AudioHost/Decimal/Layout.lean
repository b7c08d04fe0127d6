import AudioHost.Decimal.Shortest

/-!
# Number texts

A `Layout` says how the shortest digits of a double are set out.
-/

set_option autoImplicit false

namespace AudioHost.Decimal

structure Layout where
  keepsPoint : Bool
  /-- The places of the point from which, and below which, an exponent is written. -/
  exponentBounds : Option (Int × Int)

namespace Layout

def usesExponent (layout : Layout) (point : Int) : Bool :=
  match layout.exponentBounds with
  | none => false
  | some (large, small) => large ≤ point || point < small

def positional (layout : Layout) (number : Digits) : List Char :=
  let count := number.digits.length
  if number.point ≤ 0 then
    '0' :: '.' :: List.replicate (-number.point).toNat '0' ++ number.digits
  else if number.point.toNat < count then
    number.digits.take number.point.toNat ++ '.' :: number.digits.drop number.point.toNat
  else
    number.digits ++ List.replicate (number.point.toNat - count) '0' ++
      (if layout.keepsPoint then ['.', '0'] else [])

def scientific (number : Digits) : List Char :=
  let tail := number.digits.drop 1
  number.digits.take 1 ++ (if tail.isEmpty then [] else '.' :: tail) ++
    'e' :: (toString (number.point - 1)).toList

def magnitude (layout : Layout) (mantissa : Nat) (power : Int) : List Char :=
  if mantissa = 0 then '0' :: (if layout.keepsPoint then ['.', '0'] else [])
  else
    let number := shortest mantissa power
    if layout.usesExponent number.point then scientific number else layout.positional number

def render (layout : Layout) (value : Float) : String :=
  let signed (negative : Bool) (text : List Char) : String :=
    String.ofList (if negative then '-' :: text else text)
  match Parts.ofFloat value with
  | .notANumber => "NaN"
  | .infinite negative => signed negative ['i', 'n', 'f']
  | .finite negative mantissa power => signed negative (layout.magnitude mantissa power)

end Layout

end AudioHost.Decimal
