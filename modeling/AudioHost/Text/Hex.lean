/-!
# Hexadecimal text

Bytes and words as digits in base sixteen, two digits for each byte.
-/

set_option autoImplicit false

namespace AudioHost.Hex

def value? (c : Char) : Option Nat :=
  if '0' ≤ c ∧ c ≤ '9' then some (c.toNat - '0'.toNat)
  else if 'a' ≤ c ∧ c ≤ 'f' then some (c.toNat - 'a'.toNat + 10)
  else if 'A' ≤ c ∧ c ≤ 'F' then some (c.toNat - 'A'.toNat + 10)
  else none

def number? (digits : List Char) : Option Nat :=
  digits.foldlM (fun number c => (value? c).map (number * 16 + ·)) 0

def digits (byte : UInt8) : List Char :=
  [Nat.digitChar (byte.toNat / 16), Nat.digitChar (byte.toNat % 16)]

def text (bytes : List UInt8) : String := String.ofList (bytes.flatMap digits)

def bytes? : List Char → Option (List UInt8)
  | [] => some []
  | high :: low :: rest => do
    let byte ← number? [high, low]
    return byte.toUInt8 :: (← bytes? rest)
  | [_] => none

def word (bits : UInt64) : String :=
  let digits := Nat.toDigits 16 bits.toNat
  String.ofList (List.replicate (16 - digits.length) '0' ++ digits)

def listing (bytes : List UInt8) : String :=
  "[" ++ ", ".intercalate (bytes.map fun byte => String.ofList ((digits byte).map Char.toUpper)) ++
    "]"

end AudioHost.Hex
