import AudioHost.Document.Basic
import AudioHost.Text.Hex

/-!
# Reading documents

Documents are read from JSON text. Each reader gives what it read with the rest of the text.
-/

set_option autoImplicit false

namespace AudioHost.Document

def skipBlanks (input : List Char) : List Char :=
  input.dropWhile fun c => c == ' ' || c == '\t' || c == '\n' || c == '\r'

def shortEscape? : Char → Option Char
  | '"' => some '"'
  | '\\' => some '\\'
  | '/' => some '/'
  | 'b' => some '\x08'
  | 'f' => some '\x0c'
  | 'n' => some '\n'
  | 'r' => some '\r'
  | 't' => some '\t'
  | _ => none

def readUnits : List Char → Option (List Nat × List Char)
  | [] => none
  | '"' :: rest => some ([], rest)
  | '\\' :: 'u' :: a :: b :: c :: d :: rest => do
    let unit ← Hex.number? [a, b, c, d]
    let (units, rest) ← readUnits rest
    return (unit :: units, rest)
  | '\\' :: c :: rest => do
    let c ← shortEscape? c
    let (units, rest) ← readUnits rest
    return (c.toNat :: units, rest)
  | c :: rest => do
    let (units, rest) ← readUnits rest
    return (c.toNat :: units, rest)

def isHighHalf (unit : Nat) : Bool := 0xD800 ≤ unit && unit < 0xDC00

def isLowHalf (unit : Nat) : Bool := 0xDC00 ≤ unit && unit < 0xE000

/-- The characters that code units stand for; halves of pairs do not stand alone. -/
def joinUnits : List Nat → Option (List Char)
  | [] => some []
  | high :: low :: rest =>
    if isHighHalf high then
      if isLowHalf low then
        (joinUnits rest).map
          (Char.ofNat (0x10000 + (high - 0xD800) * 0x400 + (low - 0xDC00)) :: ·)
      else none
    else if isLowHalf high then none
    else (joinUnits (low :: rest)).map (Char.ofNat high :: ·)
  | [unit] => if isHighHalf unit || isLowHalf unit then none else some [Char.ofNat unit]

def readText (input : List Char) : Option (String × List Char) := do
  let (units, rest) ← readUnits input
  return (String.ofList (← joinUnits units), rest)

def decimal (digits : List Char) : Nat :=
  digits.foldl (fun number c => number * 10 + (c.toNat - '0'.toNat)) 0

def nearest (negative : Bool) (mantissa : Nat) (exponent : Int) : Float :=
  let magnitude := Float.ofScientific mantissa (exponent < 0) exponent.natAbs
  if negative then -magnitude else magnitude

def readFraction : List Char → List Char × List Char × Bool
  | '.' :: rest => (rest.takeWhile Char.isDigit, rest.dropWhile Char.isDigit, true)
  | rest => ([], rest, false)

def readExponent : List Char → Int × List Char × Bool
  | e :: rest =>
    if e == 'e' || e == 'E' then
      let (negative, rest) := match rest with
        | '-' :: rest => (true, rest)
        | '+' :: rest => (false, rest)
        | rest => (false, rest)
      let size : Int := decimal (rest.takeWhile Char.isDigit)
      (if negative then -size else size, rest.dropWhile Char.isDigit, true)
    else (0, e :: rest, false)
  | [] => (0, [], false)

/-- A number. It is whole when it has neither point nor exponent and fits 64 bits; a negative zero
is not. -/
def readNumber (input : List Char) : Option (Numeral × List Char) :=
  let (negative, rest) := match input with
    | '-' :: rest => (true, rest)
    | rest => (false, rest)
  let digits := rest.takeWhile Char.isDigit
  if digits.isEmpty then none
  else
    let (fraction, rest, pointed) := readFraction (rest.dropWhile Char.isDigit)
    let (exponent, rest, scaled) := readExponent rest
    let size := decimal digits
    -- A whole number that 64 bits cannot hold is read like one with a point.
    if !pointed && !scaled && !negative && size < Nat.pow 2 64 then some (.whole size, rest)
    else if !pointed && !scaled && negative && size ≠ 0 && size ≤ Nat.pow 2 63 then
      some (.whole (-size), rest)
    else
      let mantissa := decimal (digits ++ fraction)
      some (.real (nearest negative mantissa (exponent - fraction.length)), rest)

mutual

/-- A value; the first argument bounds how deep and how long it may be. -/
def readValue : Nat → List Char → Option (Document × List Char)
  | 0, _ => none
  | fuel + 1, input =>
    match skipBlanks input with
    | '\x7b' :: rest =>
      match skipBlanks rest with
      | '\x7d' :: rest => some (.record [], rest)
      | rest => (readFields fuel rest).map fun (fields, rest) => (.record fields, rest)
    | '[' :: rest =>
      match skipBlanks rest with
      | ']' :: rest => some (.list [], rest)
      | rest => (readItems fuel rest).map fun (items, rest) => (.list items, rest)
    | '"' :: rest => (readText rest).map fun (words, rest) => (.text words, rest)
    | 't' :: 'r' :: 'u' :: 'e' :: rest => some (.flag true, rest)
    | 'f' :: 'a' :: 'l' :: 's' :: 'e' :: rest => some (.flag false, rest)
    | 'n' :: 'u' :: 'l' :: 'l' :: rest => some (.null, rest)
    | rest => (readNumber rest).map fun (value, rest) => (.number value, rest)

def readFields : Nat → List Char → Option (List (String × Document) × List Char)
  | 0, _ => none
  | fuel + 1, input =>
    match skipBlanks input with
    | '"' :: rest => do
      let (key, rest) ← readText rest
      match skipBlanks rest with
      | ':' :: rest => do
        let (value, rest) ← readValue fuel rest
        match skipBlanks rest with
        | ',' :: rest => do
          let (fields, rest) ← readFields fuel rest
          return ((key, value) :: fields, rest)
        | '\x7d' :: rest => return ([(key, value)], rest)
        | _ => none
      | _ => none
    | _ => none

def readItems : Nat → List Char → Option (List Document × List Char)
  | 0, _ => none
  | fuel + 1, input => do
    let (value, rest) ← readValue fuel input
    match skipBlanks rest with
    | ',' :: rest => do
      let (items, rest) ← readItems fuel rest
      return (value :: items, rest)
    | ']' :: rest => return ([value], rest)
    | _ => none

end

def parse? (text : String) : Option Document := do
  let input := text.toList
  let (value, rest) ← readValue (input.length + 1) input
  if (skipBlanks rest).isEmpty then some value else none

end AudioHost.Document
