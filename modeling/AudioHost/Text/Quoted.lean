import AudioHost.Text.Unprintable

/-!
# Quoted names

A name in double quotes. A character that would not show, or would end the quotation, is replaced
by an escape.
-/

set_option autoImplicit false

namespace AudioHost.Quoted

def codePoint (c : Char) : List Char := Nat.toDigits 16 c.toNat

def escape (c : Char) : List Char :=
  if c = '\x00' then ['\\', '0']
  else if c = '\t' then ['\\', 't']
  else if c = '\r' then ['\\', 'r']
  else if c = '\n' then ['\\', 'n']
  else if c = '"' then ['\\', '"']
  else if c = '\\' then ['\\', '\\']
  else if isPlainChar c then [c]
  else ['\\', 'u', '\x7b'] ++ codePoint c ++ ['\x7d']

def quote (text : String) : String :=
  String.ofList ('"' :: text.toList.flatMap escape ++ ['"'])

end AudioHost.Quoted
