/-!
# Blank text

The characters with the White_Space property. A text is blank when it has no others.
-/

set_option autoImplicit false

namespace AudioHost

def blankRanges : List (Nat × Nat) :=
  [(0x09, 0x0D), (0x20, 0x20), (0x85, 0x85), (0xA0, 0xA0), (0x1680, 0x1680), (0x2000, 0x200A),
    (0x2028, 0x2029), (0x202F, 0x202F), (0x205F, 0x205F), (0x3000, 0x3000)]

def isBlankChar (c : Char) : Bool :=
  blankRanges.any fun range => range.1 ≤ c.toNat && c.toNat ≤ range.2

theorem isBlankChar_of_isWhitespace {c : Char} (white : c.isWhitespace) : isBlankChar c := by
  simp only [Char.isWhitespace, Bool.or_eq_true, decide_eq_true_eq] at white
  rcases white with ((rfl | rfl) | rfl) | rfl <;> decide

def isBlank (text : String) : Bool := text.toList.all isBlankChar

end AudioHost
