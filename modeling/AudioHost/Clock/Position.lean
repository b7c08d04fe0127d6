/-!
# Positions

A position is a time in seconds, kept as the 64 bits of a double. Two positions are the same if all
their bits are. They are compared as the numbers that the bits stand for, so the two zeros are
equal, and what is not a number equals nothing, not even itself.
-/

set_option autoImplicit false

namespace AudioHost

structure Position where
  bits : UInt64
deriving DecidableEq, Inhabited

namespace Position

def seconds (position : Position) : Float := .ofBits position.bits

def ofSeconds (seconds : Float) : Position := ⟨seconds.toBits⟩

instance (whole : Nat) : OfNat Position whole := ⟨ofSeconds (.ofNat whole)⟩

/-- One of the many positions that are not numbers. -/
def nan : Position := ⟨0x7ff8000000000000⟩

def isNaN (position : Position) : Bool := position.seconds.isNaN

instance : BEq Position := ⟨fun left right => left.seconds == right.seconds⟩

end Position

end AudioHost
