/-!
# Documents

A document is a tree of values, in the form in which settings are handed over.
-/

set_option autoImplicit false

namespace AudioHost

inductive Numeral where
  | whole (value : Int)
  | real (value : Float)

inductive Document where
  | null
  | flag (value : Bool)
  | number (value : Numeral)
  | text (value : String)
  | list (items : List Document)
  | record (fields : List (String × Document))

namespace Document

def text? : Document → Option String
  | .text value => some value
  | _ => none

def flag? : Document → Option Bool
  | .flag value => some value
  | _ => none

def list? : Document → Option (List Document)
  | .list items => some items
  | _ => none

def count? (limit : Nat) : Document → Option Nat
  | .number (.whole (.ofNat value)) => if value ≤ limit then some value else none
  | _ => none

def real? : Document → Option Float
  | .number (.whole (.ofNat value)) => some (Float.ofNat value)
  | .number (.whole value) => some (Float.ofInt value)
  | .number (.real value) => some value
  | _ => none

/-- The members of a record, or of a list that holds the values of the first keys in order. -/
def members? (keys : List String) : Document → Option (List (String × Document))
  | .record fields => some fields
  | .list items => if items.length ≤ keys.length then some (keys.zip items) else none
  | _ => none

def record? : Document → Option (List (String × Document))
  | .record fields => some fields
  | _ => none

def lastMember? (members : List (String × Document)) (key : String) : Option Document :=
  (members.reverse.find? fun entry => entry.1 == key).map (·.2)

end Document

end AudioHost
