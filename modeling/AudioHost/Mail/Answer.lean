import AudioHost.Midi.Event

/-!
# Answers

What the operations that move messages and time give back to their caller.
-/

set_option autoImplicit false

namespace AudioHost

inductive Answer where
  | none
  | accepted (yes : Bool)
  | time (time : Position)
  | due (message : Option DueMessage)
  | event (event : Option InputEvent)
  | text (words : String)
deriving DecidableEq

/-- Answer whether a step was possible, and keep the state when it was not. -/
def Answer.attempt {State : Type} (state : State) (next : Option State) : Answer × State :=
  (.accepted next.isSome, next.getD state)

end AudioHost
