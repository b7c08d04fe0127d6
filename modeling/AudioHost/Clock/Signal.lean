/-!
# Signals

A signal is raised to wake whoever waits for it. It stays raised until it is seen.
-/

set_option autoImplicit false

namespace AudioHost

structure Signal where
  raised : Bool := false
deriving DecidableEq

namespace Signal

def raise (_ : Signal) : Signal := ⟨true⟩

/-- Wait until the signal is raised or the time is up, say which of the two it was, and lower the
signal. -/
def wait (signal : Signal) : Bool × Signal := (signal.raised, ⟨false⟩)

@[simp] theorem raised_raise (signal : Signal) : signal.raise.raised = true := rfl

@[simp] theorem wait_fst (signal : Signal) : signal.wait.1 = signal.raised := rfl

@[simp] theorem raised_wait (signal : Signal) : signal.wait.2.raised = false := rfl

end Signal

end AudioHost
