/-!
# Cursors

A cursor runs around twice the number of cells of a ring, so that a full ring and an empty one are
told apart by where its two cursors stand.
-/

set_option autoImplicit false

namespace AudioHost.Cursor

def advance (size cursor count : Nat) : Nat :=
  if cursor + count < 2 * size then cursor + count else cursor + count - 2 * size

def slot (size cursor : Nat) : Nat :=
  if cursor < size then cursor else cursor - size

def distance (size read write : Nat) : Nat :=
  if read ≤ write then write - read else write + 2 * size - read

variable {size read write count : Nat}

theorem advance_lt (readBound : read < 2 * size) (countBound : count ≤ 2 * size) :
    advance size read count < 2 * size := by
  simp only [advance]
  split <;> omega

theorem slot_lt (bound : read < 2 * size) : slot size read < size := by
  simp only [slot]
  split <;> omega

theorem advance_zero (bound : read < 2 * size) : advance size read 0 = read := by
  simp [advance, bound]

theorem advance_distance (readBound : read < 2 * size) (writeBound : write < 2 * size) :
    advance size read (distance size read write) = write := by
  simp only [advance, distance]
  split <;> split <;> omega

theorem distance_advance_write (readBound : read < 2 * size) (writeBound : write < 2 * size)
    (room : distance size read write < size) :
    distance size read (advance size write 1) = distance size read write + 1 := by
  simp only [distance, advance] at *
  split at room <;> split <;> split <;> omega

theorem distance_advance_read (readBound : read < 2 * size) (writeBound : write < 2 * size)
    (filled : 0 < distance size read write) :
    distance size (advance size read 1) write + 1 = distance size read write := by
  simp only [distance, advance] at *
  split at filled <;> split <;> split <;> omega

theorem advance_advance (bound : read < 2 * size) (more : count < 2 * size) :
    advance size (advance size read 1) count = advance size read (count + 1) := by
  simp only [advance]
  split <;> split <;> split <;> omega

/-- Cursors less than one round apart stand on different cells. -/
theorem slot_advance_ne {near far : Nat} (bound : read < 2 * size) (before : near < far)
    (round : far < size) :
    slot size (advance size read near) ≠ slot size (advance size read far) := by
  simp only [slot, advance]
  split <;> split <;> split <;> split <;> omega

end AudioHost.Cursor

