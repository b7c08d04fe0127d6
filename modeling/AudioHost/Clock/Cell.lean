/-!
# Cells

A cell holds one value that can be read, replaced, and exchanged for another.
-/

set_option autoImplicit false

namespace AudioHost

structure Cell (α : Type) where
  value : α
deriving DecidableEq

namespace Cell

variable {α : Type}

instance [Inhabited α] : Inhabited (Cell α) := ⟨⟨default⟩⟩

def get (cell : Cell α) : α := cell.value

def set (_ : Cell α) (value : α) : Cell α := ⟨value⟩

def swap (cell : Cell α) (value : α) : α × Cell α := (cell.value, ⟨value⟩)

@[simp] theorem get_set (cell : Cell α) (value : α) : (cell.set value).get = value := rfl

@[simp] theorem swap_fst (cell : Cell α) (value : α) : (cell.swap value).1 = cell.get := rfl

@[simp] theorem swap_snd (cell : Cell α) (value : α) : (cell.swap value).2 = cell.set value := rfl

end Cell

end AudioHost
