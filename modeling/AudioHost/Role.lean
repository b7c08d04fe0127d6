/-!
# Roles

A host has one driver for each of two roles. Callers name a role by a `RoleName`, which adds an
alias for audio; everything that is stored is keyed by the `Role` it resolves to.
-/

set_option autoImplicit false

namespace AudioHost

inductive Role where
  | audio
  | midi
deriving DecidableEq

inductive RoleName where
  /-- An alias for audio. -/
  | default
  | audio
  | midi
deriving DecidableEq

def RoleName.role : RoleName → Role
  | .default | .audio => .audio
  | .midi => .midi

namespace Role

def name : Role → RoleName
  | .audio => .audio
  | .midi => .midi

instance : Coe Role RoleName := ⟨name⟩

@[simp] theorem role_name (role : Role) : role.name.role = role := by cases role <;> rfl

@[simp] theorem name_ne_default (role : Role) : role.name ≠ .default := by cases role <;> decide

def all : List Role := [.audio, .midi]

@[simp] theorem mem_all (role : Role) : role ∈ all := by cases role <;> decide

def order : Role → Nat
  | .audio => 0
  | .midi => 1

def label : Role → String
  | .audio => "audio"
  | .midi => "MIDI"

end Role

def RoleName.all : List RoleName := [.default, .audio, .midi]

def RoleName.describe : RoleName → String
  | .default => "Default"
  | .audio => "Audio"
  | .midi => "Midi"

structure PerRole (α : Type) where
  audio : α
  midi : α
deriving DecidableEq

namespace PerRole

variable {α : Type}

def both (value : α) : PerRole α := ⟨value, value⟩

def get (pair : PerRole α) : Role → α
  | .audio => pair.audio
  | .midi => pair.midi

def set (pair : PerRole α) (role : Role) (value : α) : PerRole α :=
  match role with
  | .audio => { pair with audio := value }
  | .midi => { pair with midi := value }

@[simp] theorem get_both (value : α) (role : Role) : (both value).get role = value := by
  cases role <;> rfl

@[simp] theorem get_set_self (pair : PerRole α) (role : Role) (value : α) :
    (pair.set role value).get role = value := by
  cases role <;> rfl

theorem get_set (pair : PerRole α) (role other : Role) (value : α) :
    (pair.set role value).get other = if other = role then value else pair.get other := by
  cases role <;> cases other <;> rfl

@[simp] theorem get_set_of_ne (pair : PerRole α) {role other : Role} (value : α)
    (different : other ≠ role) : (pair.set role value).get other = pair.get other := by
  simp [get_set, different]

@[simp] theorem set_set (pair : PerRole α) (role : Role) (first second : α) :
    (pair.set role first).set role second = pair.set role second := by
  cases role <;> rfl

@[simp] theorem set_get_self (pair : PerRole α) (role : Role) :
    pair.set role (pair.get role) = pair := by
  cases role <;> rfl

@[ext] theorem ext_get {left right : PerRole α} (same : ∀ role, left.get role = right.get role) :
    left = right := by
  cases left
  cases right
  have audio := same .audio
  have midi := same .midi
  simp_all [get]

end PerRole

end AudioHost
