import AudioHost.Proofs.RackSteps

/-!
# Racks in step

Two racks may differ in what no operation looks at. If each step gives both of them the same answer
and leaves them as much alike as before, so does every operation.
-/

set_option autoImplicit false

namespace AudioHost.Rack

structure SameMount (alike : Backend → Backend → Prop) (left right : Mount) : Prop where
  driver : left.driver = right.driver
  backend : alike left.backend right.backend

def SameMounts (alike : Backend → Backend → Prop) (left right : PerRole (Option Mount)) : Prop :=
  ∀ role, Option.Rel (SameMount alike) (left.get role) (right.get role)

namespace SameMounts

variable {alike : Backend → Backend → Prop}

theorem set {left right : PerRole (Option Mount)} (same : SameMounts alike left right) (role : Role)
    {one other : Option Mount} (mount : Option.Rel (SameMount alike) one other) :
    SameMounts alike (left.set role one) (right.set role other) := by
  intro place
  rw [PerRole.get_set, PerRole.get_set]
  split
  · exact mount
  · exact same place

variable {left right : Rack}

theorem backend (same : SameMounts alike left.mounts right.mounts) (dummy : alike .dummy .dummy)
    (name : RoleName) : alike (left.backend name) (right.backend name) := by
  have mounts := same name.role
  simp only [Rack.backend]
  generalize left.mounts.get name.role = one at mounts ⊢
  generalize right.mounts.get name.role = other at mounts ⊢
  cases mounts with
  | none => exact dummy
  | some mount => exact mount.backend

theorem driver (same : SameMounts alike left.mounts right.mounts) (name : RoleName) :
    left.driver name = right.driver name := by
  have mounts := same name.role
  simp only [Rack.driver]
  generalize left.mounts.get name.role = one at mounts ⊢
  generalize right.mounts.get name.role = other at mounts ⊢
  cases mounts with
  | none => rfl
  | some mount => exact mount.driver

theorem isMounted (same : SameMounts alike left.mounts right.mounts) (name : RoleName) :
    left.isMounted name = right.isMounted name := by
  have mounts := same name.role
  simp only [Rack.isMounted]
  generalize left.mounts.get name.role = one at mounts ⊢
  generalize right.mounts.get name.role = other at mounts ⊢
  cases mounts <;> rfl

end SameMounts

/-- What two racks choose for a role, and what they make of a driver that is registered. -/
inductive SameChoice (alike : Backend → Backend → Prop) (related : Rack → Rack → Prop)
    (left right : Rack) (role : Role) : Choice → Choice → Prop where
  | registered (first second : Registration)
      (backend : alike (left.make first role).1 (right.make second role).1)
      (made : related (left.make first role).2 (right.make second role).2) :
      SameChoice alike related left right role (.registered first) (.registered second)
  | dummy : SameChoice alike related left right role .dummy .dummy
  | leftOut : SameChoice alike related left right role .leftOut .leftOut
  | unknown : SameChoice alike related left right role .unknown .unknown

/-- The same answer, and racks that are related. -/
def Together {α : Type} (related : Rack → Rack → Prop) (left right : α × Rack) : Prop :=
  left.1 = right.1 ∧ related left.2 right.2

theorem Together.split {α : Type} {related : Rack → Rack → Prop} {left right : α × Rack}
    (together : Together related left right) :
    ∃ answer first second, left = (answer, first) ∧ right = (answer, second) ∧
      related first second := by
  obtain ⟨answer, first⟩ := left
  obtain ⟨_, second⟩ := right
  obtain ⟨rfl, holds⟩ := together
  exact ⟨answer, first, second, rfl, rfl, holds⟩

structure Paired (alike : Backend → Backend → Prop) (related : Rack → Rack → Prop) : Prop where
  dummy : alike .dummy .dummy
  mounts : ∀ left right role, related left right →
    Option.Rel (SameMount alike) (left.mounts.get role) (right.mounts.get role)
  choose : ∀ left right (role : Role) driver, related left right →
    SameChoice alike related left right role
      (left.catalog.choose role driver) (right.catalog.choose role driver)
  note : ∀ left right notice, related left right → related (left.note notice) (right.note notice)
  call : ∀ left right role first second request, related left right → alike first second →
    Together related (left.call role first request) (right.call role second request)
  mount : ∀ left right role driver first second, related left right → alike first second →
    related (left.mount role driver first) (right.mount role driver second)
  dismount : ∀ left right role, related left right →
    related (left.dismount role) (right.dismount role)
  clear : ∀ left right (role : Role), related left right →
    related { left with hub := left.hub.clear role } { right with hub := right.hub.clear role }
  renew : ∀ left right (role : Role) capacity, related left right →
    related { left with hub := left.hub.renew role capacity }
      { right with hub := right.hub.renew role capacity }

namespace Paired

variable {alike : Backend → Backend → Prop} {related : Rack → Rack → Prop} {left right : Rack}
  {first second : Backend}

theorem unmount (paired : Paired alike related) (role : Role) (holds : related left right) :
    Together related (left.unmount role) (right.unmount role) := by
  have emptied := paired.dismount left right role holds
  have mounts := paired.mounts left right role holds
  rw [unmount_eq, unmount_eq]
  generalize left.mounts.get role = former at mounts ⊢
  generalize right.mounts.get role = other at mounts ⊢
  cases mounts with
  | none => exact ⟨rfl, emptied⟩
  | some same =>
    -- A device is released once its place is empty.
    obtain ⟨answer, _, _, here, there, after⟩ :=
      (paired.call _ _ role _ _ .release emptied same.backend).split
    simp only [here, there, same.driver]
    cases answer with
    | ok _ => exact ⟨rfl, after⟩
    | error cause => exact ⟨rfl, paired.note _ _ _ after⟩

theorem mountDummy (paired : Paired alike related) (role : Role) (settings : Settings)
    (holds : related left right) :
    related (left.mountDummy role settings) (right.mountDummy role settings) :=
  (paired.call _ _ role .dummy .dummy _
    (paired.mount _ _ role dummyName _ _ holds paired.dummy) paired.dummy).2

theorem install (paired : Paired alike related) (role : Role) (driver : String)
    (settings : Settings) (holds : related left right) (same : alike first second) :
    Together related (left.install role driver first settings)
      (right.install role driver second settings) := by
  have mounted := paired.mount _ _ role driver _ _ (paired.unmount role holds).2 same
  obtain ⟨answer, _, _, here, there, after⟩ :=
    (paired.call _ _ role _ _ (.activate settings) mounted same).split
  simp only [Rack.install, here, there]
  cases answer with
  | ok _ => exact ⟨rfl, after⟩
  | error cause => exact ⟨rfl, paired.mountDummy role settings (paired.note _ _ _ after)⟩

theorem engage (paired : Paired alike related) (name : RoleName) (settings : Settings)
    (holds : related left right) :
    Together related (left.engage name settings) (right.engage name settings) := by
  have noted := paired.note _ _ (.activatingBackend name.role (settings.driver name.role)) holds
  have chosen := paired.choose _ _ name.role (settings.driver name.role) noted
  have dummy {one two : Rack} (holds : related one two) :=
    paired.install name.role dummyName settings holds paired.dummy
  simp only [Rack.engage]
  generalize (left.note _).catalog.choose _ _ = choice at chosen ⊢
  generalize (right.note _).catalog.choose _ _ = other at chosen ⊢
  cases chosen with
  | registered one two backend made => exact paired.install _ _ settings made backend
  | dummy => exact dummy noted
  | leftOut => exact ⟨rfl, (dummy (paired.note _ _ _ noted)).2⟩
  | unknown => exact ⟨rfl, (dummy (paired.note _ _ _ noted)).2⟩

theorem vacate (paired : Paired alike related) (name : RoleName) (holds : related left right) :
    Together related (left.vacate name) (right.vacate name) := by
  obtain ⟨answer, after⟩ := paired.unmount name.role holds
  exact ⟨answer, paired.clear _ _ name.role after⟩

theorem adjust (paired : Paired alike related) (name : RoleName) (settings : Settings)
    (holds : related left right) :
    Together related (left.adjust name settings) (right.adjust name settings) := by
  have noted := paired.note _ _ (.switchingDriver name.role (settings.driver name.role)) holds
  have switched := paired.engage name.role settings
    (paired.renew _ _ name.role (settings.mailboxSize name.role) (paired.vacate name.role noted).2)
  have mounts := paired.mounts left right name.role holds
  simp only [Rack.adjust]
  generalize left.mounts.get name.role = former at mounts ⊢
  generalize right.mounts.get name.role = other at mounts ⊢
  cases mounts with
  | none => exact switched
  | @some mount other same =>
    -- Both racks have the same driver there, so both keep it or both take another one.
    by_cases stays : other.driver = settings.driver name.role
    · obtain ⟨answer, _, _, here, there, after⟩ :=
        (paired.call _ _ name.role _ _ (.adjust settings) holds same.backend).split
      simp only [Option.filter_some, same.driver, stays, beq_self_eq_true, if_true, here, there]
      cases answer with
      | ok _ => exact ⟨rfl, after⟩
      | error cause =>
        have failed := paired.note _ _ (.adjustmentFailed name.role cause) after
        exact ⟨rfl, paired.mountDummy _ settings (paired.unmount _ failed).2⟩
    · have another : (other.driver == settings.driver name.role) = false := by simpa using stays
      simp only [Option.filter_some, same.driver, another, Bool.false_eq_true, if_false]
      exact switched

theorem pass (paired : Paired alike related) (name : RoleName) (request : Request)
    (holds : related left right) :
    Together related (left.pass name request) (right.pass name request) := by
  have mounts := paired.mounts left right name.role holds
  simp only [Rack.pass]
  generalize left.mounts.get name.role = former at mounts ⊢
  generalize right.mounts.get name.role = other at mounts ⊢
  cases mounts with
  | none => exact ⟨rfl, holds⟩
  | some same =>
    obtain ⟨answer, _, _, here, there, after⟩ :=
      (paired.call _ _ name.role _ _ request holds same.backend).split
    simp only [here, there]
    cases answer <;> exact ⟨rfl, after⟩

end Paired

theorem Together.forBoth {related : Rack → Rack → Prop} {left right : Rack}
    (operation : Rack → Role → Except Fault Unit × Rack)
    (kept : ∀ left right role, related left right →
      Together related (operation left role) (operation right role))
    (holds : related left right) :
    Together related (left.forBoth operation) (right.forBoth operation) := by
  obtain ⟨audio, _, _, here, there, between⟩ := (kept _ _ .audio holds).split
  obtain ⟨midi, _, _, hereToo, thereToo, after⟩ := (kept _ _ .midi between).split
  simp only [Rack.forBoth, here, there, hereToo, thereToo]
  cases audio <;> exact ⟨rfl, after⟩

end AudioHost.Rack
