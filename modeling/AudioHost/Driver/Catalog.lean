import AudioHost.Driver.Device
import AudioHost.Text.Quoted

/-!
# Driver catalogs

A catalog lists the drivers that can be chosen by name for each role. The dummy can always be
chosen and needs no entry; an entry under its name is never used.
-/

set_option autoImplicit false

namespace AudioHost

structure Registration where
  /-- How many drivers were registered before. -/
  number : Nat
  role : Role
  name : String
  make : Nat → Role → Device

structure Catalog where
  registrations : List Registration := []

def leftOutAudioDrivers : List String := ["portaudio", "jack"]

def leftOutMidiDrivers : List String := ["portmidi", "alsa"]

def leftOutDrivers : Role → List String
  | .audio => leftOutAudioDrivers
  | .midi => leftOutMidiDrivers

def insertName (name : String) : List String → List String
  | [] => [name]
  | first :: rest =>
    if name < first then name :: first :: rest
    else if name = first then first :: rest
    else first :: insertName name rest

inductive Choice where
  | registered (registration : Registration)
  | dummy
  | leftOut
  | unknown

namespace Catalog

/-- Add a driver for a role. A driver registered before under the same name is no longer used. -/
def add (catalog : Catalog) (name : RoleName) (driver : String) (make : Nat → Role → Device) :
    Catalog :=
  ⟨⟨catalog.registrations.length, name.role, driver, make⟩ :: catalog.registrations⟩

def find? (catalog : Catalog) (name : RoleName) (driver : String) : Option Registration :=
  catalog.registrations.find? fun entry => entry.role == name.role && entry.name == driver

def contains (catalog : Catalog) (name : RoleName) (driver : String) : Bool :=
  (catalog.find? name driver).isSome

def choices (catalog : Catalog) (name : RoleName) : List String :=
  let registered := catalog.registrations.filter fun entry => entry.role == name.role
  (registered.map Registration.name).foldr insertName [dummyName]

def choose (catalog : Catalog) (role : Role) (driver : String) : Choice :=
  if driver = dummyName then .dummy
  else
    match catalog.find? role driver with
    | some registration => .registered registration
    | none => if driver ∈ leftOutDrivers role then .leftOut else .unknown

def describeKey (entry : Registration) : String :=
  "(" ++ entry.role.name.describe ++ ", " ++ Quoted.quote entry.name ++ ")"

def describe (catalog : Catalog) : String :=
  let keys := (catalog.registrations.map describeKey).eraseDups
  "\x7b" ++ ", ".intercalate keys ++ "\x7d"

end Catalog

end AudioHost
