import AudioHost.Driver.Rack

/-!
# The steps of a rack

Every operation on a rack is made of a few steps: writing to the log, having a device made, calling
a backend, putting a mount in or taking one out together with the clock's note of it, and acting on
the hub. What each of these steps keeps, every run of operations keeps.
-/

set_option autoImplicit false

namespace AudioHost.Rack

def dismount (rack : Rack) (role : Role) : Rack :=
  { rack with
    hub := rack.hub.markDummy role true
    mounts := rack.mounts.set role none }

/-- Kept by every step on mounts, devices and the log; actions on the hub are another matter. -/
structure Steady (property : Rack → Prop) : Prop where
  note : ∀ rack notice, property rack → property (rack.note notice)
  make : ∀ rack registration role, property rack → property (rack.make registration role).2
  call : ∀ rack role backend request, property rack → property (rack.call role backend request).2
  mount : ∀ rack role driver backend, property rack → property (rack.mount role driver backend)
  dismount : ∀ rack role, property rack → property (rack.dismount role)

structure Stable (property : Rack → Prop) : Prop extends Steady property where
  perform : ∀ (rack : Rack) action, property rack →
    property { rack with hub := (rack.hub.perform action).2 }
  lower : ∀ rack : Rack, property rack →
    property { rack with hub := { rack.hub with signal := rack.hub.signal.wait.2 } }

theorem unmount_eq (rack : Rack) (role : Role) :
    rack.unmount role =
      match rack.mounts.get role with
      | none => (.ok (), rack.dismount role)
      | some mount =>
        match (rack.dismount role).call role mount.backend .release with
        | (.ok _, rack) => (.ok (), rack)
        | (.error cause, rack) =>
          (.error (.backend role cause), rack.note (.releaseFailed role mount.driver cause)) := rfl

namespace Steady

variable {property : Rack → Prop} {rack : Rack}

theorem unmount (steady : Steady property) (role : Role) (holds : property rack) :
    property (rack.unmount role).2 := by
  have emptied := steady.dismount rack role holds
  rw [unmount_eq]
  cases rack.mounts.get role with
  | none => exact emptied
  | some mount =>
    have called := steady.call _ role mount.backend .release emptied
    simp only
    split
    next known => simpa [known] using called
    next known => exact steady.note _ _ (by simpa [known] using called)

theorem mountDummy (steady : Steady property) (role : Role) (settings : Settings)
    (holds : property rack) : property (rack.mountDummy role settings) :=
  steady.call _ role .dummy _ (steady.mount rack role dummyName .dummy holds)

theorem install (steady : Steady property) (role : Role) (driver : String) (backend : Backend)
    (settings : Settings) (holds : property rack) :
    property (rack.install role driver backend settings).2 := by
  have mounted := steady.mount _ role driver backend (steady.unmount role holds)
  have called := steady.call _ role backend (.activate settings) mounted
  simp only [Rack.install]
  split
  next known => simpa [known] using called
  next known =>
    exact steady.mountDummy role settings (steady.note _ _ (by simpa [known] using called))

theorem engage (steady : Steady property) (name : RoleName) (settings : Settings)
    (holds : property rack) : property (rack.engage name settings).2 := by
  have noted := steady.note rack (.activatingBackend name.role (settings.driver name.role)) holds
  simp only [Rack.engage]
  split
  next => exact steady.install _ _ _ _ (steady.make _ _ _ noted)
  next => exact steady.install _ _ _ _ noted
  next => exact steady.install _ _ _ _ (steady.note _ _ noted)
  next => exact steady.install _ _ _ _ (steady.note _ _ noted)

theorem vacate (steady : Steady property) (name : RoleName)
    (cleared : ∀ rack : Rack, property rack →
      property { rack with hub := rack.hub.clear name.role })
    (holds : property rack) : property (rack.vacate name).2 :=
  cleared _ (steady.unmount name.role holds)

theorem adjust (steady : Steady property) (name : RoleName) (settings : Settings)
    (cleared : ∀ rack : Rack, property rack →
      property { rack with hub := rack.hub.clear name.role })
    (renewed : ∀ rack : Rack, property rack →
      property { rack with hub := rack.hub.renew name.role (settings.mailboxSize name.role) })
    (holds : property rack) : property (rack.adjust name settings).2 := by
  simp only [Rack.adjust]
  split
  next =>
    have noted := steady.note rack (.switchingDriver name.role (settings.driver name.role)) holds
    have emptied := steady.vacate name.role.name (by simpa using cleared) noted
    exact steady.engage _ _ (renewed _ emptied)
  next mount _ =>
    have called := steady.call rack name.role mount.backend (.adjust settings) holds
    split
    next known => simpa [known] using called
    next known =>
      exact steady.mountDummy _ settings (steady.unmount _
        (steady.note _ _ (by simpa [known] using called)))

theorem pass (steady : Steady property) (name : RoleName) (request : Request)
    (holds : property rack) : property (rack.pass name request).2 := by
  simp only [Rack.pass]
  split
  next => exact holds
  next mount _ =>
    have called := steady.call rack name.role mount.backend request holds
    split
    next known => simpa [known] using called
    next known => simpa [known] using called

end Steady

namespace Stable

variable {property : Rack → Prop} {rack : Rack}

theorem apply (stable : Stable property) (command : Command) (holds : property rack) :
    property (rack.apply command).2 := by
  cases command with
  | engage name settings => exact stable.engage name settings holds
  | adjust name settings =>
    exact stable.adjust name settings
      (fun rack => stable.perform rack (.onMailboxes (.clear _)))
      (fun rack => stable.perform rack (.onMailboxes (.renew _ _))) holds
  | vacate name =>
    exact stable.vacate name
      (fun rack => stable.perform rack (.onMailboxes (.clear _))) holds
  | playbackStarted name => exact stable.pass name .playbackStarted holds
  | playbackStopped name => exact stable.pass name .playbackStopped holds
  | silence name => exact stable.pass name .silence holds
  | perform action => exact stable.perform rack action holds
  | waitSignal => exact stable.lower rack holds

theorem run (stable : Stable property) (commands : List Command) (holds : property rack) :
    property (rack.run commands) := by
  induction commands generalizing rack with
  | nil => exact holds
  | cons command rest ih => exact ih (stable.apply command holds)

theorem forBoth (operation : Rack → Role → Except Fault Unit × Rack)
    (kept : ∀ rack role, property rack → property (operation rack role).2)
    (holds : property rack) : property (rack.forBoth operation).2 := by
  have second := kept _ .midi (kept _ .audio holds)
  simp only [Rack.forBoth]
  split <;> exact second

theorem close (stable : Stable property) (holds : property rack) : property rack.close :=
  forBoth Rack.unmount (fun _ role => stable.unmount role) holds

end Stable

/-- Kept by the steps of a rack, and by all that is done to its mail but what the application
does. -/
structure Lasting (property : Rack → Prop) : Prop extends Steady property where
  clear : ∀ (rack : Rack) name, property rack → property { rack with hub := rack.hub.clear name }
  renew : ∀ (rack : Rack) name capacity, property rack →
    property { rack with hub := rack.hub.renew name capacity }
  collect : ∀ rack : Rack, property rack →
    property { rack with hub := { rack.hub with mail := (rack.hub.mail.collectAll .midi).2 } }
  sameMail : ∀ (rack : Rack) hub, hub.mail = rack.hub.mail → property rack →
    property { rack with hub }

theorem Steady.lasting {property : Rack → Prop} (steady : Steady property)
    (hubless : ∀ (rack : Rack) (hub : Hub), property rack → property { rack with hub }) :
    Lasting property :=
  ⟨steady, fun rack _ => hubless rack _, fun rack _ _ => hubless rack _, fun rack => hubless rack _,
    fun rack hub _ => hubless rack hub⟩

def Command.action? : Command → Option Hub.Action
  | .perform action => some action
  | _ => none

theorem Lasting.apply {property : Rack → Prop} {rack : Rack} (lasting : Lasting property)
    (command : Command)
    (performed : ∀ action ∈ command.action?, ∀ rack : Rack, property rack →
      property { rack with hub := (rack.hub.perform action).2 })
    (holds : property rack) : property (rack.apply command).2 := by
  cases command with
  | engage name settings => exact lasting.engage name settings holds
  | adjust name settings =>
    exact lasting.adjust name settings (fun rack => lasting.clear rack _)
      (fun rack => lasting.renew rack _ _) holds
  | vacate name => exact lasting.vacate name (fun rack => lasting.clear rack _) holds
  | playbackStarted name => exact lasting.pass name .playbackStarted holds
  | playbackStopped name => exact lasting.pass name .playbackStopped holds
  | silence name => exact lasting.pass name .silence holds
  | perform action => exact performed action rfl rack holds
  | waitSignal => exact lasting.sameMail rack _ rfl holds

end AudioHost.Rack
