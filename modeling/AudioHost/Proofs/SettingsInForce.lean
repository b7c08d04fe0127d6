import AudioHost.Proofs.MailGenerations
import AudioHost.Proofs.Phases

/-!
# The settings in force

A running session tells the settings that it was given last. Its channel and its relay were made
when it was started, the mailbox of a role when its driver was chosen, and all of them keep the
sizes of that time.
-/

set_option autoImplicit false

namespace AudioHost

@[simp] theorem Relay.interval_told (relay : Relay) (time : Position) :
    (relay.told time).interval = relay.interval := by
  simp only [told]
  split <;> rfl

def Mailboxes.Command.replaces : Command → Bool
  | .renew .. | .clear _ => true
  | _ => false

namespace Mailboxes

/-- The mailbox in force for a role has the sides and the room that its size asks for. -/
def Sized (role : Role) (size : MailboxSize) (mail : Mailboxes) : Prop :=
  ∃ queues, (mail.mailbox role).Holds size queues

section

variable {role : Role} {size : MailboxSize} {mail : Mailboxes}

theorem sized_renew (mail : Mailboxes) (role : Role) (size : MailboxSize) :
    (mail.renew role size).Sized role size := by
  refine ⟨{}, ?_⟩
  rw [mailbox_renew, if_pos rfl]
  exact Mailbox.make_holds size

theorem Sized.apply (sized : mail.Sized role size) {command : Command}
    (keeps : command.replaces = false) : (mail.apply command).2.Sized role size := by
  obtain ⟨queues, holds⟩ := sized
  have spares : ∀ use ∈ [Use.command command], use.Spares (role : RoleName).role := by
    cases command <;> simp_all [Command.replaces, Use.Spares, Use.replacement?]
  have later := (inCommon holds spares).holds
  have same : (mail.hold role).role = role := Role.role_name role
  rw [same] at later
  exact ⟨_, later⟩

theorem Sized.renewOther (sized : mail.Sized role size) {name : RoleName}
    (elsewhere : role ≠ name.role) (other : MailboxSize) :
    (mail.renew name other).Sized role size := by
  simpa [Sized, elsewhere] using sized

theorem Sized.clearOther (sized : mail.Sized role size) {name : RoleName}
    (elsewhere : role ≠ name.role) : (mail.clear name).Sized role size := by
  simpa [Sized, elsewhere] using sized

theorem Sized.collectAll (sized : mail.Sized role size) (name : RoleName) :
    (mail.collectAll name).2.Sized role size := by
  obtain ⟨queues, holds⟩ := sized
  simp only [Sized, Mailboxes.collectAll, mailbox_withMailbox]
  split
  next here =>
    have same : mail.mailbox name = mail.mailbox role := by
      simp only [Mailboxes.mailbox, ← here]
    rw [same]
    exact ⟨_, holds.collectAll.2⟩
  next => exact ⟨queues, holds⟩

end

end Mailboxes

def Hub.Action.replacesMail (action : Action) : Bool :=
  action.onMail?.any Mailboxes.Command.replaces

theorem Hub.kept_sized (role : Role) (size : MailboxSize) :
    Kept (fun action => action.replacesMail = false) fun hub => hub.mail.Sized role size where
  perform hub action keeps sized := by
    rw [mail_perform]
    cases known : action.onMail? with
    | none => exact sized
    | some command => exact sized.apply (by simpa [Action.replacesMail, known] using keeps)
  note _ _ sized := sized
  markDummy _ _ _ sized := sized

/-- No device has replaced a mailbox. -/
def Journal.KeepsMail (journal : Journal) : Prop :=
  ∀ action ∈ journal.actions, action.replacesMail = false

namespace Rack

def SizedFor (role : Role) (size : MailboxSize) (rack : Rack) : Prop :=
  rack.journal.KeepsMail → rack.hub.mail.Sized role size

theorem steady_sizedFor (role : Role) (size : MailboxSize) : Steady (SizedFor role size) :=
  (Hub.kept_sized role size).steady

section

variable {rack : Rack} {role : Role} {size : MailboxSize} {settings : Settings}

theorem SizedFor.withMail (sized : rack.SizedFor role size) {hub : Hub}
    (kept : rack.hub.mail.Sized role size → hub.mail.Sized role size) :
    SizedFor role size { rack with hub } :=
  fun keeps => kept (sized keeps)

theorem SizedFor.adjustOther (sized : rack.SizedFor role size) {name : RoleName}
    (elsewhere : role ≠ name.role) : (rack.adjust name settings).2.SizedFor role size := by
  have away : role ≠ (name.role : RoleName).role := by simpa using elsewhere
  exact (steady_sizedFor role size).adjust name settings
    (fun _ sized => sized.withMail fun kept => kept.clearOther away)
    (fun _ sized => sized.withMail fun kept => kept.renewOther away _) sized

theorem sizedFor_adjust_switched {mount : Mount} (mounted : rack.mounts.get role = some mount)
    (another : mount.driver ≠ settings.driver role) :
    (rack.adjust role settings).2.SizedFor role (settings.mailboxSize role) := by
  -- The former mailbox is cleared and renewed before the new driver can act on it.
  have switched : (rack.mounts.get role).filter (fun mount => mount.driver == settings.driver role)
      = none := by simp [mounted, another]
  simp only [adjust, Role.role_name, switched]
  refine (steady_sizedFor role _).engage role settings ?_
  exact fun _ => Mailboxes.sized_renew _ role _

theorem SizedFor.adjustInPlace (sized : rack.SizedFor role size) {mount : Mount}
    (mounted : rack.mounts.get role = some mount) (same : mount.driver = settings.driver role) :
    (rack.adjust role settings).2.SizedFor role size := by
  have steady := steady_sizedFor role size
  have found : (rack.mounts.get role).filter (fun mount => mount.driver == settings.driver role)
      = some mount := by simp [mounted, same]
  have called := steady.call rack role mount.backend (.adjust settings) sized
  simp only [adjust, Role.role_name, found]
  split
  next known => simpa [known] using called
  next cause after known =>
    -- The dummy that takes the place of the device gets the mailbox that was there.
    have failed : after.SizedFor role size := by simpa [known] using called
    have noted := steady.note after (.adjustmentFailed role cause) failed
    exact steady.mountDummy role settings (steady.unmount role noted)

theorem SizedFor.adjust (sized : rack.SizedFor role size)
    (mounted : (rack.mounts.get role).isSome = true) (settings : Settings) :
    (rack.adjust role settings).2.SizedFor role
      (if rack.driver role = settings.driver role then size else settings.mailboxSize role) := by
  obtain ⟨mount, known⟩ := Option.isSome_iff_exists.mp mounted
  have driver : rack.driver role = mount.driver := by simp [Rack.driver, known]
  split
  next same => exact sized.adjustInPlace known (driver.symm.trans same)
  next another => exact sizedFor_adjust_switched known (driver ▸ another)

end

end Rack

/-- The settings that the parts of a running session go by. -/
structure Terms where
  told : Settings
  /-- For the channel and the relay. -/
  opened : Settings
  /-- For the mailboxes. -/
  mailed : PerRole Settings
deriving DecidableEq

namespace Terms

def made (settings : Settings) : Terms := ⟨settings, settings, .both settings⟩

/-- What an adjustment changes: a role gets another mailbox only with another driver. -/
def adjusted (terms : Terms) (drivers : RoleName → String) (settings : Settings) : Terms where
  told := settings
  opened := terms.opened
  mailed := ⟨mailedFor .audio, mailedFor .midi⟩
where
  mailedFor (role : Role) : Settings :=
    if drivers role = settings.driver role then terms.mailed.get role else settings

/-- The terms after an attempt to start a session. -/
def since (before : Option Terms) (settings : Settings) : Except Fault Unit → Option Terms
  | .ok _ => some (made settings)
  | .error _ => before

end Terms

namespace Session

def termsAfter (session : Session) (terms : Option Terms) : Move → Option Terms
  | .operate (.activate settings) => Terms.since terms settings (session.activate settings).1
  | .operate (.adjust settings) =>
    match terms with
    | none => Terms.since none settings (session.adjust settings).1
    | some terms =>
      match settings.check with
      | .ok _ => some (terms.adjusted session.rack.driver settings)
      | .error _ => some terms
  | .operate .deactivate => none
  | _ => terms

/-- The terms at the end of a run. -/
def terms (session : Session) (before : Option Terms) : List Move → Option Terms
  | [] => before
  | move :: rest => (session.move move).2.terms (session.termsAfter before move) rest

/-- A running session tells the terms' settings, and its channel and relay go by theirs. -/
structure OpenedBy (session : Session) (terms : Terms) : Prop where
  told : session.settings = some terms.told
  channel : session.inboxes.current.capacity = terms.opened.inboxSize
  relay : session.worker.relay?.map Relay.interval = some terms.opened.wakeInterval

structure GoesBy (session : Session) (terms : Terms) : Prop extends session.OpenedBy terms where
  mail : ∀ role : Role, ∃ queues, (session.rack.hub.mail.mailbox role).Holds
    ((terms.mailed.get role).mailboxSize role) queues

/-- What a run keeps, devices and mail being another matter. -/
def Upholds (session : Session) : Option Terms → Prop
  | none => session.settings = none
  | some terms => session.OpenedBy terms ∧
    ∀ role : Role, session.rack.SizedFor role ((terms.mailed.get role).mailboxSize role)

section

variable {session after : Session} {terms : Option Terms}

theorem Upholds.none_of_rest (upholds : session.Upholds terms) (atRest : session.settings = none) :
    terms = none := by
  cases terms with
  | none => rfl
  | some terms => simp [upholds.1.told] at atRest

theorem Upholds.kept (upholds : session.Upholds terms)
    (settings : after.settings = session.settings)
    (capacity : after.inboxes.current.capacity = session.inboxes.current.capacity)
    (interval : after.worker.relay?.map Relay.interval = session.worker.relay?.map Relay.interval)
    (mail : ∀ role size, session.rack.SizedFor role size → after.rack.SizedFor role size) :
    after.Upholds terms := by
  cases terms with
  | none => exact settings.trans upholds
  | some terms =>
    obtain ⟨opened, sized⟩ := upholds
    exact ⟨⟨settings.trans opened.told, capacity.trans opened.channel,
      interval.trans opened.relay⟩, fun role => mail role _ (sized role)⟩

theorem Upholds.withRack {rack : Rack} (upholds : session.Upholds terms)
    (mail : ∀ role size, session.rack.SizedFor role size → rack.SizedFor role size) :
    Upholds { session with rack } terms :=
  upholds.kept rfl rfl rfl mail

theorem Upholds.pass (upholds : session.Upholds terms) (name : RoleName) (request : Request) :
    (session.pass name request).2.Upholds terms :=
  upholds.withRack fun role size => (Rack.steady_sizedFor role size).pass name request

theorem Upholds.passBoth (upholds : session.Upholds terms) (request : Request) :
    (session.passBoth request).2.Upholds terms := by
  simp only [Session.passBoth, Rack.forBoth_snd]
  refine upholds.withRack fun role size sized => ?_
  have steady := Rack.steady_sizedFor role size
  exact steady.pass .midi request (steady.pass .audio request sized)

theorem Upholds.runs {result : List Attempt × Station} (upholds : session.Upholds terms)
    (runs : session.station.Runs result) : (session.withStation result.2).Upholds terms := by
  cases runs with
  | still => exact upholds
  | cycle relay waiting =>
    refine upholds.kept rfl (session.inboxes.current.capacity_postAll _) ?_ ?_
    · have known : session.worker = .waiting relay := waiting
      simp only [withStation, Station.cycle, known, Worker.relay?, Option.map_some]
      rw [Relay.interval_observeAll, Relay.interval_told]
    · exact fun role size sized => sized.withMail fun kept => kept.collectAll .midi

theorem BringsUp.upholds {settings : Settings}
    (brought : (session.prepared settings).BringsUp settings (.ok ()) after) :
    Upholds { after with settings := some settings } (some (.made settings)) := by
  have capacity : ∀ rack : Rack, (relayed { session.prepared settings with rack }
      settings).inboxes.current.capacity = settings.inboxSize :=
    fun _ => congrArg Channel.capacity (Station.channel_clear _)
  have sized (role : Role) :
      (session.prepared settings).rack.SizedFor role (settings.mailboxSize role) := by
    intro _
    cases role with
    | audio => exact (Mailboxes.sized_renew _ .audio _).renewOther (by decide) _
    | midi => exact Mailboxes.sized_renew _ .midi _
  have up (role : Role) := brought.steady (Rack.steady_sizedFor role _) (sized role)
  refine ⟨⟨rfl, ?_, ?_⟩, ?_⟩
  · obtain ⟨rack, -, ⟨⟨fault, failed⟩, -⟩ | ⟨-, rfl⟩⟩ := up .audio
    · cases failed
    · exact capacity rack
  · obtain ⟨rack, -, ⟨⟨fault, failed⟩, -⟩ | ⟨-, rfl⟩⟩ := up .audio
    · cases failed
    · rfl
  · intro role
    rw [Terms.made, PerRole.get_both]
    obtain ⟨rack, sized, ⟨⟨fault, failed⟩, -⟩ | ⟨-, rfl⟩⟩ := up role
    · cases failed
    · refine Rack.SizedFor.withMail sized fun kept => ?_
      have same : ((relayed { session.prepared settings with rack } settings).rack.hub.mail) =
          rack.hub.mail := Station.mail_clear _
      exact same ▸ kept

theorem Activates.upholds {settings : Settings} {result : Except Fault Unit}
    (activates : session.Activates settings result after) (upholds : session.Upholds terms) :
    after.Upholds (Terms.since terms settings result) := by
  cases activates with
  | alreadyActive => exact upholds
  | invalid => exact upholds
  | fails fault after atRest =>
    -- At rest there were no terms, so none are broken when all is taken down again.
    cases upholds.none_of_rest atRest
    simp [Upholds, Terms.since, deactivate_snd]
  | succeeds after atRest checked brought => exact brought.upholds

theorem sizedFor_adjustBoth {rack : Rack} {terms : Terms}
    (mounted : ∀ role, (rack.mounts.get role).isSome = true)
    (sized : ∀ role : Role, rack.SizedFor role ((terms.mailed.get role).mailboxSize role))
    (settings : Settings) (role : Role) :
    (rack.forBoth fun rack role => rack.adjust role settings).2.SizedFor role
      (((terms.adjusted rack.driver settings).mailed.get role).mailboxSize role) := by
  -- The driver of MIDI is compared once audio is adjusted, and that leaves it alone.
  let first := (rack.adjust .audio settings).2
  obtain ⟨_, mounts⟩ := rack.mounts_adjust .audio settings
  have untouched : first.mounts.get .midi = rack.mounts.get .midi := by
    simp only [first, mounts, RoleName.role, ne_eq, reduceCtorEq, not_false_eq_true,
      PerRole.get_set_of_ne]
  rw [Rack.forBoth_snd]
  cases role with
  | audio =>
    have own := (sized .audio).adjust (mounted .audio) settings
    rw [← apply_ite (Settings.mailboxSize · Role.audio)] at own
    exact own.adjustOther (by decide)
  | midi =>
    have kept : first.SizedFor .midi ((terms.mailed.get .midi).mailboxSize Role.midi) :=
      (sized .midi).adjustOther (by decide)
    have own := kept.adjust (untouched ▸ mounted .midi) settings
    have driver : first.driver Role.midi = rack.driver Role.midi := by
      simp only [Rack.driver, Role.role_name, untouched]
    rw [← apply_ite (Settings.mailboxSize · Role.midi), driver] at own
    exact own

theorem Upholds.adjust (upholds : session.Upholds terms) (phased : session.Phased)
    (settings : Settings) : (session.move (.operate (.adjust settings))).2.Upholds
      (session.termsAfter terms (.operate (.adjust settings))) := by
  cases terms with
  | none =>
    simp only [termsAfter, Session.move, Session.apply, adjust_resting upholds settings]
    exact (session.activates settings).upholds upholds
  | some terms =>
    obtain ⟨opened, sized⟩ := upholds
    have active : session.settings.isNone = false := by simp [opened.told]
    simp only [termsAfter, Session.move, Session.apply, Session.adjust, active,
      Bool.false_eq_true, if_false]
    cases settings.check with
    | error cause => exact ⟨opened, sized⟩
    | ok checked =>
      refine ⟨⟨rfl, opened.channel, opened.relay⟩, ?_⟩
      exact sizedFor_adjustBoth (phased.active (by simp [opened.told])).2 sized settings

theorem Upholds.move (upholds : session.Upholds terms) (phased : session.Phased) (move : Move)
    (keeps : ∀ action ∈ move.action?, action.replacesMail = false) :
    (session.move move).2.Upholds (session.termsAfter terms move) := by
  cases move with
  | settle => exact upholds.runs session.station.runs_settle
  | operate command =>
    cases command with
    | activate settings => exact (session.activates settings).upholds upholds
    | adjust settings => exact upholds.adjust phased settings
    | deactivate => simp [Session.move, Session.apply, termsAfter, Upholds, deactivate_snd]
    | playbackStarted => exact upholds.passBoth .playbackStarted
    | playbackStopped => exact upholds.passBoth .playbackStopped
    | silence name => exact upholds.pass name .silence
    | perform action =>
      refine upholds.withRack fun role size sized => sized.withMail fun kept => ?_
      exact (Hub.kept_sized role size).perform _ action (keeps action rfl) kept
    | collect => exact upholds.kept rfl rfl rfl fun _ _ sized => sized
    | subscribe =>
      exact upholds.kept rfl (Channel.capacity_openReceiver _) rfl fun _ _ sized => sized
    | receive receiver =>
      simp only [Session.move, Session.apply]
      split
      · exact upholds
      next channel known =>
        refine upholds.kept rfl ?_ rfl fun _ _ sized => sized
        simp only [Inboxes.setChannel, Inboxes.channel?] at known ⊢
        split
        next current =>
          rw [if_pos current] at known
          rw [← Option.some.inj known]
          exact Channel.capacity_receive _
        next => rfl
    | lapse => exact upholds.runs session.station.runs_lapse
    | refuse refusal => exact upholds.kept rfl rfl rfl fun _ _ sized => sized

end

theorem upholds_terms {session : Session} {before : Option Terms} (moves : List Move)
    (upholds : session.Upholds before) (phased : session.Phased)
    (keeps : ∀ action ∈ moves.filterMap Move.action?, action.replacesMail = false) :
    (session.moveAll moves).Upholds (session.terms before moves) := by
  -- An adjustment needs both roles mounted, so the phases go along in the induction.
  induction moves generalizing session before with
  | nil => exact upholds
  | cons move rest ih =>
    refine ih (upholds.move phased move ?_) (phased.move move) ?_
    · intro action taken
      exact keeps action (List.mem_filterMap.mpr ⟨move, List.mem_cons_self, taken⟩)
    · intro action later
      obtain ⟨other, member, taken⟩ := List.mem_filterMap.mp later
      exact keeps action
        (List.mem_filterMap.mpr ⟨other, List.mem_cons_of_mem move member, taken⟩)

/-- Everything in a session goes by the settings that it tells. -/
def GoesByTold (session : Session) : Prop :=
  ∀ settings, session.settings = some settings → session.GoesBy (.made settings)

end Session

/-- A session is given settings that have another audio driver, and other sizes everywhere. -/
def resizedSettings : Settings where
  audioMailbox := ⟨1, 0⟩
  midiMailbox := ⟨0, 1⟩
  wakeInterval := 5
  inboxSize := 1

def resizingMoves : List Session.Move :=
  [.operate (.activate { audioDriver := "stubborn" }), .settle, .operate (.adjust resizedSettings),
    .operate (.perform (.deliver .midi 0 [0x90, 60, 1])), .settle]

/-- With its driver a role keeps a mailbox that is not the one that the settings ask for, and with
the session the channel and the relay stay. -/
theorem resized_settings_untrue :
    ¬ ((Session.ofCatalog .stubborn).moveAll resizingMoves).GoesByTold := by
  intro agrees
  have told : ((Session.ofCatalog .stubborn).moveAll resizingMoves).settings =
      some resizedSettings := by decide +kernel
  have room := (agrees resizedSettings told).channel
  revert room
  decide +kernel

/-- As long as nobody replaces its mailboxes, a running session tells the settings that it was given
last, its channel and its relay go by those with which it was started, and the mailbox of a role by
those that chose its driver. -/
theorem session_goes_by_terms (catalog : Catalog) (moves : List Session.Move)
    (keeps : ∀ action ∈ (Session.ofCatalog catalog).actions moves, action.replacesMail = false) :
    let session := (Session.ofCatalog catalog).moveAll moves
    let terms := (Session.ofCatalog catalog).terms none moves
    (session.settings = none ↔ terms = none) ∧ ∀ known ∈ terms, session.GoesBy known := by
  intro session terms
  have upholds : session.Upholds terms := by
    refine Session.upholds_terms moves rfl (Session.phased_new catalog) ?_
    exact fun action taken => keeps action (List.mem_append_left _ taken)
  have spared : session.rack.journal.KeepsMail :=
    fun action taken => keeps action (List.mem_append_right _ taken)
  refine ⟨⟨upholds.none_of_rest, fun none => ?_⟩, ?_⟩
  · rw [none] at upholds
    exact upholds
  · intro known member
    rw [Option.mem_def.mp member] at upholds
    exact ⟨upholds.1, fun role => upholds.2 role spared⟩

theorem session_goes_by_terms_resized :
    (∀ action ∈ (Session.ofCatalog .stubborn).actions resizingMoves,
      action.replacesMail = false) ∧
    ((Session.ofCatalog .stubborn).moveAll resizingMoves).GoesBy
      ⟨resizedSettings, { audioDriver := "stubborn" },
        ⟨resizedSettings, { audioDriver := "stubborn" }⟩⟩ := by
  have keeps : ∀ action ∈ (Session.ofCatalog .stubborn).actions resizingMoves,
      action.replacesMail = false := by decide +kernel
  have known : (Session.ofCatalog .stubborn).terms none resizingMoves =
      some ⟨resizedSettings, { audioDriver := "stubborn" },
        ⟨resizedSettings, { audioDriver := "stubborn" }⟩⟩ := by decide +kernel
  exact ⟨keeps, (session_goes_by_terms .stubborn resizingMoves keeps).2 _ known⟩

end AudioHost
