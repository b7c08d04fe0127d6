import AudioHost.Proofs.HubActions
import AudioHost.Proofs.RackTurns
import AudioHost.Proofs.StationSteps
import AudioHost.Session

/-!
# The steps of a session

What an operation on a session may do, told case by case, and runs in which the relay gets to run
sooner or later.
-/

set_option autoImplicit false

namespace AudioHost

/-- What becomes of a station whose relay may or may not run. -/
inductive Station.Runs (station : Station) : List Attempt × Station → Prop where
  | still : Runs station ([], station)
  | cycle (relay : Relay) (waiting : station.worker = .waiting relay) :
      Runs station (station.cycle relay)

theorem Station.runs_lapse (station : Station) : station.Runs station.lapse := by
  simp only [lapse]
  split
  next relay waiting => exact .cycle relay waiting
  next => exact .still

theorem Station.runs_settle (station : Station) : station.Runs station.settle := by
  simp only [settle]
  split
  next relay waiting =>
    split
    · exact .cycle relay waiting
    · exact .still
  next => exact .still

namespace Session

/-- Nothing makes a relay run at once: after an operation it may see its signal, or not yet. -/
inductive Move where
  | operate (command : Command)
  | settle
deriving DecidableEq

def move (session : Session) : Move → List Attempt × Session
  | .operate command => (session.apply command).2
  | .settle => session.settle

def moveAll (session : Session) (moves : List Move) : Session :=
  moves.foldl (fun session move => (session.move move).2) session

theorem run_eq_moveAll (session : Session) (commands : List Command) :
    session.run commands =
      session.moveAll (commands.flatMap fun command => [.operate command, .settle]) := by
  induction commands generalizing session with
  | nil => rfl
  | cons command rest ih => exact ih (session.step command).2.2

theorem moveAll_keeps (property : Session → Prop) {session : Session} (moves : List Move)
    (kept : ∀ session, ∀ move ∈ moves, property session → property (session.move move).2)
    (holds : property session) : property (session.moveAll moves) := by
  induction moves generalizing session with
  | nil => exact holds
  | cons move rest ih =>
    refine ih (fun session later member => ?_) (kept session move List.mem_cons_self holds)
    exact kept session later (List.mem_cons_of_mem move member)

def Move.action? : Move → Option Hub.Action
  | .operate (.perform action) => some action
  | _ => none

/-- What the application and the devices do to the hub in a run. -/
def actions (session : Session) (moves : List Move) : List Hub.Action :=
  moves.filterMap Move.action? ++ (session.moveAll moves).rack.journal.actions

def relayed (session : Session) (settings : Settings) : Session :=
  session.withStation (session.station.start settings.wakeInterval)

inductive BringsUp (session : Session) (settings : Settings) :
    Except Fault Unit → Session → Prop where
  | audioFails (fault : Fault) (rack : Rack)
      (audio : session.rack.engage .audio settings = (.error fault, rack)) :
      BringsUp session settings (.error fault) { session with rack }
  | midiFails (fault : Fault) (first rack : Rack)
      (audio : session.rack.engage .audio settings = (.ok (), first))
      (midi : first.engage .midi settings = (.error fault, rack)) :
      BringsUp session settings (.error fault) { session with rack }
  | relayFails (reason : String) (first rack : Rack)
      (audio : session.rack.engage .audio settings = (.ok (), first))
      (midi : first.engage .midi settings = (.ok (), rack))
      (unwilling : session.refusal = some reason) :
      BringsUp session settings (.error (.relayNotStarted reason)) { session with rack }
  | comesUp (first rack : Rack)
      (audio : session.rack.engage .audio settings = (.ok (), first))
      (midi : first.engage .midi settings = (.ok (), rack))
      (willing : session.refusal = none) :
      BringsUp session settings (.ok ()) (relayed { session with rack } settings)

theorem bringsUp (session : Session) (settings : Settings) :
    session.BringsUp settings (session.bringUp settings).1 (session.bringUp settings).2 := by
  simp only [bringUp]
  split
  next fault rack audio => exact .audioFails fault rack audio
  next first audio =>
    split
    next fault rack midi => exact .midiFails fault first rack audio midi
    next rack midi =>
      split
      next willing => exact .comesUp first rack audio midi willing
      next reason unwilling => exact .relayFails reason first rack audio midi unwilling

theorem BringsUp.steady {property : Rack → Prop} {session after : Session} {settings : Settings}
    {result : Except Fault Unit} (brought : session.BringsUp settings result after)
    (steady : Rack.Steady property) (holds : property session.rack) :
    ∃ rack, property rack ∧
      ((∃ fault, result = .error fault) ∧ after = { session with rack } ∨
        result = .ok () ∧ after = relayed { session with rack } settings) := by
  have audio := steady.engage .audio settings holds
  have midi := steady.engage .midi settings audio
  cases brought with
  | audioFails fault rack failed =>
    rw [failed] at audio
    exact ⟨rack, audio, .inl ⟨⟨fault, rfl⟩, rfl⟩⟩
  | midiFails fault first rack up failed =>
    rw [up, failed] at midi
    exact ⟨rack, midi, .inl ⟨⟨fault, rfl⟩, rfl⟩⟩
  | relayFails reason first rack up also unwilling =>
    rw [up, also] at midi
    exact ⟨rack, midi, .inl ⟨⟨_, rfl⟩, rfl⟩⟩
  | comesUp first rack up also willing =>
    rw [up, also] at midi
    exact ⟨rack, midi, .inr ⟨rfl, rfl⟩⟩

/-- The session with new mail and a new channel, before any driver comes up. -/
def prepared (session : Session) (settings : Settings) : Session :=
  { (session.note (.activatingSession settings)).renewMail settings with
    inboxes := session.inboxes.renew settings.inboxSize }

inductive Activates (session : Session) (settings : Settings) :
    Except Fault Unit → Session → Prop where
  | alreadyActive (active : session.settings.isSome = true) :
      Activates session settings (.error .alreadyActive) session
  | invalid (cause : SettingsError) (atRest : session.settings = none)
      (checked : settings.check = .error cause) :
      Activates session settings (.error (.invalidSettings cause)) session
  | fails (fault : Fault) (after : Session) (atRest : session.settings = none)
      (checked : settings.check = .ok ())
      (brought : (session.prepared settings).BringsUp settings (.error fault) after) :
      Activates session settings (.error fault) (after.note (.sessionFailed fault)).deactivate.2
  | succeeds (after : Session) (atRest : session.settings = none)
      (checked : settings.check = .ok ())
      (brought : (session.prepared settings).BringsUp settings (.ok ()) after) :
      Activates session settings (.ok ()) { after with settings := some settings }

theorem activates (session : Session) (settings : Settings) :
    session.Activates settings (session.activate settings).1 (session.activate settings).2 := by
  by_cases active : session.settings.isSome = true
  · simp only [activate, active, if_true]
    exact .alreadyActive active
  have atRest : session.settings = none := by simpa using active
  cases checked : settings.check with
  | error cause =>
    simp only [activate, active, checked]
    exact .invalid cause atRest checked
  | ok sound =>
    have brought := (session.prepared settings).bringsUp settings
    simp only [activate, active, Bool.false_eq_true, if_false, checked]
    split
    next after known =>
      have same : (session.prepared settings).bringUp settings = (.ok (), after) := known
      rw [same] at brought
      exact .succeeds after atRest checked brought
    next fault after known =>
      have same : (session.prepared settings).bringUp settings = (.error fault, after) := known
      rw [same] at brought
      exact .fails fault after atRest checked brought

/-- The rack once the relay is stopped and both roles are vacated. -/
def vacated (session : Session) : Rack :=
  (Rack.forBoth { session.rack with hub := session.station.clear.hub }
    fun rack role => rack.vacate role).2

theorem deactivate_snd (session : Session) :
    session.deactivate.2 = { session with
      rack :=
        if session.settings.isSome then session.vacated.note .sessionEnded else session.vacated
      worker := .absent
      settings := none } := by
  have inboxes : (session.withStation session.station.clear).inboxes = session.inboxes := by
    simp only [withStation, Station.channel_clear]
    rfl
  simp only [deactivate, inboxes]
  split
  next known =>
    have atRest : session.settings = none := known
    simp [atRest, withStation, Station.clear, vacated]
  next settings known =>
    have active : session.settings = some settings := known
    simp [active, withStation, Station.clear, vacated, note]

end Session

namespace Rack.Lasting

variable {property : Rack → Prop} {session : Session}

theorem deactivate (lasting : Lasting property) (holds : property session.rack) :
    property session.deactivate.2.rack := by
  have vacate (rack : Rack) (role : Role) (holds : property rack) :=
    lasting.vacate role (fun rack => lasting.clear rack _) holds
  have vacated : property session.vacated := by
    simp only [Session.vacated, Rack.forBoth_snd]
    exact vacate _ _ (vacate _ _ (lasting.sameMail _ _ session.station.mail_clear holds))
  rw [Session.deactivate_snd]
  dsimp only
  split
  · exact lasting.note _ _ vacated
  · exact vacated

theorem activate (lasting : Lasting property) (settings : Settings)
    (holds : property session.rack) : property (session.activate settings).2.rack := by
  have prepared : property (session.prepared settings).rack :=
    lasting.renew _ _ _ (lasting.renew _ _ _
      (lasting.note _ (.activatingSession settings) holds))
  have activates := session.activates settings
  generalize (session.activate settings).1 = result at activates
  generalize (session.activate settings).2 = after at activates ⊢
  cases activates with
  | alreadyActive => exact holds
  | invalid => exact holds
  | fails fault after atRest checked brought =>
    obtain ⟨rack, kept, ⟨-, rfl⟩ | ⟨failed, -⟩⟩ := brought.steady lasting.toSteady prepared
    · exact lasting.deactivate (lasting.note _ _ kept)
    · cases failed
  | succeeds after atRest checked brought =>
    obtain ⟨rack, kept, ⟨⟨fault, failed⟩, -⟩ | ⟨-, rfl⟩⟩ := brought.steady lasting.toSteady prepared
    · cases failed
    · exact lasting.sameMail _ _ (Station.mail_clear _) kept

theorem adjust (lasting : Lasting property) (settings : Settings)
    (holds : property session.rack) : property (session.adjust settings).2.rack := by
  have both (rack : Rack) (role : Role) (holds : property rack) :=
    lasting.toSteady.adjust role settings (fun rack => lasting.clear rack _)
      (fun rack => lasting.renew rack _ _) holds
  simp only [Session.adjust]
  split
  · exact lasting.activate settings holds
  split
  · exact holds
  · rw [Rack.forBoth_snd]
    exact both _ _ (both _ _ holds)

theorem runs (lasting : Lasting property) {result : List Attempt × Station}
    (runs : session.station.Runs result) (holds : property session.rack) :
    property (session.withStation result.2).rack := by
  cases runs with
  | still => exact holds
  | cycle relay waiting =>
    have collected (hub : Hub) same := lasting.sameMail _ hub same (lasting.collect _ holds)
    exact collected (session.station.cycle relay).2.hub rfl

/-- What lasts in a rack and outlives an action of the application, every move of a session
keeps. -/
theorem move (lasting : Lasting property) (move : Session.Move)
    (performed : ∀ action ∈ move.action?, ∀ rack : Rack, property rack →
      property { rack with hub := (rack.hub.perform action).2 })
    (holds : property session.rack) : property (session.move move).2.rack := by
  have passed (request : Request) : property (session.passBoth request).2.rack := by
    simp only [Session.passBoth, Rack.forBoth_snd]
    exact lasting.pass _ request (lasting.pass _ request holds)
  cases move with
  | settle => exact lasting.runs session.station.runs_settle holds
  | operate command =>
    cases command with
    | activate settings => exact lasting.activate settings holds
    | adjust settings => exact lasting.adjust settings holds
    | deactivate => exact lasting.deactivate holds
    | playbackStarted => exact passed .playbackStarted
    | playbackStopped => exact passed .playbackStopped
    | silence name => exact lasting.pass name .silence holds
    | perform action => exact performed action rfl _ holds
    | receive receiver =>
      simp only [Session.move, Session.apply]
      split <;> exact holds
    | lapse => exact lasting.runs session.station.runs_lapse holds
    | _ => exact holds

end Rack.Lasting

end AudioHost
