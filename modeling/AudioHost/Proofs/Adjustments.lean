import AudioHost.Proofs.Exchanges
import AudioHost.Proofs.MountedDrivers

/-!
# Applying settings

What comes of the settings that are applied to an active session, told role by role: who is asked
for what, what is mounted in the end, what becomes of the mail, and what is reported.
-/

set_option autoImplicit false

namespace AudioHost

/-- A device that serves a role is asked once and does as it is asked. -/
inductive Complied (request : Request) : Option Instance → List Record → Prop where
  | nobody : Complied request none []
  | once (call : Call) (asked : call.request = request) (succeeds : call.outcome = .ok ()) :
      Complied request (some call.target) [.called call]

/-- What may come of the driver that is mounted for a role when settings are applied: the result,
all that drivers and devices are asked, and what is mounted afterwards. -/
inductive Adjustment (catalog : Catalog) (settings : Settings) (role : Role) (former : Mount) :
    Except Fault Unit → List Record → Mount → Prop where
  | stays (records : List Record) (same : former.driver = settings.driver role)
      (complied : Complied (.adjust settings) former.backend.target? records) :
      Adjustment catalog settings role former (.ok ()) records former
  | fallsBack (call : Call) (cause : DeviceError) (last : List Record)
      (same : former.driver = settings.driver role)
      (target : former.backend.target? = some call.target)
      (asked : call.request = .adjust settings) (fails : call.outcome = .error cause)
      (released : Released (some call.target) last) :
      Adjustment catalog settings role former (.error (.backend role cause)) (.called call :: last)
        .dummy
  | switches (up : Option Instance) (mount : Mount) (first second : List Record)
      (other : former.driver ≠ settings.driver role)
      (released : Released former.backend.target? first)
      (trial : Trial catalog settings role (.ok up) second)
      (driver : mount.driver = settings.driver role) (serves : mount.backend.target? = up) :
      Adjustment catalog settings role former (.ok ()) (first ++ second) mount
  | switchFails (fault : Fault) (first second : List Record)
      (other : former.driver ≠ settings.driver role)
      (released : Released former.backend.target? first)
      (trial : Trial catalog settings role (.error fault) second) :
      Adjustment catalog settings role former (.error fault) (first ++ second) .dummy

namespace Rack

structure Adjusted (rack : Rack) (role : Role) (settings : Settings) (former mount : Mount)
    (records : List Record) : Prop where
  adjustment :
    Adjustment rack.catalog settings role former (rack.adjust role settings).1 records mount
  mounts : (rack.adjust role settings).2.mounts = rack.mounts.set role (some mount)
  journal : (rack.adjust role settings).2.journal.toList = rack.journal.toList ++ records

section

variable {rack : Rack} {role : Role} {settings : Settings} {former : Mount}

theorem staying?_eq_some_iff (mounted : rack.mounts.get role = some former) (mount : Mount) :
    rack.staying? role settings = some mount ↔
      mount = former ∧ former.driver = settings.driver role := by
  simp only [staying?, mounted, Option.filter_eq_some_iff, Option.some.injEq, beq_iff_eq]
  constructor
  · rintro ⟨rfl, same⟩
    exact ⟨rfl, same⟩
  · rintro ⟨rfl, same⟩
    exact ⟨rfl, same⟩

theorem leaves_of_other (mounted : rack.mounts.get role = some former)
    (other : former.driver ≠ settings.driver role) : rack.staying? role settings = none := by
  rw [Option.eq_none_iff_forall_ne_some]
  exact fun mount stays => other ((staying?_eq_some_iff mounted mount).mp stays).2

theorem adjusted_switching (mounted : rack.mounts.get role = some former)
    (other : former.driver ≠ settings.driver role) :
    ∃ mount records, rack.Adjusted role settings former mount records := by
  have leaves := leaves_of_other mounted other
  obtain ⟨first, released, emptied⟩ :=
    (rack.note (.switchingDriver role (settings.driver role))).released_vacate role
  have vacant : (rack.cleared role settings).mounts.get role = none := by simp [mounts_cleared]
  obtain ⟨tried, second, tries⟩ := (rack.cleared role settings).tries_engage role settings vacant
  obtain ⟨mount, mounts, provides⟩ := (rack.cleared role settings).engage_provides role settings
  have journal := tries.journal
  rw [show (rack.cleared role settings).journal.toList = rack.journal.toList ++ first from emptied,
    List.append_assoc] at journal
  have up : (rack.cleared role settings).catalog = rack.catalog :=
    (steady_catalog rack.catalog).vacate role (fun _ same => same) rfl
  have trial : Trial rack.catalog settings role tried second := up ▸ tries.trial
  have before : Released former.backend.target? first := by
    have serving : rack.serving.get role = former.backend.target? := by simp [serving_get, mounted]
    exact serving ▸ released
  have serves : mount.backend.target? = tried.toOption.join := by
    have serving := congrArg (PerRole.get · role) tries.serving
    simpa [serving_get, mounts] using serving
  rw [mounts_cleared, PerRole.set_set] at mounts
  refine ⟨mount, first ++ second, ?_, ?_, ?_⟩
  · rw [adjust_switching leaves, tries.result]
    cases tried with
    | ok up =>
      exact .switches up mount first second other before trial (provides.succeeds tries.result)
        serves
    | error fault =>
      rw [provides.fails fault tries.result]
      exact .switchFails fault first second other before trial
  · rw [adjust_switching leaves, mounts]
  · rw [adjust_switching leaves, journal]

theorem adjusted_staying (mounted : rack.mounts.get role = some former)
    (same : former.driver = settings.driver role) :
    ∃ mount records, rack.Adjusted role settings former mount records := by
  have inPlace := adjustsInPlace ((staying?_eq_some_iff mounted former).mpr ⟨rfl, same⟩)
  have asked := rack.asked_call role former.backend (.adjust settings)
  have kept := rack.mounts_call role former.backend (.adjust settings)
  have back : rack.mounts.set role (some former) = rack.mounts := by
    rw [← mounted, PerRole.set_get_self]
  generalize known : rack.adjust role settings = result at inPlace
  cases inPlace with
  | complies after called =>
    rw [called] at asked kept
    have mounts : (rack.adjust role settings).2.mounts = rack.mounts.set role (some former) := by
      rw [known, back]
      exact kept
    have result : (rack.adjust role settings).1 = .ok () := by rw [known]
    cases asked with
    | dummy isDummy _ journal =>
      have complied : Complied (.adjust settings) former.backend.target? [] := isDummy ▸ .nobody
      refine ⟨former, [], result ▸ .stays [] same complied, mounts, ?_⟩
      rw [known, List.append_nil]
      exact congrArg Array.toList journal
    | external call target request outcome journal =>
      have complied := target ▸ Complied.once call request outcome
      refine ⟨former, [.called call], result ▸ .stays _ same complied, mounts, ?_⟩
      rw [known]
      exact (congrArg Array.toList journal).trans Array.toList_push
  | faults cause after called =>
    rw [called] at asked kept
    cases asked with
    | dummy _ succeeds => cases succeeds
    | external call target request outcome journal =>
      obtain ⟨last, released, emptied⟩ :=
        (after.note (.adjustmentFailed role cause)).released_unmount role
      have serving : (after.note (.adjustmentFailed role cause)).serving.get role =
          some call.target := by
        rw [serving_get, mounts_note, kept, mounted]
        exact target
      refine ⟨.dummy, .called call :: last, ?_, ?_, ?_⟩
      · rw [known]
        exact .fallsBack call cause last same target request outcome (serving ▸ released)
      · rw [known, mounts_mountDummy, mounts_unmount, mounts_note, PerRole.set_set, kept]
      · rw [known]
        refine emptied.trans ?_
        rw [journal_note, journal, Array.toList_push, List.append_assoc]
        rfl

theorem adjusted (mounted : rack.mounts.get role = some former) (settings : Settings) :
    ∃ mount records, rack.Adjusted role settings former mount records := by
  by_cases same : former.driver = settings.driver role
  · exact adjusted_staying mounted same
  · exact adjusted_switching mounted same

end

end Rack

/-- No device acts on the mail. -/
def Record.SparesMail (record : Record) : Prop :=
  ∀ action ∈ record.actions, action.onMail? = none

/-- The mail is what it was, unless a device acted on it. -/
def Hub.MailStays (mail : Mailboxes) (log : List Exchange) (hub : Hub) : Prop :=
  (∀ exchange ∈ log, exchange.action.onMail? = none) → hub.mail = mail

theorem Hub.logged_mailStays (mail : Mailboxes) : Logged (MailStays mail) where
  perform log hub action stays spared := by
    obtain ⟨before, last⟩ := List.forall_mem_append.mp spared
    rw [mail_perform, last _ List.mem_cons_self]
    exact stays before
  note _ _ _ stays := stays
  markDummy _ _ _ _ stays := stays

namespace Rack

section

variable {rack : Rack} {role : Role} {settings : Settings}

theorem Since.mail {mail : Mailboxes} {start records : List Record}
    (since : rack.Since start (Hub.MailStays mail))
    (journal : rack.journal.toList = start ++ records)
    (spared : ∀ record ∈ records, record.SparesMail) : rack.hub.mail = mail := by
  refine since.holds journal ?_
  intro exchange made
  obtain ⟨record, listed, taken⟩ := Record.mem_actions made
  exact spared record listed exchange.action taken

theorem mail_staying {mount : Mount} (stays : rack.staying? role settings = some mount)
    {records : List Record}
    (journal : (rack.adjust role settings).2.journal.toList = rack.journal.toList ++ records)
    (spared : ∀ record ∈ records, record.SparesMail) :
    (rack.adjust role settings).2.hub.mail = rack.hub.mail := by
  have steady := (Hub.logged_mailStays rack.hub.mail).steady rack.journal.toList
  have called := steady.call rack role mount.backend (.adjust settings) (.now fun _ => rfl)
  have inPlace := adjustsInPlace stays
  refine Since.mail ?_ journal spared
  generalize rack.adjust role settings = result at inPlace
  cases inPlace with
  | complies after known => simpa only [known] using called
  | faults cause after known =>
    rw [known] at called
    exact steady.mountDummy role settings (steady.unmount role (steady.note _ _ called))

theorem mail_switching (leaves : rack.staying? role settings = none) {records : List Record}
    (journal : (rack.adjust role settings).2.journal.toList = rack.journal.toList ++ records)
    (spared : ∀ record ∈ records, record.SparesMail) :
    (rack.adjust role settings).2.hub.mail =
      (rack.hub.mail.clear role).renew role (settings.mailboxSize role) := by
  have before := (Hub.logged_mailStays rack.hub.mail).steady rack.journal.toList
  have after := (Hub.logged_mailStays
    ((rack.hub.mail.clear role).renew role (settings.mailboxSize role))).steady rack.journal.toList
  have noted := before.note rack (.switchingDriver role (settings.driver role)) (.now fun _ => rfl)
  have emptied := before.unmount role noted
  have renewed : (rack.cleared role settings).Since rack.journal.toList
      (Hub.MailStays ((rack.hub.mail.clear role).renew role (settings.mailboxSize role))) := by
    refine emptied.imp (by simp [cleared, vacate]) ?_
    intro log stays spared
    have mail := stays spared
    simp only [cleared, vacate, Role.role_name, Hub.renew, Hub.note, Hub.clear, mail]
  have engaged := after.engage role settings renewed
  rw [adjust_switching leaves] at journal ⊢
  exact engaged.mail journal spared

theorem driver_mounted {former : Mount} (mounted : rack.mounts.get role = some former) :
    rack.driver role = former.driver := by
  simp [driver, mounted]

theorem mail_adjust {former : Mount} (mounted : rack.mounts.get role = some former)
    {records : List Record}
    (journal : (rack.adjust role settings).2.journal.toList = rack.journal.toList ++ records)
    (spared : ∀ record ∈ records, record.SparesMail) :
    (rack.adjust role settings).2.hub.mail =
      if former.driver = settings.driver role then rack.hub.mail
      else (rack.hub.mail.clear role).renew role (settings.mailboxSize role) := by
  split
  next same =>
    exact mail_staying ((staying?_eq_some_iff mounted former).mpr ⟨rfl, same⟩) journal spared
  next other => exact mail_switching (leaves_of_other mounted other) journal spared

end

/-- These lines stand in the log, in this order. -/
def Heard (lines : List Notice) (rack : Rack) : Prop := lines.Sublist rack.hub.notices.toList

end Rack

theorem Hub.notices_perform (hub : Hub) (action : Action) :
    hub.notices.toList.Sublist (hub.perform action).2.notices.toList := by
  cases action with
  | report source time =>
    simp only [perform, report]
    split <;> exact .refl _
  | deliver name port buffer =>
    simp only [perform, Answer.attempt, deliver?]
    cases hub.mail.deliver? name port buffer <;> exact .refl _
  | onMailboxes command =>
    cases command with
    | renew name capacity =>
      simp only [perform, onMailboxes, renew, note, Array.toList_push]
      exact List.sublist_append_left _ _
    | _ => exact .refl _
  | _ => exact .refl _

theorem Hub.kept_heard (lines : List Notice) :
    Kept (fun _ => True) fun hub => lines.Sublist hub.notices.toList where
  perform hub action _ heard := heard.trans (hub.notices_perform action)
  note hub notice heard := by
    rw [note, Array.toList_push]
    exact heard.trans (List.sublist_append_left _ _)
  markDummy _ _ _ heard := heard

namespace Rack

theorem steady_heard (lines : List Notice) : Steady (Heard lines) := by
  have steady := (Hub.kept_heard lines).steady
  simp only [implies_true, forall_const] at steady
  exact steady

section

variable {rack : Rack} {lines : List Notice} {role : Role} {settings : Settings} {fault : Fault}

/-- The dummy tells the log that it is up. -/
theorem Heard.mountDummy (heard : rack.Heard lines) (role : Role) (settings : Settings) :
    (rack.mountDummy role settings).Heard (lines ++ [.dummyActivated role]) := by
  have noted : (rack.mountDummy role settings).hub.notices =
      rack.hub.notices.push (.dummyActivated role) := rfl
  simp only [Heard, noted, Array.toList_push]
  exact List.Sublist.append_right heard _

theorem Heard.install_error {driver : String} {backend : Backend} (heard : rack.Heard lines)
    (failed : (rack.install role driver backend settings).1 = .error fault) :
    (rack.install role driver backend settings).2.Heard (lines ++ [.dummyActivated role]) := by
  have steady := steady_heard lines
  have called := steady.call _ role backend (.activate settings)
    (steady.mount _ role driver backend (steady.unmount role heard))
  simp only [install] at failed ⊢
  split at failed
  next => cases failed
  next cause after known =>
    rw [known] at called
    exact Heard.mountDummy (steady.note _ _ called) role settings

theorem Heard.installDummy (heard : rack.Heard lines) (role : Role) (settings : Settings) :
    (rack.install role dummyName .dummy settings).2.Heard (lines ++ [.dummyActivated role]) := by
  rw [install_dummy]
  exact Heard.mountDummy ((steady_heard lines).unmount role heard) role settings

theorem Heard.engage_error (heard : rack.Heard lines)
    (failed : (rack.engage role settings).1 = .error fault) :
    (rack.engage role settings).2.Heard (lines ++ [.dummyActivated role]) := by
  have steady := steady_heard lines
  have noted (notice : Notice) := steady.note rack notice heard
  simp only [engage, Role.role_name] at failed ⊢
  split at failed
  next => exact Heard.install_error (steady.make _ _ _ (noted _)) failed
  next => cases failed
  next => exact Heard.installDummy (steady.note _ _ (noted _)) role settings
  next => exact Heard.installDummy (steady.note _ _ (noted _)) role settings

theorem Heard.cleared (heard : rack.Heard lines) (role : Role) (settings : Settings) :
    (rack.cleared role settings).Heard lines := by
  have steady := steady_heard lines
  have emptied := steady.unmount role
    (steady.note rack (.switchingDriver role (settings.driver role)) heard)
  have renewed (hub : Hub) := (Hub.kept_heard lines).perform hub
    (.onMailboxes (.renew role (settings.mailboxSize role))) trivial
  simp only [Rack.cleared, Rack.vacate, Role.role_name]
  exact renewed _ emptied

theorem Heard.adjust (heard : rack.Heard lines) (role : Role) (settings : Settings) :
    (rack.adjust role settings).2.Heard lines := by
  have performed (rack : Rack) (command : Mailboxes.Command) (heard : rack.Heard lines) :
      Heard lines { rack with hub := (rack.hub.perform (.onMailboxes command)).2 } :=
    (Hub.kept_heard lines).perform rack.hub (.onMailboxes command) trivial heard
  exact (steady_heard lines).adjust role settings (fun rack => performed rack (.clear _))
    (fun rack => performed rack (.renew _ _)) heard

theorem Heard.adjust_error (heard : rack.Heard lines)
    (failed : (rack.adjust role settings).1 = .error fault) :
    (rack.adjust role settings).2.Heard (lines ++ [.dummyActivated role]) := by
  have steady := steady_heard lines
  cases stays : rack.staying? role settings with
  | none =>
    rw [adjust_switching stays] at failed ⊢
    exact (heard.cleared role settings).engage_error failed
  | some mount =>
    have called := steady.call rack role mount.backend (.adjust settings) heard
    have inPlace := adjustsInPlace stays
    generalize rack.adjust role settings = result at failed inPlace
    cases inPlace with
    | complies => cases failed
    | faults cause after known =>
      rw [known] at called
      exact Heard.mountDummy (steady.unmount role (steady.note _ _ called)) role settings

end

end Rack

end AudioHost
