import AudioHost.Proofs.CatalogListings
import AudioHost.Proofs.Engagements

/-!
# Choosing from a catalog

However a catalog came about, the names that it lists for a role are those that can be chosen, and
whoever chooses one gets a device of the driver that was added last under that name. No other driver
is ever asked for a device.
-/

set_option autoImplicit false

namespace AudioHost

/-- A driver as it is handed to a catalog. -/
structure Offer where
  name : RoleName
  driver : String
  make : Nat → Role → Device

namespace Offer

def Serves (offer : Offer) (name : RoleName) (driver : String) : Prop :=
  offer.name.role = name.role ∧ offer.driver = driver

instance (offer : Offer) (name : RoleName) (driver : String) :
    Decidable (offer.Serves name driver) :=
  inferInstanceAs (Decidable (_ ∧ _))

def registration (offer : Offer) (number : Nat) : Registration :=
  ⟨number, offer.name.role, offer.driver, offer.make⟩

/-- The last of some offers for a name, and how many offers came before it. -/
def latest? (offers : List Offer) (name : RoleName) (driver : String) : Option (Offer × Nat) :=
  (offers.zipIdx.filter fun (offer, _) => offer.Serves name driver).getLast?

variable {offers : List Offer} {name : RoleName} {driver : String}

theorem latest?_concat (offers : List Offer) (offer : Offer) (name : RoleName) (driver : String) :
    latest? (offers ++ [offer]) name driver =
      if offer.Serves name driver then some (offer, offers.length)
      else latest? offers name driver := by
  simp only [latest?, List.zipIdx_append, List.filter_append, List.getLast?_append]
  by_cases serves : offer.Serves name driver <;> simp [serves]

theorem latest?_eq_some {offer : Offer} {number : Nat}
    (latest : latest? offers name driver = some (offer, number)) :
    offers[number]? = some offer ∧ offer.Serves name driver := by
  have member := List.mem_of_getLast? latest
  simpa [List.mem_filter, List.mem_zipIdx_iff_getElem?] using member

theorem serves_role {offer : Offer} :
    offer.Serves name.role driver ↔ offer.Serves name driver := by
  simp only [Serves, Role.role_name]

theorem latest?_role : latest? offers name.role driver = latest? offers name driver := by
  simp only [latest?, serves_role]

theorem latest?_isSome_iff :
    (latest? offers name driver).isSome ↔ ∃ offer ∈ offers, offer.Serves name driver := by
  induction offers using List.reverseRecOn with
  | nil => simp [latest?]
  | append_singleton offers offer ih =>
    rw [latest?_concat]
    by_cases serves : offer.Serves name driver
    · simp [serves]
    · simp [serves, ih]

end Offer

namespace Catalog

/-- The catalog that some drivers were added to, one after another. -/
def offered (offers : List Offer) : Catalog :=
  offers.foldl (fun catalog offer => catalog.add offer.name offer.driver offer.make) {}

theorem offered_concat (offers : List Offer) (offer : Offer) :
    offered (offers ++ [offer]) = (offered offers).add offer.name offer.driver offer.make := by
  simp [offered]

theorem length_offered (offers : List Offer) :
    (offered offers).registrations.length = offers.length := by
  induction offers using List.reverseRecOn with
  | nil => rfl
  | append_singleton offers offer ih => simp [offered_concat, add, ih]

theorem find?_offered (offers : List Offer) (name : RoleName) (driver : String) :
    (offered offers).find? name driver =
      (Offer.latest? offers name driver).map fun (offer, number) => offer.registration number := by
  induction offers using List.reverseRecOn with
  | nil => rfl
  | append_singleton offers offer ih =>
    rw [offered_concat, Offer.latest?_concat]
    simp only [find?, add, length_offered] at ih ⊢
    by_cases serves : offer.Serves name driver
    · have found : (offer.name.role == name.role && offer.driver == driver) = true := by
        simpa [Offer.Serves] using serves
      simp [serves, found, Offer.registration]
    · have other : (offer.name.role == name.role && offer.driver == driver) = false := by
        simpa [Offer.Serves] using serves
      simp [serves, other, ih]

theorem contains_offered {offers : List Offer} {name : RoleName} {driver : String} :
    (offered offers).contains name driver = true ↔ ∃ offer ∈ offers, offer.Serves name driver := by
  rw [contains, find?_offered, Option.isSome_map]
  exact Offer.latest?_isSome_iff

theorem wanted?_of_ne {catalog : Catalog} {name : RoleName} {driver : String}
    (other : driver ≠ dummyName) : catalog.wanted? name driver = catalog.find? name driver :=
  if_neg other

theorem wanted?_offered {offers : List Offer} {name : RoleName} {driver : String}
    {registration : Registration}
    (wanted : (offered offers).wanted? name driver = some registration) :
    driver ≠ dummyName ∧ ∃ offer,
      Offer.latest? offers name driver = some (offer, registration.number) ∧
        registration = offer.registration registration.number := by
  have other := (contains_of_wanted wanted).1
  rw [wanted?_of_ne other, find?_offered, Option.map_eq_some_iff] at wanted
  obtain ⟨⟨offer, number⟩, latest, rfl⟩ := wanted
  exact ⟨other, offer, latest, rfl⟩

end Catalog

namespace Rack

/-- The devices that drivers have made, each with the role it was made for. -/
def makings (rack : Rack) : List (Instance × Role) := rack.journal.toList.filterMap Record.making?

variable {rack after : Rack} {role : Role} {settings : Settings}

@[simp] theorem makings_call (rack : Rack) (role : Role) (backend : Backend) (request : Request) :
    (rack.call role backend request).2.makings = rack.makings := by
  cases backend with
  | dummy => cases request <;> rfl
  | external => simp [call, makings, Record.making?]

theorem makings_append {records : List Record}
    (journal : after.journal.toList = rack.journal.toList ++ records) :
    after.makings = rack.makings ++ records.filterMap Record.making? := by
  rw [makings, journal, List.filterMap_append, makings]

theorem makings_unmount (rack : Rack) (role : Role) :
    (rack.unmount role).2.makings = rack.makings := by
  obtain ⟨records, released, journal⟩ := rack.released_unmount role
  rw [makings_append journal, released.makes_nothing, List.append_nil]

theorem makings_engage (rack : Rack) (role : Role) (settings : Settings) :
    (rack.engage role settings).2.makings = rack.makings ++
      (rack.catalog.wanted? role (settings.driver role)).toList.map fun registration =>
        (registration.next rack.journal, role) := by
  obtain ⟨mount, records, engages⟩ := rack.engages role settings
  rw [makings_append engages.journal, engages.engagement.makes]

/-- In what has become of a rack, each device was made by a driver that can be chosen for its
role. -/
structure Advances (rack after : Rack) : Prop where
  catalog : after.catalog = rack.catalog
  made : ∃ made, after.makings = rack.makings ++ made ∧ ∀ target role, (target, role) ∈ made →
    ∃ driver registration, rack.catalog.wanted? role driver = some registration ∧
      target.registration = registration.number

namespace Advances

theorem still (catalog : after.catalog = rack.catalog) (makings : after.makings = rack.makings) :
    rack.Advances after :=
  ⟨catalog, [], by simp [makings], by simp⟩

theorem trans {later : Rack} (first : rack.Advances after) (second : after.Advances later) :
    rack.Advances later := by
  obtain ⟨made, makings, chosen⟩ := first.made
  obtain ⟨more, laterMakings, laterChosen⟩ := second.made
  refine ⟨second.catalog.trans first.catalog, made ++ more, ?_, fun target role member => ?_⟩
  · rw [laterMakings, makings, List.append_assoc]
  · rcases List.mem_append.mp member with before | new
    · exact chosen target role before
    · exact first.catalog ▸ laterChosen target role new

end Advances

theorem advances_call (rack : Rack) (role : Role) (backend : Backend) (request : Request) :
    rack.Advances (rack.call role backend request).2 :=
  .still ((steady_catalog rack.catalog).call rack role backend request rfl) (rack.makings_call ..)

theorem advances_unmount (rack : Rack) (role : Role) : rack.Advances (rack.unmount role).2 :=
  .still ((steady_catalog rack.catalog).unmount role rfl) (rack.makings_unmount role)

theorem advances_vacate (rack : Rack) (name : RoleName) : rack.Advances (rack.vacate name).2 :=
  (rack.advances_unmount name.role).trans (.still rfl rfl)

theorem advances_mountDummy (rack : Rack) (role : Role) (settings : Settings) :
    rack.Advances (rack.mountDummy role settings) :=
  .still rfl rfl

theorem advances_engage (rack : Rack) (name : RoleName) (settings : Settings) :
    rack.Advances (rack.engage name settings).2 := by
  rw [engage_role]
  refine ⟨(steady_catalog rack.catalog).engage _ settings rfl, _, rack.makings_engage _ settings,
    fun target role member => ?_⟩
  obtain ⟨registration, wanted, same⟩ := List.mem_map.mp member
  cases same
  exact ⟨_, registration, Option.mem_toList.mp wanted, rfl⟩

theorem advances_adjust (rack : Rack) (role : Role) (settings : Settings) :
    rack.Advances (rack.adjust role settings).2 := by
  cases stays : rack.staying? role settings with
  | none =>
    rw [adjust_switching stays]
    have noted : rack.Advances (rack.note (.switchingDriver role (settings.driver role))) :=
      .still rfl rfl
    have cleared : rack.Advances (rack.cleared role settings) :=
      (noted.trans (advances_vacate _ _)).trans (.still rfl rfl)
    exact cleared.trans (advances_engage ..)
  | some mount =>
    have called := rack.advances_call role mount.backend (.adjust settings)
    have inPlace := adjustsInPlace stays
    generalize rack.adjust role settings = result at inPlace
    cases inPlace with
    | complies after known => simpa only [known] using called
    | faults cause after known =>
      rw [known] at called
      have noted : rack.Advances (after.note (.adjustmentFailed role cause)) :=
        called.trans (.still rfl rfl)
      exact (noted.trans (advances_unmount ..)).trans (advances_mountDummy _ role settings)

theorem advances_pass (rack : Rack) (name : RoleName) (request : Request) :
    rack.Advances (rack.pass name request).2 := by
  simp only [pass]
  split
  next => exact .still rfl rfl
  next mount _ =>
    have called := rack.advances_call name.role mount.backend request
    split
    next known => simpa only [known] using called
    next known => simpa only [known] using called

theorem advances_apply (rack : Rack) (command : Command) :
    rack.Advances (rack.apply command).2 := by
  cases command with
  | engage name settings => exact rack.advances_engage name settings
  | adjust name settings =>
    have same : rack.adjust name settings = rack.adjust name.role settings := by
      simp only [Rack.adjust, Role.role_name]
    simp only [apply, same]
    exact rack.advances_adjust name.role settings
  | vacate name => exact rack.advances_vacate name
  | playbackStarted name => exact rack.advances_pass name .playbackStarted
  | playbackStopped name => exact rack.advances_pass name .playbackStopped
  | silence name => exact rack.advances_pass name .silence
  | perform action => exact .still rfl rfl
  | waitSignal => exact .still rfl rfl

theorem advances_run (rack : Rack) (commands : List Command) :
    rack.Advances (rack.run commands) := by
  induction commands generalizing rack with
  | nil => exact .still rfl rfl
  | cons command rest ih => exact (rack.advances_apply command).trans (ih _)

/-- What comes of the choice for a role, told by the offers that the catalog was made from. -/
structure Chooses (rack : Rack) (offers : List Offer) (name : RoleName) (settings : Settings) :
    Prop where
  selected : settings.driver name.role ∈ rack.catalog.choices name ↔
    (rack.engage name settings).1 ≠
        .error (.unknownDriver name.role (settings.driver name.role)) ∧
      (rack.engage name settings).1 ≠
        .error (.driverLeftOut name.role (settings.driver name.role))
  made : (rack.engage name settings).2.makings = rack.makings ++
    if settings.driver name.role = dummyName then []
    else (Offer.latest? offers name (settings.driver name.role)).toList.map fun (_, number) =>
      (⟨number, rack.journal.madeBy number⟩, name.role)
  mounted : settings.driver name.role ≠ dummyName → (rack.engage name settings).1 = .ok () →
    ∃ offer number, Offer.latest? offers name (settings.driver name.role) = some (offer, number) ∧
      (rack.engage name settings).2.mounts.get name.role =
        some ⟨settings.driver name.role, .external ⟨number, rack.journal.madeBy number⟩
          (offer.make (rack.journal.madeBy number) name.role)⟩

theorem selected_engage (rack : Rack) (role : Role) (settings : Settings) :
    settings.driver role ∈ rack.catalog.choices role ↔
      (rack.engage role settings).1 ≠ .error (.unknownDriver role (settings.driver role)) ∧
        (rack.engage role settings).1 ≠ .error (.driverLeftOut role (settings.driver role)) := by
  obtain ⟨mount, records, engages⟩ := rack.engages role settings
  rw [Ne, Ne, engages.engagement.unknown_iff, engages.engagement.leftOut_iff,
    Catalog.mem_choices]
  by_cases dummy : settings.driver role = dummyName
  · simp [dummy, Catalog.dummyName_not_leftOut]
  · cases rack.catalog.contains role (settings.driver role) <;> simp [dummy]

end Rack

theorem Engagement.mount_of_ok {catalog : Catalog} {journal : Journal} {former : Option Instance}
    {settings : Settings} {role : Role} {records : List Record} {mount : Mount}
    (engagement : Engagement catalog journal former settings role (.ok ()) records mount)
    (other : settings.driver role ≠ dummyName) :
    ∃ registration, catalog.find? role (settings.driver role) = some registration ∧
      mount = registration.mount (registration.next journal) (settings.driver role) role := by
  generalize succeeds : Except.ok () = result at engagement
  cases engagement with
  | dummy _ chosen => exact absurd ((catalog.choose_eq_dummy_iff _ _).mp chosen) other
  | leftOut | unknown | refuses => cases succeeds
  | comesUp registration released call chosen _ target =>
    have wanted := Catalog.choose_eq_registered_iff.mp chosen
    rw [Catalog.wanted?_of_ne other] at wanted
    exact ⟨registration, wanted, by rw [target]⟩

namespace Rack

variable {rack : Rack} {offers : List Offer}

theorem makings_chosen (offered : rack.catalog = .offered offers) (role : Role)
    (settings : Settings) :
    (rack.engage role settings).2.makings = rack.makings ++
      if settings.driver role = dummyName then []
      else (Offer.latest? offers role (settings.driver role)).toList.map fun (_, number) =>
        (⟨number, rack.journal.madeBy number⟩, role) := by
  rw [makings_engage, offered]
  split
  next dummy => simp [Catalog.wanted?, dummy]
  next other =>
    rw [Catalog.wanted?_of_ne other, Catalog.find?_offered]
    cases Offer.latest? offers role (settings.driver role) <;> rfl

theorem mounted_chosen (offered : rack.catalog = .offered offers) {role : Role}
    {settings : Settings} (other : settings.driver role ≠ dummyName)
    (succeeds : (rack.engage role settings).1 = .ok ()) :
    ∃ offer number, Offer.latest? offers role (settings.driver role) = some (offer, number) ∧
      (rack.engage role settings).2.mounts.get role =
        some ⟨settings.driver role, .external ⟨number, rack.journal.madeBy number⟩
          (offer.make (rack.journal.madeBy number) role)⟩ := by
  obtain ⟨mount, records, engages⟩ := rack.engages role settings
  have engagement := engages.engagement
  rw [succeeds] at engagement
  obtain ⟨registration, found, rfl⟩ := engagement.mount_of_ok other
  rw [offered, Catalog.find?_offered, Option.map_eq_some_iff] at found
  obtain ⟨⟨offer, number⟩, latest, rfl⟩ := found
  exact ⟨offer, number, latest, by rw [engages.mounts, PerRole.get_set_self]; rfl⟩

theorem chooses (offered : rack.catalog = .offered offers) (name : RoleName)
    (settings : Settings) : rack.Chooses offers name settings := by
  have choices : rack.catalog.choices name = rack.catalog.choices name.role := by
    simp only [Catalog.choices, Role.role_name]
  refine ⟨?_, ?_, ?_⟩
  · rw [engage_role, choices]
    exact rack.selected_engage name.role settings
  · rw [engage_role, ← Offer.latest?_role]
    exact makings_chosen offered name.role settings
  · rw [engage_role, ← Offer.latest?_role]
    exact mounted_chosen offered

end Rack

/-- How a catalog answers for the offers that it was made from, whatever is asked of it. -/
structure Catalog.Agrees (offers : List Offer) : Prop where
  ordered : ∀ name, ((offered offers).choices name).Pairwise fun first second =>
    nameBytes first < nameBytes second
  distinct : ∀ name, ((offered offers).choices name).Nodup
  listed : ∀ name driver, driver ∈ (offered offers).choices name ↔
    driver = dummyName ∨ (offered offers).contains name driver = true
  added : ∀ name driver, (offered offers).contains name driver = true ↔
    ∃ offer ∈ offers, offer.Serves name driver
  found : ∀ name driver, (offered offers).find? name driver =
    (Offer.latest? offers name driver).map fun (offer, number) => offer.registration number
  chosen : ∀ rack : Rack, rack.catalog = offered offers → ∀ name settings,
    rack.Chooses offers name settings
  /-- Only the last offer for another name than that of the dummy is taken up, and only for the role
  that it was made for. -/
  taken : ∀ rack : Rack, rack.catalog = offered offers → ∀ commands,
    ∃ made, (rack.run commands).makings = rack.makings ++ made ∧
      ∀ target role, (target, role) ∈ made → ∃ offer,
        Offer.latest? offers role offer.driver = some (offer, target.registration) ∧
          offer.name.role = role ∧ offer.driver ≠ dummyName

/-- The listing, the membership test and the choice of a catalog agree on the drivers that there
are, whatever was added to it. A listing is in the order of its bytes, without repetition, and names
what can be chosen: the dummy, and each driver that was added. The last of the same name is the one
that is asked for devices. -/
theorem catalog_agrees (offers : List Offer) : Catalog.Agrees offers where
  ordered name := ((Catalog.offered offers).choices_ordered name).imp nameBytes_lt
  distinct name := ((Catalog.offered offers).choices_ordered name).imp fun less => less.ne
  listed _ _ := Catalog.mem_choices
  added _ _ := Catalog.contains_offered
  found := Catalog.find?_offered offers
  chosen _ offered name settings := Rack.chooses offered name settings
  taken rack offered commands := by
    obtain ⟨made, makings, wanted⟩ := (rack.advances_run commands).made
    refine ⟨made, makings, fun target role member => ?_⟩
    obtain ⟨driver, registration, wanted, same⟩ := wanted target role member
    rw [offered] at wanted
    obtain ⟨other, offer, latest, -⟩ := Catalog.wanted?_offered wanted
    obtain ⟨-, role, rfl⟩ := Offer.latest?_eq_some latest
    exact ⟨offer, same ▸ latest, by simpa using role, other⟩

-- An offer under the name of the dummy adds nothing, and one for the other role is not listed.
example :
    (Catalog.offered [⟨.default, "jack", fun _ _ => Script.absent.device⟩,
      ⟨.midi, "alsa", fun _ _ => Script.absent.device⟩,
      ⟨.audio, "dummy", fun _ _ => Script.absent.device⟩]).choices .audio = ["dummy", "jack"] := by
  decide +kernel

end AudioHost
