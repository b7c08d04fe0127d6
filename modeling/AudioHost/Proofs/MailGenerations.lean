import AudioHost.Proofs.MailUses

/-!
# Generations of mailboxes

The mailboxes of the two roles, and those that have come one after the other for one role, do not
know of each other. As long as a mailbox is in force, its handle and the name of the role are two
ways to it.
-/

set_option autoImplicit false

namespace AudioHost

namespace Mailboxes

def Use.handle? : Use → Option Handle
  | .command (.through handle _) | .outgoingLength handle | .incomingLength handle => some handle
  | _ => none

/-- The role that is named, or whose mailbox is held. -/
def Use.role : Use → Role
  | .command (.renew name _) | .command (.clear name) | .command (.send name ..)
  | .command (.deliver name ..) | .command (.fetch name _) | .command (.collect name)
  | .hold name => name.role
  | .command (.through handle _) | .outgoingLength handle | .incomingLength handle => handle.role

/-- The mailboxes that a use may see or change: the one that is held, or the one in force for the
role and the next one. -/
def touches (mail : Mailboxes) (use : Use) : List Handle :=
  match use.handle? with
  | some handle => [handle]
  | none => [mail.hold use.role, (mail.hold use.role).next]

theorem touches_held (mail : Mailboxes) {use : Use} {handle : Handle}
    (held : use.handle? = some handle) : mail.touches use = [handle] := by
  simp only [touches, held]

theorem hold_mem_touches (mail : Mailboxes) {use : Use} (named : use.handle? = none) :
    mail.hold use.role ∈ mail.touches use ∧ (mail.hold use.role).next ∈ mail.touches use := by
  simp [touches, named]

theorem role_touches {mail : Mailboxes} {use : Use} {handle : Handle}
    (touched : handle ∈ mail.touches use) : handle.role = use.role := by
  cases held : use.handle? with
  | some other =>
    rw [touches_held mail held, List.mem_singleton] at touched
    subst touched
    cases use with
    | command command =>
      cases command with
      | through => cases held; rfl
      | _ => cases held
    | hold => cases held
    | outgoingLength => cases held; rfl
    | incomingLength => cases held; rfl
  | none =>
    simp only [touches, held, List.mem_cons, List.not_mem_nil, or_false] at touched
    rcases touched with rfl | rfl
    · simp [hold]
    · simp [hold, Handle.next]

theorem aim?_mem_touches {mail : Mailboxes} {use : Use} {handle : Handle} {there : Mailbox.Use}
    (aims : mail.aim? use = some (handle, there)) : handle ∈ mail.touches use := by
  cases use with
  | command command =>
    cases command with
    | renew => cases aims
    | clear => cases aims
    | send name port buffer =>
      obtain ⟨message, -, same⟩ := Option.map_eq_some_iff.mp aims
      cases same
      simp [touches, Use.handle?, Use.role, hold]
    | deliver name port buffer =>
      obtain ⟨data, -, same⟩ := Option.map_eq_some_iff.mp aims
      cases same
      simp [touches, Use.handle?, Use.role, hold]
    | fetch => cases aims; simp [touches, Use.handle?, Use.role, hold]
    | collect => cases aims; simp [touches, Use.handle?, Use.role, hold]
    | through => cases aims; simp [touches, Use.handle?]
  | hold => cases aims
  | outgoingLength => cases aims; simp [touches, Use.handle?]
  | incomingLength => cases aims; simp [touches, Use.handle?]

theorem replacement?_role {use : Use} {role : Role} {mailbox : Mailbox}
    (replaces : use.replacement? = some (role, mailbox)) :
    use.handle? = none ∧ use.role = role := by
  cases use with
  | command command =>
    cases command with
    | renew => cases replaces; exact ⟨rfl, rfl⟩
    | clear => cases replaces; exact ⟨rfl, rfl⟩
    | _ => cases replaces
  | _ => cases replaces

theorem aim?_congr {mail other : Mailboxes} {use : Use}
    (same : use.handle? = none → mail.hold use.role = other.hold use.role) :
    mail.aim? use = other.aim? use := by
  have named (name : RoleName) (held : mail.hold name.role = other.hold name.role) :
      mail.hold name = other.hold name := by simpa [hold] using held
  cases use with
  | command command =>
    cases command with
    | send name port buffer => simp only [aim?, named name (same rfl)]
    | deliver name port buffer => simp only [aim?, named name (same rfl)]
    | fetch name position => simp only [aim?, named name (same rfl)]
    | collect name => simp only [aim?, named name (same rfl)]
    | _ => rfl
  | _ => rfl

theorem idleSight_congr {mail other : Mailboxes} {use : Use}
    (same : use.handle? = none → mail.hold use.role = other.hold use.role) :
    mail.idleSight use = other.idleSight use := by
  cases use with
  | hold name =>
    have held := same rfl
    simp only [idleSight]
    congr 1
    simpa [hold, Use.role] using held
  | _ => rfl

/-- The two cannot be told apart by the mailboxes that are spared. -/
structure AgreeOn (spared : Handle → Prop) (mail other : Mailboxes) : Prop where
  held : ∀ handle, spared handle → mail.held? handle = other.held? handle
  hold : ∀ role : Role, spared (mail.hold role) → mail.hold role = other.hold role

namespace AgreeOn

variable {spared : Handle → Prop} {mail other : Mailboxes} {use : Use}

theorem within (agree : AgreeOn spared mail other)
    (touched : ∀ handle ∈ mail.touches use, spared handle) :
    (mail.use use).1 = (other.use use).1 ∧ AgreeOn spared (mail.use use).2 (other.use use).2 := by
  -- By name a use reaches the mailbox in force, so both have to mean the same one by it.
  have inForce (named : use.handle? = none) : mail.hold use.role = other.hold use.role :=
    agree.hold use.role (touched _ (hold_mem_touches mail named).1)
  cases mail.effect use with
  | aimed handle there aims here =>
    have also := other.aimed ((aim?_congr inForce).symm.trans aims)
    have same := agree.held handle (touched handle (aim?_mem_touches aims))
    refine ⟨by rw [here.sight, also.sight, same], ⟨?_, ?_⟩⟩
    · intro seen spare
      rw [here.held, also.held, same, agree.held seen spare]
    · intro role spare
      rw [here.hold] at spare ⊢
      rw [also.hold, agree.hold role spare]
  | replaced role mailbox aimless replaces effect =>
    obtain ⟨named, rfl⟩ := replacement?_role replaces
    have same := inForce named
    rw [effect, other.use_replacement replaces]
    refine ⟨rfl, ⟨?_, ?_⟩⟩
    · intro handle spare
      rw [held?_replace, held?_replace, same, agree.held handle spare]
    · intro place spare
      rw [hold_replace] at spare
      rw [hold_replace, hold_replace, same]
      split
      · rfl
      next elsewhere =>
        rw [if_neg elsewhere] at spare
        exact agree.hold place spare
  | idle aimless keeps effect =>
    have also : other.aim? use = none := (aim?_congr inForce).symm.trans aimless
    rw [effect, other.use_idle also keeps]
    exact ⟨idleSight_congr inForce, agree⟩

theorem outside (agree : AgreeOn spared mail other)
    (untouched : ∀ handle ∈ mail.touches use, ¬ spared handle) :
    AgreeOn spared (mail.use use).2 other := by
  cases mail.effect use with
  | aimed handle there aims here =>
    refine ⟨?_, ?_⟩
    · intro seen spare
      have apart : seen ≠ handle := by
        rintro rfl
        exact untouched seen (aim?_mem_touches aims) spare
      rw [here.held, if_neg apart, agree.held seen spare]
    · intro role spare
      rw [here.hold] at spare ⊢
      exact agree.hold role spare
  | replaced role mailbox aimless replaces effect =>
    obtain ⟨named, rfl⟩ := replacement?_role replaces
    have unseen := untouched _ (hold_mem_touches mail named).2
    rw [effect]
    refine ⟨?_, ?_⟩
    · intro handle spare
      have apart : handle ≠ (mail.hold use.role).next := by
        rintro rfl
        exact unseen spare
      rw [held?_replace, if_neg apart, agree.held handle spare]
    · intro place spare
      rw [hold_replace] at spare ⊢
      split at spare
      -- The role moves on to the next mailbox, and that one is not spared.
      · exact absurd spare unseen
      next elsewhere =>
        rw [if_neg elsewhere]
        exact agree.hold place spare
  | idle aimless keeps effect =>
    rw [effect]
    exact agree

end AgreeOn

/-- The uses to keep touch none but the mailboxes that are spared, and the others none of those. -/
structure Divides (keep : Use → Bool) (spared : Handle → Prop) (stable : Mailboxes → Prop) :
    Prop where
  kept : ∀ mail, stable mail → ∀ use, keep use = true → ∀ handle ∈ mail.touches use, spared handle
  left : ∀ mail, stable mail → ∀ use, keep use = false →
    ∀ handle ∈ mail.touches use, ¬ spared handle
  stays : ∀ mail, stable mail → ∀ use, stable (mail.use use).2

theorem Divides.trace {keep : Use → Bool} {spared : Handle → Prop} {stable : Mailboxes → Prop}
    (divides : Divides keep spared stable) {mail other : Mailboxes} (steady : stable mail)
    (agree : AgreeOn spared mail other) (uses : List Use) :
    (mail.trace uses).filter (fun entry => keep entry.1) = other.trace (uses.filter keep) := by
  induction uses generalizing mail other with
  | nil => rfl
  | cons use rest ih =>
    have later := divides.stays mail steady use
    cases wanted : keep use with
    | true =>
      obtain ⟨same, agree⟩ := agree.within (divides.kept mail steady use wanted)
      simp only [Mailboxes.trace, List.filter_cons, wanted, if_true]
      rw [ih later agree, same]
    | false =>
      have agree := agree.outside (divides.left mail steady use wanted)
      simp only [Mailboxes.trace, List.filter_cons, wanted, Bool.false_eq_true, if_false]
      exact ih later agree

theorem divides_role (role : Role) :
    Divides (fun use => use.role = role) (fun handle => handle.role = role) fun _ => True where
  kept mail _ use wanted handle touched := by
    rw [role_touches touched]
    simpa using wanted
  left mail _ use unwanted handle touched := by
    rw [role_touches touched]
    simpa using unwanted
  stays _ _ _ := trivial

/-- Another mailbox is in force. -/
def Retired (handle : Handle) (mail : Mailboxes) : Prop :=
  handle.generation < (mail.hold handle.role).generation

theorem Retired.use {handle : Handle} {mail : Mailboxes} (retired : Retired handle mail)
    (use : Use) : Retired handle (mail.use use).2 := by
  simp only [Retired] at retired ⊢
  cases mail.effect use with
  | aimed other there aims effect =>
    rw [effect.hold]
    exact retired
  | replaced role mailbox aimless replaces effect =>
    rw [effect, hold_replace]
    split
    next here =>
      rw [← here, Role.role_name]
      exact Nat.lt_succ_of_lt retired
    next => exact retired
  | idle aimless keeps effect =>
    rw [effect]
    exact retired

theorem Retired.apart {handle other : Handle} {mail : Mailboxes} (retired : Retired handle mail)
    {use : Use} (around : use.handle? ≠ some handle) (touched : other ∈ mail.touches use) :
    other ≠ handle := by
  rintro rfl
  cases held : use.handle? with
  | some through =>
    rw [touches_held mail held, List.mem_singleton] at touched
    exact around (touched ▸ held)
  | none =>
    have role := role_touches touched
    simp only [touches, held, List.mem_cons, List.not_mem_nil, or_false] at touched
    simp only [Retired, role] at retired
    -- By name the mailbox in force is reached, or the next one, and both are later than this one.
    rcases touched with same | same
    · rw [same] at retired
      exact absurd retired (Nat.lt_irrefl _)
    · rw [same] at retired
      exact absurd (Nat.lt_of_succ_lt retired) (Nat.lt_irrefl _)

theorem divides_through (handle : Handle) :
    Divides (fun use => use.handle? = some handle) (fun other => other = handle)
      (Retired handle) where
  kept mail _ use wanted other touched := by
    rw [touches_held mail (by simpa using wanted), List.mem_singleton] at touched
    exact touched
  left mail retired use unwanted other touched :=
    retired.apart (by simpa using unwanted) touched
  stays _ retired use := retired.use use

theorem divides_around (handle : Handle) :
    Divides (fun use => use.handle? ≠ some handle) (fun other => other ≠ handle)
      (Retired handle) where
  kept mail retired use wanted other touched := retired.apart (by simpa using wanted) touched
  left mail _ use unwanted other touched := by
    rw [touches_held mail (by simpa using unwanted), List.mem_singleton] at touched
    simpa using touched
  stays _ retired use := retired.use use

/-- What a use does to a mailbox, if that is the one it uses. -/
def aimedAt (mail : Mailboxes) (handle : Handle) (use : Use) : Option Mailbox.Use :=
  (mail.aim? use).bind fun aim => if aim.1 = handle then some aim.2 else none

/-- The role keeps its mailbox. -/
def Use.Spares (role : Role) (use : Use) : Prop :=
  ∀ mailbox, use.replacement? ≠ some (role, mailbox)

section

variable {mail : Mailboxes} {handle : Handle} {use : Use}

theorem aimedAt_eq_some_iff {there : Mailbox.Use} :
    mail.aimedAt handle use = some there ↔ mail.aim? use = some (handle, there) := by
  simp only [aimedAt, Option.bind_eq_some_iff, Option.ite_none_right_eq_some, Option.some.injEq]
  constructor
  · rintro ⟨⟨aim, other⟩, aims, rfl, rfl⟩
    exact aims
  · intro aims
    exact ⟨_, aims, rfl, rfl⟩

theorem aimedAt_congr {other : Mailboxes}
    (same : mail.hold handle.role = other.hold handle.role) :
    mail.aimedAt handle = other.aimedAt handle := by
  funext use
  by_cases here : use.handle? = none → use.role = handle.role
  · have aims : mail.aim? use = other.aim? use := by
      refine aim?_congr fun named => ?_
      rw [here named]
      exact same
    simp only [aimedAt, aims]
  · -- The other role is named, so it is another mailbox whichever is in force.
    have away (some : Mailboxes) : some.aimedAt handle use = none := by
      rw [Option.eq_none_iff_forall_ne_some]
      intro there aimed
      have touched := role_touches (aim?_mem_touches (aimedAt_eq_some_iff.mp aimed))
      exact here fun _ => touched.symm
    rw [away, away]

theorem hold_spares (spares : use.Spares handle.role) :
    (mail.use use).2.hold handle.role = mail.hold handle.role := by
  cases mail.effect use with
  | aimed other there aims effect => rw [effect.hold]
  | replaced role mailbox aimless replaces effect =>
    have elsewhere : handle.role ≠ role := by
      rintro rfl
      exact spares mailbox replaces
    rw [effect, hold_replace, if_neg (by simpa using elsewhere)]
  | idle aimless keeps effect => rw [effect]

theorem held?_aimedAt {there : Mailbox.Use} {mailbox : Mailbox}
    (present : mail.held? handle = some mailbox) (aimed : mail.aimedAt handle use = some there) :
    (mail.use use).1 = .inside (mailbox.use there).1 ∧
      (mail.use use).2.held? handle = some (mailbox.use there).2 := by
  have effect := mail.aimed (aimedAt_eq_some_iff.mp aimed)
  constructor
  · rw [effect.sight, present]
    rfl
  · rw [effect.held, if_pos rfl, present]
    rfl

theorem held?_elsewhere {mailbox : Mailbox} (present : mail.held? handle = some mailbox)
    (elsewhere : mail.aimedAt handle use = none) :
    (mail.use use).2.held? handle = some mailbox := by
  cases mail.effect use with
  | aimed other there aims effect =>
    have apart : handle ≠ other := by
      rintro rfl
      rw [aimedAt_eq_some_iff.mpr aims] at elsewhere
      cases elsewhere
    rw [effect.held, if_neg apart, present]
  | replaced role new aimless replaces effect =>
    have apart : handle ≠ (mail.hold role).next := by
      -- This mailbox is there, and there was no next one yet.
      rintro rfl
      simp [held?, Handle.next, hold, Lane.mailbox?_next] at present
    rw [effect, held?_replace, if_neg apart, present]
  | idle aimless keeps effect => rw [effect, present]

theorem useAll_spares {mailbox : Mailbox} (present : mail.held? handle = some mailbox)
    (uses : List Use) (spare : ∀ use ∈ uses, use.Spares handle.role) :
    (mail.trace uses).filterMap
        (fun entry => (mail.aimedAt handle entry.1).map fun _ => entry.2) =
      (mailbox.useAll (uses.filterMap (mail.aimedAt handle))).1.map .inside ∧
    (mail.useAll uses).held? handle =
      some (mailbox.useAll (uses.filterMap (mail.aimedAt handle))).2 ∧
    (mail.useAll uses).hold handle.role = mail.hold handle.role := by
  -- What a use is aimed at depends on the mailbox in force, and that stays the same one.
  induction uses generalizing mail mailbox with
  | nil => exact ⟨rfl, present, rfl⟩
  | cons use rest ih =>
    have still : (mail.use use).2.hold handle.role = mail.hold handle.role :=
      hold_spares (spare use List.mem_cons_self)
    have later := fun use member => spare use (List.mem_cons_of_mem _ member)
    rw [aimedAt_congr still.symm]
    cases aimed : (mail.use use).2.aimedAt handle use with
    | some there =>
      obtain ⟨sight, held⟩ := held?_aimedAt present (aimedAt_congr still ▸ aimed)
      obtain ⟨seen, kept, inForce⟩ := ih held later
      refine ⟨?_, ?_, inForce.trans still⟩
      · simp only [trace, List.filterMap_cons, aimed, Option.map_some, seen, sight,
          Mailbox.useAll]
        rfl
      · simp only [List.filterMap_cons, aimed]
        exact kept
    | none =>
      have held := held?_elsewhere present (aimedAt_congr still ▸ aimed)
      obtain ⟨seen, kept, inForce⟩ := ih held later
      refine ⟨?_, ?_, inForce.trans still⟩
      · simp only [trace, List.filterMap_cons, aimed, Option.map_none, seen]
      · simp only [List.filterMap_cons, aimed]
        exact kept

end

/-- Whatever is done to a mailbox, through its handle or by the name of its role, is done to one
pair of queues, in the order in which it is done. -/
structure InCommon (mail : Mailboxes) (handle : Handle) (size : MailboxSize) (queues : Queues)
    (uses : List Use) : Prop where
  seen : (mail.trace uses).filterMap
      (fun entry => (mail.aimedAt handle entry.1).map fun _ => entry.2) =
    (queues.useAll size (uses.filterMap (mail.aimedAt handle))).1.map .inside
  inForce : (mail.useAll uses).hold handle.role = handle
  holds : ((mail.useAll uses).mailbox handle.role).Holds size
    (queues.useAll size (uses.filterMap (mail.aimedAt handle))).2

/-- Another mailbox is in force, and none of those who use it or the former one sees anything of
the others. -/
structure Parted (mail : Mailboxes) (handle : Handle) (former new : Mailbox) : Prop where
  kept : mail.held? handle = some former
  inForce : mail.mailbox handle.role = new
  through : ∀ uses, (mail.trace uses).filter (fun entry => entry.1.handle? = some handle) =
    mail.trace (uses.filter fun use => use.handle? = some handle)
  around : ∀ uses, (mail.trace uses).filter (fun entry => entry.1.handle? ≠ some handle) =
    mail.trace (uses.filter fun use => use.handle? ≠ some handle)

def Queued (mail : Mailboxes) : Prop :=
  ∀ handle mailbox, mail.held? handle = some mailbox → ∃ size queues, mailbox.Holds size queues

theorem Queued.use {mail : Mailboxes} (queued : mail.Queued) (use : Use) :
    (mail.use use).2.Queued := by
  intro handle mailbox present
  cases mail.effect use with
  | aimed other there aims effect =>
    rw [effect.held] at present
    split at present
    · obtain ⟨before, known, rfl⟩ := Option.map_eq_some_iff.mp present
      obtain ⟨size, queues, holds⟩ := queued other before known
      exact ⟨size, _, (holds.use there).2⟩
    · exact queued handle mailbox present
  | replaced role new aimless replaces effect =>
    rw [effect, held?_replace] at present
    split at present
    · cases present
      obtain ⟨size, rfl⟩ := made_of_replacement replaces
      exact ⟨size, {}, Mailbox.make_holds size⟩
    · exact queued handle mailbox present
  | idle aimless keeps effect =>
    rw [effect] at present
    exact queued handle mailbox present

theorem Queued.useAll {mail : Mailboxes} (queued : mail.Queued) (uses : List Use) :
    (mail.useAll uses).Queued := by
  induction uses generalizing mail with
  | nil => exact queued
  | cons use rest ih => exact ih (queued.use use)

theorem queued_new : ({} : Mailboxes).Queued := by
  rintro ⟨role, generation⟩ mailbox present
  have closed : mailbox = .make ⟨0, 0⟩ := by
    cases generation with
    | zero =>
      cases role <;> exact (Option.some.inj present).symm
    | succ generation =>
      simp [held?, Lane.mailbox?, Lane.generation] at present
  exact ⟨⟨0, 0⟩, {}, closed ▸ Mailbox.make_holds _⟩

theorem trace_role (mail : Mailboxes) (role : Role) (uses : List Use) :
    (mail.trace uses).filter (fun entry => entry.1.role = role) =
      mail.trace (uses.filter fun use => use.role = role) :=
  (divides_role role).trace trivial ⟨fun _ _ => rfl, fun _ _ => rfl⟩ uses

theorem inCommon {mail : Mailboxes} {name : RoleName} {size : MailboxSize} {queues : Queues}
    (holds : (mail.mailbox name).Holds size queues) {uses : List Use}
    (spare : ∀ use ∈ uses, use.Spares name.role) :
    mail.InCommon (mail.hold name) size queues uses := by
  obtain ⟨seen, kept, still⟩ := useAll_spares (mail.held?_hold name) uses spare
  obtain ⟨same, later⟩ := holds.useAll (uses.filterMap (mail.aimedAt (mail.hold name)))
  have inForce : (mail.useAll uses).hold (mail.hold name).role = mail.hold name :=
    still.trans (by simp [hold])
  refine ⟨?_, inForce, ?_⟩
  · rw [seen, same]
  · have found := (mail.useAll uses).held?_hold (mail.hold name).role
    rw [inForce, kept] at found
    rw [← Option.some.inj found]
    exact later

theorem parted {mail : Mailboxes} {name : RoleName} {use : Use} {new : Mailbox}
    (replaces : use.replacement? = some (name.role, new)) :
    (mail.use use).2.Parted (mail.hold name) (mail.mailbox name) new := by
  have inForce : mail.hold name.role = mail.hold name := by simp [hold]
  have retired : Retired (mail.hold name) (mail.use use).2 := by
    have sameRole : (mail.hold name).role = name.role := rfl
    simp only [Retired, mail.use_replacement replaces]
    rw [hold_replace, if_pos (by simp [sameRole]), inForce]
    exact Nat.lt_succ_self _
  refine ⟨?_, ?_, ?_, ?_⟩
  · rw [mail.use_replacement replaces, held?_replace, inForce,
      if_neg (mail.hold name).next_ne.symm, held?_hold]
  · rw [mail.use_replacement replaces]
    simp [Mailboxes.mailbox, replace, Lane.replace, hold]
  · exact (divides_through _).trace retired ⟨fun _ _ => rfl, fun _ _ => rfl⟩
  · exact (divides_around _).trace retired ⟨fun _ _ => rfl, fun _ _ => rfl⟩

end Mailboxes

/-- What is done for one role is not seen by the other. As long as the mailbox of a role is in
force, the role and a handle to that mailbox share one pair of queues. From the moment on at which
another one is put in its place, the handle keeps what waits in the former one, the role starts with
the new one, and neither sees anything of what is done with the other. -/
theorem mail_generations_apart (uses : List Mailboxes.Use) :
    let mail := ({} : Mailboxes).useAll uses
    (∀ role later, (mail.trace later).filter (fun entry => entry.1.role = role) =
      mail.trace (later.filter fun use => use.role = role)) ∧
    ∀ name, ∃ size queues, ∀ shared, (∀ use ∈ shared, Mailboxes.Use.Spares name.role use) →
      mail.InCommon (mail.hold name) size queues shared ∧
      ∀ use new, Mailboxes.Use.replacement? use = some (name.role, new) →
        ((mail.useAll shared).use use).2.Parted (mail.hold name)
          ((mail.useAll shared).mailbox name) new := by
  intro mail
  refine ⟨mail.trace_role, ?_⟩
  intro name
  have queued : mail.Queued := Mailboxes.queued_new.useAll uses
  obtain ⟨size, queues, holds⟩ := queued (mail.hold name) _ (mail.held?_hold name)
  refine ⟨size, queues, ?_⟩
  intro shared spare
  have common := Mailboxes.inCommon holds spare
  refine ⟨common, ?_⟩
  intro use new replaces
  have still : (mail.useAll shared).hold name = mail.hold name := by
    have inForce := common.inForce
    simpa [Mailboxes.hold] using inForce
  rw [← still]
  exact Mailboxes.parted replaces

/-- An event is delivered for the role and another one through the handle; one of them is collected
before the mailbox goes out of force. -/
def sharedUses : List Mailboxes.Use :=
  [.command (.deliver .midi 0 [0x90, 60, 1]),
    .command (.through ⟨.midi, 1⟩ (.deliver ⟨.midi, 0, .empty⟩)), .command (.collect .midi)]

theorem mail_generations_apart_shared :
    let mail := ({} : Mailboxes).useAll [.command (.renew .midi ⟨1, 2⟩)]
    (∀ use ∈ sharedUses, use.Spares .midi) ∧
      mail.hold .midi = ⟨.midi, 1⟩ ∧ ((mail.useAll sharedUses).mailbox .midi).incomingLength = 1 ∧
      ((mail.useAll sharedUses).use (.command (.clear .midi))).2.Parted ⟨.midi, 1⟩
        ((mail.useAll sharedUses).mailbox .midi) .closed := by
  intro mail
  have spare : ∀ use ∈ sharedUses, use.Spares .midi := by
    simp [sharedUses, Mailboxes.Use.Spares, Mailboxes.Use.replacement?]
  have apart := (mail_generations_apart [.command (.renew .midi ⟨1, 2⟩)]).2 .midi
  obtain ⟨size, queues, shares⟩ := apart
  refine ⟨spare, rfl, by decide +kernel, ?_⟩
  exact (shares sharedUses spare).2 (.command (.clear .midi)) .closed rfl

end AudioHost
