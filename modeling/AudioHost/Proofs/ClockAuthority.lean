import AudioHost.Proofs.RackSteps

/-!
# The clock judges by what is mounted

The clock keeps a note of which roles are served by a dummy, apart from the mounts themselves. The
note is right between any two operations and at every moment of a request to a device, so a report
is judged by the backends that really serve.
-/

set_option autoImplicit false

namespace AudioHost

structure Clock.JudgesBy (clock : Clock) (dummies : PerRole Bool) : Prop where
  noted : ∀ name, clock.isDummy name = dummies.get name.role
  takes : ∀ source time, (clock.report source time).1.isTaken = true ↔
    clock.jumpPending.get = false ∧
      (source = .audio ∨ source = .midi ∧ dummies.get .audio = true ∨
        source = .dummy ∧ dummies.get .audio = true ∧ dummies.get .midi = true)

/-- The clock at every moment of a request: before each action of the device, and after the last. -/
def Call.clocks (call : Call) : List Clock :=
  call.exchanges.map Exchange.clock ++ [call.lastClock]

def Exchange.IsVerdict (exchange : Exchange) : Prop :=
  ∀ source time, exchange.action = .report source time →
    exchange.answer = .accepted (exchange.clock.report source time).1.isTaken

/-- The clock is right about the mounts now, and was so throughout every request so far. -/
structure Rack.JudgesByMounts (rack : Rack) : Prop where
  now : rack.hub.clock.JudgesBy ⟨(rack.backend .audio).isDummy, (rack.backend .midi).isDummy⟩
  answers : ∀ source time, (rack.hub.perform (.report source time)).1 =
    .accepted (rack.hub.clock.report source time).1.isTaken
  throughout : ∀ call, .called call ∈ rack.journal →
    (∀ clock ∈ call.clocks, clock.JudgesBy call.mountedDummies) ∧
      ∀ exchange ∈ call.exchanges, exchange.IsVerdict

namespace Clock

theorem judgesBy_dummies (clock : Clock) : clock.JudgesBy clock.dummies where
  noted _ := rfl
  takes := by
    intro source time
    cases authorized : clock.authorizes source with
    | false =>
      rw [report_refused time authorized]
      cases source <;> simp_all [authorizes, ClockSource.mayMove, Verdict.isTaken, PerRole.get]
    | true =>
      cases pending : clock.jumpPending.get with
      | true => simp [report_swallowed time authorized pending, Verdict.isTaken]
      | false =>
        rw [report_taken time authorized pending]
        cases source <;> simp_all [authorizes, ClockSource.mayMove, Verdict.isTaken, PerRole.get]

@[simp] theorem dummies_report (clock : Clock) (source : ClockSource) (time : Position) :
    (clock.report source time).2.dummies = clock.dummies := by
  simp only [report]
  split
  · split <;> rfl
  · rfl

end Clock

namespace Hub

@[simp] theorem dummies_report (hub : Hub) (source : ClockSource) (time : Position) :
    (hub.report source time).2.clock.dummies = hub.clock.dummies := by
  simp only [report]
  split <;> exact Clock.dummies_report ..

theorem clock_onMailboxes (hub : Hub) (command : Mailboxes.Command) :
    (hub.onMailboxes command).2.clock = hub.clock := by
  cases command <;> rfl

@[simp] theorem dummies_perform (hub : Hub) (action : Action) :
    (hub.perform action).2.clock.dummies = hub.clock.dummies := by
  cases action with
  | report source time => exact dummies_report hub source time
  | jump time => rfl
  | time => rfl
  | deliver name port buffer =>
    simp only [perform, Answer.attempt, deliver?]
    cases hub.mail.deliver? name port buffer <;> rfl
  | onMailboxes command => exact congrArg Clock.dummies (clock_onMailboxes hub command)
  | describe => rfl

end Hub

theorem Conduct.run_dummies (conduct : Conduct) (hub : Hub) :
    (conduct.run hub).2.2.clock.dummies = hub.clock.dummies ∧
      ∀ exchange ∈ (conduct.run hub).1,
        exchange.clock.dummies = hub.clock.dummies ∧ exchange.IsVerdict := by
  induction conduct generalizing hub with
  | finish outcome => exact ⟨rfl, fun exchange member => by cases member⟩
  | act action next ih =>
    obtain ⟨last, earlier⟩ := ih (hub.perform action).1 (hub.perform action).2
    rw [Hub.dummies_perform] at last earlier
    refine ⟨last, ?_⟩
    intro exchange member
    rcases List.mem_cons.mp member with rfl | later
    · refine ⟨rfl, ?_⟩
      rintro source time rfl
      rfl
    · exact earlier exchange later

namespace Rack

structure Noted (rack : Rack) : Prop where
  now : rack.hub.clock.dummies = rack.mountedDummies
  throughout : ∀ call, .called call ∈ rack.journal →
    (∀ clock ∈ call.clocks, clock.dummies = call.mountedDummies) ∧
      ∀ exchange ∈ call.exchanges, exchange.IsVerdict

theorem Noted.judgesByMounts {rack : Rack} (noted : rack.Noted) : rack.JudgesByMounts where
  now := by
    have judges := rack.hub.clock.judgesBy_dummies
    rw [noted.now] at judges
    exact judges
  answers _ _ := rfl
  throughout := by
    intro call member
    obtain ⟨same, verdicts⟩ := noted.throughout call member
    refine ⟨?_, verdicts⟩
    intro clock moment
    rw [← same clock moment]
    exact clock.judgesBy_dummies

theorem mountedDummies_get (rack : Rack) (role : Role) :
    rack.mountedDummies.get role =
      (((rack.mounts.get role).map Mount.backend).getD .dummy).isDummy := by
  cases role <;> rfl

theorem noted_call (rack : Rack) (role : Role) (backend : Backend) (request : Request)
    (noted : rack.Noted) : (rack.call role backend request).2.Noted := by
  cases backend with
  | dummy => cases request <;> exact ⟨noted.now, noted.throughout⟩
  | external target device =>
    let conduct := device.respond rack.journal target request
    obtain ⟨last, earlier⟩ := conduct.run_dummies rack.hub
    constructor
    · exact last.trans noted.now
    · intro call member
      rcases Array.mem_push.mp member with before | new
      · exact noted.throughout call before
      · cases new
        constructor
        · intro clock moment
          rcases List.mem_append.mp moment with acting | finished
          · obtain ⟨exchange, made, rfl⟩ := List.mem_map.mp acting
            exact (earlier exchange made).1.trans noted.now
          · rw [List.mem_singleton.mp finished]
            exact last.trans noted.now
        · intro exchange made
          exact (earlier exchange made).2

theorem stable_noted : Stable Noted where
  note _ _ noted := ⟨noted.now, noted.throughout⟩
  make rack registration role noted := by
    refine ⟨noted.now, ?_⟩
    intro call member
    rcases Array.mem_push.mp member with before | new
    · exact noted.throughout call before
    · cases new
  call := noted_call
  mount rack role driver backend noted := by
    refine ⟨?_, noted.throughout⟩
    ext other
    have before := congrArg (PerRole.get · other) noted.now
    simp only [mountedDummies_get] at before ⊢
    by_cases same : other = role <;>
      simp_all [mount, Hub.markDummy, Clock.markDummy]
  dismount rack role noted := by
    refine ⟨?_, noted.throughout⟩
    ext other
    have before := congrArg (PerRole.get · other) noted.now
    simp only [mountedDummies_get] at before ⊢
    by_cases same : other = role <;>
      simp_all [dismount, Hub.markDummy, Clock.markDummy, Backend.isDummy]
  perform rack action noted := ⟨(rack.hub.dummies_perform action).trans noted.now, noted.throughout⟩
  lower _ noted := ⟨noted.now, noted.throughout⟩

theorem noted_new (catalog : Catalog) : ({ catalog } : Rack).Noted where
  now := rfl
  throughout := by
    intro call member
    cases Array.not_mem_empty _ member

end Rack

/-- Whatever is asked of a rack, whatever its devices do about it and however they fail, the clock
judges reports by the backends that serve: between any two operations, at every moment of every
request on the way, and so until the last backend is let go. -/
theorem clock_judges_by_mounts (catalog : Catalog) (commands : List Rack.Command) :
    (Rack.run { catalog } commands).JudgesByMounts ∧
      (Rack.run { catalog } commands).close.JudgesByMounts := by
  have noted : (Rack.run { catalog } commands).Noted :=
    Rack.stable_noted.run commands (Rack.noted_new catalog)
  exact ⟨noted.judgesByMounts, (Rack.stable_noted.close noted).judgesByMounts⟩

end AudioHost
