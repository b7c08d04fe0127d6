import AudioHost.Proofs.RackPairs
import AudioHost.Proofs.SessionSteps

/-!
# Sessions in step

Two sessions whose racks stay in step come up alike or fail alike.
-/

set_option autoImplicit false

namespace AudioHost

theorem Rack.Paired.bringUp {alike : Backend → Backend → Prop} {related : Rack → Rack → Prop}
    {left right : Session} (paired : Paired alike related) (holds : related left.rack right.rack)
    (refusal : left.refusal = right.refusal) (settings : Settings) :
    (∃ fault one other, left.bringUp settings = (.error fault, { left with rack := one }) ∧
      right.bringUp settings = (.error fault, { right with rack := other }) ∧
      related one other) ∨
    ∃ one other,
      left.bringUp settings = (.ok (), Session.relayed { left with rack := one } settings) ∧
      right.bringUp settings = (.ok (), Session.relayed { right with rack := other } settings) ∧
      related one other := by
  obtain ⟨audio, one, other, here, there, between⟩ := (paired.engage .audio settings holds).split
  cases audio with
  | error fault =>
    refine .inl ⟨fault, one, other, ?_, ?_, between⟩
    · simp only [Session.bringUp, here]
    · simp only [Session.bringUp, there]
  | ok _ =>
    obtain ⟨midi, up, down, hereToo, thereToo, after⟩ :=
      (paired.engage .midi settings between).split
    cases midi with
    | error fault =>
      refine .inl ⟨fault, up, down, ?_, ?_, after⟩
      · simp only [Session.bringUp, here, hereToo]
      · simp only [Session.bringUp, there, thereToo]
    | ok _ =>
      cases known : right.refusal with
      | none =>
        refine .inr ⟨up, down, ?_, ?_, after⟩
        · simp only [Session.bringUp, here, hereToo, refusal, known]
          rfl
        · simp only [Session.bringUp, there, thereToo, known]
          rfl
      | some reason =>
        refine .inl ⟨.relayNotStarted reason, up, down, ?_, ?_, after⟩
        · simp only [Session.bringUp, here, hereToo, refusal, known]
        · simp only [Session.bringUp, there, thereToo, known]

namespace Session

theorem deactivate_fst (session : Session) :
    session.deactivate.1 =
      (Rack.forBoth { session.rack with hub := session.station.clear.hub }
        fun rack role => rack.vacate role).1 := by
  simp only [deactivate]
  split <;> rfl

theorem activate_eq {session : Session} {settings : Settings} (atRest : session.settings = none)
    (checked : settings.check = .ok ()) :
    session.activate settings =
      match (session.prepared settings).bringUp settings with
      | (.ok _, session) => (.ok (), { session with settings := some settings })
      | (.error fault, session) =>
        (.error fault, ((session.note (.sessionFailed fault)).deactivate).2) := by
  simp only [activate, atRest, checked, Option.isSome_none, Bool.false_eq_true, if_false]
  rfl

end Session

end AudioHost
