import SchoolNotice.Delivery.Flight

/-!
The parts of a delivery as sequences of its steps. A delivery starts with the steps up to its end or up to
the point where its mail is under way, and lands with those behind that point.
-/

namespace SchoolNotice

def Standing.stage : Standing → Progress
  | .waiting source email => .waiting source email
  | .settled outcome => .settled outcome

def Standing.Serves (recipient : Recipient) : Standing → Prop
  | .waiting _ email => email.recipient = recipient.address
  | .settled _ => True

namespace Dispatcher

variable {σ : Type} [Services σ]

inductive Leads (dispatcher : Dispatcher) (notice : Notice) (recipient : Recipient) :
    Progress → σ → Progress → σ → Prop where
  | here (stage : Progress) (state : σ) : Leads dispatcher notice recipient stage state stage state
  | step {stage next last : Progress} {state later after : σ}
      (advanced : dispatcher.advance notice recipient stage state = (next, later))
      (rest : Leads dispatcher notice recipient next later last after) :
      Leads dispatcher notice recipient stage state last after

variable (dispatcher : Dispatcher) (notice : Notice) (recipient : Recipient)

theorem leads_logging (source : Source) (email : Email) (reply : Reply) (state : σ) :
    Leads dispatcher notice recipient (.logging source email reply)
      (Services.note (answered notice source email reply) state)
      (.settled (conclude notice source email reply state).1)
      (conclude notice source email reply state).2 :=
  .step rfl (.here _ _)

theorem start_leads (state : σ) :
    let started := dispatcher.start notice recipient state
    Leads dispatcher notice recipient .enriching state started.1.stage started.2 ∧
      started.1.Serves recipient := by
  simp only [start, prepare]
  cases completing : enrich true notice.tenant recipient.context state with | mk found middle =>
  cases found with
  | error error =>
      refine ⟨.step ?_ (.here _ _), trivial⟩
      simp only [advance, completing]
      rfl
  | ok context =>
      have first : dispatcher.advance notice recipient .enriching state =
          (.selecting context, middle) := by
        simp only [advance, completing]
      dsimp only
      cases composing : dispatcher.compose true notice context middle with | mk composed next =>
      cases composed with
      | error error =>
          refine ⟨.step first (.step ?_ (.here _ _)), trivial⟩
          simp only [advance, composing]
          rfl
      | ok composed =>
          obtain ⟨source, rendered⟩ := composed
          let email := rendered.toEmail recipient.address dispatcher.sender
          have second : dispatcher.advance notice recipient (.selecting context) middle =
              (.sending source email, next) := by
            simp only [advance, composing, email]
          dsimp only
          split
          · next stopped =>
            refine ⟨.step first (.step second (.step ?_ (.here _ _))), trivial⟩
            simp only [advance, stopped, if_true]
            rfl
          · next going =>
            cases posting : Services.post email next with | mk answer last =>
            cases answer with
            | none =>
                refine ⟨.step first (.step second (.step ?_ (.here _ _))), rfl⟩
                simp only [advance, going, posting]
                rfl
            | some reply =>
                refine ⟨.step first (.step second (.step ?_ (leads_logging ..))), trivial⟩
                simp only [advance, going, posting]
                rfl

theorem land_leads (standing : Standing) (serves : standing.Serves recipient) (state : σ) :
    let landed := land notice standing state
    Leads dispatcher notice recipient standing.stage state (.settled landed.1) landed.2 := by
  cases standing with
  | settled outcome => exact .here _ _
  | waiting source email =>
      simp only [land]
      split
      · next stopped =>
        refine .step ?_ (.here _ _)
        simp only [Standing.stage, advance, stopped, if_true]
        rw [serves]
      · next going =>
        refine .step ?_ (leads_logging ..)
        simp only [Standing.stage, advance, going]
        rfl

end Dispatcher

end SchoolNotice
