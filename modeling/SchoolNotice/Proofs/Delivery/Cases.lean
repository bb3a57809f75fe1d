import SchoolNotice.Delivery.Batch

/-!
The cases of a delivery's start and of a batch's buffer. A delivery starts in one of four ways, and a buffer
either has passed on all outcomes or passes on the one at its front and is a smaller buffer after it.
-/

namespace SchoolNotice

open Services

namespace Dispatcher

variable {σ : Type} [Services σ]

inductive Started (dispatcher : Dispatcher) (notice : Notice) (recipient : Recipient) (state : σ) :
    Standing × σ → Prop where
  | failed {error : DeliveryError} {next : σ}
      (prepared : dispatcher.prepare true notice recipient.context state = (.error error, next)) :
      Started dispatcher notice recipient state
        (.settled (.error error), note (failure notice recipient.address error) next)
  | stopped {source : Source} {rendered : Rendered} {next : σ}
      (prepared : dispatcher.prepare true notice recipient.context state =
        (.ok (source, rendered), next))
      (stopped : cancelled next = true) :
      Started dispatcher notice recipient state
        (.settled (.error .cancelled), note (failure notice recipient.address .cancelled) next)
  | underway {source : Source} {rendered : Rendered} {email : Email} {next last : σ}
      (prepared : dispatcher.prepare true notice recipient.context state =
        (.ok (source, rendered), next))
      (going : cancelled next = false)
      (addressed : rendered.toEmail recipient.address dispatcher.sender = email)
      (posted : post email next = (none, last)) :
      Started dispatcher notice recipient state (.waiting source email, last)
  | answered {source : Source} {rendered : Rendered} {email : Email} {next last : σ} {reply : Reply}
      (prepared : dispatcher.prepare true notice recipient.context state =
        (.ok (source, rendered), next))
      (going : cancelled next = false)
      (addressed : rendered.toEmail recipient.address dispatcher.sender = email)
      (posted : post email next = (some reply, last)) :
      Started dispatcher notice recipient state
        (.settled (reply.mapError .transport), (conclude notice source email reply last).2)

theorem start_cases (dispatcher : Dispatcher) (notice : Notice) (recipient : Recipient)
    (state : σ) :
    Started dispatcher notice recipient state (dispatcher.start notice recipient state) := by
  unfold start
  rcases prepared : dispatcher.prepare true notice recipient.context state with
    ⟨error | ⟨source, rendered⟩, next⟩
  · exact .failed prepared
  · cases going : cancelled next with
    | true =>
        simp only [going, if_true]
        exact .stopped prepared going
    | false =>
        simp only [going, Bool.false_eq_true, if_false]
        rcases posted : post (rendered.toEmail recipient.address dispatcher.sender) next with
          ⟨_ | reply, last⟩
        · exact .underway prepared going rfl posted
        · exact .answered prepared going rfl posted

/-- What holds when the buffer has passed on all outcomes, and before it passes one on if it holds after that,
holds of every buffer. -/
theorem drain_induction (dispatcher : Dispatcher) (notice : Notice) {motive : Buffer → σ → Prop}
    (empty : ∀ {buffer rest} state, buffer.fill dispatcher.room = ⟨[], rest⟩ → motive buffer state)
    (front : ∀ {buffer front behind rest} state,
      buffer.fill dispatcher.room = ⟨front :: behind, rest⟩ →
        motive ⟨(dispatcher.passFront notice front behind state).2.1, rest⟩
          (dispatcher.passFront notice front behind state).2.2 →
        motive buffer state)
    (buffer : Buffer) (state : σ) : motive buffer state := by
  refine drain.induct dispatcher notice motive ?_ ?_ buffer state
  · exact fun _ state _ filled => empty state filled
  · exact fun _ state _ _ _ filled _ _ _ passed => front state filled passed

end Dispatcher

end SchoolNotice
