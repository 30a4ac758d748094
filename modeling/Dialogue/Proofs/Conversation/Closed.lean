import Dialogue.Proofs.Conversation.Highlight

/-! # After the end

A conversation is ended by a shutdown and by nothing else, and it stays ended. Whatever is called
for then is refused, nothing is sent, and everything stays as it is. Only to submit the highlighted
option when there is none is refused on other grounds, as the option is looked for first. -/

namespace Dialogue.Conversation

section Change

variable {st st' : State} {pending pending' : List Request} {event : Event}
  {request : Option Request}

/-- Only a shutdown ends a conversation, and nothing opens it again. -/
theorem Change.shutDown_iff (change : Change st pending event st' pending' request) :
    st'.shutDown = true ↔ st.shutDown = true ∨ event = .shutdown := by
  cases change with
  | nothing idle =>
    constructor
    · exact .inl
    · rintro (ended | rfl)
      · exact ended
      · exact idle
  | @asked event _ _ _ kind asks =>
    have other : event ≠ .shutdown := by
      rintro rfl
      cases kind
    have same := asks.shutDown
    simp [other, same]
  | selected running turn offered => simp
  | cleared running free => simp [cleared_shutDown]
  | moved running other => simp [Conversation.moved, State.initial, running]
  | closed running => simp [Conversation.closed]
  | replied sent takes => simp [takes.shutDown]

end Change

variable {c : Conversation} {now : Nat}

/-- A conversation has been ended just when a shutdown was called for. -/
theorem shutDown_run_iff (events : List (Nat × Event)) :
    ∀ c : Conversation, (c.run events).state.shutDown = true ↔
      c.state.shutDown = true ∨ ∃ at', (at', Event.shutdown) ∈ events := by
  induction events with
  | nil => simp [run]
  | cons first rest ih =>
    intro c
    obtain ⟨now, event⟩ := first
    have now_called : (∃ at', (at', Event.shutdown) = (now, event)) ↔ event = .shutdown := by
      simp [eq_comm]
    rw [run_cons, ih, (step_changes now c event).shutDown_iff, or_assoc]
    simp only [List.mem_cons, exists_or, now_called]

/-- What an action ends with once the conversation has been ended. -/
def lastWord (st : State) : Action → Except ActionError Unit
  | .shutdown => .ok ()
  | .submitSelection =>
    match st.selectedOption with
    | some _ => .error .shutDown
    | none => .error (.invalidInput "no option selected")
  | _ => .error .shutDown

/-- Once the conversation has been ended, an action ends at once and does nothing. -/
theorem step_of_shutDown (ended : c.state.shutDown = true) (action : Action) :
    c.step now (firstEvent action) = c.ends (lastWord c.state action) := by
  cases action with
  | start => exact if_pos ended
  | refresh => exact if_pos ended
  | submit answer => exact if_pos ended
  | select label => exact if_pos ended
  | submitSelection =>
    show c.submitSelection now = _
    unfold submitSelection lastWord
    cases c.state.selectedOption with
    | none => rfl
    | some label => exact if_pos ended
  | submitText text => exact if_pos ended
  | confirm => exact if_pos ended
  | retry => exact if_pos ended
  | changeBoard boardId => exact if_pos ended
  | shutdown => exact if_pos ended

theorem act_of_shutDown (ended : c.state.shutDown = true) (action : Action) :
    c.act now action = (c, .ended (lastWord c.state action)) := by
  have step : c.step now (firstEvent action) = _ := step_of_shutDown ended action
  have settled : (c.step now (firstEvent action)).2 ≠ .goesOn := by
    rw [step]
    exact Outcome.noConfusion
  rw [act_of_settled settled, step, ends]

/-- The last word is that the conversation has been ended, but for an option that is not there. -/
theorem lastWord_eq_iff {st : State} {action : Action} (other : action ≠ .shutdown) :
    lastWord st action = .error .shutDown ↔
      ¬ (action = .submitSelection ∧ st.selectedOption = none) := by
  cases action with
  | shutdown => exact absurd rfl other
  | submitSelection => cases highlighted : st.selectedOption <;> simp [lastWord, highlighted]
  | _ => simp [lastWord]

/-- What there is to say of a conversation that has been ended in a run. -/
structure Absorbs (c : Conversation) (events : List (Nat × Event)) : Prop where
  /-- It stays ended, whatever happens, and sends nothing any more. -/
  stays : ∀ later, (c.run (events ++ later)).state = (c.run events).state ∧
    (c.run (events ++ later)).view = (c.run events).view ∧ (c.run events).sent later = []
  /-- Whatever is called for leaves everything as it is, so no request is sent for it. -/
  rests : ∀ now action, ((c.run events).act now action).1 = c.run events
  /-- It is refused because the conversation has been ended, unless the highlighted option is to be
  submitted and there is none. -/
  refused : ∀ now action, action ≠ .shutdown →
    (((c.run events).act now action).2 = .ended (.error .shutDown) ↔
      ¬ (action = .submitSelection ∧ (c.run events).view.selectedOption = none))
  /-- Then it is refused for want of an option. -/
  unselected : (c.run events).view.selectedOption = none → ∀ now,
    ((c.run events).act now .submitSelection).2 =
      .ended (.error (.invalidInput "no option selected"))
  /-- To end it again succeeds. -/
  again : ∀ now, ((c.run events).act now .shutdown).2 = .ended (.ok ())

/-- In every run, once the conversation has been ended it stays as it is, and whatever is called for
is refused; only to submit an option when none is highlighted is refused on other grounds. -/
theorem run_absorbs (boardId : String) (interval : Period) (page : Page)
    (events : List (Nat × Event)) (called : ∃ at', (at', Event.shutdown) ∈ events) :
    (initial boardId interval page).Absorbs events := by
  have sound := (sound_initial boardId interval page).run events
  have ended : ((initial boardId interval page).run events).state.shutDown = true :=
    (shutDown_run_iff events _).mpr (.inr called)
  constructor
  · intro later
    obtain ⟨same, silent⟩ := sound.run_of_shutDown later ended
    rw [run_append]
    refine ⟨same, ?_, silent⟩
    rw [(sound.run later).view, same, sound.view]
  · intro now action
    rw [act_of_shutDown ended]
  · intro now action other
    rw [act_of_shutDown ended, sound.view]
    simp only [Outcome.ended.injEq]
    exact lastWord_eq_iff other
  · intro none now
    rw [sound.view] at none
    have none : ((initial boardId interval page).run events).state.selectedOption = Option.none :=
      none
    rw [act_of_shutDown ended, lastWord, none]
  · intro now
    rw [act_of_shutDown ended]
    rfl

/-- An option is highlighted, and the conversation is ended. -/
def closing : List (Nat × Event) :=
  [(0, .start), (0, .reply 1 (.ok offering)), (0, .select "A"), (0, .shutdown)]

/-- The highlighted option cannot be submitted then, nor can the conversation be turned to the board
that it is about. -/
theorem closing_absorbs :
    let c := (initial "b" usual (.start .alwaysActive true)).run closing
    c.view.selectedOption = some "A" ∧
      (c.act 0 .submitSelection).2 = .ended (.error .shutDown) ∧
      (c.act 0 (.changeBoard "b")).2 = .ended (.error .shutDown) := by
  intro c
  have absorbs := run_absorbs "b" usual (.start .alwaysActive true) closing ⟨0, by simp [closing]⟩
  have run : c = (offered.change 0 { offered.state with selectedOption := some "A" }).run
      [(0, .shutdown)] := by
    show (offered.step 0 (.select "A")).1.run _ = _
    rw [offered_select]
    rfl
  have highlighted : c.view.selectedOption = some "A" := by
    rw [run]
    decide +kernel
  refine ⟨highlighted, ?_, ?_⟩
  · refine (absorbs.refused 0 .submitSelection (by decide)).mpr ?_
    rintro ⟨-, none⟩
    cases highlighted.symm.trans none
  · refine (absorbs.refused 0 (.changeBoard "b") (by decide)).mpr ?_
    rintro ⟨⟨⟩, -⟩

/-- Not everything is refused because the conversation has been ended. -/
theorem not_always_refused :
    ¬ ∀ (boardId : String) (interval : Period) (page : Page) (events : List (Nat × Event))
      (now : Nat) (action : Action), (∃ at', (at', Event.shutdown) ∈ events) →
        action ≠ .shutdown →
        (((initial boardId interval page).run events).act now action).2 =
          .ended (.error .shutDown) := by
  intro always
  have refused := always "b" usual (.start .alwaysActive true) [(0, .shutdown)] 0 .submitSelection
    ⟨0, by simp⟩ (by decide)
  cases refused

end Dialogue.Conversation
