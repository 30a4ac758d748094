import Dialogue.Proofs.Conversation.Epochs

/-! # What the view allows

The view that was published last is that of the state. What the user may do can be read off from
it: a confirmation and an answer are sent, and an option is highlighted, just when the view says so.
The actions test the flags and the phase in an order of their own, and come to the same. An action
that is allowed does what it is called for, and one that is not leaves everything as it was. -/

namespace Dialogue

/-- An action has made a call of an operation. -/
def Outcome.Calls (outcome : Outcome) (op : Operation) : Prop :=
  ∃ r, outcome = .waiting r ∧ r.call.operation = op

theorem Outcome.not_calls_of_ended (result : Except ActionError Unit) (op : Operation) :
    ¬ (Outcome.ended result).Calls op := by
  rintro ⟨r, ⟨⟩, -⟩

namespace State

variable {st : State}

/-- The view lets the goal be confirmed on the user's turn, once there is a draft. -/
theorem canConfirm_iff :
    st.view.canConfirm = true ↔
      st.phase = .awaitingUserAnswer ∧ ∃ s, st.session = some s ∧ s.hasDraftGoal = true := by
  unfold View.canConfirm
  rw [Bool.and_eq_true, decide_eq_true_iff]
  cases held : st.session with
  | none => simp [view, held]
  | some s => simp [view, held, Session.hasDraftGoal, and_comm]

theorem acceptsAnswer_iff : st.view.phase.acceptsAnswer = true ↔ st.phase = .awaitingUserAnswer :=
  decide_eq_true_iff

/-- The view shows the options that are offered. -/
theorem offers_iff {label : String} :
    st.offers label = true ↔ ∃ p, st.view.prompt = some p ∧ p.hasOption label = true :=
  Option.any_eq_true _ _

end State

namespace Conversation

/-- An action that is settled by its first event has no other. -/
theorem act_of_settled {c : Conversation} {now : Nat} {action : Action}
    (settled : (c.step now (firstEvent action)).2 ≠ .goesOn) :
    c.act now action = c.step now (firstEvent action) := by
  unfold act
  split
  · rename_i c' goesOn
    exact absurd (congrArg Prod.snd goesOn) settled
  · rfl

/-- What an action has made of a conversation: it has succeeded just when it was allowed, with the
effect that it is called for, and has left everything as it was if it has not succeeded. -/
structure Heeds (c : Conversation) (allowed : Prop) (succeeds : Outcome → Prop)
    (effect : Conversation × Outcome → Prop) (done : Conversation × Outcome) : Prop where
  granted : succeeds done.2 ↔ allowed
  achieves : succeeds done.2 → effect done
  rests : ¬ succeeds done.2 → done.1 = c
  settled : done.2 ≠ .goesOn

section Heeds

variable {c : Conversation} {allowed : Prop} {succeeds : Outcome → Prop}
  {effect : Conversation × Outcome → Prop}

theorem heeds_of_allowed {done : Conversation × Outcome} (may : allowed)
    (success : succeeds done.2) (effective : effect done) (settled : done.2 ≠ .goesOn) :
    c.Heeds allowed succeeds effect done where
  granted := ⟨fun _ => may, fun _ => success⟩
  achieves := fun _ => effective
  rests := fun failure => absurd success failure
  settled := settled

/-- An action that is not allowed ends without having done anything. -/
theorem heeds_ends {result : Except ActionError Unit} (mayNot : ¬ allowed)
    (failure : ¬ succeeds (.ended result)) :
    c.Heeds allowed succeeds effect (c.ends result) where
  granted := ⟨fun success => absurd success failure, fun may => absurd may mayNot⟩
  achieves := fun success => absurd success failure
  rests := fun _ => rfl
  settled := Outcome.noConfusion

theorem heeds_unsent {op : Operation} {result : Except ActionError Unit} (mayNot : ¬ allowed) :
    c.Heeds allowed (·.Calls op) effect (c.ends result) :=
  heeds_ends mayNot (Outcome.not_calls_of_ended result op)

theorem heeds_refused {error : ActionError} (mayNot : ¬ allowed) :
    c.Heeds allowed (· = .ended (.ok ())) effect (c.refuse error) := by
  refine heeds_ends mayNot ?_
  rintro ⟨⟩

theorem Heeds.act {now : Nat} {action : Action}
    (h : c.Heeds allowed succeeds effect (c.step now (firstEvent action))) :
    c.Heeds allowed succeeds effect (c.act now action) := by
  rwa [act_of_settled h.settled]

end Heeds

/-- An action has sent a call about the session that is held, and waits for the reply. -/
def Sends (c : Conversation) (call : Session → Call) (done : Conversation × Outcome) : Prop :=
  ∃ s r, c.state.session = some s ∧ done.2 = .waiting r ∧ r.call = call s ∧
    done.1.pending = c.pending ++ [r]

section Actions

variable (now : Nat) (c : Conversation)

theorem confirm_heeds :
    c.Heeds (c.state.shutDown = false ∧ c.state.view.canConfirm = true) (·.Calls .confirm)
      (c.Sends fun s => .confirm s.boardId s.id) (c.confirm now) := by
  rw [State.canConfirm_iff]
  unfold confirm
  dsimp only
  split
  · rename_i ended
    refine heeds_unsent ?_
    simp [ended]
  · rename_i running
    split
    · rename_i terminal
      refine heeds_unsent ?_
      rintro ⟨-, turn, -⟩
      simp [Phase.isTerminal, turn] at terminal
    · split
      · rename_i busy
        -- the phase would tell of the confirmation under way
        refine heeds_unsent ?_
        rintro ⟨-, turn, -⟩
        rw [(State.of_awaitingUserAnswer turn).2.2] at busy
        cases busy
      · split
        · rename_i vacant
          refine heeds_unsent ?_
          simp [vacant]
        · rename_i s held
          split
          · rename_i unready
            refine heeds_unsent ?_
            rintro ⟨-, turn, s', held', drafted⟩
            obtain rfl : s = s' := Option.some.inj (held.symm.trans held')
            simp [turn, drafted] at unready
          · rename_i ready
            have ready : s.hasDraftGoal = true ∧ c.state.phase = .awaitingUserAnswer := by
              simpa using ready
            rw [Bool.not_eq_true] at running
            exact heeds_of_allowed ⟨running, ready.2, s, held, ready.1⟩ ⟨_, rfl, rfl⟩
              ⟨s, _, held, rfl, rfl, rfl⟩ Outcome.noConfusion

theorem submit_heeds (answer : Answer) :
    c.Heeds (c.state.shutDown = false ∧ answer.validate = .ok () ∧
        c.state.view.phase.acceptsAnswer = true) (·.Calls .answer)
      (c.Sends fun s => .answer s.boardId s.id answer) (c.submit now answer) := by
  rw [State.acceptsAnswer_iff]
  unfold submit
  dsimp only
  split
  · rename_i ended
    refine heeds_unsent ?_
    simp [ended]
  · rename_i running
    split
    · rename_i busy
      refine heeds_unsent ?_
      rintro ⟨-, -, turn⟩
      rw [(State.of_awaitingUserAnswer turn).2.1] at busy
      cases busy
    · split
      · rename_i other
        refine heeds_unsent ?_
        rintro ⟨-, -, turn⟩
        simp [Phase.acceptsAnswer, turn] at other
      · rename_i turn
        have turn : c.state.phase = .awaitingUserAnswer := by
          simpa [Phase.acceptsAnswer] using turn
        split
        · rename_i invalid
          refine heeds_unsent ?_
          simp [invalid]
        · rename_i vacant
          -- on the user's turn a session is held
          obtain ⟨-, s, held, -⟩ := State.rests_of_awaitingUserAnswer turn
          rw [vacant] at held
          cases held
        · rename_i s valid held
          rw [Bool.not_eq_true] at running
          exact heeds_of_allowed ⟨running, valid, turn⟩ ⟨_, rfl, rfl⟩ ⟨s, _, held, rfl, rfl, rfl⟩
            Outcome.noConfusion

theorem select_heeds (label : String) :
    c.Heeds (c.state.shutDown = false ∧ c.state.view.phase.acceptsAnswer = true ∧
        ∃ p, c.state.view.prompt = some p ∧ p.hasOption label = true)
      (· = .ended (.ok ()))
      (fun done => done.1.state = { c.state with selectedOption := some label })
      (c.select now label) := by
  rw [State.acceptsAnswer_iff, ← State.offers_iff]
  unfold select
  dsimp only
  split
  · rename_i ended
    refine heeds_refused ?_
    simp [ended]
  · rename_i running
    split
    · rename_i other
      refine heeds_refused ?_
      rintro ⟨-, turn, -⟩
      simp [Phase.acceptsAnswer, turn] at other
    · rename_i turn
      split
      · rename_i unknown
        refine heeds_refused ?_
        rintro ⟨-, -, offered⟩
        rw [offered] at unknown
        cases unknown
      · rename_i offered
        have turn : c.state.phase = .awaitingUserAnswer := by
          simpa [Phase.acceptsAnswer] using turn
        rw [Bool.not_eq_true, Bool.not_eq_false'] at offered
        rw [Bool.not_eq_true] at running
        exact heeds_of_allowed ⟨running, turn, offered⟩ rfl rfl Outcome.noConfusion

end Actions

/-- The view of a conversation is up to date, and true to what the user may do. What is allowed is
done: the call is sent for the session that is held, and the option becomes the highlighted one. -/
structure Candid (c : Conversation) : Prop where
  current : c.view = c.state.view
  publishes : ∀ now event, (c.step now event).1.state ≠ c.state →
    (c.step now event).1.published = c.published + 1 ∧
      (c.step now event).1.view = (c.step now event).1.state.view
  confirms : ∀ now,
    c.Heeds (c.state.shutDown = false ∧ c.view.canConfirm = true) (·.Calls .confirm)
      (c.Sends fun s => .confirm s.boardId s.id) (c.act now .confirm)
  submits : ∀ now answer,
    c.Heeds (c.state.shutDown = false ∧ answer.validate = .ok () ∧
        c.view.phase.acceptsAnswer = true) (·.Calls .answer)
      (c.Sends fun s => .answer s.boardId s.id answer) (c.act now (.submit answer))
  selects : ∀ now label,
    c.Heeds (c.state.shutDown = false ∧ c.view.phase.acceptsAnswer = true ∧
        ∃ p, c.view.prompt = some p ∧ p.hasOption label = true)
      (· = .ended (.ok ()))
      (fun done => done.1.state = { c.state with selectedOption := some label })
      (c.act now (.select label))

theorem Sound.candid {c : Conversation} (h : c.Sound) : c.Candid where
  current := h.view
  publishes := by
    intro now event changed
    cases step_settles now c event with
    | committed published page view armed => exact ⟨published, view⟩
    | attended news published state view page armed => exact absurd state changed
    | rested published state view page armed => exact absurd state changed
  confirms := by
    intro now
    rw [h.view]
    exact Heeds.act (confirm_heeds now c)
  submits := by
    intro now answer
    rw [h.view]
    exact Heeds.act (submit_heeds now c answer)
  selects := by
    intro now label
    rw [h.view]
    exact Heeds.act (select_heeds now c label)

/-- In every run the view is up to date, and tells what the user may do: a confirmation or an answer
is sent, and an option is highlighted, just when the view allows it, and otherwise nothing is
done. -/
theorem run_candid (boardId : String) (interval : Period) (page : Page)
    (events : List (Nat × Event)) : ((initial boardId interval page).run events).Candid :=
  ((sound_initial boardId interval page).run events).candid

end Conversation

end Dialogue
