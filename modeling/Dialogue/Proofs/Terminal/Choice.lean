import Dialogue.Terminal.Input
import Dialogue.Terminal.Render
import Dialogue.Http.Request
import Dialogue.Proofs.Text.Numeral
import Dialogue.Proofs.Prompt.Encoded
import Dialogue.Proofs.Conversation.Affordances

/-! # Choosing by number

On the user's turn the number that is printed beside an option answers with that option, and a line
that is neither a command nor such a number answers with its text. Either sends one request. -/

namespace Dialogue

open Text (Neat Denotes)

/-- The options of a prompt are not blank, and nothing of them is trimmed. -/
theorem Prompt.neat_options {content o : String} (member : o ∈ (ofContent content).options) :
    Neat o := by
  cases read : ofContent content with
  | question q =>
    rw [read] at member
    exact (normal_of_content read).options o member
  | plain text =>
    rw [read] at member
    cases member

namespace Conversation

variable {c : Conversation} {now : Nat}

/-- One request has been sent: an answer to the session that is held, with this body. -/
def SendsAnswer (c : Conversation) (body : Json.Value) (done : Conversation × Outcome) : Prop :=
  ∃ s r, c.state.session = some s ∧ done.2 = .waiting r ∧ done.1.pending = c.pending ++ [r] ∧
    r.call.operation = .answer ∧ r.call.boardId = s.boardId ∧ r.call.sessionId? = some s.id ∧
    r.call.body? = some body

/-- On the user's turn an answer that is not blank is sent. -/
theorem submit_sends {answer : Answer} (running : c.state.shutDown = false)
    (turn : c.state.phase = .awaitingUserAnswer) (used : Text.allBlank answer.text = false) :
    c.SendsAnswer answer.body.toJson (c.submit now answer) := by
  have valid : answer.validate = .ok () := by simp [Answer.validate, used]
  have heeds := submit_heeds now c answer
  obtain ⟨s, r, held, waits, call, pending⟩ :=
    heeds.achieves (heeds.granted.mpr ⟨running, valid, State.acceptsAnswer_iff.mpr turn⟩)
  refine ⟨s, r, held, waits, pending, ?_⟩
  rw [call]
  exact ⟨rfl, rfl, rfl, rfl⟩

/-- An action whose first event sends an answer has no other. -/
theorem SendsAnswer.act {body : Json.Value} {action : Action}
    (sends : c.SendsAnswer body (c.step now (firstEvent action))) :
    c.SendsAnswer body (c.act now action) := by
  obtain ⟨s, r, held, waits, rest⟩ := sends
  have settled : (c.step now (firstEvent action)).2 ≠ .goesOn := by
    rw [waits]
    exact Outcome.noConfusion
  rw [act_of_settled settled]
  exact ⟨s, r, held, waits, rest⟩

end Conversation

namespace Terminal

open Conversation (SendsAnswer submit_sends)

variable {c : Conversation} {now i : Nat} {line o : String} {options : List String}

/-! ## The options that are shown -/

theorem shownOptions_eq (st : State) :
    shownOptions st.view = (st.prompt?.map Prompt.options).getD [] := rfl

theorem neat_of_shown {st : State} (shown : o ∈ shownOptions st.view) : Neat o := by
  rw [shownOptions_eq, State.prompt?] at shown
  cases held : st.session with
  | none =>
    rw [held] at shown
    cases shown
  | some s =>
    rw [held, Option.bind_some, Session.prompt?] at shown
    cases latest : s.latestAssistantMessage? with
    | none =>
      rw [latest] at shown
      cases shown
    | some m =>
      rw [latest] at shown
      exact Prompt.neat_options shown

theorem offers_iff (st : State) (label : String) :
    st.offers label = true ↔ label ∈ shownOptions st.view := by
  rw [shownOptions_eq, State.offers]
  cases st.prompt? with
  | none => simp
  | some p => simp [Prompt.hasOption]

theorem numbered_getElem? (options : List String) :
    ∀ n, (numbered n options)[i]? =
      options[i]?.map fun label => out ("  " ++ toString (n + i) ++ ". " ++ label) := by
  induction options generalizing i with
  | nil => exact fun n => rfl
  | cons label rest ih =>
    intro n
    cases i with
    | zero => rfl
    | succ i =>
      rw [numbered, List.getElem?_cons_succ, List.getElem?_cons_succ, ih (n + 1), Nat.add_assoc,
        Nat.add_comm 1 i]

/-! ## What a line means -/

/-- The lines that are commands. -/
def commands : List String := ["/quit", "/confirm", "/retry", "/refresh"]

theorem not_denotes_slash {rest : List Char} {n : Nat} : ¬ Denotes ('/' :: rest) n := by
  rintro ⟨digits, rfl | same, -, all, -⟩
  · exact absurd (all '/' (List.mem_cons_self ..)) (by decide)
  · cases same

theorem not_command_of_denotes {n : Nat} (denotes : Denotes line.toList n) : line ∉ commands := by
  intro command
  have slash : ∃ rest, line.toList = '/' :: rest := by
    simp only [commands, List.mem_cons, List.not_mem_nil, or_false] at command
    rcases command with rfl | rfl | rfl | rfl <;> exact ⟨_, rfl⟩
  obtain ⟨rest, text⟩ := slash
  rw [text] at denotes
  exact not_denotes_slash denotes

theorem of_not_command (other : line ∉ commands) :
    Line.of options line = match optionAt? options line with
      | some label => .choose label
      | none => .text line := by
  simp only [commands, List.mem_cons, List.not_mem_nil, or_false, not_or] at other
  obtain ⟨quit, confirm, retry, refresh⟩ := other
  exact (if_neg quit).trans ((if_neg confirm).trans ((if_neg retry).trans (if_neg refresh)))

/-- The number of an option means that option. -/
theorem of_number (denotes : Denotes line.toList (i + 1)) (shown : options[i]? = some o)
    (fits : i + 1 ≤ Text.maxWord) : Line.of options line = .choose o := by
  have read : Text.readNumeral Text.maxWord line.toList = .ok (i + 1) :=
    Text.readNumeral_eq_ok.mpr ⟨denotes, fits⟩
  rw [of_not_command (not_command_of_denotes denotes), optionAt?, read]
  dsimp only
  rw [shown]

/-- A line that is no command and no number of an option is a text. -/
theorem of_text (other : line ∉ commands)
    (unnumbered : ∀ i < options.length, ¬ Denotes line.toList (i + 1)) :
    Line.of options line = .text line := by
  have none : optionAt? options line = none := by
    unfold optionAt?
    split
    · rename_i n read
      rw [List.getElem?_eq_none_iff, ← Nat.not_lt]
      intro less
      exact unnumbered n less (Text.readNumeral_eq_ok.mp read).1
    · rfl
  rw [of_not_command other, none]

/-! ## What a line does -/

/-- On the user's turn choosing an option that is shown sends it. -/
theorem choose_sends (running : c.state.shutDown = false)
    (turn : c.state.phase = .awaitingUserAnswer) (shown : o ∈ shownOptions c.state.view) :
    c.SendsAnswer (.object [("answer", .string o)]) (choose now o c) := by
  have offered : c.state.offers o = true := (offers_iff c.state o).mpr shown
  have accepts : c.state.phase.acceptsAnswer = true := by simp [turn, Phase.acceptsAnswer]
  have selected : c.act now (.select o) =
      (c.change now { c.state with selectedOption := some o }, .ended (.ok ())) := by
    simp [Conversation.act, Conversation.step, Conversation.firstEvent, Conversation.select,
      running, accepts, offered, Conversation.ends]
  have sends : (c.change now { c.state with selectedOption := some o }).SendsAnswer
      (Answer.option o).body.toJson
      ((c.change now { c.state with selectedOption := some o }).act now .submitSelection) :=
    SendsAnswer.act (submit_sends running turn (neat_of_shown shown).used)
  rw [choose, selected]
  exact sends

/-- The body of a typed text: in place of the options if one of them asks for that. -/
def typedBody (options : List String) (line : String) : Json.Value :=
  if otherOption ∈ options then
    .object [("answer", .string otherOption), ("other_text", .string (Text.trimmed line))]
  else .object [("answer", .string (Text.trimmed line))]

theorem typedAnswer_text (st : State) (line : String) :
    (Conversation.typedAnswer st line).text = line := by
  unfold Conversation.typedAnswer
  split <;> rfl

theorem typedAnswer_body (st : State) (line : String) :
    (Conversation.typedAnswer st line).body.toJson = typedBody (shownOptions st.view) line := by
  rw [Conversation.typedAnswer, typedBody]
  by_cases offered : st.offers otherOption = true
  · rw [if_pos offered, if_pos ((offers_iff st otherOption).mp offered)]
    rfl
  · rw [if_neg offered, if_neg fun member => offered ((offers_iff st otherOption).mpr member)]
    rfl

/-- On the user's turn a typed text that is not blank is sent. -/
theorem submitText_sends (running : c.state.shutDown = false)
    (turn : c.state.phase = .awaitingUserAnswer) (used : Text.allBlank line = false) :
    c.SendsAnswer (typedBody (shownOptions c.state.view) line) (c.act now (.submitText line)) := by
  have used' : Text.allBlank (Conversation.typedAnswer c.state line).text = false := by
    rw [typedAnswer_text, used]
  rw [← typedAnswer_body]
  exact SendsAnswer.act (submit_sends running turn used')

/-- What the lines do that a user may type on their turn. -/
structure Answers (now : Nat) (c : Conversation) : Prop where
  /-- Each option is printed beside its number. -/
  printed : ∀ p, c.view.prompt = some p → ∀ i o, (shownOptions c.view)[i]? = some o →
    (showPrompt p)[i + 1]? = some (out ("  " ++ toString (i + 1) ++ ". " ++ o))
  /-- The number of an option, which is a number of 64 bits, sends the option, also with a plus sign
  or zeros before it. -/
  numbered : ∀ i o line, (shownOptions c.view)[i]? = some o → i + 1 ≤ Text.maxWord →
    line = toString (i + 1) ∨ Denotes line.toList (i + 1) →
      c.SendsAnswer (.object [("answer", .string o)]) (handle now line c)
  /-- Any other line that is not blank is sent as a text, unless it is a command. -/
  typed : ∀ line, line ∉ commands → Text.allBlank line = false →
    (∀ i < (shownOptions c.view).length, ¬ Denotes line.toList (i + 1)) →
      c.SendsAnswer (typedBody (shownOptions c.view) line) (handle now line c)

/-- In every run, on the user's turn, the number beside an option answers with that option, and any
other line with its text. -/
theorem run_answers (boardId : String) (interval : Period) (page : Page)
    (events : List (Nat × Event)) (now : Nat) :
    let c := (Conversation.initial boardId interval page).run events
    c.state.shutDown = false → c.view.phase = .awaitingUserAnswer → Answers now c := by
  intro c running turn
  have view : c.view = c.state.view :=
    ((Conversation.sound_initial boardId interval page).run events).view
  have turn : c.state.phase = .awaitingUserAnswer := by
    rw [view] at turn
    exact turn
  refine ⟨?_, ?_, ?_⟩
  · intro p prompt i o shown
    rw [shownOptions, prompt, Option.map_some, Option.getD_some] at shown
    rw [showPrompt, List.getElem?_cons_succ, numbered_getElem?, shown, Nat.add_comm]
    rfl
  · intro i o line shown fits number
    have denotes : Denotes line.toList (i + 1) := by
      rcases number with rfl | denotes
      · exact Text.denotes_toString (i + 1)
      · exact denotes
    rw [handle, of_number denotes shown fits]
    have member := List.mem_of_getElem? shown
    rw [view] at member
    exact choose_sends running turn member
  · intro line other used unnumbered
    rw [handle, of_text other unnumbered]
    rw [view]
    exact submitText_sends running turn used

/-- A question with two options, one of which asks for a text. -/
def asking : Json.Value :=
  .object [("options", .array [.string "Yes", .string "Other"]), ("question", .string "Grow?")]

/-- The conversation in which it is asked. -/
def asked : List (Nat × Event) :=
  [(0, .start), (0, .reply 1 (.ok
    { Conversation.questioned .active with messages := [⟨.assistant, asking.text, none⟩] }))]

/-- The first option is chosen, and another text is typed. -/
theorem asked_answers :
    let c := (Conversation.initial "b" Conversation.usual (.start .alwaysActive true)).run asked
    c.SendsAnswer (.object [("answer", .string "Yes")]) (handle 0 "1" c) ∧
      c.SendsAnswer (.object [("answer", .string "Other"), ("other_text", .string "Maybe")])
        (handle 0 " Maybe" c) := by
  intro c
  have prompt : c.view.prompt = some (.question ⟨"Grow?", ["Yes", "Other"]⟩) := by
    have shown : c.view.prompt = some (Prompt.ofContent asking.text) := rfl
    have encodes : Prompt.Encodes asking.text "Grow?" [.string "Yes", .string "Other"] :=
      Prompt.encodes_text (.inr rfl)
    have read := Prompt.ofContent_encoded encodes (by decide)
      (Prompt.offers_strings ["Yes", "Other"])
    have text : Text.trimmed "Grow?" = "Grow?" := by decide +kernel
    have kept : Prompt.kept ["Yes", "Other"] = ["Yes", "Other"] := by decide +kernel
    rw [shown, read, text, kept]
  have options : shownOptions c.view = ["Yes", "Other"] := by
    rw [shownOptions, prompt]
    rfl
  have answers : Answers 0 c :=
    run_answers "b" Conversation.usual (.start .alwaysActive true) asked 0 (by decide +kernel)
      (by decide +kernel)
  constructor
  · exact answers.numbered 0 "Yes" "1" (by rw [options]; rfl) (by decide) (.inl rfl)
  · have typed := answers.typed " Maybe" (by decide) (by decide) ?_
    · rw [options] at typed
      exact typed
    · rintro i - ⟨digits, rfl | same, -, all, -⟩
      · exact absurd (all ' ' (by decide)) (by decide)
      · have differ : ' ' ≠ '+' := by decide
        exact absurd (Option.some.inj (congrArg List.head? same)) differ

end Terminal

end Dialogue
