import Dialogue.Proofs.Conversation.Affordances
import Dialogue.Proofs.Conversation.Identity
import Dialogue.Proofs.Prompt.Encoded

/-! # The highlighted option

An option is highlighted when the question that is shown offers it. It stays highlighted as long as
the session has as many messages, which is taken for the same turn without a look at what is asked
there. So a reply can bring another question under the highlighted option: the reply to a refresh
or to a confirmation, and no other. -/

namespace Dialogue

/-- Whether the assistant offers an option of this label in the session. -/
def Session.offers (s : Session) (label : String) : Bool := s.prompt?.any (·.hasOption label)

/-- The session has the ids and the number of messages of another one. -/
structure Session.SameTurn (s held : Session) : Prop where
  same : s.IsSame held
  length : s.messages.length = held.messages.length

theorem Session.SameTurn.refl (s : Session) : s.SameTurn s := ⟨⟨rfl, rfl⟩, rfl⟩

theorem Session.SameTurn.trans {s t u : Session} (h : s.SameTurn t) (h' : t.SameTurn u) :
    s.SameTurn u :=
  ⟨⟨h.same.1.trans h'.same.1, h.same.2.trans h'.same.2⟩, h.length.trans h'.length⟩

namespace State

variable {st st' : State} {label : String}

theorem offers_of_session {s : Session} (held : st.session = some s) :
    st.offers label = s.offers label := by
  rw [offers, prompt?, held]
  rfl

theorem offers_congr (session : st'.session = st.session) :
    st'.offers label = st.offers label := by
  rw [offers, offers, prompt?, prompt?, session]

/-- Only a held session offers options. -/
theorem exists_session_of_offers (offered : st.offers label = true) :
    ∃ s, st.session = some s ∧ s.offers label = true := by
  cases held : st.session with
  | none =>
    rw [offers, prompt?, held] at offered
    cases offered
  | some s => exact ⟨s, rfl, (offers_of_session held).symm.trans offered⟩

/-- The highlighted option is one that the assistant offers. -/
def Grounded (st : State) : Prop :=
  ∀ label, st.selectedOption = some label → st.offers label = true

/-- The option stays highlighted when an answer's reply is not what brings the session, and the
session has as many messages as the one that is held. -/
theorem adopt_selectedOption_iff {op : Operation} {s : Session} :
    (st.adopt op s).selectedOption = some label ↔
      op ≠ .answer ∧ st.selectedOption = some label ∧
        ∃ held, st.session = some held ∧ held.messages.length = s.messages.length := by
  have replaced : (st.replaceSession s).selectedOption = some label ↔
      st.selectedOption = some label ∧
        ∃ held, st.session = some held ∧ held.messages.length = s.messages.length := by
    unfold replaceSession
    cases st.session with
    | none => simp
    | some held =>
      by_cases turn : held.messages.length = s.messages.length
      · simp [turn]
      · simp [turn]
  cases op with
  | answer => simp [adopt]
  | start => simpa [adopt] using replaced
  | refresh => simpa [adopt] using replaced
  | confirm => simpa [adopt] using replaced

end State

namespace Conversation

/-- The event takes over a session of as many messages as the one that is held, from the reply to a
request that is no answer. -/
def Carries (c : Conversation) (s : Session) : Event → Prop
  | .reply seq reply =>
    reply = .ok s ∧ ∃ r ∈ c.pending, r.ticket.seq = seq ∧ r.call.operation ≠ .answer ∧
      c.state.TakesOver r s ∧
        ∃ held, c.state.session = some held ∧ held.messages.length = s.messages.length
  | _ => False

/-- The event brings a session under the option that does not offer it. -/
def Strands (c : Conversation) (label : String) (event : Event) : Prop :=
  ∃ s, c.Carries s event ∧ s.offers label = false

theorem cleared_highlighted {st : State} {label : String}
    (highlighted : (cleared st).selectedOption = some label) :
    st.selectedOption = some label ∧ (cleared st).session = st.session := by
  revert highlighted
  unfold cleared
  dsimp only
  split
  · exact fun none => nomatch none
  · exact fun highlighted => ⟨highlighted, rfl⟩

section Change

variable {c : Conversation} {st' : State} {pending' : List Request} {event : Event}
  {request : Option Request} {label : String}

/-- An option is highlighted because the event has highlighted it, or because it was highlighted
before and the session is the same, or is one that the event has carried it over to. -/
theorem Change.highlight_cases (change : Change c.state c.pending event st' pending' request)
    (highlighted : st'.selectedOption = some label) :
    (event = .select label ∧ c.state.phase = .awaitingUserAnswer ∧ c.state.offers label = true ∧
        st'.session = c.state.session) ∨
      c.state.selectedOption = some label ∧
        (st'.session = c.state.session ∨ ∃ s, c.Carries s event ∧ st'.session = some s) := by
  cases change with
  | nothing idle => exact .inr ⟨highlighted, .inl rfl⟩
  | asked kind asks =>
    have before : c.state.selectedOption = some label := asks.selectedOption.symm.trans highlighted
    exact .inr ⟨before, .inl asks.session⟩
  | selected running turn offered =>
    obtain rfl := Option.some.inj highlighted
    exact .inl ⟨rfl, turn, offered, rfl⟩
  | cleared running free =>
    obtain ⟨before, kept⟩ := cleared_highlighted highlighted
    exact .inr ⟨before, .inl kept⟩
  | moved running other => cases highlighted
  | closed running => exact .inr ⟨highlighted, .inl rfl⟩
  | @replied r reply _ sent takes =>
    rcases takes.taken_cases with ⟨s, base, rfl, taken, rfl, session, option⟩ | ⟨-, session, option⟩
    · obtain ⟨kind, before, held, some, length⟩ := State.adopt_selectedOption_iff.mp highlighted
      rw [option] at before
      rw [session] at some
      have carries : c.Carries s (.reply r.ticket.seq (.ok s)) :=
        ⟨rfl, r, sent, rfl, kind, taken, held, some, length⟩
      exact .inr ⟨before, .inr ⟨s, carries, State.adopt_session _ _ _⟩⟩
    · exact .inr ⟨option.symm.trans highlighted, .inl session⟩

end Change

section Step

variable {c : Conversation} {event : Event} {s : Session}

/-- A session to which the option is carried over takes the place of the one that is held, in the
same turn. -/
theorem Bound.carries (h : c.Bound) (now : Nat) (carries : c.Carries s event) :
    (c.step now event).1.state.session = some s ∧
      (∀ label, c.state.selectedOption = some label →
        (c.step now event).1.state.selectedOption = some label) ∧
      ∃ held, c.state.session = some held ∧ s.SameTurn held := by
  cases event with
  | reply seq reply =>
    obtain ⟨rfl, r, sent, rfl, kind, taken, held, some, length⟩ := carries
    have takes : c.state.Takes r (.ok s) (c.step now (.reply r.ticket.seq (.ok s))).1.state :=
      reply_takes h.books.tracked sent now (.ok s)
    rcases takes.taken_cases with ⟨s', base, ok, -, new, session, option⟩ | ⟨refused, -⟩
    · obtain rfl := Except.ok.inj ok
      refine ⟨?_, ?_, held, some, ?_, length.symm⟩
      · rw [new, State.adopt_session]
      · intro label highlighted
        rw [new]
        apply State.adopt_selectedOption_iff.mpr
        rw [session, option]
        exact ⟨kind, highlighted, held, some, length⟩
      · have fits := h.identified.fits h.books.tracked h.books.balanced sent taken
        have later : r.call.operation ≠ .start := by
          intro start
          rw [fits.start start] at some
          cases some
        obtain ⟨about, held', some', about'⟩ := fits.later later
        obtain rfl : held = held' := Option.some.inj (some.symm.trans some')
        exact about.same about'
    · exact absurd taken (refused s rfl)
  | _ => exact absurd carries id

/-- An event keeps the highlighted option among those that are offered, unless it strands it. -/
theorem Bound.grounded_step_iff (h : c.Bound) (grounded : c.state.Grounded) (now : Nat)
    (event : Event) :
    (c.step now event).1.state.Grounded ↔
      ∀ label, c.state.selectedOption = some label → ¬ c.Strands label event := by
  constructor
  · rintro kept label highlighted ⟨s, carries, unoffered⟩
    obtain ⟨new, keeps, -⟩ := h.carries now carries
    have offered := kept label (keeps label highlighted)
    rw [State.offers_of_session new, unoffered] at offered
    cases offered
  · intro safe label highlighted
    rcases (step_changes now c event).highlight_cases highlighted with
      ⟨-, -, offered, same⟩ | ⟨before, same | ⟨s, carries, new⟩⟩
    · rw [State.offers_congr same, offered]
    · rw [State.offers_congr same, grounded label before]
    · rw [State.offers_of_session new, ← Bool.not_eq_false]
      exact fun unoffered => safe label before ⟨s, carries, unoffered⟩

end Step

/-- In the course of the events, the option was highlighted while the session `held` offered it, and
it has been since, in the same turn of that session. -/
def Marks (c : Conversation) (events : List (Nat × Event)) (label : String) : Prop :=
  ∃ before now after held, events = before ++ (now, .select label) :: after ∧
    (c.run before).state.phase = .awaitingUserAnswer ∧
    (c.run before).state.session = some held ∧ held.offers label = true ∧
    ((c.run before).step now (.select label)).1.Throughout
      (fun c' => c'.state.selectedOption = some label ∧
        ∃ s, c'.state.session = some s ∧ s.SameTurn held) after

/-- In the course of the events, the highlighted option has been stranded, and it has not been
offered since. -/
def Stranded (c : Conversation) (events : List (Nat × Event)) (label : String) : Prop :=
  ∃ before now event after, events = before ++ (now, event) :: after ∧
    (c.run before).state.selectedOption = some label ∧
    (c.run before).state.offers label = true ∧ (c.run before).Strands label event ∧
    ((c.run before).step now event).1.Throughout
      (fun c' => c'.state.selectedOption = some label ∧ c'.state.offers label = false) after

section Run

variable {c : Conversation} {label : String}

/-- As long as an option stays highlighted, the session stays in its turn. -/
theorem Bound.sameTurn_throughout {held : Session} (events : List (Nat × Event)) :
    ∀ {c : Conversation}, c.Bound → (∃ s, c.state.session = some s ∧ s.SameTurn held) →
      c.Throughout (fun c' => c'.state.selectedOption = some label) events →
        c.Throughout (fun c' => c'.state.selectedOption = some label ∧
          ∃ s, c'.state.session = some s ∧ s.SameTurn held) events := by
  induction events with
  | nil =>
    intro c h turn always before after split
    obtain ⟨rfl, rfl⟩ := List.append_eq_nil_iff.mp split.symm
    exact ⟨always [] [] rfl, turn⟩
  | cons first rest ih =>
    intro c h turn always
    obtain ⟨now, event⟩ := first
    obtain ⟨here, later⟩ := throughout_cons_iff.mp always
    obtain ⟨s, some, same⟩ := turn
    refine throughout_cons_iff.mpr ⟨⟨here, s, some, same⟩, ih (h.step now event) ?_ later⟩
    rcases (step_changes now c event).highlight_cases (later [] rest rfl) with
      ⟨-, -, -, kept⟩ | ⟨-, kept | ⟨s', carries, new⟩⟩
    · exact ⟨s, kept.trans some, same⟩
    · exact ⟨s, kept.trans some, same⟩
    · obtain ⟨-, -, held', some', turn⟩ := h.carries now carries
      obtain rfl : s = held' := Option.some.inj (some.symm.trans some')
      exact ⟨s', new, turn.trans same⟩

/-- What is highlighted has been highlighted by an event. -/
theorem Bound.marks (h : c.Bound) (none : c.state.selectedOption = none)
    {events : List (Nat × Event)} (highlighted : (c.run events).state.selectedOption = some label) :
    c.Marks events label := by
  rcases run_turns (P := fun c' => c'.state.selectedOption = some label) events highlighted with
    always | ⟨before, now, event, after, rfl, without, since⟩
  · exact absurd (none.symm.trans (always [] events rfl)) (nomatch ·)
  · rcases (step_changes now (c.run before) event).highlight_cases (since [] after rfl) with
      ⟨rfl, turn, offered, kept⟩ | ⟨earlier, -⟩
    · obtain ⟨held, some, offers⟩ := State.exists_session_of_offers offered
      refine ⟨before, now, after, held, rfl, turn, some, offers, ?_⟩
      exact Bound.sameTurn_throughout after ((h.run before).step now _)
        ⟨held, kept.trans some, .refl held⟩ since
    · exact absurd earlier without

/-- A highlighted option is offered unless it has been stranded. -/
theorem offers_iff_not_stranded (none : c.state.selectedOption = none)
    {events : List (Nat × Event)} (highlighted : (c.run events).state.selectedOption = some label) :
    (c.run events).state.offers label = true ↔ ¬ c.Stranded events label := by
  constructor
  · rintro offered ⟨before, now, event, after, rfl, -, -, -, since⟩
    rw [run_append, run_cons, (since after [] (List.append_nil _).symm).2] at offered
    cases offered
  · intro never
    rw [← Bool.not_eq_false]
    intro unoffered
    rcases run_turns (P := fun c' => c'.state.selectedOption = some label ∧
        c'.state.offers label = false) events ⟨highlighted, unoffered⟩ with
      always | ⟨before, now, event, after, rfl, without, since⟩
    · exact absurd (none.symm.trans (always [] events rfl).1) (nomatch ·)
    · obtain ⟨highlighted', unoffered'⟩ := since [] after rfl
      rcases (step_changes now (c.run before) event).highlight_cases highlighted' with
        ⟨-, -, offered, kept⟩ | ⟨earlier, kept | ⟨s, carries, new⟩⟩
      · rw [run, List.foldl_nil, State.offers_congr kept, offered] at unoffered'
        cases unoffered'
      · rw [run, List.foldl_nil, State.offers_congr kept] at unoffered'
        exact without ⟨earlier, unoffered'⟩
      · rw [run, List.foldl_nil, State.offers_of_session new] at unoffered'
        have offered : (c.run before).state.offers label = true := by
          rw [← Bool.not_eq_false]
          exact fun unoffered => without ⟨earlier, unoffered⟩
        exact never ⟨before, now, event, after, rfl, earlier, offered, ⟨s, carries, unoffered'⟩,
          since⟩

end Run

section Submit

variable {c : Conversation} {now : Nat} {r : Request}

theorem submit_call {answer : Answer} (sends : (c.submit now answer).2 = .waiting r) :
    ∃ s, c.state.session = some s ∧ r.call = .answer s.boardId s.id answer := by
  have asked := @asking_of_waiting c now (.submit answer) r sends
  have kind : r.call.operation = .answer := by
    cases kind : r.call.operation with
    | answer => rfl
    | _ =>
      rw [kind] at asked
      cases asked
  obtain ⟨s, r', held, waiting, call, -⟩ := (submit_heeds now c answer).achieves ⟨r, sends, kind⟩
  obtain rfl : r = r' := Outcome.waiting.inj (sends.symm.trans waiting)
  exact ⟨s, held, call⟩

/-- Submitting the highlighted option sends its label for the session that is held. -/
theorem submitSelection_call (sends : (c.act now .submitSelection).2 = .waiting r) :
    ∃ label s, c.state.selectedOption = some label ∧ c.state.session = some s ∧
      r.call = .answer s.boardId s.id (.option label) := by
  cases highlighted : c.state.selectedOption with
  | none =>
    have refused : c.step now .submitSelection =
        c.refuse (.invalidInput "no option selected") := by
      rw [step, submitSelection, highlighted]
    have settled : (c.step now (firstEvent .submitSelection)).2 ≠ .goesOn := by
      rw [firstEvent, refused]
      exact Outcome.noConfusion
    rw [act_of_settled settled, firstEvent, refused] at sends
    cases sends
  | some label =>
    have submits : c.step now .submitSelection = c.submit now (.option label) := by
      rw [step, submitSelection, highlighted]
    have settled : (c.step now (firstEvent .submitSelection)).2 ≠ .goesOn := by
      rw [firstEvent, submits]
      exact (submit_heeds now c (.option label)).settled
    rw [act_of_settled settled, firstEvent, submits] at sends
    obtain ⟨s, held, call⟩ := submit_call sends
    exact ⟨label, s, rfl, held, call⟩

end Submit

/-- What there is to say of the highlighted option after a run. -/
structure Highlights (c : Conversation) (events : List (Nat × Event)) : Prop where
  marked : ∀ label, (c.run events).view.selectedOption = some label → c.Marks events label
  offered : ∀ label, (c.run events).view.selectedOption = some label →
    ((∃ p, (c.run events).view.prompt = some p ∧ p.hasOption label = true) ↔
      ¬ c.Stranded events label)
  kept : (c.run events).state.Grounded → ∀ now event,
    (((c.run events).step now event).1.state.Grounded ↔
      ∀ label, (c.run events).state.selectedOption = some label →
        ¬ (c.run events).Strands label event)
  submitted : ∀ now r, ((c.run events).act now .submitSelection).2 = .waiting r →
    ∃ label s, (c.run events).view.selectedOption = some label ∧
      (c.run events).state.session = some s ∧ r.call = .answer s.boardId s.id (.option label)

/-- In every run, the highlighted option was offered when it was highlighted, and the session has
been in the same turn since. It is offered still, and is what is submitted, unless the reply to a
refresh or to a confirmation has brought another question with as many messages. -/
theorem run_highlights (boardId : String) (interval : Period) (page : Page)
    (events : List (Nat × Event)) : (initial boardId interval page).Highlights events := by
  have bound := bound_initial boardId interval page
  have current := ((sound_initial boardId interval page).run events).view
  have none : (initial boardId interval page).state.selectedOption = none := rfl
  constructor
  · intro label highlighted
    rw [current] at highlighted
    exact bound.marks none highlighted
  · intro label highlighted
    rw [current] at highlighted ⊢
    rw [← State.offers_iff]
    exact offers_iff_not_stranded none highlighted
  · exact fun grounded now event => (bound.run events).grounded_step_iff grounded now event
  · intro now r sends
    rw [current]
    exact submitSelection_call sends

/-- A session in which the assistant offers one option. -/
def offering : Session :=
  { questioned .active with
    messages := [⟨.assistant, "\x7b\"question\":\"Q?\",\"options\":[\"A\"]\x7d", none⟩] }

theorem offering_offers : offering.offers "A" = true := by
  have written : "\x7b\"question\":\"Q?\",\"options\":[\"A\"]\x7d" =
      (Json.Value.object [("question", .string "Q?"), ("options", .array [.string "A"])]).text := by
    decide +kernel
  have prompt : Prompt.ofContent "\x7b\"question\":\"Q?\",\"options\":[\"A\"]\x7d" =
      .question ⟨Text.trimmed "Q?", Prompt.kept ["A"]⟩ := by
    rw [written]
    exact Prompt.ofContent_encoded (Prompt.encodes_text (.inl rfl)) (by decide)
      (Prompt.offers_strings ["A"])
  show (Prompt.ofContent _).hasOption "A" = true
  rw [prompt]
  decide +kernel

/-- The conversation in which the option can be highlighted. -/
def offered : Conversation :=
  (initial "b" usual (.start .alwaysActive true)).run [(0, .start), (0, .reply 1 (.ok offering))]

theorem offered_select :
    offered.step 0 (.select "A") =
      (offered.change 0 { offered.state with selectedOption := some "A" }).ends (.ok ()) := by
  have held : offered.state.session = some offering := by decide +kernel
  have turn : offered.state.phase = .awaitingUserAnswer := by decide +kernel
  have running : offered.state.shutDown = false := by decide +kernel
  have offers : offered.state.offers "A" = true :=
    (State.offers_of_session held).trans offering_offers
  simp [step, select, running, turn, offers, Phase.acceptsAnswer]

/-- The option is highlighted, and a refresh finds another question in its place. -/
def rewritten : List (Nat × Event) :=
  [(0, .start), (0, .reply 1 (.ok offering)), (0, .select "A"), (0, .refresh),
    (0, .reply 2 (.ok (questioned .active)))]

/-- The option stays highlighted, although it is not offered any more. -/
theorem not_always_offered :
    ¬ ∀ (boardId : String) (interval : Period) (page : Page) (events : List (Nat × Event))
      (label : String),
      ((initial boardId interval page).run events).view.selectedOption = some label →
        ∃ p, ((initial boardId interval page).run events).view.prompt = some p ∧
          p.hasOption label = true := by
  intro always
  have run : (initial "b" usual (.start .alwaysActive true)).run rewritten =
      (offered.change 0 { offered.state with selectedOption := some "A" }).run
        [(0, .refresh), (0, .reply 2 (.ok (questioned .active)))] := by
    show (offered.step 0 (.select "A")).1.run _ = _
    rw [offered_select]
    rfl
  have highlighted : ((initial "b" usual (.start .alwaysActive true)).run
      rewritten).view.selectedOption = some "A" := by
    rw [run]
    decide +kernel
  obtain ⟨p, prompt, offers⟩ := always _ _ _ _ _ highlighted
  have question : ((initial "b" usual (.start .alwaysActive true)).run
      rewritten).view.prompt = some (.plain "What is the goal?") := by
    rw [run]
    decide +kernel
  rw [question] at prompt
  obtain rfl := Option.some.inj prompt
  cases offers

end Conversation

end Dialogue
