import Mathlib.Data.List.Chain
import Mathlib.Data.List.Induction
import Dialogue.Terminal.Render
import Dialogue.Proofs.Conversation.Affordances

/-! # What the user has been shown

On the user's turn the prompt and the draft goal are printed, and after that only what has changed.
A change of the prompt is always printed, with the draft goal as it is then. A change of the draft
goal alone is not: the user keeps looking at the goal that was printed with the prompt. -/

namespace Dialogue

namespace Session

variable {s : Session}

theorem awaitsUser_of_restingPhase (turn : s.restingPhase = .awaitingUserAnswer) :
    s.awaitsUser = true := by
  unfold restingPhase at turn
  split at turn
  · cases turn
  · split at turn
    · assumption
    · cases turn

/-- On the user's turn there is a prompt or a draft goal. -/
theorem asks_of_awaitsUser (turn : s.awaitsUser = true) :
    s.prompt?.isSome = true ∨ s.draftGoal.isSome = true := by
  rw [awaitsUser, Bool.or_eq_true] at turn
  refine turn.imp_left fun spoke => ?_
  obtain ⟨m, last, assistant⟩ := (Option.any_eq_true _ _).mp spoke
  rw [prompt?, Option.isSome_map, latestAssistantMessage?, List.find?_isSome]
  exact ⟨m, List.mem_reverse.mpr (List.mem_of_getLast? last), assistant⟩

end Session

namespace Terminal

/-! ## Standard output -/

/-- What of some lines is printed on standard output. -/
def outText (printed : List Output) : List Char :=
  printed.flatMap fun o => if o.stream = .out then o.text.toList ++ ['\n'] else []

theorem outText_append (printed more : List Output) :
    outText (printed ++ more) = outText printed ++ outText more := List.flatMap_append

theorem outText_out_cons (text : String) (more : List Output) :
    outText (out text :: more) = text.toList ++ '\n' :: outText more :=
  List.append_assoc text.toList ['\n'] (outText more)

theorem outText_out_cons_ne_nil (text : String) (more : List Output) :
    outText (out text :: more) ≠ [] := by
  rw [outText_out_cons]
  exact List.append_ne_nil_of_right_ne_nil _ (List.cons_ne_nil _ _)

/-- Errors are printed elsewhere. -/
theorem outText_showErrors (v : View) (previous : Option View) :
    outText (showErrors v previous) = [] := by
  rw [showErrors, outText_append, List.append_eq_nil_iff]
  constructor
  · cases v.error with
    | none => rfl
    | some e =>
      dsimp only
      split <;> rfl
  · split <;> rfl

/-! ## Blocks -/

/-- What is printed on standard output for a view before which none was shown. -/
def blockText (v : View) : List Char := outText (render v none)

/-- What is printed for the prompt of a view. -/
def promptText (v : View) : List Char := outText ((v.prompt.map showPrompt).getD [])

/-- What is printed for the draft goal of a view. -/
def goalText (v : View) : List Char := outText ((v.draftGoal.map showGoal).getD [])

variable {v cur prev : View} {previous : Option View} {views : List View}

/-- Whether a view is of the user's turn, with a given prompt. -/
def Asks (prompt : Option Prompt) (v : View) : Prop :=
  v.phase = .awaitingUserAnswer ∧ v.prompt = prompt

theorem outText_render (turn : cur.phase = .awaitingUserAnswer) :
    outText (render cur previous) =
      if (previous.any fun p => p.phase = .awaitingUserAnswer) &&
          (previous.any fun p => p.prompt = cur.prompt) then []
      else promptText cur ++ goalText cur := by
  rw [render, turn, outText_append, outText_showErrors, List.nil_append]
  cases (previous.any fun p => p.phase = .awaitingUserAnswer) with
  | false => exact outText_append _ _
  | true =>
    cases (previous.any fun p => p.prompt = cur.prompt) with
    | false => exact outText_append _ _
    | true => rfl

/-- A block is the prompt and the draft goal. -/
theorem blockText_eq (turn : cur.phase = .awaitingUserAnswer) :
    blockText cur = promptText cur ++ goalText cur := by
  rw [blockText, outText_render turn]
  rfl

/-- The block is not printed after a view with the same prompt. -/
theorem outText_render_of_asks (turn : cur.phase = .awaitingUserAnswer)
    (asks : Asks cur.prompt prev) : outText (render cur (some prev)) = [] := by
  obtain ⟨turn', same⟩ := asks
  rw [outText_render turn]
  simp [turn', same]

/-- The block is printed after any other view. -/
theorem outText_render_of_not_asks (turn : cur.phase = .awaitingUserAnswer)
    (other : ∀ p ∈ previous, ¬ Asks cur.prompt p) :
    outText (render cur previous) = blockText cur := by
  cases previous with
  | none => rfl
  | some prev =>
    have other := other prev rfl
    rw [outText_render turn, blockText_eq turn, if_neg]
    simpa [Asks] using other

/-- Blocks with one prompt differ in the draft goal. -/
theorem blockText_eq_iff (turn : cur.phase = .awaitingUserAnswer) (asks : Asks cur.prompt prev) :
    blockText prev = blockText cur ↔ goalText prev = goalText cur := by
  have same : promptText prev = promptText cur := by rw [promptText, asks.2, promptText]
  rw [blockText_eq asks.1, blockText_eq turn, same, List.append_cancel_left_eq]

/-- A goal that can be confirmed has a text. -/
theorem goalText_ne_nil (drafted : cur.canConfirm = true) : goalText cur ≠ [] := by
  rw [View.canConfirm, Bool.and_eq_true] at drafted
  obtain ⟨g, goal⟩ := Option.isSome_iff_exists.mp drafted.1
  rw [goalText, goal]
  exact outText_out_cons_ne_nil _ _

/-- On the user's turn in a conversation there is something to print. -/
theorem blockText_ne_nil {st : State} (turn : st.phase = .awaitingUserAnswer) :
    blockText st.view ≠ [] := by
  obtain ⟨s, held, rests⟩ :
      ∃ s, st.session = some s ∧ s.restingPhase = .awaitingUserAnswer := by
    have stands := st.stands
    rw [turn] at stands
    cases stands with
    | resting held rests => exact ⟨_, held, rests⟩
  have prompt : st.view.prompt = s.prompt? := by
    show st.session.bind _ = _
    rw [held, Option.bind_some]
  have goal : st.view.draftGoal = s.draftGoal := by
    show st.session.bind _ = _
    rw [held, Option.bind_some]
  rw [blockText_eq turn]
  rcases Session.asks_of_awaitsUser (Session.awaitsUser_of_restingPhase rests) with asked | drafted
  · obtain ⟨p, asked⟩ := Option.isSome_iff_exists.mp asked
    refine List.append_ne_nil_of_left_ne_nil ?_ _
    rw [promptText, prompt, asked]
    exact outText_out_cons_ne_nil _ _
  · refine List.append_ne_nil_of_right_ne_nil _ (goalText_ne_nil ?_)
    rw [View.canConfirm, goal, drafted]
    exact decide_eq_true turn

/-! ## Views one after another -/

/-- Everything that is printed for views that are published one after another. -/
def showAll : Option View → List View → List Output
  | _, [] => []
  | previous, v :: rest => renderNext v previous ++ showAll (some v) rest

theorem showAll_concat (cur : View) (views : List View) :
    ∀ previous, showAll previous (views ++ [cur]) =
      showAll previous views ++ renderNext cur (views.getLast?.or previous) := by
  induction views with
  | nil => exact fun previous => List.append_nil _
  | cons v rest ih =>
    intro previous
    rw [List.cons_append, showAll, showAll, ih, List.append_assoc]
    cases rest with
    | nil => rfl
    | cons next later => rfl

theorem outText_renderNext_of_asks (turn : cur.phase = .awaitingUserAnswer)
    (asks : Asks cur.prompt prev) : outText (renderNext cur (some prev)) = [] := by
  unfold renderNext
  split
  · rfl
  · exact outText_render_of_asks turn asks

theorem outText_renderNext_of_not_asks (turn : cur.phase = .awaitingUserAnswer)
    (other : ∀ p ∈ previous, ¬ Asks cur.prompt p) :
    outText (renderNext cur previous) = blockText cur := by
  unfold renderNext
  split
  · rename_i same
    exact absurd ⟨turn, rfl⟩ (other cur same)
  · exact outText_render_of_not_asks turn other

/-- The last of some views have one prompt, from `first` on. Nothing has been printed on standard
output since the block of `first`. -/
structure Stretch (views : List View) (cur : View) (earlier : List View) (first : View)
    (since : List View) : Prop where
  split : views ++ [cur] = earlier ++ first :: since
  asks : ∀ v ∈ first :: since, Asks cur.prompt v
  begins : ∀ p ∈ earlier.getLast?, ¬ Asks cur.prompt p
  printed : outText (showAll none (views ++ [cur])) =
    outText (showAll none earlier) ++ blockText first

/-- After any views there is such a stretch up to a view of the user's turn. -/
theorem exists_stretch (views : List View) : ∀ cur : View, cur.phase = .awaitingUserAnswer →
    ∃ earlier first since, Stretch views cur earlier first since := by
  -- the stretch either goes on from the view before or begins here
  induction views using List.reverseRecOn with
  | nil =>
    intro cur turn
    refine ⟨[], cur, [], rfl, ?_, ?_, ?_⟩
    · simpa [Asks] using turn
    · exact fun p member => nomatch member
    · rw [showAll_concat, outText_append, outText_renderNext_of_not_asks turn]
      exact fun p member => nomatch member
  | append_singleton before prev ih =>
    intro cur turn
    have last : ((before ++ [prev]).getLast?.or none) = some prev := by simp
    by_cases asks : Asks cur.prompt prev
    · obtain ⟨earlier, first, since, stretch⟩ := ih prev asks.1
      refine ⟨earlier, first, since ++ [cur], ?_, ?_, ?_, ?_⟩
      · rw [stretch.split, List.append_assoc, List.cons_append]
      · intro v member
        rw [← List.cons_append, List.mem_append, List.mem_singleton] at member
        rcases member with member | rfl
        · exact asks.2 ▸ stretch.asks v member
        · exact ⟨turn, rfl⟩
      · exact asks.2 ▸ stretch.begins
      · rw [showAll_concat, outText_append, last, outText_renderNext_of_asks turn asks,
          List.append_nil, stretch.printed]
    · refine ⟨before ++ [prev], cur, [], rfl, ?_, ?_, ?_⟩
      · simpa [Asks] using turn
      · rw [List.getLast?_concat]
        rintro p ⟨⟩
        exact asks
      · rw [showAll_concat, outText_append, last, outText_renderNext_of_not_asks turn]
        rintro p ⟨⟩
        exact asks

/-- Whether nothing but the draft goal has changed in what the user is shown. -/
def Hides (prev cur : View) : Prop := Asks cur.prompt prev ∧ goalText prev ≠ goalText cur

/-- While the goal does not change alone, a stretch has one goal. -/
theorem goalText_of_isChain {prompt : Option Prompt} {since : List View} :
    ∀ {first : View}, (∀ v ∈ first :: since, Asks prompt v) →
      (first :: since).IsChain (fun p v => ¬ Hides p v) →
        ∀ v ∈ first :: since, goalText v = goalText first := by
  induction since with
  | nil =>
    intro first _ _ v member
    rw [List.mem_singleton.mp member]
  | cons next later ih =>
    intro first asks chain v member
    obtain ⟨asksFirst, asks⟩ := List.forall_mem_cons.mp asks
    obtain ⟨kept, chain⟩ := List.isChain_cons_cons.mp chain
    have asksNext := asks next (List.mem_cons_self ..)
    have same : goalText first = goalText next := by
      by_contra changed
      exact kept ⟨⟨asksFirst.1, asksFirst.2.trans asksNext.2.symm⟩, changed⟩
    rcases List.mem_cons.mp member with rfl | member
    · rfl
    · exact (ih asks chain v member).trans same.symm

theorem Stretch.mem {earlier since : List View} {first : View}
    (stretch : Stretch views cur earlier first since) : cur ∈ first :: since := by
  have last := congrArg List.getLast? stretch.split
  rw [List.getLast?_concat, List.getLast?_append_cons] at last
  exact List.mem_of_getLast? last.symm

/-- While the goal does not change alone, the last block that was printed is the present one. -/
theorem Stretch.current {earlier since : List View} {first : View}
    (stretch : Stretch views cur earlier first since) (turn : cur.phase = .awaitingUserAnswer)
    (chain : (views ++ [cur]).IsChain fun p v => ¬ Hides p v) :
    blockText first = blockText cur := by
  rw [stretch.split] at chain
  refine (blockText_eq_iff turn (stretch.asks first (List.mem_cons_self ..))).mpr ?_
  exact (goalText_of_isChain stretch.asks chain.right_of_append cur stretch.mem).symm

/-- What the user has been shown when it is their turn. -/
structure Shown (views : List View) (cur : View) : Prop where
  /-- When the turn or the prompt has changed, the whole block is printed. -/
  fresh : ∀ prev, ¬ Asks cur.prompt prev → outText (render cur (some prev)) = blockText cur
  /-- After a view of another phase or with another block, the whole block is printed unless the
  goal alone has changed. -/
  after : ∀ prev, prev.phase ≠ .awaitingUserAnswer ∨ blockText prev ≠ blockText cur →
    (outText (render cur (some prev)) = blockText cur ↔ ¬ Hides prev cur ∨ blockText cur = [])
  /-- When the goal alone has changed, nothing is printed. -/
  hidden : ∀ prev, Hides prev cur → outText (render cur (some prev)) = []
  /-- In a conversation there is something to print. -/
  asked : ∀ st : State, st.view = cur → blockText cur ≠ []
  /-- The last block that was printed is that of the first view since which it has been the user's
  turn with the present prompt. It is the present block when the goal is still the same. -/
  last : ∃ earlier first since, Stretch views cur earlier first since ∧
    (blockText first = blockText cur ↔ goalText first = goalText cur)
  /-- While the goal has never changed alone, what was printed ends with the present block. -/
  current : ((views ++ [cur]).IsChain fun p v => ¬ Hides p v) →
    blockText cur <:+ outText (showAll none (views ++ [cur]))
  /-- A goal that can be confirmed has been shown then. -/
  drafted : cur.canConfirm = true → ((views ++ [cur]).IsChain fun p v => ¬ Hides p v) →
    goalText cur ≠ [] ∧ goalText cur <:+ outText (showAll none (views ++ [cur]))

/-- On the user's turn the present block is what was printed last, unless the draft goal has changed
and the prompt has not. -/
theorem turn_shown (views : List View) (cur : View) (turn : cur.phase = .awaitingUserAnswer) :
    Shown views cur := by
  obtain ⟨earlier, first, since, stretch⟩ := exists_stretch views cur turn
  have current : ((views ++ [cur]).IsChain fun p v => ¬ Hides p v) →
      blockText cur <:+ outText (showAll none (views ++ [cur])) := by
    intro chain
    rw [stretch.printed, stretch.current turn chain]
    exact List.suffix_append _ _
  have fresh : ∀ prev, ¬ Asks cur.prompt prev →
      outText (render cur (some prev)) = blockText cur := by
    intro prev other
    refine outText_render_of_not_asks turn ?_
    rintro p ⟨⟩
    exact other
  constructor
  · exact fresh
  · intro prev differs
    by_cases asks : Asks cur.prompt prev
    · have changed : blockText prev ≠ blockText cur := differs.resolve_left (not_not.mpr asks.1)
      have hides : Hides prev cur := ⟨asks, mt (blockText_eq_iff turn asks).mpr changed⟩
      rw [outText_render_of_asks turn asks, or_iff_right (not_not.mpr hides), eq_comm]
    · exact iff_of_true (fresh prev asks) (.inl fun hides => asks hides.1)
  · exact fun prev hides => outText_render_of_asks turn hides.1
  · rintro st rfl
    exact blockText_ne_nil turn
  · exact ⟨earlier, first, since, stretch,
      blockText_eq_iff turn (stretch.asks first (List.mem_cons_self ..))⟩
  · exact current
  · intro confirmable chain
    refine ⟨goalText_ne_nil confirmable, List.IsSuffix.trans ?_ (current chain)⟩
    rw [blockText_eq turn]
    exact List.suffix_append _ _

/-- A session in which a goal has been drafted without a word. -/
def drafting : Session :=
  { Conversation.questioned .active with draftGoal := some ⟨some "Growth", none, none, []⟩ }

/-- A session in which it has been drafted, and the assistant has said so. -/
def proposing : Session :=
  { drafting with
    messages := drafting.messages ++ [⟨.assistant, "Is this the goal?", none⟩] }

/-- The view once a refresh has brought a session. -/
def refreshed (s : Session) : View :=
  (Conversation.opened.run [(0, .refresh), (0, .reply 2 (.ok s))]).view

/-- The goal that can be confirmed is shown when the assistant has said something about it. -/
theorem proposing_shown :
    (refreshed proposing).canConfirm = true ∧
      goalText (refreshed proposing) <:+ outText (showAll none
        ([.initial "b", Conversation.opened.view] ++ [refreshed proposing])) := by
  have turn : (refreshed proposing).phase = .awaitingUserAnswer := by decide +kernel
  have drafted : (refreshed proposing).canConfirm = true := by decide +kernel
  have shown := turn_shown [.initial "b", Conversation.opened.view] (refreshed proposing) turn
  have waits : ¬ Asks (Conversation.opened.view.prompt) (.initial "b") := by
    rintro ⟨phase, -⟩
    cases phase
  have differs : Conversation.opened.view.prompt ≠ (refreshed proposing).prompt := by
    decide +kernel
  refine ⟨drafted, (shown.drafted drafted ?_).2⟩
  refine .cons_cons (fun hides => waits hides.1) (.cons_cons ?_ (.singleton _))
  exact fun hides => differs hides.1.2

/-- A block that is new is not always printed. -/
theorem not_always_shown :
    ¬ ∀ prev cur : View, cur.phase = .awaitingUserAnswer →
      prev.phase ≠ .awaitingUserAnswer ∨ blockText prev ≠ blockText cur →
        outText (render cur (some prev)) = blockText cur := by
  intro always
  have turn : (refreshed drafting).phase = .awaitingUserAnswer := by decide +kernel
  have asks : Asks (refreshed drafting).prompt Conversation.opened.view :=
    ⟨by decide +kernel, rfl⟩
  have goal : goalText Conversation.opened.view ≠ goalText (refreshed drafting) := by
    decide +kernel
  have changed := mt (blockText_eq_iff turn asks).mp goal
  have printed := always _ _ turn (.inr changed)
  rw [outText_render_of_asks turn asks] at printed
  have blank : blockText (refreshed drafting) ≠ [] := by decide +kernel
  exact blank printed.symm

end Terminal

end Dialogue
