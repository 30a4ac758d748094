import Dialogue.Proofs.Conversation.Commit
import Dialogue.Proofs.Conversation.Requests

/-! # Polling behind a page that is only asked

A page that tells of its changes has them attended to. Any other page is only asked whether it is
visible when something is committed, so that the timer goes by what the page was then. While the
assistant is awaited, the timer of such a page is armed just when the page was visible at the last
commit: a commit behind a hidden page disarms it, and showing the page again does not arm it. As
long as it is armed, its ticks fetch as soon as the page is visible. -/

namespace Dialogue.Conversation

/-- Whether the page was visible at the last commit of a run, before which this was `last`. -/
def seenActive (c : Conversation) (last : Bool) : List (Nat × Event) → Bool
  | [] => last
  | (now, event) :: rest =>
    (c.step now event).1.seenActive
      (if (c.step now event).1.published = c.published then last else c.page.isActive) rest

/-- The timer is as the state wants it and as the page was at the last commit. -/
def InStep (c : Conversation) (last : Bool) : Prop :=
  c.timer.isArmed = (!c.state.shutDown && c.state.phase.wantsPolling && last)

theorem inStep_initial (boardId : String) (interval : Period) (page : Page) (last : Bool) :
    (initial boardId interval page).InStep last := by
  rfl

section Quiet

variable {c c' : Conversation}

theorem InStep.settles {last : Bool} (h : c.InStep last) (quiet : c.page.kind ≠ .pushing)
    (settles : c.Settles c') :
    c'.InStep (if c'.published = c.published then last else c.page.isActive) := by
  cases settles with
  | committed published page view armed =>
    have counted : c'.published ≠ c.published := by
      rw [published]
      exact Nat.succ_ne_self _
    rw [if_neg counted, ← page]
    exact armed
  | attended news published state view page armed =>
    -- only a page that tells of its changes has news
    unfold Page.hasNews at news
    rw [Bool.and_eq_true, decide_eq_true_iff] at news
    exact absurd news.1 quiet
  | rested published state view page armed =>
    unfold InStep at h ⊢
    rw [if_pos published, armed, state]
    exact h

end Quiet

theorem InStep.run (events : List (Nat × Event)) :
    ∀ {c : Conversation} {last : Bool}, c.InStep last → c.page.kind ≠ .pushing →
      (c.run events).InStep (c.seenActive last events) := by
  induction events with
  | nil => exact fun h _ => h
  | cons first rest ih =>
    intro c last h quiet
    obtain ⟨now, event⟩ := first
    have settles := step_settles now c event
    rw [run_cons, seenActive]
    apply ih
    · exact h.settles quiet settles
    · rw [settles.kind]
      exact quiet

/-- A tick that is due fetches the session that is held. -/
def Fetches (c : Conversation) : Prop :=
  ∀ a now, c.timer.current = some a → a.busy = false → a.due ≤ now →
    ∃ s r, c.state.session = some s ∧ (c.step now .tick).2 = .goesOn ∧
      ((c.step now .tick).1.step now (.poll a.id)).2 = .waiting r ∧ r.call = .get s.boardId s.id

theorem poll_of_wantsTimer {c : Conversation} (now arming : Nat)
    (free : c.state.inFlight.refreshing = false) (wanted : c.wantsTimer = true) {s : Session}
    (held : c.state.session = some s) :
    c.poll now arming = c.send now (refreshing c.state) (.get s.boardId s.id) (some arming) := by
  simp [poll, free, wanted, held]

theorem tick_of_due {c : Conversation} {a : Arming Unit} {now : Nat}
    (current : c.timer.current = some a) (idle : a.busy = false) (due : a.due ≤ now) :
    c.tick now =
      ({ c with timer := { c.timer with
          current := some { a with due := nextDue a.due now a.period, busy := true } } },
        .goesOn) := by
  unfold tick
  rw [Timer.fire_of_due current idle due]

/-- A conversation that wants its timer, with no refresh under way, fetches at the next tick. -/
theorem fetches_of_wantsTimer {c : Conversation} (free : c.state.inFlight.refreshing = false)
    (wanted : c.wantsTimer = true) : c.Fetches := by
  intro a now current idle due
  obtain ⟨-, turn, -⟩ := wantsTimer_iff.mp wanted
  obtain ⟨s, held⟩ := State.exists_session_of_awaitingAssistant turn
  have ticks : c.step now .tick = _ := tick_of_due current idle due
  have sends : ∀ timer : Timer Unit, (Conversation.poll now a.id { c with timer }).2 =
      .waiting ⟨c.state.ledger.nextTicket .refresh, .get s.boardId s.id, some a.id⟩ := by
    intro timer
    rw [poll_of_wantsTimer (c := { c with timer }) now a.id free wanted held]
    rfl
  refine ⟨s, ⟨c.state.ledger.nextTicket .refresh, .get s.boardId s.id, some a.id⟩, held, ?_, ?_,
    rfl⟩
  · rw [ticks]
  · rw [ticks]
    exact sends _

/-- How a conversation polls whose page was visible at the last commit, or was not. -/
structure Polls (c : Conversation) (seen : Bool) : Prop where
  armed : c.timer.isArmed = true ↔
    c.state.shutDown = false ∧ c.state.phase = .awaitingAssistant ∧ seen = true
  always : (c.timer.isArmed = true ↔
      c.state.shutDown = false ∧ c.state.phase = .awaitingAssistant) ↔
    (c.state.shutDown = false → c.state.phase = .awaitingAssistant → seen = true)
  fetches : c.timer.isArmed = true → c.page.isActive = true →
    c.state.inFlight.refreshing = false → c.Fetches

theorem InStep.polls {c : Conversation} {seen : Bool} (h : c.InStep seen) : c.Polls seen := by
  have armed : c.timer.isArmed = true ↔
      c.state.shutDown = false ∧ c.state.phase = .awaitingAssistant ∧ seen = true := by
    unfold InStep at h
    rw [h, Bool.and_eq_true, Bool.and_eq_true, Bool.not_eq_true', and_assoc, Phase.wantsPolling,
      decide_eq_true_iff]
  refine ⟨armed, ?_, ?_⟩
  · rw [armed]
    constructor
    · intro same running turn
      exact (same.mpr ⟨running, turn⟩).2.2
    · intro visible
      constructor
      · rintro ⟨running, turn, -⟩
        exact ⟨running, turn⟩
      · rintro ⟨running, turn⟩
        exact ⟨running, turn, visible running turn⟩
  · intro isArmed visible free
    obtain ⟨running, turn, -⟩ := armed.mp isArmed
    exact fetches_of_wantsTimer free (wantsTimer_iff.mpr ⟨running, turn, visible⟩)

/-- In every run behind a page that is only asked, the timer is armed just when the assistant is
awaited and the page was visible at the last commit. -/
theorem run_polls (boardId : String) (interval : Period) (page : Page)
    (quiet : page.kind ≠ .pushing) (events : List (Nat × Event)) :
    ((initial boardId interval page).run events).Polls
      ((initial boardId interval page).seenActive false events) := by
  have inStep := (inStep_initial boardId interval page false).run events quiet
  exact inStep.polls

/-- The assistant is awaited behind a hidden page, which is then shown. -/
def unhidden : List (Nat × Event) :=
  [(0, .start), (0, .reply 1 (.ok unspoken)), (0, .setPage true)]

theorem run_polls_unhidden :
    (Page.start .queried false).kind ≠ .pushing ∧
    ((initial "b" usual (.start .queried false)).run unhidden).Polls
      ((initial "b" usual (.start .queried false)).seenActive false unhidden) := by
  have quiet : (Page.start .queried false).kind ≠ .pushing := by decide
  exact ⟨quiet, run_polls _ _ _ quiet _⟩

/-- The timer stays disarmed behind the page that is shown again. -/
theorem not_armed_while_hidden :
    ¬ ∀ (boardId : String) (interval : Period) (page : Page), page.kind ≠ .pushing →
      ∀ events : List (Nat × Event),
        (((initial boardId interval page).run events).timer.isArmed = true ↔
          ((initial boardId interval page).run events).state.shutDown = false ∧
            ((initial boardId interval page).run events).state.phase = .awaitingAssistant) := by
  intro always
  have armed := always "b" usual (.start .queried false) (by decide) unhidden
  have disarmed : ((initial "b" usual (.start .queried false)).run
      unhidden).timer.isArmed = false := by decide +kernel
  rw [disarmed] at armed
  exact Bool.noConfusion (armed.mpr (by decide +kernel))

end Dialogue.Conversation
