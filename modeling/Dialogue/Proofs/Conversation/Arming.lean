import Dialogue.Proofs.Conversation.Commit
import Dialogue.Proofs.Conversation.Requests

/-! # When the timer is armed, and when it ticks

Behind a page that is always visible, or that tells of its changes, the timer is armed just when
the assistant is awaited and the page is visible, as soon as the last change of the page has been
attended to. As long as that stays so, the timer goes on with the arming that it has: nothing that
happens in between moves its next tick, but the ticks themselves. -/

namespace Dialogue.Conversation

/-- The instants at which the timer ticks by an event. -/
def ticksAt (c : Conversation) (now : Nat) : Event → List Nat
  | .tick => if (c.timer.fire now).isSome then [now] else []
  | _ => []

/-- The instants at which the timer ticks in a run. -/
def ticks (c : Conversation) : List (Nat × Event) → List Nat
  | [] => []
  | (now, event) :: rest => c.ticksAt now event ++ (c.step now event).1.ticks rest

section Holds

variable {now : Nat} {c c' : Conversation} {a : Arming Unit}

theorem syncTimer_holds (now : Nat) (held : c.timer.Holds a) (wanted : c.wantsTimer = true) :
    (c.syncTimer now).timer.Holds a := by
  unfold syncTimer
  rw [if_pos wanted]
  exact held.arm now c.interval ()

/-- A commit that wants the timer leaves the one that is armed alone. -/
theorem change_holds {st : State} (held : c.timer.Holds a)
    (wanted : (c.change now st).wantsTimer = true) : (c.change now st).timer.Holds a :=
  syncTimer_holds (c := publish { c with state := st }) now held wanted

theorem tellHost_wantsTimer (c : Conversation) : c.tellHost.wantsTimer = c.wantsTimer := by
  unfold tellHost
  split <;> rfl

theorem tellHost_timer (c : Conversation) : c.tellHost.timer = c.timer := by
  unfold tellHost
  split <;> rfl

theorem finishPoll_wantsTimer (c : Conversation) (r : Request) :
    (c.finishPoll r).wantsTimer = c.wantsTimer := by
  unfold finishPoll
  split <;> rfl

theorem finishPoll_holds (held : c.timer.Holds a) (r : Request) :
    (c.finishPoll r).timer.Holds a := by
  unfold finishPoll
  split
  · exact held.finish _
  · exact held

theorem Answers.holds {r : Request} {reply : Reply} (h : c.Answers now r reply c')
    (held : c.timer.Holds a) (wanted : c'.wantsTimer = true) : c'.timer.Holds a := by
  cases h with
  | dropped unsealed => exact held
  | taken unsealed st => exact change_holds held wanted
  | confirmed seals st =>
    rw [tellHost_wantsTimer] at wanted
    rw [tellHost_timer]
    exact change_holds held wanted

/-- An event after which the timer is wanted leaves the arming alone, but for its tick. -/
theorem Leads.holds {event : Event} (h : c.Leads now event c') (held : c.timer.Holds a)
    (wanted : c'.wantsTimer = true) : c'.timer.Holds (a.after (c.ticksAt now event)) := by
  cases h with
  | rested call =>
    cases event with
    | tick => cases call
    | _ => exact held
  | committed call st pending =>
    cases event with
    | tick => cases call
    | _ => exact change_holds (c := { c with pending := pending }) held wanted
  | moved boardId =>
    -- nothing is awaited on a new board
    cases wanted
  | closed => cases wanted
  | early undue =>
    unfold ticksAt
    rw [undue]
    exact held
  | ticked fired =>
    unfold ticksAt
    rw [fired]
    exact held.fire fired
  | finished arming => exact held.finish arming
  | turned active => exact held
  | unattended seen => exact held
  | attended news => exact syncTimer_holds (c := { c with page := c.page.see }) now held wanted
  | missed missing => exact held
  | answered found answers =>
    rw [finishPoll_wantsTimer] at wanted
    exact finishPoll_holds (answers.holds held wanted) _

end Holds

/-- Whether the timer is wanted at every point of a run, its start and its end included. -/
def wantedThroughout (c : Conversation) : List (Nat × Event) → Bool
  | [] => c.wantsTimer
  | (now, event) :: rest => c.wantsTimer && (c.step now event).1.wantedThroughout rest

theorem wantsTimer_of_wantedThroughout {c : Conversation} {events : List (Nat × Event)}
    (h : c.wantedThroughout events = true) : c.wantsTimer = true := by
  cases events with
  | nil => exact h
  | cons first rest =>
    rw [wantedThroughout, Bool.and_eq_true] at h
    exact h.1

/-- As long as the timer is wanted, only its ticks touch the arming. -/
theorem run_holds (events : List (Nat × Event)) :
    ∀ {c : Conversation} {a : Arming Unit}, c.wantedThroughout events = true →
      c.timer.Holds a → (c.run events).timer.Holds (a.after (c.ticks events)) := by
  induction events with
  | nil => exact fun _ held => held
  | cons first rest ih =>
    intro c a wanted held
    obtain ⟨now, event⟩ := first
    rw [wantedThroughout, Bool.and_eq_true] at wanted
    have here := wantsTimer_of_wantedThroughout wanted.2
    rw [run_cons, ticks, Arming.after_append]
    exact ih wanted.2 ((step_leads now c event).holds held here)

/-- A page has no news when it tells of none, or when all its changes have been seen. -/
theorem hasNews_eq_false_iff {p : Page} :
    p.hasNews = false ↔ (p.kind = .pushing → p.watched.seen = p.visibility.changes) := by
  unfold Page.hasNews Subscription.hasNews
  simp

theorem changes_le_set (v : Visibility) (active : Bool) : v.changes ≤ (v.set active).changes := by
  unfold Visibility.set
  split
  · exact Nat.le_refl _
  · exact Nat.le_succ _

/-- A page of which no more has been seen than has happened shows a change of its visibility as
news. -/
theorem set_eq_of_quiet {p : Page} (pushing : p.kind = .pushing)
    (seen : p.watched.seen ≤ p.visibility.changes) {active : Bool}
    (quiet : (p.set active).hasNews = false) : p.set active = p := by
  have same : p.watched.seen = (p.visibility.set active).changes :=
    hasNews_eq_false_iff.mp quiet pushing
  unfold Visibility.set at same
  unfold Page.set Visibility.set
  split at same
  · rename_i unchanged
    rw [if_pos unchanged]
  · have later : p.watched.seen = p.visibility.changes + 1 := same
    omega

/-- What a conversation has to go by: a page that is not only asked, of which no more has been seen
than has happened, and a timer that follows it once everything has been seen. -/
structure Attentive (c : Conversation) : Prop where
  tells : c.page.kind ≠ .queried
  seen : c.page.kind = .pushing → c.page.watched.seen ≤ c.page.visibility.changes
  armed : c.page.hasNews = false → c.timer.isArmed = c.wantsTimer

theorem attentive_initial (boardId : String) (interval : Period) {page : Page}
    (tells : page.kind ≠ .queried) (fresh : page.hasNews = false) :
    (initial boardId interval page).Attentive where
  tells := tells
  seen := fun pushing => Nat.le_of_eq (hasNews_eq_false_iff.mp fresh pushing)
  armed := fun _ => rfl

section Attentive

variable {c c' : Conversation}

/-- A page that is turned, and then has no news, is as visible as before. -/
theorem Attentive.of_quiet (h : c.Attentive) {active : Bool}
    (quiet : (c.page.set active).hasNews = false) :
    c.page.hasNews = false ∧ (c.page.set active).isActive = c.page.isActive := by
  cases kind : c.page.kind with
  | queried => exact absurd kind h.tells
  | pushing =>
    have same := set_eq_of_quiet kind (h.seen kind) quiet
    rw [same] at quiet ⊢
    exact ⟨quiet, rfl⟩
  | alwaysActive =>
    refine ⟨hasNews_eq_false_iff.mpr fun pushing => ?_, ?_⟩
    · rw [kind] at pushing
      cases pushing
    · simp [Page.isActive, Page.set, kind]

theorem Attentive.settles (h : c.Attentive) (settles : c.Settles c') : c'.Attentive := by
  have tells : c'.page.kind ≠ .queried := by
    rw [settles.kind]
    exact h.tells
  cases settles with
  | committed published page view armed =>
    refine ⟨tells, ?_, fun _ => armed⟩
    rw [page]
    exact h.seen
  | attended news published state view page armed =>
    refine ⟨tells, ?_, fun _ => armed⟩
    rw [page]
    exact fun _ => Nat.le_refl _
  | rested published state view page armed =>
    rcases page with same | ⟨active, turned⟩
    · refine ⟨tells, ?_, ?_⟩
      · rw [same]
        exact h.seen
      · intro quiet
        rw [same] at quiet
        rw [armed, h.armed quiet, wantsTimer, wantsTimer, state, same]
    · refine ⟨tells, ?_, ?_⟩
      · rw [turned]
        intro pushing
        exact Nat.le_trans (h.seen pushing) (changes_le_set _ active)
      · intro quiet
        rw [turned] at quiet
        obtain ⟨before, active'⟩ := h.of_quiet quiet
        rw [armed, h.armed before, wantsTimer, wantsTimer, state, turned, active']

theorem Attentive.run (h : c.Attentive) (events : List (Nat × Event)) :
    (c.run events).Attentive :=
  run_keeps (fun c now event kept => kept.settles (step_settles now c event)) events c h

end Attentive

/-- How a conversation keeps its timer. -/
structure KeepsTime (c : Conversation) : Prop where
  armed : c.page.hasNews = false →
    (c.timer.isArmed = true ↔
      c.state.shutDown = false ∧ c.state.phase = .awaitingAssistant ∧ c.page.isActive = true)
  goesOn : ∀ a events, c.timer.current = some a → c.wantedThroughout events = true →
    ∃ busy, (c.run events).timer.current = some { a.after (c.ticks events) with busy := busy }
  steady : ∀ a events, c.timer.current = some a → c.wantedThroughout events = true →
    c.ticks events = [] →
      ∃ a', (c.run events).timer.current = some a' ∧ a'.armedAt = a.armedAt ∧ a'.due = a.due

theorem Attentive.keepsTime {c : Conversation} (h : c.Attentive) : c.KeepsTime where
  armed := by
    intro quiet
    rw [h.armed quiet]
    exact wantsTimer_iff
  goesOn := fun a events current wanted => run_holds events wanted ⟨a.busy, current⟩
  steady := by
    intro a events current wanted silent
    obtain ⟨busy, held⟩ := run_holds events wanted ⟨a.busy, current⟩
    rw [silent] at held
    exact ⟨_, held, rfl, rfl⟩

/-- In every run behind a page that is always visible or tells of its changes, the timer is armed
just when the assistant is awaited and the page is visible, and goes on undisturbed as long as that
stays so. -/
theorem run_keepsTime (boardId : String) (interval : Period) (page : Page)
    (tells : page.kind ≠ .queried) (fresh : page.hasNews = false)
    (events : List (Nat × Event)) :
    ((initial boardId interval page).run events).KeepsTime :=
  ((attentive_initial boardId interval tells fresh).run events).keepsTime

/-- The assistant is awaited behind a page that is hidden and then shown again. -/
def reshown : List (Nat × Event) :=
  [(0, .start), (0, .reply 1 (.ok unspoken)), (500, .setPage false), (500, .attendPage),
    (900, .setPage true), (900, .attendPage)]

/-- The arming that the page brings about when it is shown again. -/
def rearmed : Arming Unit := ⟨2, (), 900, usual, 2900, false⟩

/-- A refresh and its reply, which the next tick does not heed. -/
def refreshed : List (Nat × Event) := [(1500, .refresh), (1600, .reply 2 (.ok unspoken))]

theorem run_keepsTime_reshown :
    (Page.start .pushing true).kind ≠ .queried ∧ (Page.start .pushing true).hasNews = false ∧
    ((initial "b" usual (.start .pushing true)).run reshown).timer.current = some rearmed ∧
    ((initial "b" usual (.start .pushing true)).run reshown).wantedThroughout refreshed = true ∧
    ∃ a, (((initial "b" usual (.start .pushing true)).run reshown).run
      refreshed).timer.current = some a ∧ a.armedAt = 900 ∧ a.due = 2900 := by
  have tells : (Page.start .pushing true).kind ≠ .queried := by decide
  have fresh : (Page.start .pushing true).hasNews = false := by decide
  have current : ((initial "b" usual (.start .pushing true)).run reshown).timer.current =
      some rearmed := by decide +kernel
  have wanted : ((initial "b" usual (.start .pushing true)).run reshown).wantedThroughout
      refreshed = true := by decide +kernel
  have keeps := run_keepsTime "b" usual (.start .pushing true) tells fresh reshown
  exact ⟨tells, fresh, current, wanted, keeps.steady rearmed refreshed current wanted rfl⟩

end Dialogue.Conversation
