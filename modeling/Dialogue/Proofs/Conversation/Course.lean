import Dialogue.Conversation.Run
import Dialogue.Proofs.Conversation.State

/-! # What an event makes of a conversation

`Change` tells what an event can do to the state and to the requests. `Leads` tells the same of the
conversation as a whole: which part of it an event touches, and whether it ends with a commit. What
is kept by the commits, by the ends and the starts of the timer's tasks and by the changes of the
page is kept by every event, which `step_leads` says once for all. -/

namespace Dialogue

/-- Whether an event is a part of an action or the task of a tick. -/
def Event.isCall : Event → Bool
  | .reply _ _ => false
  | .tick => false
  | .setPage _ => false
  | .attendPage => false
  | _ => true

/-- The reply seals the goal: its request is a current confirmation, and it brings the session that
was asked about, confirmed. -/
def State.Seals (st : State) (r : Request) (reply : Reply) : Prop :=
  st.ledger.isCurrent r.ticket = true ∧ r.call.operation = .confirm ∧
    ∃ s, r.call.check reply = .ok s

namespace Conversation

/-- The conversation without a request. -/
def without (r : Request) (c : Conversation) : Conversation :=
  { c with pending := c.pending.erase r }

/-- What the reply to a request makes of a conversation, from which the request has been taken. -/
inductive Answers (now : Nat) (c : Conversation) (r : Request) (reply : Reply) :
    Conversation → Prop where
  | dropped (unsealed : ¬ c.state.Seals r reply) : Answers now c r reply c
  | taken (unsealed : ¬ c.state.Seals r reply) (st : State) :
      Answers now c r reply (c.change now st)
  | confirmed (seals : c.state.Seals r reply) (st : State) :
      Answers now c r reply (c.change now st).tellHost

/-- What an event makes of a conversation. -/
inductive Leads (now : Nat) (c : Conversation) : Event → Conversation → Prop where
  | rested {event : Event} (call : event.isCall = true) : c.Leads now event c
  | committed {event : Event} (call : event.isCall = true) (st : State)
      (pending : List Request) :
      c.Leads now event ({ c with pending := pending }.change now st)
  | moved (boardId : String) :
      c.Leads now (.switchBoard boardId)
        ({ c with timer := c.timer.disarm }.change now (moved c.state boardId))
  | closed :
      c.Leads now .shutdown
        { c.change now (closed c.state) with
          timer := (c.change now (closed c.state)).timer.shutdown }
  | early (undue : c.timer.fire now = none) : c.Leads now .tick c
  | ticked {a : Arming Unit} {timer : Timer Unit} (fired : c.timer.fire now = some (a, timer)) :
      c.Leads now .tick { c with timer := timer }
  | finished (arming : Nat) :
      c.Leads now (.poll arming) { c with timer := c.timer.finish arming }
  | turned (active : Bool) :
      c.Leads now (.setPage active) { c with page := c.page.set active }
  | unattended (seen : c.page.hasNews = false) : c.Leads now .attendPage c
  | attended (news : c.page.hasNews = true) :
      c.Leads now .attendPage ({ c with page := c.page.see }.syncTimer now)
  | missed {seq : Nat} {reply : Reply}
      (missing : c.pending.find? (·.ticket.seq = seq) = none) : c.Leads now (.reply seq reply) c
  | answered {seq : Nat} {reply : Reply} {r : Request} {c' : Conversation}
      (found : c.pending.find? (·.ticket.seq = seq) = some r)
      (answers : (c.without r).Answers now r reply c') :
      c.Leads now (.reply seq reply) (c'.finishPoll r)

section Parts

variable (now : Nat) (c : Conversation)

theorem change_leads {event : Event} (call : event.isCall = true) (st : State) :
    c.Leads now event (c.change now st) :=
  .committed call st c.pending

theorem send_leads {event : Event} (call : event.isCall = true) (st : State) (asked : Call)
    (poll : Option Nat) : c.Leads now event (c.send now st asked poll).1 :=
  .committed call _ _

theorem start_leads : c.Leads now .start (c.start now).1 := by
  unfold start
  dsimp only
  split
  · exact .rested rfl
  · split
    · exact .rested rfl
    · exact send_leads now c rfl _ _ _

theorem refresh_leads : c.Leads now .refresh (c.refresh now).1 := by
  unfold refresh
  dsimp only
  split
  · exact .rested rfl
  · split
    · exact .rested rfl
    · exact send_leads now c rfl _ _ _

theorem poll_leads (arming : Nat) : c.Leads now (.poll arming) (c.poll now arming).1 := by
  unfold poll
  dsimp only
  split
  · exact .finished arming
  · split
    · exact .finished arming
    · exact send_leads now c rfl _ _ _

theorem submit_leads {event : Event} (call : event.isCall = true) (answer : Answer) :
    c.Leads now event (c.submit now answer).1 := by
  unfold submit
  dsimp only
  split
  · exact .rested call
  · split
    · exact .rested call
    · split
      · exact .rested call
      · split
        · exact .rested call
        · exact .rested call
        · exact send_leads now c call _ _ _

theorem select_leads (label : String) : c.Leads now (.select label) (c.select now label).1 := by
  unfold select
  dsimp only
  split
  · exact .rested rfl
  · split
    · exact .rested rfl
    · split
      · exact .rested rfl
      · exact change_leads now c rfl _

theorem submitSelection_leads : c.Leads now .submitSelection (c.submitSelection now).1 := by
  unfold submitSelection
  split
  · exact submit_leads now c rfl _
  · exact .rested rfl

theorem confirm_leads : c.Leads now .confirm (c.confirm now).1 := by
  unfold confirm
  dsimp only
  split
  · exact .rested rfl
  · split
    · exact .rested rfl
    · split
      · exact .rested rfl
      · split
        · exact .rested rfl
        · split
          · exact .rested rfl
          · exact send_leads now c rfl _ _ _

theorem clearError_leads : c.Leads now .clearError (c.clearError now).1 := by
  unfold clearError
  dsimp only
  split
  · exact .rested rfl
  · split
    · exact .rested rfl
    · split
      · exact change_leads now c rfl _
      · exact change_leads now c rfl _

theorem switchBoard_leads (boardId : String) :
    c.Leads now (.switchBoard boardId) (c.switchBoard now boardId).1 := by
  unfold switchBoard
  dsimp only
  split
  · exact .rested rfl
  · split
    · exact .rested rfl
    · exact .moved boardId

theorem shutdown_leads : c.Leads now .shutdown (c.shutdown now).1 := by
  unfold shutdown
  split
  · exact .rested rfl
  · exact .closed

theorem tick_leads : c.Leads now .tick (c.tick now).1 := by
  unfold tick
  split
  · rename_i undue
    exact .early undue
  · rename_i a timer fired
    exact .ticked fired

theorem attendPage_leads : c.Leads now .attendPage (c.attendPage now) := by
  unfold attendPage
  split
  · rename_i news
    exact .attended news
  · rename_i seen
    rw [Bool.not_eq_true] at seen
    exact .unattended seen

/-- A late reply seals nothing. -/
theorem not_seals_of_late {st : State} {r : Request} (reply : Reply)
    (late : (!st.ledger.isCurrent r.ticket) = true) : ¬ st.Seals r reply := by
  rintro ⟨current, -⟩
  rw [current] at late
  cases late

/-- Only the reply to a confirmation seals anything. -/
theorem not_seals_of_call (st : State) {r : Request} {call : Call} (same : r.call = call)
    (reply : Reply) (other : call.operation ≠ .confirm) : ¬ st.Seals r reply := by
  rintro ⟨-, confirm, -⟩
  rw [same] at confirm
  exact other confirm

/-- An error seals nothing. -/
theorem not_seals_of_error {st : State} {r : Request} {call : Call} (same : r.call = call)
    {reply : Reply} {error : ServiceError} (refused : call.check reply = .error error) :
    ¬ st.Seals r reply := by
  rintro ⟨-, -, s, passed⟩
  rw [same, refused] at passed
  cases passed

theorem replyStart_answers {r : Request} {b : String} (call : r.call = .start b) (reply : Reply) :
    c.Answers now r reply (c.replyStart now r.ticket b reply).1 := by
  have unsealed := not_seals_of_call c.state call reply Operation.noConfusion
  unfold replyStart
  split
  · exact .dropped unsealed
  · dsimp only
    split
    · exact .taken unsealed _
    · exact .taken unsealed _

theorem replyRefresh_answers {r : Request} {b i : String} (call : r.call = .get b i)
    (reply : Reply) : c.Answers now r reply (c.replyRefresh now r.ticket reply).1 := by
  have unsealed := not_seals_of_call c.state call reply Operation.noConfusion
  unfold replyRefresh
  dsimp only
  split
  · exact .taken unsealed _
  · split
    · exact .taken unsealed _
    · exact .taken unsealed _

theorem replyAnswer_answers {r : Request} {b i : String} {answer : Answer}
    (call : r.call = .answer b i answer) (reply : Reply) :
    c.Answers now r reply (c.replyAnswer now r.ticket b i reply).1 := by
  have unsealed := not_seals_of_call c.state call reply Operation.noConfusion
  unfold replyAnswer
  split
  · exact .dropped unsealed
  · dsimp only
    split
    · exact .taken unsealed _
    · exact .taken unsealed _

theorem replyConfirm_answers {r : Request} {b i : String} (call : r.call = .confirm b i)
    (reply : Reply) : c.Answers now r reply (c.replyConfirm now r.ticket b i reply).1 := by
  unfold replyConfirm
  split
  · rename_i late
    exact .dropped (not_seals_of_late reply late)
  · rename_i current
    rw [Bool.not_eq_true, Bool.not_eq_false'] at current
    dsimp only
    split
    · rename_i s passed
      refine .confirmed ⟨current, ?_, s, ?_⟩ _
      · rw [call]
        rfl
      · rw [call]
        exact passed
    · rename_i error refused
      exact .taken (not_seals_of_error call refused) _

theorem replyTo_answers (r : Request) (reply : Reply) :
    c.Answers now r reply (c.replyTo now r reply).1 := by
  unfold replyTo
  split
  · rename_i b call
    exact replyStart_answers now c call reply
  · rename_i b i call
    exact replyRefresh_answers now c call reply
  · rename_i b i answer call
    exact replyAnswer_answers now c call reply
  · rename_i b i call
    exact replyConfirm_answers now c call reply

theorem reply_leads (seq : Nat) (reply : Reply) :
    c.Leads now (.reply seq reply) (c.reply now seq reply).1 := by
  unfold Conversation.reply
  split
  · rename_i missing
    exact .missed missing
  · rename_i r found
    exact .answered found (replyTo_answers now (c.without r) r reply)

end Parts

/-- Every event leads to one of these conversations. -/
theorem step_leads (now : Nat) (c : Conversation) (event : Event) :
    c.Leads now event (c.step now event).1 := by
  cases event with
  | start => exact start_leads now c
  | refresh => exact refresh_leads now c
  | submit answer => exact submit_leads now c rfl answer
  | select label => exact select_leads now c label
  | submitSelection => exact submitSelection_leads now c
  | submitText text => exact submit_leads now c rfl _
  | confirm => exact confirm_leads now c
  | clearError => exact clearError_leads now c
  | switchBoard boardId => exact switchBoard_leads now c boardId
  | shutdown => exact shutdown_leads now c
  | reply seq reply => exact reply_leads now c seq reply
  | tick => exact tick_leads now c
  | poll arming => exact poll_leads now c arming
  | setPage active => exact .turned active
  | attendPage => exact attendPage_leads now c

end Conversation

end Dialogue
