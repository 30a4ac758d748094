import Dialogue.Rehearsal.Script
import Dialogue.Terminal.Input
import Dialogue.Terminal.Render

/-! # Rehearsals

A rehearsal plays a conversation against a script, on a clock that moves only when it is told to.
At every step everything happens that can happen at that instant: replies arrive that are due, the
timer ticks, and the conversation attends to the page. -/

namespace Dialogue

/-- What made a call of the remote side: opening the conversation, a step of the rehearsal, or a
tick of the timer. -/
inductive Origin where
  | opening
  | step (number : Nat)
  | tick
  deriving DecidableEq, Repr

/-- What a call waits for: the release of a hold and some time after it, or an instant. -/
inductive Wait where
  | hold (name : String) (delay : Nat)
  | arriving (instant : Nat)
  deriving DecidableEq, Repr

/-- A call that has not been answered. -/
structure Flight where
  seq : Nat
  origin : Origin
  wait : Wait
  reply : Reply

/-- A call that was made, and when. -/
structure CallRecord where
  call : Call
  instant : Nat

/-- A rehearsal. `gone` tells that the conversation has been given up: its handle was dropped and
no call is under way. `seen` is the number of views that the last row has accounted for. -/
structure Rehearsal where
  now : Nat
  conversation : Conversation
  script : Script
  released : List String
  flights : List Flight
  calls : List CallRecord
  results : List (Nat × Except ActionError Unit)
  dropped : Bool
  gone : Bool
  seen : Nat
  shown : Option View

/-- A step of a rehearsal. -/
inductive Step where
  | act (action : Action)
  | line (text : String)
  | advance (ms : Nat)
  | setActive (active : Bool)
  | release (hold : String)
  | render
  | drop
  | settle

namespace Rehearsal

/-- Notes the result of a call, if it belongs to a step. -/
def note (origin : Origin) (outcome : Outcome) (r : Rehearsal) : Rehearsal :=
  match origin, outcome with
  | .step n, .ended result => { r with results := r.results ++ [(n, result)] }
  | _, _ => r

/-- Delivers the reply to a request. -/
def deliver (origin : Origin) (seq : Nat) (reply : Reply) (r : Rehearsal) : Rehearsal :=
  let (conversation, outcome) := r.conversation.reply r.now seq reply
  { r with conversation }.note origin outcome

/-- What a reply waits for now. -/
def waitOf (reply : ScriptedReply) (r : Rehearsal) : Wait :=
  match reply.hold with
  | some name =>
    if r.released.contains name then .arriving (r.now + reply.delay) else .hold name reply.delay
  | none => .arriving (r.now + reply.delay)

/-- Goes on with an action that has reached its first request or its end. -/
def proceed (origin : Origin) (done : Conversation × Outcome) (r : Rehearsal) : Rehearsal :=
  let r : Rehearsal := { r with conversation := done.1 }
  match done.2 with
  | .waiting request =>
    let (reply, script) := r.script.take request.call.operation
    let r : Rehearsal := { r with script, calls := r.calls ++ [⟨request.call, r.now⟩] }
    let wait := r.waitOf reply
    if wait = .arriving r.now then r.deliver origin request.ticket.seq reply.reply
    else { r with flights := r.flights ++ [⟨request.ticket.seq, origin, wait, reply.reply⟩] }
  | outcome => r.note origin outcome

/-- Gives the conversation up if its handle is dropped and no call is under way. -/
def giveUp (r : Rehearsal) : Rehearsal :=
  if r.dropped && !r.gone && r.flights.isEmpty then
    { r with
      gone := true
      conversation := { r.conversation with timer := r.conversation.timer.shutdown } }
  else r

/-- Whether a flight arrives at this instant. -/
def arrives (now : Nat) (f : Flight) : Bool :=
  match f.wait with
  | .arriving t => t ≤ now
  | .hold .. => false

/-- The first thing that can happen at this instant. -/
def next? (r : Rehearsal) : Option Rehearsal :=
  if r.gone then none
  else if r.conversation.page.hasNews then
    some { r with conversation := r.conversation.attendPage r.now }
  else match r.flights.find? (arrives r.now) with
    | some f =>
      let r : Rehearsal := { r with flights := r.flights.filter (·.seq ≠ f.seq) }
      some (r.deliver f.origin f.seq f.reply)
    | none =>
      match r.conversation.timer.fire r.now with
      | none => none
      | some (arming, _) =>
        let ticked := (r.conversation.tick r.now).1
        some (r.proceed .tick (ticked.poll r.now arming.id))

/-- Lets everything happen that can happen at this instant, at most `fuel` things. -/
def settleWithin : Nat → Rehearsal → Rehearsal
  | 0, r => r.giveUp
  | fuel + 1, r =>
    match r.next? with
    | some r => settleWithin fuel r.giveUp
    | none => r.giveUp

/-- Lets everything happen that can happen at this instant. Every tick moves the next one on and
makes at most one call, so there are at most twice as many things as instants so far, beside the
calls under way and a change of the page. -/
def settle (r : Rehearsal) : Rehearsal :=
  r.settleWithin (2 * (r.now + 2) + r.flights.length)

/-- The next instant at which something happens by itself. -/
def nextInstant? (r : Rehearsal) : Option Nat :=
  let arrivals := r.flights.filterMap fun f =>
    match f.wait with
    | .arriving t => some t
    | .hold .. => none
  (r.conversation.timer.nextTick?.toList ++ arrivals).min?

/-- Moves the clock to `target`, and lets everything happen on the way. -/
def advanceTo (target : Nat) (r : Rehearsal) : Rehearsal :=
  match r.nextInstant? with
  | none => { r with now := target }
  | some t =>
    if h : r.now < t ∧ t ≤ target then
      advanceTo target ({ { r with now := t }.settle with now := t })
    else { r with now := target }
termination_by target - r.now
decreasing_by show target - t < target - r.now; omega

/-- Releases a hold: the flights that wait for it go on. -/
def releaseHold (name : String) (r : Rehearsal) : Rehearsal :=
  { r with
    released := name :: r.released
    flights := r.flights.map fun f =>
      match f.wait with
      | .hold held delay => if held = name then { f with wait := .arriving (r.now + delay) } else f
      | .arriving _ => f }

/-- Carries out step number `n`, and returns what it prints. -/
def apply (n : Nat) (r : Rehearsal) : Step → Rehearsal × Option (List Terminal.Output)
  | .act action =>
    (if r.dropped then r
      else (r.proceed (.step n) (r.conversation.act r.now action)).settle, none)
  | .line text =>
    (if r.dropped then r
      else (r.proceed (.step n) (Terminal.handle r.now text r.conversation)).settle, none)
  | .advance ms => (r.advanceTo (r.now + ms), none)
  | .setActive active =>
    let conversation := { r.conversation with page := r.conversation.page.set active }
    ({ r with conversation }.settle, none)
  | .release name => ((r.releaseHold name).settle, none)
  | .render =>
    let view := r.conversation.view
    ({ r with shown := some view }, some (Terminal.render view r.shown))
  | .drop => ({ r with dropped := true }.settle, none)
  | .settle => (r.settle, none)

end Rehearsal

end Dialogue
