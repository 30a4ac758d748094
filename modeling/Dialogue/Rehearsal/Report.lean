import Dialogue.Rehearsal.Basic

/-! # Reports

What a rehearsal tells after each of its steps. -/

namespace Dialogue

/-- What a step has led to: the calls that ended and that are still under way, by the numbers of
their steps, the calls of the remote side that were made, and what can be seen of the
conversation. -/
structure Row where
  step : Nat
  results : List (Nat × Except ActionError Unit)
  pending : List Nat
  instant : Nat
  calls : List CallRecord
  changed : Bool
  view : View
  confirmed : Nat
  polling : Option Bool
  output : Option (List Terminal.Output)

namespace Rehearsal

/-- The number of the step that a flight belongs to. -/
def stepOf? (f : Flight) : Option Nat :=
  match f.origin with
  | .step n => some n
  | _ => none

/-- The row of step `n`, and the rehearsal that starts the next one. -/
def report (n : Nat) (output : Option (List Terminal.Output)) (r : Rehearsal) :
    Row × Rehearsal :=
  let c := r.conversation
  ({ step := n
     results := r.results.mergeSort (·.1 ≤ ·.1)
     pending := (r.flights.filterMap stepOf?).mergeSort
     instant := r.now
     calls := r.calls
     changed := n ≠ 0 && !r.gone && r.seen ≠ c.published
     view := c.view
     confirmed := c.told
     polling := if r.dropped then none else some c.timer.isArmed
     output },
    { r with results := [], calls := [], seen := c.published })

/-- The rows of the steps from number `n` on. -/
def rows (n : Nat) (r : Rehearsal) : List Step → List Row
  | [] => []
  | step :: rest =>
    let (r, output) := r.apply n step
    let (row, r) := r.report n output
    row :: rows (n + 1) r rest

/-- A rehearsal that has just been set up. -/
def start (conversation : Conversation) (script : Script) : Rehearsal where
  now := 0
  conversation := conversation
  script := script
  released := []
  flights := []
  calls := []
  results := []
  dropped := false
  gone := false
  seen := 0
  shown := none

/-- Opens the conversation: starts its session and waits for the reply. -/
def opened (r : Rehearsal) : Rehearsal :=
  let r := (r.proceed .opening (r.conversation.act r.now .start)).settle
  match r.flights with
  | ⟨_, .opening, .arriving t, _⟩ :: _ => r.advanceTo t
  | _ => r

/-- All rows of a rehearsal. The first shows the conversation before any step. -/
def play (conversation : Conversation) (script : Script) (opening : Bool) (steps : List Step) :
    List Row :=
  let r := start conversation script
  let (row, r) := (if opening then r.opened else r).report 0 none
  row :: rows 1 r steps

end Rehearsal

end Dialogue
