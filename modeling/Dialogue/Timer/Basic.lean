/-! # The timer

A timer that can be armed with a period and a task ticks once every period, for the first time one
period after it was armed. Ticks of one arming run one after the other: while a task is busy the
ticks that fall due are not lost but merged into one, which runs as soon as the task is idle, and
the ticks after it keep to the grid of the arming. A tick that is hardly late counts as on time.

Disarming lets a busy task finish; shutting down cuts it off. -/

namespace Dialogue

/-- A period of time in milliseconds, which is not empty. -/
structure Period where
  ms : Nat
  pos : 0 < ms
  deriving DecidableEq, Repr

/-- The period of so many milliseconds, unless that is none. -/
def Period.ofMs? (ms : Nat) : Option Period := if h : 0 < ms then some ⟨ms, h⟩ else none

/-- The time from arming a timer to disarming it. `due` is the instant of its next tick, and
`busy` tells that its task is running. -/
structure Arming (Task : Type) where
  id : Nat
  task : Task
  armedAt : Nat
  period : Period
  due : Nat
  busy : Bool
  deriving DecidableEq, Repr

/-- A timer: what it is armed with, the disarmed armings whose task is still running, and how many
armings there have been. -/
structure Timer (Task : Type) where
  current : Option (Arming Task)
  leaving : List (Arming Task)
  count : Nat
  deriving DecidableEq, Repr

/-- How late a tick may be, in milliseconds, and still count as on time. -/
def lateness : Nat := 5

/-- The instant of the tick after one that was due at `due` and runs at `now`. -/
def nextDue (due now : Nat) (period : Period) : Nat :=
  if due + lateness < now then now + period.ms - (now - due) % period.ms else due + period.ms

namespace Timer

variable {Task : Type}

/-- A timer that has never been armed. -/
def idle : Timer Task := ⟨none, [], 0⟩

/-- Whether the timer is armed. -/
def isArmed (t : Timer Task) : Bool := t.current.isSome

/-- Arms the timer, unless it is armed already. -/
def arm (now : Nat) (period : Period) (task : Task) (t : Timer Task) : Timer Task :=
  match t.current with
  | some _ => t
  | none =>
    { t with
      current := some ⟨t.count + 1, task, now, period, now + period.ms, false⟩
      count := t.count + 1 }

/-- Disarms the timer. A busy task goes on. -/
def disarm (t : Timer Task) : Timer Task :=
  match t.current with
  | none => t
  | some a => { t with current := none, leaving := if a.busy then a :: t.leaving else t.leaving }

/-- Disarms the timer and cuts off its task. Tasks of earlier armings go on. -/
def shutdown (t : Timer Task) : Timer Task := { t with current := none }

/-- The instant of the next tick, unless it has to wait for the task. -/
def nextTick? (t : Timer Task) : Option Nat :=
  t.current.bind fun a => if a.busy then none else some a.due

/-- Makes the tick that is due by `now`, if there is one: the task starts, and the next tick is set.
Returns the arming that ticked. -/
def fire (now : Nat) (t : Timer Task) : Option (Arming Task × Timer Task) :=
  match t.current with
  | none => none
  | some a =>
    if a.busy || now < a.due then none
    else
      let a' := { a with due := nextDue a.due now a.period, busy := true }
      some (a, { t with current := some a' })

/-- The task of an arming has finished. -/
def finish (id : Nat) (t : Timer Task) : Timer Task :=
  { t with
    current := t.current.map fun a => if a.id = id then { a with busy := false } else a
    leaving := t.leaving.filter (·.id ≠ id) }

end Timer

/-- The next tick comes strictly later. -/
theorem lt_nextDue (due now : Nat) (period : Period) : due < nextDue due now period := by
  have := period.pos
  unfold nextDue
  split
  · have := Nat.mod_le (now - due) period.ms
    omega
  · omega

end Dialogue
