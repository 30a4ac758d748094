import Dialogue.Timer.Basic

/-! # A timer on a clock

A timer whose tasks take a given time, driven by commands and by a clock that only moves when it is
told to. The log tells when tasks started and ended. When several things are due, they happen in
the order of their instants, and a task that ends makes way for the next tick. -/

namespace Dialogue.Timer

/-- A task: the number under which it is logged, and how long it takes. A task that takes no time
ends as it starts, and only its start is logged. -/
structure Task where
  label : Nat
  duration : Nat
  deriving DecidableEq, Repr

/-- An entry of the log. -/
inductive Entry where
  | tick (label instant : Nat)
  | done (label instant : Nat)
  deriving DecidableEq, Repr

/-- A task under way: the arming it belongs to, and when it ends. -/
structure Running where
  arming : Nat
  label : Nat
  ends : Nat
  deriving DecidableEq, Repr

/-- A timer on a clock. -/
structure Run where
  now : Nat
  timer : Timer Task
  running : List Running
  log : List Entry
  asked : Nat
  dropped : Bool
  deriving DecidableEq, Repr

/-- What a timer can be told. -/
inductive Command where
  | arm (period : Period) (duration : Nat)
  | disarm
  | shutdown
  | drop
  | advance (ms : Nat)
  deriving DecidableEq, Repr

namespace Run

/-- A timer that has never been armed, at instant zero. -/
def start : Run := ⟨0, .idle, [], [], 0, false⟩

/-- The task under way that ends first; of several, the one that started first. -/
def firstToEnd? (r : Run) : Option Running :=
  r.running.foldl (fun best task =>
    match best with
    | none => some task
    | some b => if task.ends < b.ends then some task else some b) none

/-- Ends a task. -/
def finish (task : Running) (r : Run) : Run :=
  let now := max r.now task.ends
  { r with
    now
    timer := r.timer.finish task.arming
    running := r.running.erase task
    log := r.log ++ [.done task.label now] }

/-- Makes the tick that is due. -/
def fire (due : Nat) (r : Run) : Run :=
  let now := max r.now due
  match r.timer.fire now with
  | none => r
  | some (a, timer) =>
    let r : Run := { r with now, log := r.log ++ [.tick a.task.label now] }
    if a.task.duration = 0 then { r with timer := timer.finish a.id }
    else
      { r with
        timer
        running := r.running ++ [⟨a.id, a.task.label, now + a.task.duration⟩] }

/-- What happens next, if it happens by `target`. -/
def next? (target : Nat) (r : Run) : Option Run :=
  let tick := r.timer.nextTick?.filter (· ≤ target)
  match r.firstToEnd?.filter (·.ends ≤ target), tick with
  | some task, some due => some (if due < task.ends then r.fire due else r.finish task)
  | some task, none => some (r.finish task)
  | none, some due => some (r.fire due)
  | none, none => none

/-- Lets everything happen that is due by `target`, at most `fuel` things. -/
def settle (target : Nat) : Nat → Run → Run
  | 0, r => r
  | fuel + 1, r =>
    match r.next? target with
    | some r => settle target fuel r
    | none => r

/-- Moves the clock to `target`. Every tick that is due by then moves the next one on, and starts
at most one task, so twice that many things happen at most, beside the tasks under way. -/
def advanceTo (target : Nat) (r : Run) : Run :=
  { r.settle target (2 * (target + 1) + r.running.length) with now := target }

/-- Carries out a command. The result tells whether arming or disarming changed anything. -/
def apply (r : Run) : Command → Option Bool × Run
  | .advance ms => (none, r.advanceTo (r.now + ms))
  | .arm period duration =>
    if r.dropped then (none, r)
    else
      let r : Run := { r with asked := r.asked + 1 }
      (some (!r.timer.isArmed),
        { r with timer := r.timer.arm r.now period ⟨r.asked, duration⟩ })
  | .disarm =>
    if r.dropped then (none, r)
    else (some r.timer.isArmed, { r with timer := r.timer.disarm })
  | .shutdown => (none, if r.dropped then r else cutOff r)
  | .drop => (none, { cutOff r with dropped := true })
where
  /-- Shuts the timer down, and the task of its present arming with it. -/
  cutOff (r : Run) : Run :=
    { r with
      timer := r.timer.shutdown
      running := match r.timer.current with
        | some a => r.running.filter (·.arming ≠ a.id)
        | none => r.running }

end Run

end Dialogue.Timer
