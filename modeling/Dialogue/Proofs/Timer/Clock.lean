import Dialogue.Proofs.Timer
import Dialogue.Proofs.Timer.Timetable

/-! # The clock moves on

A timer on a clock does one thing after another (`Happens`): a task ends, or a tick is made. What is
kept by each of them is kept while the clock moves on, and the clock does not move past anything
that is due. -/

namespace Dialogue.Timer

/-- The command cuts off the task of the arming that it ends. -/
def Command.CutsOff (c : Command) : Prop := c = .shutdown ∨ c = .drop

/-- The command ends an arming. -/
def Command.Stops (c : Command) : Prop := c = .disarm ∨ c.CutsOff

namespace Run

variable {r r' : Run} {target : Nat}

/-- A task has ended. -/
structure Ends (r : Run) (task : Running) (r' : Run) : Prop where
  now : r'.now = max r.now task.ends
  current : r'.timer.current =
    r.timer.current.map fun a => if a.id = task.arming then { a with busy := false } else a
  count : r'.timer.count = r.timer.count
  running : r'.running = r.running.erase task
  log : r'.log = r.log ++ [.done task.label (max r.now task.ends)]
  asked : r'.asked = r.asked
  dropped : r'.dropped = r.dropped

/-- An arming has ticked, and its task has started. A task that takes no time has ended too. -/
structure Starts (r : Run) (a : Arming Task) (r' : Run) : Prop where
  now : r'.now = max r.now a.due
  current : r'.timer.current =
    some { a with due := nextDue a.due (max r.now a.due) a.period, busy := 0 < a.task.duration }
  count : r'.timer.count = r.timer.count
  running : r'.running = r.running ++
    if 0 < a.task.duration then
      [⟨a.id, a.task.label, max r.now a.due + a.task.duration⟩]
    else []
  log : r'.log = r.log ++ [.tick a.task.label (max r.now a.due)]
  asked : r'.asked = r.asked
  dropped : r'.dropped = r.dropped

/-- The next thing that happens by the instant `target`. -/
inductive Happens (target : Nat) (r : Run) (r' : Run) : Prop
  | ended (task : Running) (underWay : task ∈ r.running) (inTime : task.ends ≤ target)
    (first : ∀ other ∈ r.running, task.ends ≤ other.ends)
    (before : ∀ a, r.timer.current = some a → a.busy = false → task.ends ≤ a.due)
    (ends : r.Ends task r')
  | ticked (a : Arming Task) (current : r.timer.current = some a) (idle : a.busy = false)
    (inTime : a.due ≤ target) (before : ∀ task ∈ r.running, a.due < task.ends)
    (starts : r.Starts a r')

/-- Nothing is due by the instant `target`. -/
structure Settled (target : Nat) (r : Run) : Prop where
  running : ∀ task ∈ r.running, target < task.ends
  current : ∀ a, r.timer.current = some a → a.busy = false → target < a.due

/-- The one of two tasks that ends first. -/
def earlier (best : Option Running) (task : Running) : Option Running :=
  match best with
  | none => some task
  | some b => if task.ends < b.ends then some task else some b

theorem foldl_earlier (tasks : List Running) :
    ∀ best : Running, ∃ first, tasks.foldl earlier (some best) = some first ∧
      (first = best ∨ first ∈ tasks) ∧ first.ends ≤ best.ends ∧
        ∀ other ∈ tasks, first.ends ≤ other.ends := by
  induction tasks with
  | nil => exact fun best => ⟨best, rfl, .inl rfl, Nat.le_refl _, nofun⟩
  | cons task rest ih =>
    intro best
    rw [List.foldl_cons, earlier]
    by_cases sooner : task.ends < best.ends
    · obtain ⟨first, found, among, atMost, least⟩ := ih task
      refine ⟨first, by rw [if_pos sooner, found], ?_, by omega, ?_⟩
      · rcases among with rfl | later
        · exact .inr (List.mem_cons_self ..)
        · exact .inr (List.mem_cons_of_mem _ later)
      · rintro other (_ | ⟨_, member⟩)
        · exact atMost
        · exact least other member
    · obtain ⟨first, found, among, atMost, least⟩ := ih best
      refine ⟨first, by rw [if_neg sooner, found], ?_, atMost, ?_⟩
      · exact among.imp_right (List.mem_cons_of_mem _)
      · rintro other (_ | ⟨_, member⟩)
        · omega
        · exact least other member

/-- The first task to end is one that is under way, and no other ends before it. -/
theorem firstToEnd?_cases (r : Run) :
    (r.firstToEnd? = none ∧ r.running = []) ∨
      ∃ task ∈ r.running, r.firstToEnd? = some task ∧
        ∀ other ∈ r.running, task.ends ≤ other.ends := by
  have folded : r.firstToEnd? = r.running.foldl earlier none := rfl
  cases tasks : r.running with
  | nil => exact .inl ⟨by rw [folded, tasks]; rfl, rfl⟩
  | cons task rest =>
    obtain ⟨first, found, among, atMost, least⟩ := foldl_earlier rest task
    refine .inr ⟨first, ?_, by rw [folded, tasks]; exact found, ?_⟩
    · exact List.mem_cons.mpr among
    · rintro other (_ | ⟨_, member⟩)
      · exact atMost
      · exact least other member

theorem finish_ends (r : Run) (task : Running) : r.Ends task (r.finish task) where
  now := rfl
  current := rfl
  count := rfl
  running := rfl
  log := rfl
  asked := rfl
  dropped := rfl

theorem fire_starts {a : Arming Task} (current : r.timer.current = some a)
    (idle : a.busy = false) : r.Starts a (r.fire a.due) := by
  have inTime : a.due ≤ max r.now a.due := Nat.le_max_right _ _
  have fired := fire_of_due current idle inTime
  unfold Run.fire
  dsimp only
  rw [fired]
  dsimp only
  by_cases instant : a.task.duration = 0
  · rw [if_pos instant]
    constructor <;> simp [Timer.finish, instant]
  · have long : 0 < a.task.duration := Nat.pos_of_ne_zero instant
    rw [if_neg instant]
    constructor <;> simp [long]

theorem nextTick?_eq_some {due : Nat} :
    r.timer.nextTick? = some due ↔
      ∃ a, r.timer.current = some a ∧ a.busy = false ∧ a.due = due := by
  unfold nextTick?
  rw [Option.bind_eq_some_iff]
  refine exists_congr fun a => and_congr_right fun _ => ?_
  cases a.busy with
  | true => simp
  | false => simp

theorem firstToEnd?_of_filter {task : Running}
    (found : r.firstToEnd?.filter (·.ends ≤ target) = some task) :
    task ∈ r.running ∧ task.ends ≤ target ∧ ∀ other ∈ r.running, task.ends ≤ other.ends := by
  obtain ⟨isFirst, inTime⟩ := Option.filter_eq_some_iff.mp found
  rcases r.firstToEnd?_cases with ⟨none, -⟩ | ⟨task', underWay, isFirst', first⟩
  · rw [none] at isFirst
    cases isFirst
  · obtain rfl := Option.some.inj (isFirst.symm.trans isFirst')
    exact ⟨underWay, of_decide_eq_true inTime, first⟩

/-- No task ends by the instant `target` when the first one does not. -/
theorem lt_ends_of_filter (none : r.firstToEnd?.filter (·.ends ≤ target) = none) :
    ∀ task ∈ r.running, target < task.ends := by
  intro task underWay
  rcases r.firstToEnd?_cases with ⟨-, noTask⟩ | ⟨first, -, isFirst, least⟩
  · rw [noTask] at underWay
    cases underWay
  · have late := Option.filter_eq_none_iff.mp none first isFirst
    have least := least task underWay
    rw [decide_eq_true_eq] at late
    omega

/-- No tick is due by the instant `target` when the next one is not. -/
theorem lt_due_of_filter (none : r.timer.nextTick?.filter (· ≤ target) = none) (a : Arming Task)
    (current : r.timer.current = some a) (idle : a.busy = false) : target < a.due := by
  have late := Option.filter_eq_none_iff.mp none a.due (nextTick?_eq_some.mpr ⟨a, current, idle, rfl⟩)
  rw [decide_eq_true_eq] at late
  omega

/-- What happens next is the end of the first task to end, or the tick that is due before that. -/
theorem happens_of_next? (next : r.next? target = some r') : r.Happens target r' := by
  unfold next? at next
  dsimp only at next
  split at next
  · rename_i task due ending ticking
    obtain ⟨underWay, inTime, first⟩ := firstToEnd?_of_filter ending
    obtain ⟨isNext, inTime'⟩ := Option.filter_eq_some_iff.mp ticking
    obtain ⟨a, current, idle, rfl⟩ := nextTick?_eq_some.mp isNext
    obtain rfl := Option.some.inj next
    by_cases sooner : a.due < task.ends
    · rw [if_pos sooner]
      refine .ticked a current idle (of_decide_eq_true inTime') ?_ (fire_starts current idle)
      exact fun other member => Nat.lt_of_lt_of_le sooner (first other member)
    · rw [if_neg sooner]
      refine .ended task underWay inTime first ?_ (r.finish_ends task)
      intro a' current' idle'
      obtain rfl := Option.some.inj (current.symm.trans current')
      exact Nat.le_of_not_lt sooner
  · rename_i task ending noTick
    obtain ⟨underWay, inTime, first⟩ := firstToEnd?_of_filter ending
    obtain rfl := Option.some.inj next
    refine .ended task underWay inTime first ?_ (r.finish_ends task)
    intro a current idle
    exact Nat.le_of_lt (Nat.lt_of_le_of_lt inTime (lt_due_of_filter noTick a current idle))
  · rename_i due noEnd ticking
    obtain ⟨isNext, inTime⟩ := Option.filter_eq_some_iff.mp ticking
    obtain ⟨a, current, idle, rfl⟩ := nextTick?_eq_some.mp isNext
    obtain rfl := Option.some.inj next
    have inTime := of_decide_eq_true inTime
    refine .ticked a current idle inTime ?_ (fire_starts current idle)
    exact fun task member => Nat.lt_of_le_of_lt inTime (lt_ends_of_filter noEnd task member)
  · cases next

theorem settled_of_next? (next : r.next? target = none) : r.Settled target := by
  unfold next? at next
  dsimp only at next
  split at next
  · cases next
  · cases next
  · cases next
  · rename_i noEnd noTick
    exact ⟨lt_ends_of_filter noEnd, lt_due_of_filter noTick⟩

/-- What is kept by everything that happens is kept while the clock moves on. -/
theorem settle_keeps {P : Run → Prop} (keeps : ∀ r r', P r → r.Happens target r' → P r')
    (fuel : Nat) : ∀ {r : Run}, P r → P (r.settle target fuel) := by
  induction fuel with
  | zero => exact id
  | succ fuel ih =>
    intro r holds
    rw [settle]
    split
    · rename_i r' next
      exact ih (keeps r r' holds (happens_of_next? next))
    · exact holds

/-- A bound on how much can happen by the instant `target`: two things for every instant at which
the next tick can be, and one for every task under way. -/
def left (target : Nat) (r : Run) : Nat :=
  (match r.timer.current with
    | some a => 2 * (target + 1 - a.due)
    | none => 0) + r.running.length

theorem Happens.left_lt (h : r.Happens target r') : r'.left target < r.left target := by
  cases h with
  | ended task underWay inTime first before ends =>
    have shorter := List.length_erase_of_mem underWay
    have some_task := List.length_pos_of_mem underWay
    unfold left
    rw [ends.current, ends.running]
    cases r.timer.current with
    | none =>
      simp only [Option.map_none]
      omega
    | some a =>
      have due : (if a.id = task.arming then { a with busy := false } else a).due = a.due := by
        split <;> rfl
      simp only [Option.map_some, due]
      omega
  | ticked a current idle inTime before starts =>
    have later := lt_nextDue a.due (max r.now a.due) a.period
    unfold left
    rw [starts.current, starts.running, current, List.length_append]
    dsimp only
    split
    · rw [List.length_singleton]
      omega
    · rw [List.length_nil]
      omega

/-- Nothing is due any more when the clock has been given enough to do. -/
theorem settle_settled (fuel : Nat) :
    ∀ {r : Run}, r.left target ≤ fuel → (r.settle target fuel).Settled target := by
  induction fuel with
  | zero =>
    intro r enough
    rw [settle]
    cases next : r.next? target with
    | none => exact settled_of_next? next
    | some r' =>
      have less := (happens_of_next? next).left_lt
      omega
  | succ fuel ih =>
    intro r enough
    rw [settle]
    split
    · rename_i r' next
      have less := (happens_of_next? next).left_lt
      exact ih (by omega)
    · rename_i next
      exact settled_of_next? next

theorem left_le (r : Run) (target : Nat) :
    r.left target ≤ 2 * (target + 1) + r.running.length := by
  unfold left
  split <;> omega

/-- The clock moves to an instant after everything that is due by then has happened. -/
theorem advanceTo_cases (later : r.now ≤ target) :
    ∃ r' : Run, (∀ P : Run → Prop, (∀ s s', P s → s.Happens target s' → P s') → P r → P r') ∧
      r'.now ≤ target ∧ r'.Settled target ∧ r.advanceTo target = { r' with now := target } := by
  have inTime : ∀ s s' : Run, s.now ≤ target → s.Happens target s' → s'.now ≤ target := by
    intro s s' before happens
    cases happens with
    | ended task underWay inTime first before' ends => rw [ends.now]; exact Nat.max_le.mpr ⟨before, inTime⟩
    | ticked a current idle inTime before' starts => rw [starts.now]; exact Nat.max_le.mpr ⟨before, inTime⟩
  exact ⟨_, fun P keeps => settle_keeps keeps _, settle_keeps inTime _ later,
    settle_settled _ (r.left_le target), rfl⟩

/-! ## Commands -/

/-- What the timer is armed with when it is told so. -/
def arming (r : Run) (period : Period) (duration : Nat) : Arming Task :=
  ⟨r.timer.count + 1, ⟨r.asked + 1, duration⟩, r.now, period, r.now + period.ms, false⟩

/-- What a command makes of a timer on a clock. -/
inductive Obeys (r : Run) : Command → Run → Prop
  | advanced {ms : Nat} {s : Run}
    (keeps : ∀ P : Run → Prop, (∀ s s', P s → s.Happens (r.now + ms) s' → P s') → P r → P s)
    (inTime : s.now ≤ r.now + ms) (settled : s.Settled (r.now + ms)) :
    Obeys r (.advance ms) { s with now := r.now + ms }
  | rested {c : Command} {asked : Nat} {dropped : Bool}
    (free : c.Stops → r.timer.current = none) (more : r.asked ≤ asked)
    (gone : dropped = true → r.dropped = true ∨ r.timer.current = none) :
    Obeys r c { r with asked, dropped }
  | armed {period : Period} {duration : Nat} (kept : r.dropped = false)
    (free : r.timer.current = none) :
    Obeys r (.arm period duration)
      { r with
        asked := r.asked + 1
        timer :=
          { r.timer with
            current := some (r.arming period duration)
            count := r.timer.count + 1 } }
  | disarmed {b : Arming Task} {leaving : List (Arming Task)}
    (current : r.timer.current = some b) :
    Obeys r .disarm { r with timer := { r.timer with current := none, leaving } }
  | cutOff {c : Command} {b : Arming Task} {dropped : Bool} (cuts : c.CutsOff)
    (current : r.timer.current = some b) :
    Obeys r c
      { r with
        timer := { r.timer with current := none }
        running := r.running.filter (·.arming ≠ b.id)
        dropped }

theorem shutdown_of_free {t : Timer Task} (free : t.current = none) : t.shutdown = t := by
  unfold Timer.shutdown
  rw [← free]

theorem cutOff_of_free (free : r.timer.current = none) : apply.cutOff r = r := by
  unfold apply.cutOff
  rw [shutdown_of_free free, free]

theorem cutOff_of_armed {b : Arming Task} (current : r.timer.current = some b) :
    apply.cutOff r =
      { r with
        timer := { r.timer with current := none }
        running := r.running.filter (·.arming ≠ b.id) } := by
  unfold apply.cutOff Timer.shutdown
  rw [current]

/-- A command that is not heard changes nothing. -/
theorem obeys_refl {c : Command} (free : c.Stops → r.timer.current = none) : r.Obeys c r :=
  .rested free (Nat.le_refl _) .inl

theorem not_stops_arm (period : Period) (duration : Nat) :
    ¬ (Command.arm period duration).Stops := by
  simp [Command.Stops, Command.CutsOff]

theorem arm_obeys (r : Run) (period : Period) (duration : Nat) :
    r.Obeys (.arm period duration) (r.apply (.arm period duration)).2 := by
  have goesOn := not_stops_arm period duration
  cases kept : r.dropped with
  | true =>
    have result : (r.apply (.arm period duration)).2 = r := by simp [apply, kept]
    rw [result]
    exact obeys_refl fun stops => absurd stops goesOn
  | false =>
    have result : (r.apply (.arm period duration)).2 =
        { r with
          asked := r.asked + 1
          timer := r.timer.arm r.now period ⟨r.asked + 1, duration⟩ } := by
      simp [apply, kept]
    rw [result, Timer.arm]
    split
    · exact .rested (fun stops => absurd stops goesOn) (Nat.le_succ _) .inl
    · rename_i free
      exact .armed kept free

theorem disarm_obeys (gone : r.dropped = true → r.timer.current = none) :
    r.Obeys .disarm (r.apply .disarm).2 := by
  cases kept : r.dropped with
  | true =>
    have result : (r.apply .disarm).2 = r := by simp [apply, kept]
    rw [result]
    exact obeys_refl fun _ => gone kept
  | false =>
    have result : (r.apply .disarm).2 = { r with timer := r.timer.disarm } := by
      simp [apply, kept]
    rw [result, Timer.disarm]
    split
    · rename_i free
      exact obeys_refl fun _ => free
    · rename_i b current
      exact .disarmed current

theorem shutdown_obeys (gone : r.dropped = true → r.timer.current = none) :
    r.Obeys .shutdown (r.apply .shutdown).2 := by
  have result : (r.apply .shutdown).2 = if r.dropped then r else apply.cutOff r := rfl
  rw [result]
  split
  · rename_i dropped
    exact obeys_refl fun _ => gone dropped
  · cases current : r.timer.current with
    | none =>
      rw [cutOff_of_free current]
      exact obeys_refl fun _ => current
    | some b =>
      rw [cutOff_of_armed current]
      exact .cutOff (.inl rfl) current

theorem drop_obeys (r : Run) : r.Obeys .drop (r.apply .drop).2 := by
  have result : (r.apply .drop).2 = { apply.cutOff r with dropped := true } := rfl
  rw [result]
  cases current : r.timer.current with
  | none =>
    rw [cutOff_of_free current]
    exact .rested (fun _ => current) (Nat.le_refl _) fun _ => .inr current
  | some b =>
    rw [cutOff_of_armed current]
    exact .cutOff (.inr rfl) current

theorem advance_obeys (r : Run) (ms : Nat) : r.Obeys (.advance ms) (r.apply (.advance ms)).2 := by
  obtain ⟨s, keeps, inTime, settled, moved⟩ :=
    advanceTo_cases (r := r) (Nat.le_add_right r.now ms)
  have result : (r.apply (.advance ms)).2 = { s with now := r.now + ms } := moved
  rw [result]
  exact .advanced keeps inTime settled

theorem apply_obeys (gone : r.dropped = true → r.timer.current = none) (c : Command) :
    r.Obeys c (r.apply c).2 := by
  cases c with
  | arm period duration => exact arm_obeys r period duration
  | disarm => exact disarm_obeys gone
  | shutdown => exact shutdown_obeys gone
  | drop => exact drop_obeys r
  | advance ms => exact advance_obeys r ms

end Run

end Dialogue.Timer
