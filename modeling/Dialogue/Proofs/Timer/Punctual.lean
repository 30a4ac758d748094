import Dialogue.Proofs.Timer.Clock

/-! # Ticks by the timetable

Whatever a timer is told, every arming of it goes by its timetable until it is disarmed or cut off.
What is logged under the number of an arming is what its timetable says: up to now while it is
armed, up to the instant at which it was disarmed but for the end of the task that was under way
then, and up to the instant at which it was cut off with nothing after it.

The invariant follows one arming (`Armed`, `Disarmed`, `CutOff`). Anything that happens either is
the end or the start of one of its own tasks, or leaves it alone (`Leaves`). -/

namespace Dialogue.Timer

/-- The number under which an entry is logged. -/
def Entry.label : Entry → Nat
  | .tick label _ => label
  | .done label _ => label

namespace Run

variable {r r' : Run} {a b : Arming Task} {task : Running} {target stopped n : Nat}

/-- What is logged under a number. -/
def logOf (r : Run) (label : Nat) : List Entry := r.log.filter (·.label = label)

/-- The tasks of an arming that are under way. -/
def runningOf (r : Run) (id : Nat) : List Running := r.running.filter (·.arming = id)

/-! ## Every run -/

/-- What holds of a timer on a clock at any time. -/
structure Sound (r : Run) : Prop where
  ahead : ∀ task ∈ r.running, r.now ≤ task.ends
  running : ∀ task ∈ r.running, task.arming ≤ r.timer.count ∧ task.label ≤ r.asked
  current : ∀ b, r.timer.current = some b → b.id ≤ r.timer.count ∧ b.task.label ≤ r.asked
  log : ∀ e ∈ r.log, e.label ≤ r.asked
  dropped : r.dropped = true → r.timer.current = none

theorem start_sound : start.Sound where
  ahead := nofun
  running := nofun
  current := nofun
  log := nofun
  dropped := nofun

theorem Sound.ends (h : r.Sound) (underWay : task ∈ r.running)
    (first : ∀ other ∈ r.running, task.ends ≤ other.ends) (ends : r.Ends task r') :
    r'.Sound where
  ahead := by
    intro other member
    rw [ends.running] at member
    have member := List.mem_of_mem_erase member
    rw [ends.now]
    exact Nat.max_le.mpr ⟨h.ahead other member, first other member⟩
  running := by
    intro other member
    rw [ends.running] at member
    rw [ends.count, ends.asked]
    exact h.running other (List.mem_of_mem_erase member)
  current := by
    intro b current
    rw [ends.current, Option.map_eq_some_iff] at current
    obtain ⟨b', before, rfl⟩ := current
    rw [ends.count, ends.asked]
    split
    · exact h.current b' before
    · exact h.current b' before
  log := by
    intro e member
    rw [ends.log, List.mem_append, List.mem_singleton] at member
    rw [ends.asked]
    rcases member with member | rfl
    · exact h.log e member
    · exact (h.running task underWay).2
  dropped := by
    intro dropped
    rw [ends.dropped] at dropped
    rw [ends.current, h.dropped dropped, Option.map_none]

theorem Sound.starts (h : r.Sound) (current : r.timer.current = some b)
    (before : ∀ task ∈ r.running, b.due < task.ends) (starts : r.Starts b r') :
    r'.Sound where
  ahead := by
    intro task member
    rw [starts.running, List.mem_append] at member
    rw [starts.now]
    rcases member with member | member
    · exact Nat.max_le.mpr ⟨h.ahead task member, Nat.le_of_lt (before task member)⟩
    · split at member
      · obtain rfl := List.mem_singleton.mp member
        exact Nat.le_add_right _ _
      · cases member
  running := by
    intro task member
    rw [starts.running, List.mem_append] at member
    rw [starts.count, starts.asked]
    rcases member with member | member
    · exact h.running task member
    · split at member
      · obtain rfl := List.mem_singleton.mp member
        exact h.current b current
      · cases member
  current := by
    intro b' current'
    rw [starts.current] at current'
    obtain rfl := Option.some.inj current'
    rw [starts.count, starts.asked]
    exact h.current b current
  log := by
    intro e member
    rw [starts.log, List.mem_append, List.mem_singleton] at member
    rw [starts.asked]
    rcases member with member | rfl
    · exact h.log e member
    · exact (h.current b current).2
  dropped := by
    intro dropped
    rw [starts.dropped] at dropped
    rw [h.dropped dropped] at current
    cases current

theorem Sound.happens (h : r.Sound) (happens : r.Happens target r') : r'.Sound := by
  cases happens with
  | ended task underWay inTime first before ends => exact h.ends underWay first ends
  | ticked b current idle inTime before starts => exact h.starts current before starts

theorem Sound.obeys {c : Command} (h : r.Sound) (obeys : r.Obeys c r') : r'.Sound := by
  cases obeys with
  | @advanced ms s keeps inTime settled =>
    have sound : s.Sound := keeps Sound (fun _ _ holds happens => holds.happens happens) h
    refine ⟨?_, sound.running, sound.current, sound.log, sound.dropped⟩
    exact fun task member => Nat.le_of_lt (settled.running task member)
  | rested free more gone =>
    refine ⟨h.ahead, ?_, ?_, ?_, fun dropped => (gone dropped).elim h.dropped id⟩
    · intro task member
      obtain ⟨arming, label⟩ := h.running task member
      exact ⟨arming, Nat.le_trans label more⟩
    · intro b current
      obtain ⟨id, label⟩ := h.current b current
      exact ⟨id, Nat.le_trans label more⟩
    · exact fun e member => Nat.le_trans (h.log e member) more
  | armed kept free =>
    refine ⟨h.ahead, ?_, ?_, ?_, fun dropped => absurd (kept.symm.trans dropped) Bool.noConfusion⟩
    · intro task member
      obtain ⟨arming, label⟩ := h.running task member
      exact ⟨Nat.le_succ_of_le arming, Nat.le_succ_of_le label⟩
    · intro b current
      obtain rfl := Option.some.inj current
      exact ⟨Nat.le_refl _, Nat.le_refl _⟩
    · exact fun e member => Nat.le_succ_of_le (h.log e member)
  | disarmed current => exact ⟨h.ahead, h.running, nofun, h.log, fun _ => rfl⟩
  | cutOff cuts current =>
    refine ⟨?_, ?_, nofun, h.log, fun _ => rfl⟩
    · exact fun task member => h.ahead task (List.mem_filter.mp member).1
    · exact fun task member => h.running task (List.mem_filter.mp member).1

/-- Everything that is due has happened. -/
def Ready (r : Run) : Prop := r.Settled r.now

theorem start_ready : start.Ready := ⟨nofun, nofun⟩

theorem Ready.obeys {c : Command} (h : r.Ready) (obeys : r.Obeys c r') : r'.Ready := by
  cases obeys with
  | advanced keeps inTime settled => exact ⟨settled.running, settled.current⟩
  | rested free more gone => exact ⟨h.running, h.current⟩
  | @armed period duration kept free =>
    refine ⟨h.running, ?_⟩
    intro b current idle
    obtain rfl := Option.some.inj current
    exact Nat.lt_add_of_pos_right period.pos
  | disarmed current => exact ⟨h.running, nofun⟩
  | cutOff cuts current =>
    exact ⟨fun task member => h.running task (List.mem_filter.mp member).1, nofun⟩

/-! ## One arming among others -/

/-- What tells an arming from all others. -/
structure Apart (r : Run) (a : Arming Task) : Prop where
  id_le : a.id ≤ r.timer.count
  label_le : a.task.label ≤ r.asked
  running : ∀ task ∈ r.running, task.arming = a.id ↔ task.label = a.task.label
  current : ∀ b, r.timer.current = some b → (b.id = a.id ↔ b.task.label = a.task.label)

theorem Apart.happens (h : r.Apart a) (happens : r.Happens target r') : r'.Apart a := by
  cases happens with
  | ended task underWay inTime first before ends =>
    refine ⟨ends.count ▸ h.id_le, ends.asked ▸ h.label_le, ?_, ?_⟩
    · intro other member
      rw [ends.running] at member
      exact h.running other (List.mem_of_mem_erase member)
    · intro b current
      rw [ends.current, Option.map_eq_some_iff] at current
      obtain ⟨b', before, rfl⟩ := current
      split
      · exact h.current b' before
      · exact h.current b' before
  | ticked b current idle inTime before starts =>
    refine ⟨starts.count ▸ h.id_le, starts.asked ▸ h.label_le, ?_, ?_⟩
    · intro task member
      rw [starts.running, List.mem_append] at member
      rcases member with member | member
      · exact h.running task member
      · split at member
        · obtain rfl := List.mem_singleton.mp member
          exact h.current b current
        · cases member
    · intro b' current'
      rw [starts.current] at current'
      obtain rfl := Option.some.inj current'
      exact h.current b current

theorem Apart.obeys {c : Command} (h : r.Apart a) (obeys : r.Obeys c r') : r'.Apart a := by
  cases obeys with
  | advanced keeps inTime settled =>
    have apart := keeps (·.Apart a) (fun _ _ holds happens => holds.happens happens) h
    exact ⟨apart.id_le, apart.label_le, apart.running, apart.current⟩
  | rested free more gone =>
    exact ⟨h.id_le, Nat.le_trans h.label_le more, h.running, h.current⟩
  | armed kept free =>
    refine ⟨Nat.le_succ_of_le h.id_le, Nat.le_succ_of_le h.label_le, h.running, ?_⟩
    intro b current
    obtain rfl := Option.some.inj current
    -- a new arming has a new number
    have id : r.timer.count + 1 ≠ a.id := (Nat.lt_succ_of_le h.id_le).ne'
    have label : r.asked + 1 ≠ a.task.label := (Nat.lt_succ_of_le h.label_le).ne'
    exact iff_of_false id label
  | disarmed current => exact ⟨h.id_le, h.label_le, h.running, nofun⟩
  | cutOff cuts current =>
    refine ⟨h.id_le, h.label_le, ?_, nofun⟩
    exact fun task member => h.running task (List.mem_filter.mp member).1

/-- Nothing has happened to an arming, though time may have passed. -/
structure Leaves (r r' : Run) (a : Arming Task) : Prop where
  now : r.now ≤ r'.now
  running : r'.runningOf a.id = r.runningOf a.id
  log : r'.logOf a.task.label = r.logOf a.task.label

theorem Ends.leaves (ends : r.Ends task r') (apart : r.Apart a) (underWay : task ∈ r.running)
    (other : task.arming ≠ a.id) : r.Leaves r' a where
  now := ends.now ▸ Nat.le_max_left _ _
  running := by
    have absent : task ∉ r.runningOf a.id := by simp [runningOf, other]
    rw [runningOf, ends.running, ← List.erase_filter, ← runningOf, List.erase_of_not_mem absent]
  log := by
    have label : task.label ≠ a.task.label := (apart.running task underWay).not.mp other
    rw [logOf, ends.log, List.filter_append, ← logOf]
    simp [Entry.label, label]

theorem Starts.leaves (starts : r.Starts b r') (apart : r.Apart a)
    (current : r.timer.current = some b) (other : b.id ≠ a.id) : r.Leaves r' a where
  now := starts.now ▸ Nat.le_max_left _ _
  running := by
    rw [runningOf, starts.running, List.filter_append, ← runningOf]
    split
    · simp [other]
    · simp
  log := by
    have label : b.task.label ≠ a.task.label := (apart.current b current).not.mp other
    rw [logOf, starts.log, List.filter_append, ← logOf]
    simp [Entry.label, label]

/-- An arming has started its first `n` tasks, and all of them have ended. -/
structure Rests (r : Run) (a : Arming Task) (n : Nat) : Prop where
  past : ∀ m < n, a.endAt m ≤ r.now
  running : r.runningOf a.id = []
  log : r.logOf a.task.label = a.wholeRecord n

/-- The task after the first `n` tasks of an arming is under way. -/
structure Works (r : Run) (a : Arming Task) (n : Nat) : Prop where
  long : 0 < a.task.duration
  past : a.startAt n ≤ r.now
  running : r.runningOf a.id = [⟨a.id, a.task.label, a.endAt n⟩]
  log : r.logOf a.task.label = a.wholeRecord n ++ [.tick a.task.label (a.startAt n)]

theorem Rests.leaves (h : r.Rests a n) (leaves : r.Leaves r' a) : r'.Rests a n where
  past := fun m less => Nat.le_trans (h.past m less) leaves.now
  running := leaves.running.trans h.running
  log := leaves.log.trans h.log

theorem Works.leaves (h : r.Works a n) (leaves : r.Leaves r' a) : r'.Works a n where
  long := h.long
  past := Nat.le_trans h.past leaves.now
  running := leaves.running.trans h.running
  log := leaves.log.trans h.log

/-- While an arming rests, every task under way is one of another arming. -/
theorem Rests.other (h : r.Rests a n) (underWay : task ∈ r.running) : task.arming ≠ a.id := by
  intro own
  have member : task ∈ r.runningOf a.id := List.mem_filter.mpr ⟨underWay, decide_eq_true own⟩
  rw [h.running] at member
  cases member

/-- The task of an arming that is under way is the one that its timetable tells. -/
theorem Works.eq_of_own (h : r.Works a n) (underWay : task ∈ r.running)
    (own : task.arming = a.id) : task = ⟨a.id, a.task.label, a.endAt n⟩ := by
  have member : task ∈ r.runningOf a.id := List.mem_filter.mpr ⟨underWay, decide_eq_true own⟩
  rw [h.running] at member
  exact List.mem_singleton.mp member

/-- The end of its task lets an arming rest. -/
theorem Works.ends (h : r.Works a n) (sound : r.Sound) (underWay : task ∈ r.running)
    (own : task.arming = a.id) (ends : r.Ends task r') :
    r'.now = a.endAt n ∧ r'.Rests a (n + 1) := by
  obtain rfl := h.eq_of_own underWay own
  have ahead : r.now ≤ a.endAt n := sound.ahead _ underWay
  have now : r'.now = a.endAt n := ends.now.trans (Nat.max_eq_right ahead)
  refine ⟨now, ?_, ?_, ?_⟩
  · intro m less
    rw [now]
    rcases Nat.lt_succ_iff_lt_or_eq.mp less with earlier | rfl
    · exact Nat.le_trans (a.endAt_le_of_started (Nat.le_refl _) m earlier) (a.startAt_le_endAt n)
    · exact Nat.le_refl _
  · rw [runningOf, ends.running, ← List.erase_filter, ← runningOf, h.running, List.erase_cons_head]
  · rw [logOf, ends.log, List.filter_append, ← logOf, h.log, a.wholeRecord_succ, if_pos h.long,
      Nat.max_eq_right ahead]
    simp [Entry.label]

/-- A tick starts the next task of an arming, which ends at once if it takes no time. -/
theorem Rests.starts (h : r.Rests a n) (starts : r.Starts b r') (due : b.due = a.dueAt n)
    (id : b.id = a.id) (task : b.task = a.task) (next : max r.now (a.dueAt n) = a.startAt n) :
    r'.now = a.startAt n ∧
      if 0 < a.task.duration then r'.Works a n else r'.Rests a (n + 1) := by
  have now : r'.now = a.startAt n := by rw [starts.now, due, next]
  refine ⟨now, ?_⟩
  have log : r'.logOf a.task.label =
      a.wholeRecord n ++ [.tick a.task.label (a.startAt n)] := by
    rw [logOf, starts.log, List.filter_append, ← logOf, h.log, task, due, next]
    simp [Entry.label]
  split
  · rename_i long
    refine ⟨long, now.ge, ?_, log⟩
    rw [runningOf, starts.running, List.filter_append, ← runningOf, h.running, task, if_pos long,
      id, due, next]
    simp [Arming.endAt]
  · rename_i instant
    have ended : a.endAt n = a.startAt n := by
      rw [Arming.endAt, Nat.eq_zero_of_not_pos instant, Nat.add_zero]
    refine ⟨?_, ?_, ?_⟩
    · intro m less
      rw [now]
      rcases Nat.lt_succ_iff_lt_or_eq.mp less with earlier | rfl
      · exact a.endAt_le_of_started (Nat.le_refl _) m earlier
      · exact ended.le
    · rw [runningOf, starts.running, List.filter_append, ← runningOf, h.running, task,
        if_neg instant]
      rfl
    · rw [log, a.wholeRecord_succ, if_neg instant]

/-- An arming that is not disarmed goes by its timetable. -/
inductive Armed (r : Run) (a : Arming Task) : Prop
  | waiting (n : Nat)
    (current : r.timer.current = some { a with due := a.dueAt n, busy := false })
    (rests : r.Rests a n) (next : max r.now (a.dueAt n) = a.startAt n)
  | working (n : Nat)
    (current : r.timer.current = some { a with due := a.dueAt (n + 1), busy := true })
    (works : r.Works a n)

/-- The timer is armed with another arming, or not at all. -/
def Gone (r : Run) (a : Arming Task) : Prop := ∀ b, r.timer.current = some b → b.id ≠ a.id

theorem gone_of_free (free : r.timer.current = none) : r.Gone a := by
  intro b current
  rw [free] at current
  cases current

/-- An arming that was disarmed at the instant `stopped`: its last task may still be under way. -/
inductive Disarmed (r : Run) (a : Arming Task) (stopped : Nat) : Prop
  | resting (n : Nat) (last : a.begun stopped = n) (rests : r.Rests a n)
  | working (n : Nat) (last : a.begun stopped = n + 1) (works : r.Works a n)

/-- An arming that was cut off at the instant `stopped`. -/
structure CutOff (r : Run) (a : Arming Task) (stopped : Nat) : Prop where
  running : r.runningOf a.id = []
  log : r.logOf a.task.label = a.record stopped stopped

theorem Armed.happens (h : r.Armed a) (sound : r.Sound) (apart : r.Apart a)
    (happens : r.Happens target r') : r'.Armed a := by
  cases happens with
  | ended task underWay inTime first before ends =>
    cases h with
    | waiting n current rests next =>
      have other := rests.other underWay
      refine .waiting n ?_ (rests.leaves (ends.leaves apart underWay other)) ?_
      · rw [ends.current, current, Option.map_some, if_neg (Ne.symm other)]
      · -- the task ends before the tick is due, so that the tick is not late
        have soon := before _ current rfl
        have ahead := sound.ahead task underWay
        rw [ends.now, Nat.max_eq_right ahead, ← next, Nat.max_eq_right soon,
          Nat.max_eq_right (Nat.le_trans ahead soon)]
    | working n current works =>
      by_cases own : task.arming = a.id
      · obtain ⟨now, rests⟩ := works.ends sound underWay own ends
        refine .waiting (n + 1) ?_ rests ?_
        · rw [ends.current, current, Option.map_some, if_pos own.symm]
        · rw [now, a.startAt_succ, Nat.max_comm]
      · refine .working n ?_ (works.leaves (ends.leaves apart underWay own))
        rw [ends.current, current, Option.map_some, if_neg (Ne.symm own)]
  | ticked b current' idle inTime before starts =>
    cases h with
    | waiting n current rests next =>
      obtain rfl := Option.some.inj (current.symm.trans current')
      obtain ⟨now, started⟩ := rests.starts starts rfl rfl rfl next
      split at started
      · rename_i long
        refine .working n ?_ started
        rw [starts.current]
        simp [next, long, a.dueAt_succ]
      · rename_i instant
        refine .waiting (n + 1) ?_ started ?_
        · rw [starts.current]
          simp [next, instant, a.dueAt_succ]
        · have ended : a.endAt n = a.startAt n := by
            rw [Arming.endAt, Nat.eq_zero_of_not_pos instant, Nat.add_zero]
          rw [now, a.startAt_succ, ended, Nat.max_comm]
    | working n current works =>
      obtain rfl := Option.some.inj (current.symm.trans current')
      cases idle

theorem Gone.happens (h : r.Gone a) (happens : r.Happens target r') : r'.Gone a := by
  intro b current
  cases happens with
  | ended task underWay inTime first before ends =>
    rw [ends.current, Option.map_eq_some_iff] at current
    obtain ⟨b', before', rfl⟩ := current
    split
    · exact h b' before'
    · exact h b' before'
  | ticked b' current' idle inTime before starts =>
    rw [starts.current] at current
    obtain rfl := Option.some.inj current
    exact h b' current'

theorem Disarmed.leaves (h : r.Disarmed a stopped) (leaves : r.Leaves r' a) :
    r'.Disarmed a stopped := by
  cases h with
  | resting n last rests => exact .resting n last (rests.leaves leaves)
  | working n last works => exact .working n last (works.leaves leaves)

theorem Disarmed.happens (h : r.Disarmed a stopped) (sound : r.Sound) (apart : r.Apart a)
    (gone : r.Gone a) (happens : r.Happens target r') : r'.Disarmed a stopped := by
  cases happens with
  | ended task underWay inTime first before ends =>
    by_cases own : task.arming = a.id
    · cases h with
      | resting n last rests => exact absurd own (rests.other underWay)
      | working n last works =>
        obtain ⟨-, rests⟩ := works.ends sound underWay own ends
        exact .resting (n + 1) last rests
    · exact h.leaves (ends.leaves apart underWay own)
  | ticked b current idle inTime before starts =>
    exact h.leaves (starts.leaves apart current (gone b current))

theorem CutOff.leaves (h : r.CutOff a stopped) (leaves : r.Leaves r' a) : r'.CutOff a stopped where
  running := leaves.running.trans h.running
  log := leaves.log.trans h.log

theorem CutOff.happens (h : r.CutOff a stopped) (apart : r.Apart a) (gone : r.Gone a)
    (happens : r.Happens target r') : r'.CutOff a stopped := by
  cases happens with
  | ended task underWay inTime first before ends =>
    have other : task.arming ≠ a.id := by
      intro own
      have member : task ∈ r.runningOf a.id := List.mem_filter.mpr ⟨underWay, decide_eq_true own⟩
      rw [h.running] at member
      cases member
    exact h.leaves (ends.leaves apart underWay other)
  | ticked b current idle inTime before starts =>
    exact h.leaves (starts.leaves apart current (gone b current))

/-! ## Commands and one arming -/

theorem leaves_of_later {s : Run} (later : s.now ≤ target) (a : Arming Task) :
    s.Leaves { s with now := target } a := ⟨later, rfl, rfl⟩

theorem Gone.obeys {c : Command} (h : r.Gone a) (apart : r.Apart a) (obeys : r.Obeys c r') :
    r'.Gone a := by
  cases obeys with
  | advanced keeps inTime settled =>
    exact keeps (·.Gone a) (fun _ _ gone happens => gone.happens happens) h
  | rested free more gone => exact h
  | armed kept free =>
    intro b current
    obtain rfl := Option.some.inj current
    exact (Nat.lt_succ_of_le apart.id_le).ne'
  | disarmed current => exact gone_of_free rfl
  | cutOff cuts current => exact gone_of_free rfl

/-- What is kept of an arming that is gone, as long as it is left alone and whatever happens, is
kept by every command. -/
theorem Obeys.keeps {P : Run → Prop} {c : Command} (obeys : r.Obeys c r') (sound : r.Sound)
    (apart : r.Apart a) (gone : r.Gone a) (leaves : ∀ s s', P s → s.Leaves s' a → P s')
    (happens : ∀ s s' target, s.Sound → s.Apart a → s.Gone a → P s → s.Happens target s' → P s')
    (h : P r) : P r' := by
  cases obeys with
  | @advanced ms s keeps inTime settled =>
    have kept := keeps (fun s => s.Sound ∧ s.Apart a ∧ s.Gone a ∧ P s)
      (fun s s' ⟨sound, apart, gone, h⟩ next =>
        ⟨sound.happens next, apart.happens next, gone.happens next,
          happens s s' _ sound apart gone h next⟩)
      ⟨sound, apart, gone, h⟩
    exact leaves s _ kept.2.2.2 (leaves_of_later inTime a)
  | rested free more dropped => exact leaves r _ h ⟨Nat.le_refl _, rfl, rfl⟩
  | armed kept free => exact leaves r _ h ⟨Nat.le_refl _, rfl, rfl⟩
  | disarmed current => exact leaves r _ h ⟨Nat.le_refl _, rfl, rfl⟩
  | @cutOff _ b _ cuts current =>
    refine leaves r _ h ⟨Nat.le_refl _, ?_, rfl⟩
    have other := gone b current
    rw [runningOf, List.filter_filter, runningOf]
    apply List.filter_congr
    intro task _
    by_cases own : task.arming = a.id
    · simp [own, Ne.symm other]
    · simp [own]

theorem Disarmed.obeys {c : Command} (h : r.Disarmed a stopped) (sound : r.Sound)
    (apart : r.Apart a) (gone : r.Gone a) (obeys : r.Obeys c r') : r'.Disarmed a stopped :=
  obeys.keeps (P := (·.Disarmed a stopped)) sound apart gone
    (fun _ _ h leaves => h.leaves leaves)
    (fun _ _ _ sound apart gone h happens => h.happens sound apart gone happens) h

theorem CutOff.obeys {c : Command} (h : r.CutOff a stopped) (sound : r.Sound)
    (apart : r.Apart a) (gone : r.Gone a) (obeys : r.Obeys c r') : r'.CutOff a stopped :=
  obeys.keeps (P := (·.CutOff a stopped)) sound apart gone
    (fun _ _ h leaves => h.leaves leaves)
    (fun _ _ _ _ apart gone h happens => h.happens apart gone happens) h

theorem Armed.current_ne_none (h : r.Armed a) : r.timer.current ≠ none := by
  cases h with
  | waiting n current rests next => simp [current]
  | working n current works => simp [current]

theorem Armed.obeys {c : Command} (h : r.Armed a) (sound : r.Sound) (apart : r.Apart a)
    (obeys : r.Obeys c r') (goesOn : ¬ c.Stops) : r'.Armed a := by
  cases obeys with
  | @advanced ms s keeps inTime settled =>
    have kept := keeps (fun s => s.Sound ∧ s.Apart a ∧ s.Armed a)
      (fun s s' ⟨sound, apart, h⟩ next =>
        ⟨sound.happens next, apart.happens next, h.happens sound apart next⟩)
      ⟨sound, apart, h⟩
    have leaves := leaves_of_later inTime a
    cases kept.2.2 with
    | waiting n current rests next =>
      refine .waiting n current (rests.leaves leaves) ?_
      -- the clock has not moved past the next tick
      have early : r.now + ms < a.dueAt n := settled.current _ current rfl
      rw [← next, Nat.max_eq_right (Nat.le_of_lt early),
        Nat.max_eq_right (Nat.le_trans inTime (Nat.le_of_lt early))]
    | working n current works => exact .working n current (works.leaves leaves)
  | rested free more dropped =>
    cases h with
    | waiting n current rests next =>
      exact .waiting n current ⟨rests.past, rests.running, rests.log⟩ next
    | working n current works =>
      exact .working n current ⟨works.long, works.past, works.running, works.log⟩
  | armed kept free => exact absurd free h.current_ne_none
  | disarmed current => exact absurd (.inl rfl) goesOn
  | cutOff cuts current => exact absurd (.inr cuts) goesOn

/-- As many tasks of an arming have started as its timetable tells. -/
theorem Rests.begun_eq (h : r.Rests a n) (early : r.now < a.dueAt n) : a.begun r.now = n := by
  refine a.begun_eq ?_ (Nat.lt_of_lt_of_le early (a.dueAt_le_startAt n))
  exact fun m less => Nat.le_trans (a.startAt_le_endAt m) (h.past m less)

theorem Works.lt_endAt (h : r.Works a n) (ready : r.Ready) : r.now < a.endAt n := by
  have member : (⟨a.id, a.task.label, a.endAt n⟩ : Running) ∈ r.runningOf a.id := by
    rw [h.running]
    exact List.mem_singleton.mpr rfl
  exact ready.running _ (List.mem_filter.mp member).1

theorem Works.begun_eq (h : r.Works a n) (ready : r.Ready) : a.begun r.now = n + 1 := by
  refine a.begun_eq ?_ (Nat.lt_of_lt_of_le (h.lt_endAt ready) (a.endAt_le_startAt_succ n))
  intro m less
  exact Nat.le_trans (a.strictMono_startAt.monotone (Nat.le_of_lt_succ less)) h.past

/-- An arming that is disarmed has started the tasks that its timetable tells, and nothing more will
happen of it but the end of the last of them. -/
theorem Armed.disarmed (h : r.Armed a) (ready : r.Ready) (obeys : r.Obeys .disarm r') :
    r'.Gone a ∧ r'.Disarmed a r.now := by
  cases obeys with
  | rested free more dropped => exact absurd (free (.inl rfl)) h.current_ne_none
  | disarmed current =>
    refine ⟨gone_of_free rfl, ?_⟩
    cases h with
    | waiting n current rests next =>
      exact .resting n (rests.begun_eq (ready.current _ current rfl)) ⟨rests.past, rests.running, rests.log⟩
    | working n current works =>
      exact .working n (works.begun_eq ready)
        ⟨works.long, works.past, works.running, works.log⟩
  | cutOff cuts current => exact absurd cuts (by simp [Command.CutsOff])

/-- What is logged of an arming is what its timetable tells, up to now while it is armed. -/
theorem Armed.log_eq (h : r.Armed a) (ready : r.Ready) :
    r.logOf a.task.label = a.record r.now r.now := by
  cases h with
  | waiting n current rests next =>
    have last := rests.begun_eq (ready.current _ current rfl)
    rw [rests.log, a.record_of_ended last rests.past]
  | working n current works =>
    have before := a.endAt_le_of_started works.past
    rw [works.log, a.record_of_late (works.begun_eq ready) before (works.lt_endAt ready)]

theorem Disarmed.log_eq (h : r.Disarmed a stopped) (ready : r.Ready) :
    r.logOf a.task.label = a.record stopped r.now := by
  cases h with
  | resting n last rests => rw [rests.log, a.record_of_ended last rests.past]
  | working n last works =>
    have before := a.endAt_le_of_started works.past
    rw [works.log, a.record_of_late last before (works.lt_endAt ready)]

/-- An arming that is cut off has logged what its timetable tells up to now, and its task is no
longer under way. -/
theorem Armed.cutOff {c : Command} (h : r.Armed a) (ready : r.Ready) (cuts : c.CutsOff)
    (obeys : r.Obeys c r') : r'.Gone a ∧ r'.CutOff a r.now := by
  have log := h.log_eq ready
  cases obeys with
  | advanced keeps inTime settled => exact absurd cuts (by simp [Command.CutsOff])
  | rested free more dropped => exact absurd (free (.inr cuts)) h.current_ne_none
  | armed kept free => exact absurd free h.current_ne_none
  | disarmed current => exact absurd cuts (by simp [Command.CutsOff])
  | @cutOff _ b _ _ current =>
    have id : b.id = a.id := by
      cases h with
      | waiting n current' rests next =>
        obtain rfl := Option.some.inj (current.symm.trans current')
        rfl
      | working n current' works =>
        obtain rfl := Option.some.inj (current.symm.trans current')
        rfl
    refine ⟨gone_of_free rfl, ?_, log⟩
    rw [runningOf, List.filter_filter, List.filter_eq_nil_iff]
    intro task _
    simp [id]

end Run

end Dialogue.Timer
