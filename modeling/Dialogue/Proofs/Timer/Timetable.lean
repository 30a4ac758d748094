import Mathlib.Data.Nat.Find
import Mathlib.Order.WellFounded
import Dialogue.Timer.Run

/-! # The timetable of an arming

The ticks of an arming are known in advance, as long as it is not disarmed: each answers an instant
on the grid of the arming, and its task starts at that instant, or else as soon as the task before
it has ended. The grid instants that are answered get later and later, though some are skipped. -/

namespace Dialogue

/-- The tick after one on the grid of an arming is further on in the grid. -/
theorem exists_nextDue_eq {armedAt number now : Nat} {period : Period}
    (reached : armedAt + number * period.ms ≤ now) :
    ∃ later, number < later ∧
      nextDue (armedAt + number * period.ms) now period = armedAt + later * period.ms := by
  unfold nextDue
  split
  · -- the instants up to `now` are skipped
    generalize late : now - (armedAt + number * period.ms) = d
    have parts := Nat.div_add_mod d period.ms
    have below := Nat.mod_lt d period.pos
    refine ⟨number + d / period.ms + 1, Nat.lt_succ_of_le (Nat.le_add_right _ _), ?_⟩
    rw [Nat.succ_mul, Nat.add_mul, Nat.mul_comm (d / period.ms)]
    omega
  · refine ⟨number + 1, Nat.lt_succ_self number, ?_⟩
    rw [Nat.succ_mul, Nat.add_assoc]

/-- The instant at which an entry says that a task started. -/
def Timer.Entry.start? : Timer.Entry → Option Nat
  | .tick _ instant => some instant
  | .done _ _ => none

namespace Arming

open Timer (Task)

/-- The instant that a tick answers, and the instant at which its task starts. -/
def turn (a : Arming Task) : Nat → Nat × Nat
  | 0 => (a.armedAt + a.period.ms, a.armedAt + a.period.ms)
  | n + 1 =>
    let due := nextDue (a.turn n).1 (a.turn n).2 a.period
    (due, max due ((a.turn n).2 + a.task.duration))

variable (a : Arming Task)

/-- The instant that a tick answers. -/
def dueAt (n : Nat) : Nat := (a.turn n).1

/-- The instant at which the task of a tick starts. -/
def startAt (n : Nat) : Nat := (a.turn n).2

/-- The instant at which the task of a tick ends, unless it is cut off. -/
def endAt (n : Nat) : Nat := a.startAt n + a.task.duration

/-- The place in the grid of the instant that a tick answers. -/
def answered (n : Nat) : Nat := (a.dueAt n - a.armedAt) / a.period.ms

theorem dueAt_zero : a.dueAt 0 = a.armedAt + a.period.ms := rfl

theorem dueAt_succ (n : Nat) :
    a.dueAt (n + 1) = nextDue (a.dueAt n) (a.startAt n) a.period := rfl

theorem startAt_zero : a.startAt 0 = a.dueAt 0 := rfl

/-- A task starts at its tick, or as soon as the task before it has ended. -/
theorem startAt_succ (n : Nat) : a.startAt (n + 1) = max (a.dueAt (n + 1)) (a.endAt n) := rfl

theorem dueAt_le_startAt (n : Nat) : a.dueAt n ≤ a.startAt n := by
  cases n with
  | zero => exact Nat.le_refl _
  | succ n => exact Nat.le_max_left _ _

theorem startAt_le_endAt (n : Nat) : a.startAt n ≤ a.endAt n := Nat.le_add_right _ _

/-- Tasks of one arming do not overlap. -/
theorem endAt_le_startAt_succ (n : Nat) : a.endAt n ≤ a.startAt (n + 1) := Nat.le_max_right _ _

theorem exists_dueAt_eq (n : Nat) : ∃ number, a.dueAt n = a.armedAt + number * a.period.ms := by
  induction n with
  | zero => exact ⟨1, by rw [dueAt_zero, Nat.one_mul]⟩
  | succ n ih =>
    obtain ⟨number, due⟩ := ih
    have reached : a.armedAt + number * a.period.ms ≤ a.startAt n := due ▸ a.dueAt_le_startAt n
    obtain ⟨later, -, next⟩ := exists_nextDue_eq reached
    exact ⟨later, by rw [dueAt_succ, due, next]⟩

/-- Every tick answers an instant of the grid. -/
theorem dueAt_eq (n : Nat) : a.dueAt n = a.armedAt + a.answered n * a.period.ms := by
  obtain ⟨number, due⟩ := a.exists_dueAt_eq n
  rw [answered, due, Nat.add_sub_cancel_left, Nat.mul_div_cancel _ a.period.pos]

theorem answered_lt_succ (n : Nat) : a.answered n < a.answered (n + 1) := by
  have due := a.dueAt_eq n
  have reached : a.armedAt + a.answered n * a.period.ms ≤ a.startAt n :=
    due ▸ a.dueAt_le_startAt n
  obtain ⟨later, further, next⟩ := exists_nextDue_eq reached
  have due' : a.dueAt (n + 1) = a.armedAt + later * a.period.ms := by
    rw [dueAt_succ, due, next]
  rwa [answered.eq_1 a (n + 1), due', Nat.add_sub_cancel_left,
    Nat.mul_div_cancel _ a.period.pos]

theorem strictMono_answered : StrictMono a.answered :=
  strictMono_nat_of_lt_succ a.answered_lt_succ

/-- The first tick answers the first instant, and every later tick a later one. -/
theorem succ_le_answered (n : Nat) : n + 1 ≤ a.answered n := by
  induction n with
  | zero =>
    have first : a.answered 0 = 1 := by
      rw [answered, dueAt_zero, Nat.add_sub_cancel_left, Nat.div_self a.period.pos]
    exact first.ge
  | succ n ih => exact Nat.succ_le_of_lt (Nat.lt_of_le_of_lt ih (a.answered_lt_succ n))

/-- So many periods have gone by when a task starts. -/
theorem grid_le_startAt (n : Nat) : a.armedAt + (n + 1) * a.period.ms ≤ a.startAt n := by
  have grid : (n + 1) * a.period.ms ≤ a.answered n * a.period.ms :=
    Nat.mul_le_mul_right _ (a.succ_le_answered n)
  have due := a.dueAt_eq n
  have started := a.dueAt_le_startAt n
  omega

theorem dueAt_lt_succ (n : Nat) : a.dueAt n < a.dueAt (n + 1) :=
  lt_nextDue (a.dueAt n) (a.startAt n) a.period

/-- A task that takes no time always starts at its tick. -/
theorem startAt_of_instant (instant : a.task.duration = 0) (n : Nat) :
    a.startAt n = a.dueAt n := by
  induction n with
  | zero => rfl
  | succ n ih =>
    have before : a.endAt n ≤ a.dueAt (n + 1) := by
      rw [endAt, instant, ih]
      exact Nat.le_of_lt (a.dueAt_lt_succ n)
    rw [startAt_succ, Nat.max_eq_left before]

theorem startAt_lt_succ (n : Nat) : a.startAt n < a.startAt (n + 1) := by
  rcases Nat.eq_zero_or_pos a.task.duration with instant | long
  · rw [a.startAt_of_instant instant, a.startAt_of_instant instant]
    exact a.dueAt_lt_succ n
  · have ended := a.endAt_le_startAt_succ n
    rw [endAt] at ended
    omega

theorem strictMono_startAt : StrictMono a.startAt :=
  strictMono_nat_of_lt_succ a.startAt_lt_succ

/-- Every instant is passed in the end. -/
theorem exists_lt_startAt (instant : Nat) : ∃ n, instant < a.startAt n :=
  ⟨instant + 1, a.strictMono_startAt.le_apply⟩

/-- How many tasks start by an instant. -/
def begun (instant : Nat) : Nat := Nat.find (a.exists_lt_startAt instant)

theorem lt_begun_iff {instant n : Nat} : n < a.begun instant ↔ a.startAt n ≤ instant := by
  rw [begun, Nat.lt_find_iff]
  constructor
  · intro all
    exact Nat.le_of_not_lt (all n (Nat.le_refl n))
  · intro started m earlier
    have before : a.startAt m ≤ a.startAt n := a.strictMono_startAt.monotone earlier
    omega

/-- As many tasks have started as the timetable tells when the last of them has and the next one has
not. -/
theorem begun_eq {instant n : Nat} (past : ∀ m < n, a.startAt m ≤ instant)
    (next : instant < a.startAt n) : a.begun instant = n := by
  apply Nat.le_antisymm
  · rw [← Nat.not_lt, lt_begun_iff]
    exact Nat.not_le_of_lt next
  · refine Nat.le_of_not_lt fun fewer => ?_
    have started := (a.lt_begun_iff).not.mp (Nat.lt_irrefl (a.begun instant))
    exact started (past _ fewer)

/-- No more tasks start than periods have gone by. -/
theorem begun_le (instant : Nat) : a.begun instant ≤ (instant - a.armedAt) / a.period.ms := by
  cases count : a.begun instant with
  | zero => exact Nat.zero_le _
  | succ n =>
    have started : a.startAt n ≤ instant := a.lt_begun_iff.mp (count ▸ Nat.lt_succ_self n)
    have grid := a.grid_le_startAt n
    rw [Nat.le_div_iff_mul_le a.period.pos]
    omega

/-- What is logged of a tick by the instant `limit`, once its task has started. -/
def entries (limit n : Nat) : List Timer.Entry :=
  .tick a.task.label (a.startAt n) ::
    if 0 < a.task.duration ∧ a.endAt n ≤ limit then [.done a.task.label (a.endAt n)] else []

/-- What is logged of an arming that starts its last task by the instant `stopped`, and whose tasks
go on until the instant `limit`. -/
def record (stopped limit : Nat) : List Timer.Entry :=
  (List.range (a.begun stopped)).flatMap (a.entries limit)

/-- What is logged of the first `n` ticks once all their tasks have ended. -/
def wholeRecord (n : Nat) : List Timer.Entry :=
  (List.range n).flatMap fun m =>
    .tick a.task.label (a.startAt m) ::
      if 0 < a.task.duration then [.done a.task.label (a.endAt m)] else []

theorem wholeRecord_succ (n : Nat) :
    a.wholeRecord (n + 1) = a.wholeRecord n ++
      .tick a.task.label (a.startAt n) ::
        if 0 < a.task.duration then [.done a.task.label (a.endAt n)] else [] := by
  rw [wholeRecord, List.range_succ, List.flatMap_append, List.flatMap_singleton, wholeRecord]

theorem entries_of_ended {limit n : Nat} (ended : a.endAt n ≤ limit) :
    a.entries limit n = .tick a.task.label (a.startAt n) ::
      if 0 < a.task.duration then [.done a.task.label (a.endAt n)] else [] := by
  simp only [entries, ended, and_true]

theorem entries_of_late {limit n : Nat} (late : limit < a.endAt n) :
    a.entries limit n = [.tick a.task.label (a.startAt n)] := by
  rw [entries, if_neg fun both => absurd both.2 (Nat.not_le_of_lt late)]

theorem flatMap_entries_of_ended {limit n : Nat} (ended : ∀ m < n, a.endAt m ≤ limit) :
    (List.range n).flatMap (a.entries limit) = a.wholeRecord n := by
  induction n with
  | zero => rfl
  | succ n ih =>
    have before := ih fun m less => ended m (Nat.lt_succ_of_lt less)
    rw [List.range_succ, List.flatMap_append, before, List.flatMap_singleton,
      a.entries_of_ended (ended n (Nat.lt_succ_self n)), wholeRecord_succ]

theorem record_of_ended {stopped limit n : Nat} (last : a.begun stopped = n)
    (ended : ∀ m < n, a.endAt m ≤ limit) : a.record stopped limit = a.wholeRecord n := by
  rw [record, last, a.flatMap_entries_of_ended ended]

theorem record_of_late {stopped limit n : Nat} (last : a.begun stopped = n + 1)
    (ended : ∀ m < n, a.endAt m ≤ limit) (late : limit < a.endAt n) :
    a.record stopped limit = a.wholeRecord n ++ [.tick a.task.label (a.startAt n)] := by
  rw [record, last, List.range_succ, List.flatMap_append, a.flatMap_entries_of_ended ended,
    List.flatMap_singleton, a.entries_of_late late]

/-- The tasks before one that has started have ended. -/
theorem endAt_le_of_started {instant n : Nat} (started : a.startAt n ≤ instant) :
    ∀ m < n, a.endAt m ≤ instant := by
  intro m earlier
  have ended := a.endAt_le_startAt_succ m
  have later : a.startAt (m + 1) ≤ a.startAt n := a.strictMono_startAt.monotone earlier
  omega

/-- The starts that are logged are those of the timetable. -/
theorem starts_record (stopped limit : Nat) :
    (a.record stopped limit).filterMap Timer.Entry.start? =
      (List.range (a.begun stopped)).map a.startAt := by
  have each : ∀ n, (a.entries limit n).filterMap Timer.Entry.start? = [a.startAt n] := by
    intro n
    unfold entries
    split <;> rfl
  rw [record, List.filterMap_flatMap, List.map_eq_flatMap]
  exact congrArg (List.range (a.begun stopped)).flatMap (funext each)

/-- What is known of the timetable of an arming. -/
structure Regular : Prop where
  grid : ∀ n, a.dueAt n = a.armedAt + a.answered n * a.period.ms
  later : StrictMono a.answered
  atLeast : ∀ n, n + 1 ≤ a.answered n
  first : a.startAt 0 = a.dueAt 0
  next : ∀ n, a.startAt (n + 1) = max (a.dueAt (n + 1)) (a.endAt n)
  single : ∀ n, a.endAt n ≤ a.startAt (n + 1)
  begun : ∀ instant n, n < a.begun instant ↔ a.startAt n ≤ instant
  atMost : ∀ instant, a.begun instant ≤ (instant - a.armedAt) / a.period.ms

theorem regular : a.Regular where
  grid := a.dueAt_eq
  later := a.strictMono_answered
  atLeast := a.succ_le_answered
  first := a.startAt_zero
  next := a.startAt_succ
  single := a.endAt_le_startAt_succ
  begun := fun _ _ => a.lt_begun_iff
  atMost := a.begun_le

end Arming

end Dialogue
