import Dialogue.Timer.Basic

/-! # When the timer is armed

Arming and disarming decide alone whether a timer is armed. Its ticks and the ends of its tasks do
not matter for that. As long as a timer is not disarmed its arming goes on, and nothing but its own
ticks moves the next one. -/

namespace Dialogue

/-- The arming once it has ticked at these instants. -/
def Arming.after {Task : Type} (a : Arming Task) (ticks : List Nat) : Arming Task :=
  { a with due := ticks.foldl (fun due now => nextDue due now a.period) a.due }

theorem Arming.after_append {Task : Type} (a : Arming Task) (ticks later : List Nat) :
    a.after (ticks ++ later) = (a.after ticks).after later := by
  unfold Arming.after
  rw [List.foldl_append]

namespace Timer

variable {Task : Type} (t : Timer Task)

/-- The timer is armed with the arming, whose task may have started or ended. -/
def Holds (a : Arming Task) : Prop := ∃ busy, t.current = some { a with busy := busy }

@[simp] theorem isArmed_arm (now : Nat) (period : Period) (task : Task) :
    (t.arm now period task).isArmed = true := by
  unfold arm
  split
  · rename_i a current
    simp [isArmed, current]
  · rfl

@[simp] theorem isArmed_disarm : t.disarm.isArmed = false := by
  unfold disarm
  split
  · rename_i current
    simp [isArmed, current]
  · rfl

@[simp] theorem isArmed_finish (id : Nat) : (t.finish id).isArmed = t.isArmed := by
  simp [isArmed, finish]

variable {t}

/-- A timer ticks when its arming is due and its task is idle. -/
theorem fire_of_due {now : Nat} {a : Arming Task} (current : t.current = some a)
    (idle : a.busy = false) (due : a.due ≤ now) :
    t.fire now = some (a, { t with
      current := some { a with due := nextDue a.due now a.period, busy := true } }) := by
  have early : ¬ now < a.due := Nat.not_lt.mpr due
  simp [fire, current, idle, early]

/-- A timer that is armed is not armed again. -/
theorem Holds.arm {a : Arming Task} (h : t.Holds a) (now : Nat) (period : Period) (task : Task) :
    (t.arm now period task).Holds a := by
  obtain ⟨busy, current⟩ := h
  refine ⟨busy, ?_⟩
  unfold Timer.arm
  rw [current]
  exact current

/-- The end of a task leaves the ticks alone. -/
theorem Holds.finish {a : Arming Task} (h : t.Holds a) (id : Nat) : (t.finish id).Holds a := by
  obtain ⟨busy, current⟩ := h
  unfold Timer.finish
  rw [current, Option.map_some]
  split
  · exact ⟨false, rfl⟩
  · exact ⟨busy, rfl⟩

/-- A tick moves the next one by the period, and nothing else. -/
theorem Holds.fire {a a' : Arming Task} {t' : Timer Task} (h : t.Holds a) {now : Nat}
    (fired : t.fire now = some (a', t')) : t'.Holds (a.after [now]) := by
  obtain ⟨busy, current⟩ := h
  unfold Timer.fire at fired
  rw [current] at fired
  dsimp only at fired
  split at fired
  · cases fired
  · obtain ⟨-, rfl⟩ := fired
    exact ⟨true, rfl⟩

theorem isArmed_of_fire {now : Nat} {a : Arming Task} {t' : Timer Task}
    (fired : t.fire now = some (a, t')) : t'.isArmed = t.isArmed := by
  unfold fire at fired
  split at fired
  · cases fired
  · rename_i a' current
    dsimp only at fired
    split at fired
    · cases fired
    · obtain ⟨rfl, rfl⟩ := fired
      simp [isArmed, current]

end Timer

end Dialogue
