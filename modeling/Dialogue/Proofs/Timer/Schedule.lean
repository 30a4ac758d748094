import Mathlib.Data.List.Induction
import Dialogue.Proofs.Timer.Punctual

/-! # The schedule of a timer

Whatever a timer was told before, it can be armed when it is not armed, and the new arming goes by
its timetable whatever the timer is told afterwards: until the first command that stops it, and
after that as far as what it had under way. -/

namespace Dialogue.Timer.Run

variable {r r' : Run} {a : Arming Task} {stopped : Nat} {commands : List Command}

/-- The timer on its clock once it has been told the commands. -/
def after (r : Run) (commands : List Command) : Run := commands.foldl (fun r c => (r.apply c).2) r

theorem after_cons (r : Run) (c : Command) (rest : List Command) :
    r.after (c :: rest) = (r.apply c).2.after rest := rfl

theorem after_append (r : Run) (commands later : List Command) :
    r.after (commands ++ later) = (r.after commands).after later := by
  unfold after
  rw [List.foldl_append]

theorem after_concat (r : Run) (commands : List Command) (c : Command) :
    r.after (commands ++ [c]) = ((r.after commands).apply c).2 := r.after_append commands [c]

/-- What holds of a timer on a clock between two commands. -/
structure Orderly (r : Run) : Prop where
  sound : r.Sound
  ready : r.Ready

theorem start_orderly : start.Orderly := ⟨start_sound, start_ready⟩

theorem Orderly.obeys (h : r.Orderly) (c : Command) : r.Obeys c (r.apply c).2 :=
  apply_obeys h.sound.dropped c

theorem Orderly.next (h : r.Orderly) (c : Command) : (r.apply c).2.Orderly :=
  ⟨h.sound.obeys (h.obeys c), h.ready.obeys (h.obeys c)⟩

/-- What every command keeps is kept by all of them. -/
theorem after_keeps {P : Run → Prop} (keeps : ∀ r c, c ∈ commands → P r → P (r.apply c).2) :
    ∀ {r : Run}, P r → P (r.after commands) := by
  induction commands with
  | nil => exact id
  | cons c rest ih =>
    intro r holds
    rw [after_cons]
    refine ih (fun r' c' member => keeps r' c' (List.mem_cons_of_mem _ member)) ?_
    exact keeps r c (List.mem_cons_self ..) holds

theorem Orderly.after (h : r.Orderly) (commands : List Command) : (r.after commands).Orderly :=
  after_keeps (fun _ c _ h => h.next c) h

/-! ## Whether the timer is armed -/

/-- The commands arm the timer at last, and nothing stops it after that. -/
def ArmsAtLast (commands : List Command) : Prop :=
  ∃ before period duration during, commands = before ++ .arm period duration :: during ∧
    .drop ∉ before ∧ ∀ c ∈ during, ¬ c.Stops

theorem armsAtLast_concat {c : Command} :
    ArmsAtLast (commands ++ [c]) ↔
      (.drop ∉ commands ∧ ∃ period duration, c = .arm period duration) ∨
        (ArmsAtLast commands ∧ ¬ c.Stops) := by
  constructor
  · rintro ⟨before, period, duration, during, split, kept, goesOn⟩
    rcases List.eq_nil_or_concat during with rfl | ⟨during', c', rfl⟩
    · obtain ⟨rfl, last⟩ := List.append_inj' split rfl
      exact .inl ⟨kept, period, duration, List.singleton_inj.mp last⟩
    · rw [List.concat_eq_append] at split goesOn
      rw [← List.cons_append, ← List.append_assoc] at split
      obtain ⟨rfl, last⟩ := List.append_inj' split rfl
      obtain rfl := List.singleton_inj.mp last
      refine .inr ⟨⟨before, period, duration, during', rfl, kept, ?_⟩, goesOn _ (by simp)⟩
      exact fun c member => goesOn c (List.mem_append_left _ member)
  · rintro (⟨kept, period, duration, rfl⟩ | ⟨⟨before, period, duration, during, rfl, kept, goesOn⟩, last⟩)
    · exact ⟨commands, period, duration, [], rfl, kept, nofun⟩
    · refine ⟨before, period, duration, during ++ [c], by simp, kept, ?_⟩
      intro c' member
      rcases List.mem_append.mp member with member | member
      · exact goesOn c' member
      · exact List.mem_singleton.mp member ▸ last

theorem Happens.timer {target : Nat} (happens : r.Happens target r') :
    r'.timer.isArmed = r.timer.isArmed ∧ r'.dropped = r.dropped := by
  cases happens with
  | ended task underWay inTime first before ends =>
    exact ⟨by simp [isArmed, ends.current], ends.dropped⟩
  | ticked a current idle inTime before starts =>
    exact ⟨by simp [isArmed, starts.current, current], starts.dropped⟩

/-- The passing of time arms nothing and disarms nothing. -/
theorem apply_advance (r : Run) (ms : Nat) :
    (r.apply (.advance ms)).2.timer.isArmed = r.timer.isArmed ∧
      (r.apply (.advance ms)).2.dropped = r.dropped := by
  obtain ⟨s, keeps, -, -, moved⟩ := advanceTo_cases (r := r) (Nat.le_add_right r.now ms)
  have result : (r.apply (.advance ms)).2 = { s with now := r.now + ms } := moved
  rw [result]
  refine keeps (fun s => s.timer.isArmed = r.timer.isArmed ∧ s.dropped = r.dropped) ?_ ⟨rfl, rfl⟩
  intro s s' same happens
  exact ⟨happens.timer.1.trans same.1, happens.timer.2.trans same.2⟩

theorem apply_dropped (r : Run) (c : Command) :
    (r.apply c).2.dropped = true ↔ r.dropped = true ∨ c = .drop := by
  cases c with
  | arm period duration => cases kept : r.dropped <;> simp [apply, kept]
  | disarm => cases kept : r.dropped <;> simp [apply, kept]
  | shutdown => cases kept : r.dropped <;> simp [apply, apply.cutOff, kept]
  | drop => simp [apply]
  | advance ms => simp [(r.apply_advance ms).2]

/-- The timer is dropped by a command only. -/
theorem dropped_iff : (start.after commands).dropped = true ↔ .drop ∈ commands := by
  induction commands using List.reverseRecOn with
  | nil => simp [after, start]
  | append_singleton rest c ih =>
    rw [after_concat, apply_dropped, ih, List.mem_append, List.mem_singleton, @eq_comm _ c]

/-- A command that stops a timer leaves it disarmed. -/
theorem Orderly.current_of_stops {c : Command} (h : r.Orderly) (stops : c.Stops) :
    (r.apply c).2.timer.current = none := by
  generalize (r.apply c).2 = r', h.obeys c = obeys
  cases obeys with
  | advanced keeps inTime settled => simp [Command.Stops, Command.CutsOff] at stops
  | rested free more gone => exact free stops
  | armed kept free => exact absurd stops (not_stops_arm _ _)
  | disarmed current => rfl
  | cutOff cuts current => rfl

theorem Orderly.isArmed_apply (h : r.Orderly) (c : Command) :
    (r.apply c).2.timer.isArmed = true ↔
      (r.dropped = false ∧ ∃ period duration, c = .arm period duration) ∨
        (r.timer.isArmed = true ∧ ¬ c.Stops) := by
  by_cases stops : c.Stops
  · have none := h.current_of_stops stops
    have notArm : ∀ period duration, c ≠ .arm period duration := by
      rintro period duration rfl
      exact not_stops_arm period duration stops
    simp [isArmed, none, stops, notArm]
  · cases c with
    | arm period duration =>
      cases kept : r.dropped with
      | true => simp [apply, kept, stops]
      | false => simp [apply, kept]
    | disarm => exact absurd (.inl rfl) stops
    | shutdown => exact absurd (.inr (.inl rfl)) stops
    | drop => exact absurd (.inr (.inr rfl)) stops
    | advance ms => simp [(r.apply_advance ms).1, stops]

/-- Whether the timer is armed depends on what it was told alone. -/
theorem isArmed_iff : (start.after commands).timer.isArmed = true ↔ ArmsAtLast commands := by
  induction commands using List.reverseRecOn with
  | nil =>
    have never : ¬ ArmsAtLast [] := by
      rintro ⟨before, period, duration, during, split, -⟩
      simp at split
    exact iff_of_false Bool.false_ne_true never
  | append_singleton rest c ih =>
    have dropped : (start.after rest).dropped = false ↔ .drop ∉ rest := by
      rw [← dropped_iff, Bool.not_eq_true]
    rw [after_concat, (start_orderly.after rest).isArmed_apply, armsAtLast_concat, ih, dropped]

/-! ## What the timer tells -/

theorem isArmed_eq_false : r.timer.isArmed = false ↔ r.timer.current = none := by
  simp [isArmed]

/-- What a timer that is not dropped makes of being armed and disarmed. -/
structure Tells (r : Run) : Prop where
  arm : ∀ period duration, (r.apply (.arm period duration)).1 = some (!r.timer.isArmed)
  armed : r.timer.isArmed = false → ∀ period duration,
    (r.apply (.arm period duration)).2.timer.current = some (r.arming period duration)
  /-- A timer that is armed is left as it is, though it counts that it was asked. -/
  refused : r.timer.isArmed = true → ∀ period duration,
    (r.apply (.arm period duration)).2 = { r with asked := r.asked + 1 }
  disarm : (r.apply .disarm).1 = some r.timer.isArmed

theorem apply_arm (kept : r.dropped = false) (period : Period) (duration : Nat) :
    r.apply (.arm period duration) = (some (!r.timer.isArmed),
      { r with
        asked := r.asked + 1
        timer := r.timer.arm r.now period ⟨r.asked + 1, duration⟩ }) := by
  simp [apply, kept]

theorem tells (kept : r.dropped = false) : r.Tells where
  arm := by
    intro period duration
    rw [apply_arm kept]
  armed := by
    intro free period duration
    rw [isArmed_eq_false] at free
    rw [apply_arm kept]
    dsimp only
    rw [Timer.arm, free]
    rfl
  refused := by
    intro armed period duration
    obtain ⟨b, current⟩ := Option.isSome_iff_exists.mp armed
    rw [apply_arm kept, Timer.arm, current]
  disarm := by simp [apply, kept]

/-! ## What becomes of an arming -/

/-- What is seen of an arming whose last task started by the instant `stopped`, and whose tasks went
on until the instant `limit`: its log is that of the timetable, and it has one task under way at
most. -/
structure Shows (r : Run) (a : Arming Task) (stopped limit : Nat) : Prop where
  log : r.logOf a.task.label = a.record stopped limit
  starts : (r.logOf a.task.label).filterMap Entry.start? =
    (List.range (a.begun stopped)).map a.startAt
  single : (r.runningOf a.id).length ≤ 1

theorem shows_of_log {limit : Nat} (log : r.logOf a.task.label = a.record stopped limit)
    (single : (r.runningOf a.id).length ≤ 1) : r.Shows a stopped limit :=
  ⟨log, log ▸ a.starts_record stopped limit, single⟩

/-- What becomes of the arming of a timer. -/
structure Goes (r : Run) (a : Arming Task) : Prop where
  /-- As long as nothing stops it, it goes on by its timetable. -/
  armed : ∀ during, (∀ c ∈ during, ¬ c.Stops) →
    (r.after during).Shows a (r.after during).now (r.after during).now ∧
      (r.after during).timer.Holds
        { a with due := a.dueAt (a.begun (r.after during).now) }
  /-- Once it is disarmed no more tasks start, but the task under way goes on. -/
  disarmed : ∀ during, (∀ c ∈ during, ¬ c.Stops) → ∀ later,
    (r.after (during ++ .disarm :: later)).Shows a (r.after during).now
      (r.after (during ++ .disarm :: later)).now
  /-- Once it is cut off no more tasks start, and the task under way does not end. -/
  cutOff : ∀ during, (∀ c ∈ during, ¬ c.Stops) → ∀ c : Command, c.CutsOff → ∀ later,
    (r.after (during ++ c :: later)).Shows a (r.after during).now (r.after during).now ∧
      (r.after (during ++ c :: later)).runningOf a.id = []

theorem Armed.shows (h : r.Armed a) (ready : r.Ready) : r.Shows a r.now r.now := by
  refine shows_of_log (h.log_eq ready) ?_
  cases h with
  | waiting n current rests next => simp [rests.running]
  | working n current works => simp [works.running]

theorem Armed.holds (h : r.Armed a) (ready : r.Ready) :
    r.timer.Holds { a with due := a.dueAt (a.begun r.now) } := by
  cases h with
  | waiting n current rests next =>
    rw [rests.begun_eq (ready.current _ current rfl)]
    exact ⟨false, current⟩
  | working n current works =>
    rw [works.begun_eq ready]
    exact ⟨true, current⟩

theorem Disarmed.shows (h : r.Disarmed a stopped) (ready : r.Ready) :
    r.Shows a stopped r.now := by
  refine shows_of_log (h.log_eq ready) ?_
  cases h with
  | resting n last rests => simp [rests.running]
  | working n last works => simp [works.running]

theorem CutOff.shows (h : r.CutOff a stopped) : r.Shows a stopped stopped :=
  shows_of_log h.log (by simp [h.running])

/-- An arming that goes on, told apart from all others. -/
structure Going (r : Run) (a : Arming Task) : Prop where
  orderly : r.Orderly
  apart : r.Apart a
  armed : r.Armed a

theorem Going.after (h : r.Going a) (goesOn : ∀ c ∈ commands, ¬ c.Stops) :
    (r.after commands).Going a := by
  refine after_keeps (P := (·.Going a)) ?_ h
  intro r c member h
  have obeys := h.orderly.obeys c
  exact ⟨h.orderly.next c, h.apart.obeys obeys,
    h.armed.obeys h.orderly.sound h.apart obeys (goesOn c member)⟩

/-- An arming that is over, of which something is known that no command changes. -/
structure Past (r : Run) (a : Arming Task) (P : Run → Prop) : Prop where
  orderly : r.Orderly
  apart : r.Apart a
  gone : r.Gone a
  known : P r

theorem Past.after {P : Run → Prop} (h : r.Past a P)
    (keeps : ∀ {r r' : Run} {c : Command}, P r → r.Sound → r.Apart a → r.Gone a → r.Obeys c r' → P r')
    (commands : List Command) : (r.after commands).Past a P := by
  refine after_keeps (P := (·.Past a P)) ?_ h
  intro r c _ h
  have obeys := h.orderly.obeys c
  exact ⟨h.orderly.next c, h.apart.obeys obeys, h.gone.obeys h.apart obeys,
    keeps h.known h.orderly.sound h.apart h.gone obeys⟩

theorem Going.goes (h : r.Going a) : r.Goes a where
  armed := by
    intro during goesOn
    have h := h.after goesOn
    exact ⟨h.armed.shows h.orderly.ready, h.armed.holds h.orderly.ready⟩
  disarmed := by
    intro during goesOn later
    have h := h.after goesOn
    have obeys := h.orderly.obeys .disarm
    obtain ⟨gone, disarmed⟩ := h.armed.disarmed h.orderly.ready obeys
    have past : ((r.after during).apply .disarm).2.Past a (·.Disarmed a (r.after during).now) :=
      ⟨h.orderly.next .disarm, h.apart.obeys obeys, gone, disarmed⟩
    have past := past.after Disarmed.obeys later
    rw [after_append, after_cons]
    exact past.known.shows past.orderly.ready
  cutOff := by
    intro during goesOn c cuts later
    have h := h.after goesOn
    have obeys := h.orderly.obeys c
    obtain ⟨gone, cutOff⟩ := h.armed.cutOff h.orderly.ready cuts obeys
    have past : ((r.after during).apply c).2.Past a (·.CutOff a (r.after during).now) :=
      ⟨h.orderly.next c, h.apart.obeys obeys, gone, cutOff⟩
    have past := past.after CutOff.obeys later
    rw [after_append, after_cons]
    exact ⟨past.known.shows, past.known.running⟩

theorem Orderly.going (h : r.Orderly) (kept : r.dropped = false) (free : r.timer.isArmed = false)
    (period : Period) (duration : Nat) :
    (r.apply (.arm period duration)).2.Going (r.arming period duration) := by
  have orderly := h.next (.arm period duration)
  rw [isArmed_eq_false] at free
  have result : (r.apply (.arm period duration)).2 =
      { r with
        asked := r.asked + 1
        timer :=
          { r.timer with
            current := some (r.arming period duration)
            count := r.timer.count + 1 } } := by
    rw [apply_arm kept, Timer.arm, free]
    rfl
  rw [result] at orderly ⊢
  -- the numbers of the new arming have not been used
  have newId : ∀ task ∈ r.running, task.arming ≠ r.timer.count + 1 := fun task member =>
    (Nat.lt_succ_of_le (h.sound.running task member).1).ne
  have newLabel : ∀ task ∈ r.running, task.label ≠ r.asked + 1 := fun task member =>
    (Nat.lt_succ_of_le (h.sound.running task member).2).ne
  have unlogged : ∀ e ∈ r.log, e.label ≠ r.asked + 1 := fun e member =>
    (Nat.lt_succ_of_le (h.sound.log e member)).ne
  have past : ∀ m < 0, (r.arming period duration).endAt m ≤ r.now := fun m less =>
    absurd less (Nat.not_lt_zero m)
  refine ⟨orderly, ⟨Nat.le_refl _, Nat.le_refl _, ?_, ?_⟩, .waiting 0 rfl ⟨past, ?_, ?_⟩ ?_⟩
  · exact fun task member => iff_of_false (newId task member) (newLabel task member)
  · intro b current
    obtain rfl := Option.some.inj current
    exact iff_of_true rfl rfl
  · refine List.filter_eq_nil_iff.mpr fun task member => ?_
    rw [decide_eq_true_eq]
    exact newId task member
  · refine List.filter_eq_nil_iff.mpr fun e member => ?_
    rw [decide_eq_true_eq]
    exact unlogged e member
  · exact Nat.max_eq_right (Nat.le_add_right _ _)

/-! ## The schedule -/

/-- How a timer that was told the commands goes on. -/
structure Punctual (commands : List Command) : Prop where
  armed : (start.after commands).timer.isArmed = true ↔ ArmsAtLast commands
  /-- As long as it is not dropped, it tells whether it could be armed or disarmed. -/
  tells : .drop ∉ commands → (start.after commands).Tells
  /-- When it is armed, the arming goes by a timetable that is regular. -/
  goes : .drop ∉ commands → ¬ ArmsAtLast commands → ∀ period duration,
    ((start.after commands).arming period duration).Regular ∧
      (start.after (commands ++ [.arm period duration])).Goes
        ((start.after commands).arming period duration)

/-- Every arming of a timer goes by its timetable, whatever the timer is told before and after. -/
theorem schedule_punctual (commands : List Command) : Punctual commands where
  armed := isArmed_iff
  tells := fun kept => tells (Bool.eq_false_iff.mpr (dropped_iff.not.mpr kept))
  goes := by
    intro kept free period duration
    have kept : (start.after commands).dropped = false :=
      Bool.eq_false_iff.mpr (dropped_iff.not.mpr kept)
    have free : (start.after commands).timer.isArmed = false :=
      Bool.eq_false_iff.mpr (isArmed_iff.not.mpr free)
    rw [after_concat]
    exact ⟨Arming.regular _, ((start_orderly.after commands).going kept free period duration).goes⟩

-- a task that overruns two periods starts again as soon as it has ended, until it is disarmed
example :
    (start.after [.arm ⟨10, by decide⟩ 25, .advance 62, .disarm, .advance 100]).log =
      [.tick 1 10, .done 1 35, .tick 1 35, .done 1 60, .tick 1 60, .done 1 85] := by
  decide +kernel

end Dialogue.Timer.Run
