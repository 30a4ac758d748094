import Dialogue.Session.Encode
import Dialogue.Proofs.Session.Grammar
import Dialogue.Proofs.Time.RoundTrip

/-! # Reading a session that was written

A session that was read is read back as it was after it is written, unless one of its times has a
year that is not written in four digits. The two directions are not alike: a time can be read from
two forms, labels and messages too, and members may be missing or null. So what is known of a
session that was read comes first. -/

namespace Dialogue

open Json (Value Fields Nullable Optional IsText Named Timed Listed)

/-! ## What was read -/

/-- The points of time that a session mentions. -/
def Session.times (s : Session) : List Time.Instant :=
  s.createdAt.toList ++ s.updatedAt.toList ++ s.messages.filterMap (·.timestamp)

theorem Session.forall_times {s : Session} {P : Time.Instant → Prop} :
    (∀ t ∈ s.times, P t) ↔ (∀ t ∈ s.createdAt, P t) ∧ (∀ t ∈ s.updatedAt, P t) ∧
      ∀ m ∈ s.messages, ∀ t ∈ m.timestamp, P t := by
  simp only [times, List.mem_append, Option.mem_toList, List.mem_filterMap, or_imp, forall_and,
    Option.mem_def, and_assoc]
  refine and_congr_right fun _ => and_congr_right fun _ => ?_
  exact ⟨fun all m member t timed => all t ⟨m, member, timed⟩,
    fun all t ⟨m, member, timed⟩ => all m member t timed⟩

/-- A draft goal holds a member that it knows in one place only, and no null for it. -/
structure DraftGoal.Normal (g : DraftGoal) : Prop where
  metrics : g.successMetrics ≠ some .null
  extra : Json.without knownKeys g.extra = g.extra

/-- What holds of every session that was read. -/
structure Session.Normal (s : Session) : Prop where
  id_used : Text.trimmed s.id ≠ ""
  boardId_used : Text.trimmed s.boardId ≠ ""
  goal : ∀ g ∈ s.draftGoal, g.Normal
  times : ∀ t ∈ s.times, t.Valid

theorem Json.Timed.valid {v : Value} {t : Time.Instant} (is : Timed v t) : t.Valid := by
  obtain ⟨text, -, read⟩ := is
  exact Time.Instant.valid_of_parse read

theorem Json.Optional.time_valid {fields : Fields} {key : String} {o : Option Time.Instant}
    (is : Optional Timed fields key o) : ∀ t ∈ o, t.Valid := by
  rintro t ⟨⟩
  obtain ⟨v, -, -, timed⟩ := is.of_some
  exact timed.valid

theorem Message.Describes.valid {v : Value} {m : Message} (is : Describes v m) :
    ∀ t ∈ m.timestamp, t.Valid := by
  cases is with
  | object _ _ _ timestamp => exact timestamp.time_valid
  | pair _ untimed => simp [untimed]
  | @triple _ _ time _ timed =>
    intro t here
    rw [here] at timed
    cases timed with
    | given _ timed => exact timed.valid

theorem DraftGoal.Describes.normal {v : Value} {g : DraftGoal} (is : Describes v g) :
    g.Normal := by
  cases is with
  | object _ metrics _ extra =>
    constructor
    · intro null
      rw [null] at metrics
      obtain ⟨v, -, notNull, same⟩ := metrics.of_some
      exact notNull same
    · rw [extra, Json.without_without]

theorem Session.Describes.normal {v : Value} {s : Session} (is : Describes v s) : s.Normal := by
  obtain ⟨fields, rfl, is⟩ := is
  have messages : ∀ m ∈ s.messages, ∀ t ∈ m.timestamp, t.Valid := by
    obtain ⟨found, listed, same⟩ := is.messages
    intro m member
    cases found with
    | none => simp [same] at member
    | some ms =>
      obtain ⟨v, -, -, described⟩ := listed.of_some
      rw [same] at member
      obtain ⟨item, message⟩ := described.of_mem member
      exact message.valid
  constructor
  · exact is.id_used
  · exact is.boardId_used
  · intro g here
    have goal := is.draftGoal
    rw [here] at goal
    obtain ⟨v, -, -, described⟩ := goal.of_some
    exact described.normal
  · exact forall_times.mpr ⟨is.createdAt.time_valid, is.updatedAt.time_valid, messages⟩

/-! ## What is written -/

theorem Role.label_injective {r r' : Role} (same : r.label = r'.label) : r = r' := by
  have found := lookup_label r
  rw [same, lookup_label r'] at found
  exact (Option.some.inj found).symm

theorem Status.label_injective {s s' : Status} (same : s.label = s'.label) : s = s' := by
  have found := lookup_label s
  rw [same, lookup_label s'] at found
  exact (Option.some.inj found).symm

theorem Time.Instant.timed_toJson? {o o' : Option Time.Instant} (valid : ∀ t ∈ o, t.Valid) :
    Nullable Timed (toJson? o) o' ↔ o' = o ∧ ∀ t ∈ o, t.FourDigits := by
  have written : toJson? o = (o.map fun t => Value.string t.text).getD .null := by
    cases o <;> rfl
  rw [written]
  refine Json.nullable_written (by simp) fun t here t' => ?_
  rw [← parse_text_iff (valid t here)]
  simp [Timed]

theorem Message.describes_toJson {m m' : Message} (valid : ∀ t ∈ m.timestamp, t.Valid) :
    Describes m.toJson m' ↔ m' = m ∧ ∀ t ∈ m.timestamp, t.FourDigits := by
  constructor
  · intro is
    cases is with
    | object role_found role_named content timestamp =>
      obtain rfl := Option.some.inj role_found
      have role := Role.label_injective (Json.named_string.mp role_named)
      have text := Value.string.inj (Option.some.inj content)
      rw [Json.optional_of_found rfl, Time.Instant.timed_toJson? valid] at timestamp
      obtain ⟨time, years⟩ := timestamp
      refine ⟨?_, years⟩
      cases m
      cases m'
      simp_all
  · rintro ⟨rfl, years⟩
    refine .object rfl (.inl rfl) rfl ?_
    rw [Json.optional_of_found rfl, Time.Instant.timed_toJson? valid]
    exact ⟨rfl, years⟩

theorem Json.optional_text {fields : Fields} {key : String} {o o' : Option String}
    (written : fields.lookup key = o.map .string) : Optional IsText fields key o' ↔ o' = o := by
  rw [Json.optional_written (P := fun _ => True) written (by simp)]
  · simp
  · simp [IsText, eq_comm]

namespace DraftGoal

/-- The members of a draft goal as they are written. -/
def fields (g : DraftGoal) : Fields :=
  Json.putField "objective" (g.objective.map .string) <|
    Json.putField "success_metrics" g.successMetrics <|
    Json.putField "target_date" (g.targetDate.map .string) g.extra

theorem toJson_eq (g : DraftGoal) : g.toJson = .object g.fields := rfl

variable {g : DraftGoal}

theorem Normal.lookup_extra (normal : g.Normal) {key : String} (known : key ∈ knownKeys) :
    g.extra.lookup key = none := by
  rw [← normal.extra]
  exact Json.lookup_without known g.extra

theorem Normal.objective (normal : g.Normal) :
    g.fields.lookup "objective" = g.objective.map .string := by
  apply Json.lookup_putField
  rw [Json.lookup_putField_of_ne (by decide), Json.lookup_putField_of_ne (by decide)]
  exact normal.lookup_extra (by decide)

theorem Normal.successMetrics (normal : g.Normal) :
    g.fields.lookup "success_metrics" = g.successMetrics := by
  rw [fields, Json.lookup_putField_of_ne (by decide)]
  apply Json.lookup_putField
  rw [Json.lookup_putField_of_ne (by decide)]
  exact normal.lookup_extra (by decide)

theorem Normal.targetDate (normal : g.Normal) :
    g.fields.lookup "target_date" = g.targetDate.map .string := by
  rw [fields, Json.lookup_putField_of_ne (by decide), Json.lookup_putField_of_ne (by decide)]
  exact Json.lookup_putField (normal.lookup_extra (by decide))

theorem Normal.optional_metrics (normal : g.Normal) {o : Option Value} :
    Optional Eq g.fields "success_metrics" o ↔ o = g.successMetrics := by
  have written : g.fields.lookup "success_metrics" = g.successMetrics.map id := by
    rw [normal.successMetrics, Option.map_id]
    rfl
  have notNull : ∀ v ∈ g.successMetrics, id v ≠ .null := by
    rintro v here rfl
    exact normal.metrics here
  rw [Json.optional_written (P := fun _ => True) written notNull]
  · simp
  · simp [eq_comm]

theorem Normal.unknown (normal : g.Normal) : Json.without knownKeys g.fields = g.extra := by
  rw [fields, Json.without_putField (by decide), Json.without_putField (by decide),
    Json.without_putField (by decide), normal.extra]

theorem describes_toJson (normal : g.Normal) {g' : DraftGoal} :
    Describes g.toJson g' ↔ g' = g := by
  rw [toJson_eq]
  constructor
  · intro is
    cases is with
    | object objective metrics target extra =>
      rw [Json.optional_text normal.objective] at objective
      rw [normal.optional_metrics] at metrics
      rw [Json.optional_text normal.targetDate] at target
      rw [normal.unknown] at extra
      cases g
      cases g'
      simp_all
  · rintro rfl
    exact .object ((Json.optional_text normal.objective).mpr rfl)
      (normal.optional_metrics.mpr rfl)
      ((Json.optional_text normal.targetDate).mpr rfl) normal.unknown.symm

theorem describes_toJson? {o o' : Option DraftGoal} (normal : ∀ g ∈ o, g.Normal) :
    Nullable Describes (toJson? o) o' ↔ o' = o := by
  have written : toJson? o = (o.map toJson).getD .null := by
    cases o <;> rfl
  rw [written, Json.nullable_written (P := fun _ => True)]
  · simp
  · simp [toJson_eq]
  · intro g here g'
    rw [describes_toJson (normal g here), and_true]

end DraftGoal

/-- What a session is read as once it was written: itself, if its times can be read. -/
theorem Session.describes_toJson {s s' : Session} (normal : s.Normal) :
    Describes s.toJson s' ↔ s' = s ∧ ∀ t ∈ s.times, t.FourDigits := by
  obtain ⟨created_valid, updated_valid, messages_valid⟩ := forall_times.mp normal.times
  have listed : ∀ ms, Listed Message.Describes (.array (s.messages.map Message.toJson)) ms ↔
      ms = s.messages ∧ ∀ m ∈ s.messages, ∀ t ∈ m.timestamp, t.FourDigits := fun ms =>
    Json.listed_written fun m member m' => Message.describes_toJson (messages_valid m member)
  rw [forall_times]
  constructor
  · rintro ⟨_, written, is⟩
    obtain rfl := Value.object.inj written
    have id := Value.string.inj (Option.some.inj is.id)
    have board := Value.string.inj (Option.some.inj is.boardId)
    have key := Value.string.inj (Option.some.inj is.sessionKey)
    obtain ⟨v, status_found, status_named⟩ := is.status
    obtain rfl := Option.some.inj status_found
    have status := Status.label_injective (Json.named_string.mp status_named)
    obtain ⟨found, optional, messages⟩ := is.messages
    rw [Json.optional_of_found rfl, Json.nullable_of_ne_null (by simp)] at optional
    obtain ⟨ms, described, rfl⟩ := optional
    obtain ⟨rfl, message_years⟩ := (listed ms).mp described
    have goal := is.draftGoal
    rw [Json.optional_of_found rfl, DraftGoal.describes_toJson? normal.goal] at goal
    have created := is.createdAt
    rw [Json.optional_of_found rfl, Time.Instant.timed_toJson? created_valid] at created
    have updated := is.updatedAt
    rw [Json.optional_of_found rfl, Time.Instant.timed_toJson? updated_valid] at updated
    refine ⟨?_, created.2, updated.2, message_years⟩
    cases s
    cases s'
    simp_all
  · rintro ⟨rfl, created, updated, messages⟩
    refine ⟨_, rfl, ?_⟩
    exact {
      id := rfl
      id_used := normal.id_used
      boardId := rfl
      boardId_used := normal.boardId_used
      sessionKey := rfl
      status := ⟨_, rfl, .inl rfl⟩
      messages := ⟨some s'.messages, (Json.optional_of_found rfl).mpr
        (.given (by simp) ((listed _).mpr ⟨rfl, messages⟩)), rfl⟩
      draftGoal := (Json.optional_of_found rfl).mpr
        ((DraftGoal.describes_toJson? normal.goal).mpr rfl)
      createdAt := (Json.optional_of_found rfl).mpr
        ((Time.Instant.timed_toJson? created_valid).mpr ⟨rfl, created⟩)
      updatedAt := (Json.optional_of_found rfl).mpr
        ((Time.Instant.timed_toJson? updated_valid).mpr ⟨rfl, updated⟩) }

/-- A session that was read is read from what is written of it exactly when the years of its times
are those of four digits, and then it is the same session. -/
theorem Session.ofJson_toJson {v : Value} {s : Session} (read : ofJson v = .ok s) :
    ((∃ s', ofJson s.toJson = .ok s') ↔
      ∀ t ∈ s.times, 0 ≤ t.date.year ∧ t.date.year ≤ 9999) ∧
    ∀ s', ofJson s.toJson = .ok s' → s' = s := by
  have normal := Describes.normal (ofJson_eq_ok.mp read)
  simp only [ofJson_eq_ok, describes_toJson normal]
  constructor
  · constructor
    · rintro ⟨s', -, years⟩
      exact years
    · exact fun years => ⟨s, rfl, years⟩
  · rintro s' ⟨same, -⟩
    exact same

/-- A session as it may come, with a label in an object, a message in an array and members that
are not known. -/
def Session.dated (time : String) : Value :=
  .object [("board_id", .string "b"), ("created_at", .string time),
    ("draft_goal", .object [("note", .bool true), ("objective", .string "Grow")]),
    ("id", .string "s"), ("messages", .array [.array [.string "user", .string "Hello"]]),
    ("session_key", .string "k"), ("status", .object [("completed", .null)]), ("tag", .null)]

/-- The session that is read from it. -/
def Session.datedAt (t : Time.Instant) : Session :=
  { id := "s", boardId := "b", sessionKey := "k", status := .completed,
    messages := [⟨.user, "Hello", none⟩],
    draftGoal := some ⟨some "Grow", none, none, [("note", .bool true)]⟩,
    createdAt := some t, updatedAt := none }

/-- A leap second, in UTC, that is read from a zone five and a half hours ahead. -/
def Session.leapSecond : Time.Instant := ⟨⟨2016, 12, 31⟩, 18, 29, 60, 500000000⟩

/-- The last hour before the years of four digits, which is midnight a zone ahead. -/
def Session.hourBefore : Time.Instant := ⟨⟨-1, 12, 31⟩, 23, 0, 0, 0⟩

/-- A leap second of another zone is read back, but not a time that its zone moves to the year
before those of four digits. -/
theorem Session.leap_second_reread :
    (ofJson (dated "2016-12-31T23:59:60.5+05:30") = .ok (datedAt leapSecond) ∧
      ofJson (datedAt leapSecond).toJson = .ok (datedAt leapSecond)) ∧
    (ofJson (dated "0000-01-01T00:00:00+01:00") = .ok (datedAt hourBefore) ∧
      ¬ ∃ s, ofJson (datedAt hourBefore).toJson = .ok s) := by
  have leap : ofJson (dated "2016-12-31T23:59:60.5+05:30") = .ok (datedAt leapSecond) := by
    decide +kernel
  have early : ofJson (dated "0000-01-01T00:00:00+01:00") = .ok (datedAt hourBefore) := by
    decide +kernel
  refine ⟨⟨leap, ?_⟩, early, ?_⟩
  · obtain ⟨s, again⟩ := (ofJson_toJson leap).1.mpr (by decide +kernel)
    rw [again, (ofJson_toJson leap).2 s again]
  · rw [(ofJson_toJson early).1]
    decide +kernel

end Dialogue
