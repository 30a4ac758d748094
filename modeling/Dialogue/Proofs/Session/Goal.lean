import Dialogue.Proofs.Json.Ordered
import Dialogue.Proofs.Session.RoundTrip

/-! # Draft goals

A draft goal is written as it was read, with the members that are known and those that are not, but
for the known ones that were null. A session has a draft goal when its member for it is there and
not null, even if there is nothing in it. -/

namespace Dialogue

open Json (Value Fields Nullable Optional IsText)

namespace Json

section Optional

variable {α : Type} {R : Value → α → Prop} {fields other : Fields} {key : String} {o : Option α}

/-- What a member stands for is a matter of what is found under its key. -/
theorem optional_congr (same : other.lookup key = fields.lookup key) :
    Optional R other key o ↔ Optional R fields key o := by
  cases found : fields.lookup key with
  | none => rw [optional_of_missing found, optional_of_missing (same.trans found)]
  | some v => rw [optional_of_found found, optional_of_found (same.trans found)]

/-- What is found of a member that may be null, null apart, is what is written for the thing that
it stands for. -/
theorem Optional.lookup_filter (write : α → Value) (is : Optional R fields key o)
    (alone : ∀ v a, R v a → v = write a) :
    (fields.lookup key).filter (fun v => v ≠ .null) = o.map write := by
  cases is with
  | missing absent => rw [absent, Option.filter_none, Option.map_none]
  | found there is =>
    rw [there]
    cases is with
    | null => rfl
    | given notNull is =>
      obtain rfl := alone _ _ is
      simp [notNull]

/-- A member stands for something, or is missing or null. -/
theorem exists_optional :
    (∃ o, Optional R fields key o) ↔
      ∀ v, fields.lookup key = some v → v = .null ∨ ∃ a, R v a := by
  cases found : fields.lookup key with
  | none => simp [optional_of_missing found]
  | some v =>
    simp only [optional_of_found found, Option.some.injEq, forall_eq']
    by_cases null : v = .null
    · subst null
      simp [nullable_null]
    · simp [nullable_of_ne_null null, null]

theorem lookup_without_of_not_mem {keys : List String} (unknown : key ∉ keys) (fields : Fields) :
    (without keys fields).lookup key = fields.lookup key := by
  induction fields with
  | nil => rfl
  | cons member rest ih =>
    obtain ⟨k, v⟩ := member
    rw [without] at ih ⊢
    by_cases known : k ∈ keys
    · have ne : key ≠ k := fun same => unknown (same ▸ known)
      rw [List.filter_cons_of_neg (by simpa using known), lookup_cons_of_ne ne, ih]
    · rw [List.filter_cons_of_pos (by simpa using known), List.lookup_cons, List.lookup_cons, ih]

end Optional

end Json

namespace DraftGoal

/-! ## What is read -/

/-- The member is missing, null or a text. -/
def TextAt (fields : Fields) (key : String) : Prop :=
  ∀ v, fields.lookup key = some v → v = .null ∨ ∃ s, v = .string s

/-- An object is a draft goal when the texts in it are texts. -/
theorem exists_describes_iff {fields : Fields} :
    (∃ g, Describes (.object fields) g) ↔
      TextAt fields "objective" ∧ TextAt fields "target_date" := by
  have text : ∀ key, (∃ o, Optional IsText fields key o) ↔ TextAt fields key :=
    fun _ => Json.exists_optional
  rw [← text, ← text]
  constructor
  · rintro ⟨g, is⟩
    cases is with
    | object objective metrics target extra => exact ⟨⟨_, objective⟩, _, target⟩
  · rintro ⟨⟨objective, is_objective⟩, targetDate, is_target⟩
    obtain ⟨metrics, is_metrics⟩ : ∃ o, Optional Eq fields "success_metrics" o :=
      Json.exists_optional.mpr fun v _ => .inr ⟨v, rfl⟩
    exact ⟨⟨objective, metrics, targetDate, Json.without knownKeys fields⟩,
      .object is_objective is_metrics is_target rfl⟩

/-! ## What is written -/

/-- Whether a member is written again: it is not known, or not null. -/
def keeps (member : String × Value) : Bool :=
  !(knownKeys.contains member.1 && member.2 = .null)

theorem keeps_of_known {key : String} (known : key ∈ knownKeys) :
    (fun v => keeps (key, v)) = fun v => decide (v ≠ .null) := by
  funext v
  simp [keeps, known]

theorem keeps_of_unknown {key : String} (unknown : key ∉ knownKeys) :
    (fun v => keeps (key, v)) = fun _ => true := by
  funext v
  simp [keeps, unknown]

section Written

variable {fields : Fields} {g : DraftGoal}

theorem fields_lookup_of_unknown {key : String} (unknown : key ∉ knownKeys) :
    g.fields.lookup key = g.extra.lookup key := by
  have ne : ∀ known ∈ knownKeys, key ≠ known := fun _ known same => unknown (same ▸ known)
  rw [DraftGoal.fields, Json.lookup_putField_of_ne (ne _ (by decide)),
    Json.lookup_putField_of_ne (ne _ (by decide)), Json.lookup_putField_of_ne (ne _ (by decide))]

/-- Under each key that is found which was read, unless it is a null of a member that is known. -/
theorem Describes.lookup_fields (is : Describes (.object fields) g) (key : String) :
    g.fields.lookup key = (fields.lookup key).filter fun v => keeps (key, v) := by
  have normal := is.normal
  cases is with
  | object objective metrics target extra =>
    by_cases known : key ∈ knownKeys
    · rw [keeps_of_known known]
      simp only [knownKeys, List.mem_cons, List.not_mem_nil, or_false] at known
      rcases known with rfl | rfl | rfl
      · rw [normal.objective, objective.lookup_filter .string fun _ _ is => is]
      · rw [normal.successMetrics, metrics.lookup_filter id fun _ _ is => is, Option.map_id, id]
      · rw [normal.targetDate, target.lookup_filter .string fun _ _ is => is]
    · rw [fields_lookup_of_unknown known, extra, Json.lookup_without_of_not_mem known]
      rw [keeps_of_unknown known]
      cases fields.lookup key <;> rfl

theorem fields_sorted (sorted : Json.Sorted g.extra) : Json.Sorted g.fields :=
  (((sorted.putField _ _).putField _ _).putField _ _)

theorem Describes.fields_eq (is : Describes (.object fields) g) (sorted : Json.Sorted fields) :
    g.fields = fields.filter keeps := by
  have extra : Json.Sorted g.extra := by
    cases is with
    | object _ _ _ extra =>
      rw [extra]
      exact sorted.without knownKeys
  refine (fields_sorted extra).ext (sorted.filter keeps) fun key => ?_
  rw [is.lookup_fields, sorted.lookup_filter]

end Written

end DraftGoal

/-! ## The session that carries it -/

namespace Session

variable {fields : Fields} {s : Session} {v : Value} {g : DraftGoal}

/-- A session takes another draft goal. -/
theorem Members.withGoal (is : s.Members fields) (goal : DraftGoal.Describes v g) :
    { s with draftGoal := some g }.Members (Json.insertField "draft_goal" v fields) := by
  have other : ∀ key, key ≠ "draft_goal" →
      (Json.insertField "draft_goal" v fields).lookup key = fields.lookup key :=
    fun key ne => Json.lookup_insertField_of_ne ne v fields
  have notNull : v ≠ .null := by
    rintro rfl
    cases goal
  obtain ⟨status, status_found, status_named⟩ := is.status
  obtain ⟨messages, listed, same⟩ := is.messages
  exact {
    id := (other _ (by decide)).trans is.id
    id_used := is.id_used
    boardId := (other _ (by decide)).trans is.boardId
    boardId_used := is.boardId_used
    sessionKey := (other _ (by decide)).trans is.sessionKey
    status := ⟨status, (other _ (by decide)).trans status_found, status_named⟩
    messages := ⟨messages, (Json.optional_congr (other _ (by decide))).mpr listed, same⟩
    draftGoal := .found (Json.lookup_insertField _ _ _) (.given notNull goal)
    createdAt := (Json.optional_congr (other _ (by decide))).mpr is.createdAt
    updatedAt := (Json.optional_congr (other _ (by decide))).mpr is.updatedAt }

theorem ofJson_object : ofJson (.object fields) = .ok s ↔ s.Members fields := by
  rw [ofJson_eq_ok, Describes]
  simp

theorem ofJson_withGoal (read : ofJson (.object fields) = .ok s)
    (goal : DraftGoal.decode v = .ok g) :
    ofJson (.object (Json.insertField "draft_goal" v fields)) =
      .ok { s with draftGoal := some g } :=
  ofJson_object.mpr ((ofJson_object.mp read).withGoal (DraftGoal.decode_eq_ok.mp goal))

/-- The draft goal of a session is the one that its member describes, null apart. -/
theorem draftGoal_iff (read : ofJson (.object fields) = .ok s)
    (there : fields.lookup "draft_goal" = some v) :
    (s.hasDraftGoal = true ↔ v ≠ .null) ∧
      ∀ g, s.draftGoal = some g ↔ DraftGoal.decode v = .ok g := by
  have goal := (ofJson_object.mp read).draftGoal
  rw [Json.optional_of_found there] at goal
  rw [hasDraftGoal]
  by_cases null : v = .null
  · subst null
    rw [Json.nullable_null.mp goal]
    simp [DraftGoal.decode]
  · obtain ⟨g, described, held⟩ := (Json.nullable_of_ne_null null).mp goal
    rw [held, DraftGoal.decode_eq_ok.mpr described]
    simp [null]

end Session

/-- What there is to say of a value as a draft goal. -/
structure DraftGoal.Kept (v : Value) : Prop where
  /-- It is one when it is an object in which the texts are texts, if they are not missing or
  null. -/
  read : (∃ g, decode v = .ok g) ↔
    ∃ fields, v = .object fields ∧ TextAt fields "objective" ∧ TextAt fields "target_date"
  /-- It is written as it was, but for the members that are known and were null. -/
  written : ∀ fields g, v = .object fields → Json.Sorted fields → decode v = .ok g →
    g.toJson = .object (fields.filter keeps)
  /-- What is written is read as the same goal. -/
  again : ∀ g, decode v = .ok g → decode g.toJson = .ok g
  /-- Any session can carry it. -/
  carried : ∀ fields s g, Session.ofJson (.object fields) = .ok s → decode v = .ok g →
    Session.ofJson (.object (Json.insertField "draft_goal" v fields)) =
      .ok { s with draftGoal := some g }
  /-- A session that carries it has it as its goal, unless it is null. -/
  counted : ∀ fields s, Session.ofJson (.object fields) = .ok s →
    fields.lookup "draft_goal" = some v →
      (s.hasDraftGoal = true ↔ v ≠ .null) ∧ ∀ g, s.draftGoal = some g ↔ decode v = .ok g

/-- Draft goals are kept as they are: what is read of one is written again, member by member, but
for nulls of the members that are known, and is read as the same goal. A goal with no members is one
too. The members of all values that are read stand in the order that this asks for. -/
theorem DraftGoal.kept_verbatim :
    (∀ v, Kept v) ∧
    (∀ fields s, Session.ofJson (.object fields) = .ok s →
      ∃ s', Session.ofJson (.object (Json.insertField "draft_goal" (.object []) fields)) = .ok s' ∧
        s'.hasDraftGoal = true) ∧
    (∀ text v, Json.parse text = .ok v → v.Ordered) ∧
    ∀ fields, (Value.object fields).Ordered → Json.Sorted fields := by
  refine ⟨fun v => ?_, ?_, fun text v => Json.ordered_of_parse, fun fields => Value.Ordered.sorted⟩
  · constructor
    · simp only [decode_eq_ok]
      constructor
      · rintro ⟨g, is⟩
        have described := is
        cases is with
        | @object fields => exact ⟨fields, rfl, exists_describes_iff.mp ⟨g, described⟩⟩
      · rintro ⟨fields, rfl, texts⟩
        exact exists_describes_iff.mpr texts
    · rintro fields g rfl sorted read
      rw [toJson_eq, (decode_eq_ok.mp read).fields_eq sorted]
    · intro g read
      rw [decode_eq_ok] at read ⊢
      exact (describes_toJson read.normal).mpr rfl
    · exact fun fields s g read goal => Session.ofJson_withGoal read goal
    · exact fun fields s read there => Session.draftGoal_iff read there
  · intro fields s read
    exact ⟨_, Session.ofJson_withGoal read (v := .object []) (g := ⟨none, none, none, []⟩) rfl, rfl⟩

/-- A null inside a member is kept. -/
example : (DraftGoal.decode (.object [("lead", .null), ("objective", .null),
    ("success_metrics", .object [("kpi", .null)])])).map DraftGoal.toJson =
      .ok (.object [("lead", .null), ("success_metrics", .object [("kpi", .null)])]) := by
  decide +kernel

end Dialogue
