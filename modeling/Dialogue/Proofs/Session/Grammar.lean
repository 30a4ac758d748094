import Mathlib.Data.List.TakeWhile
import Dialogue.Proofs.Session.Known

/-! # The grammar of sessions

Which values are sessions, as a relation that says nothing of the order in which the members are
looked at, and that exactly these are read. A value that is none is refused as malformed. Members
that are not known can be left out or added everywhere without a change in what is accepted. -/

namespace Dialogue

open Json (Value Fields ShapeError Nullable Optional IsText Named Timed Listed)

/-- A text holds nothing but blanks when trimming leaves nothing of it. -/
theorem Text.allBlank_iff {s : String} : allBlank s = true ↔ trimmed s = "" := by
  have empty : trimmed s = "" ↔ trim s.toList = [] := by
    rw [trimmed, ← String.toList_inj]
    simp
  rw [empty, allBlank, trim, trimEnd, trimStart]
  constructor
  · intro blank
    have none_left : s.toList.dropWhile isBlank = [] := by
      rw [List.dropWhile_eq_nil_iff]
      simpa using blank
    simp [none_left]
  · intro none_left
    -- What is left once the start is trimmed would begin with a character that is not blank.
    cases left : s.toList.dropWhile isBlank with
    | nil =>
      rw [List.dropWhile_eq_nil_iff] at left
      simpa using left
    | cons c rest =>
      have blank : isBlank c = true := by
        simp only [left, List.reverse_eq_nil_iff, List.dropWhile_eq_nil_iff] at none_left
        exact none_left c (by simp)
      have not_blank := List.head_dropWhile_not isBlank (l := s.toList) (by simp [left])
      simp [left, blank] at not_blank

/-! ## The grammar -/

/-- The value is a message, with its members in an object or in an array. -/
inductive Message.Describes : Value → Message → Prop
  | object {fields : Fields} {m : Message} {role : Value}
    (role_found : fields.lookup "role" = some role) (role_named : Named m.role.label role)
    (content : fields.lookup "content" = some (.string m.content))
    (timestamp : Optional Timed fields "timestamp" m.timestamp) : Describes (.object fields) m
  | pair {m : Message} {role : Value} (role_named : Named m.role.label role)
    (untimed : m.timestamp = none) : Describes (.array [role, .string m.content]) m
  | triple {m : Message} {role time : Value} (role_named : Named m.role.label role)
    (timed : Nullable Timed time m.timestamp) :
    Describes (.array [role, .string m.content, time]) m

/-- The value is a draft goal. -/
inductive DraftGoal.Describes : Value → DraftGoal → Prop
  | object {fields : Fields} {g : DraftGoal}
    (objective : Optional IsText fields "objective" g.objective)
    (successMetrics : Optional Eq fields "success_metrics" g.successMetrics)
    (targetDate : Optional IsText fields "target_date" g.targetDate)
    (extra : g.extra = Json.without knownKeys fields) :
    Describes (.object fields) g

/-- The members of an object are those of the session. -/
structure Session.Members (fields : Fields) (s : Session) : Prop where
  id : fields.lookup "id" = some (.string s.id)
  id_used : Text.trimmed s.id ≠ ""
  boardId : fields.lookup "board_id" = some (.string s.boardId)
  boardId_used : Text.trimmed s.boardId ≠ ""
  sessionKey : fields.lookup "session_key" = some (.string s.sessionKey)
  status : ∃ v, fields.lookup "status" = some v ∧ Named s.status.label v
  messages : ∃ found, Optional (Listed Message.Describes) fields "messages" found ∧
    s.messages = found.getD []
  draftGoal : Optional DraftGoal.Describes fields "draft_goal" s.draftGoal
  createdAt : Optional Timed fields "created_at" s.createdAt
  updatedAt : Optional Timed fields "updated_at" s.updatedAt

/-- The value is a session. -/
def Session.Describes (v : Value) (s : Session) : Prop :=
  ∃ fields, v = .object fields ∧ s.Members fields

/-! ## What is read -/

theorem Role.lookup_label (role : Role) : Role.labels.lookup role.label = some role := by
  cases role <;> rfl

theorem Status.lookup_label (status : Status) :
    Status.labels.lookup status.label = some status := by
  cases status <;> rfl

theorem Role.decode_eq_ok {v : Value} {role : Role} :
    Json.decodeLabel Role.labels v = .ok role ↔ Named role.label v :=
  Json.decodeLabel_iff_named (by simp [Role.labels, Role.label]) Role.lookup_label

theorem Status.decode_eq_ok {v : Value} {status : Status} :
    Json.decodeLabel Status.labels v = .ok status ↔ Named status.label v :=
  Json.decodeLabel_iff_named (by simp [Status.labels, Status.label]) Status.lookup_label

theorem Message.ofFields_eq_ok {fields : Fields} {m : Message} :
    ofFields fields = .ok m ↔ Describes (.object fields) m := by
  simp only [ofFields, Except.do_eq_ok, Json.present_eq_ok]
  constructor
  · rintro ⟨_, content, _, role, time, timed, role', rfl, content', rfl, ok⟩
    obtain rfl := Except.ok.inj ok
    obtain ⟨v, role_found, role_read⟩ := Json.decodeField_eq_some.mp role
    obtain ⟨w, content_found, content_read⟩ := Json.decodeField_eq_some.mp content
    obtain rfl := Json.decodeText_eq_ok.mp content_read
    exact .object role_found (Role.decode_eq_ok.mp role_read) content_found
      ((Json.decodeField_optional fun _ _ => Json.decodeTime_eq_ok).mp ⟨time, timed, rfl⟩)
  · intro is
    cases is with
    | @object _ _ v role_found role_named content timestamp =>
      obtain ⟨time, timed, joined⟩ :=
        (Json.decodeField_optional fun _ _ => Json.decodeTime_eq_ok).mpr timestamp
      refine ⟨some m.content, ?_, some m.role, ?_, time, timed, m.role, rfl, m.content, rfl, ?_⟩
      · exact Json.decodeField_eq_some.mpr ⟨_, content, rfl⟩
      · exact Json.decodeField_eq_some.mpr ⟨v, role_found, Role.decode_eq_ok.mpr role_named⟩
      · rw [joined]

theorem Message.ofItems_eq_ok {items : List Value} {m : Message} :
    ofItems items = .ok m ↔ Describes (.array items) m := by
  constructor
  · intro ok
    match items with
    | [] => cases ok
    | [role] =>
      obtain ⟨_, _, short⟩ := Except.do_eq_ok.mp ok
      cases short
    | [role, content] =>
      obtain ⟨r, role_read, rest⟩ := Except.do_eq_ok.mp ok
      obtain ⟨c, content_read, made⟩ := Except.do_eq_ok.mp rest
      obtain rfl := Json.decodeText_eq_ok.mp content_read
      obtain rfl := Except.ok.inj made
      exact .pair (m := ⟨r, c, none⟩) (Role.decode_eq_ok.mp role_read) rfl
    | role :: content :: time :: rest =>
      obtain ⟨r, role_read, ok⟩ := Except.do_eq_ok.mp ok
      obtain ⟨c, content_read, ok⟩ := Except.do_eq_ok.mp ok
      obtain ⟨t, time_read, made⟩ := Except.do_eq_ok.mp ok
      obtain rfl := Json.decodeText_eq_ok.mp content_read
      by_cases last : rest = []
      · subst last
        obtain rfl := Except.ok.inj made
        exact .triple (m := ⟨r, c, t⟩) (Role.decode_eq_ok.mp role_read)
          (Json.decodeTime_eq_ok.mp time_read)
      · rw [if_neg last] at made
        cases made
  · intro is
    cases is with
    | pair role_named untimed =>
      refine Except.do_eq_ok.mpr ⟨m.role, Role.decode_eq_ok.mpr role_named, ?_⟩
      refine Except.do_eq_ok.mpr ⟨m.content, rfl, ?_⟩
      simp [← untimed]
    | triple role_named timed =>
      refine Except.do_eq_ok.mpr ⟨m.role, Role.decode_eq_ok.mpr role_named, ?_⟩
      refine Except.do_eq_ok.mpr ⟨m.content, rfl, ?_⟩
      exact Except.do_eq_ok.mpr ⟨m.timestamp, Json.decodeTime_eq_ok.mpr timed, rfl⟩

theorem Message.decode_eq_ok {v : Value} {m : Message} : decode v = .ok m ↔ Describes v m := by
  cases v with
  | object fields => exact ofFields_eq_ok
  | array items => exact ofItems_eq_ok
  | _ =>
    constructor
    · intro ok
      cases ok
    · intro is
      cases is

theorem DraftGoal.decode_eq_ok {v : Value} {g : DraftGoal} : decode v = .ok g ↔ Describes v g := by
  have texts : ∀ (v : Value) (o : Option String),
      Json.decodeNullable Json.decodeText v = .ok o ↔ Nullable IsText v o :=
    fun _ _ => Json.decodeNullable_eq_ok fun _ _ => Json.decodeText_eq_ok
  have values : ∀ (v : Value) (o : Option Value),
      Json.decodeNullable .ok v = .ok o ↔ Nullable Eq v o :=
    fun _ _ => Json.decodeNullable_eq_ok fun _ _ => ⟨Except.ok.inj, congrArg _⟩
  cases v with
  | object fields =>
    simp only [decode, Except.do_eq_ok]
    constructor
    · rintro ⟨o, objective, s, metrics, t, target, ok⟩
      obtain rfl := Except.ok.inj ok
      exact .object ((Json.decodeField_optional texts).mp ⟨o, objective, rfl⟩)
        ((Json.decodeField_optional values).mp ⟨s, metrics, rfl⟩)
        ((Json.decodeField_optional texts).mp ⟨t, target, rfl⟩) rfl
    · intro is
      cases is with
      | object objective metrics target extra =>
        obtain ⟨o, objective, joined⟩ := (Json.decodeField_optional texts).mpr objective
        obtain ⟨s, metrics, joined'⟩ := (Json.decodeField_optional values).mpr metrics
        obtain ⟨t, target, joined''⟩ := (Json.decodeField_optional texts).mpr target
        refine ⟨o, objective, s, metrics, t, target, ?_⟩
        rw [joined, joined', joined'']
        show Except.ok (DraftGoal.mk _ _ _ (Json.without knownKeys fields)) = _
        rw [← extra]
  | _ =>
    constructor
    · intro ok
      cases ok
    · intro is
      cases is

/-- The members of an object are read as a session when they are those of the session, blank ids
apart. -/
theorem Session.ofFields_eq_ok {fields : Fields} {s : Session}
    (id_used : Text.trimmed s.id ≠ "") (boardId_used : Text.trimmed s.boardId ≠ "") :
    ofFields fields = .ok s ↔ s.Members fields := by
  have goals : ∀ (v : Value) (o : Option DraftGoal),
      Json.decodeNullable DraftGoal.decode v = .ok o ↔ Nullable DraftGoal.Describes v o :=
    fun _ _ => Json.decodeNullable_eq_ok fun _ _ => DraftGoal.decode_eq_ok
  have lists : ∀ (v : Value) (o : Option (List Message)),
      Json.decodeNullable (Json.decodeList Message.decode) v = .ok o ↔
        Nullable (Listed Message.Describes) v o :=
    fun _ _ => Json.decodeNullable_eq_ok fun _ _ =>
      Json.decodeList_eq_ok fun _ _ => Message.decode_eq_ok
  have times : ∀ (v : Value) (o : Option Time.Instant),
      Json.decodeTime v = .ok o ↔ Nullable Timed v o := fun _ _ => Json.decodeTime_eq_ok
  have text : ∀ (key s : String), Json.decodeField fields key Json.decodeText = .ok (some s) ↔
      fields.lookup key = some (.string s) := by
    intro key s
    simp [Json.decodeField_eq_some, Json.decodeText_eq_ok, IsText]
  simp only [ofFields, Except.do_eq_ok, Json.present_eq_ok]
  constructor
  · rintro ⟨_, board, created, created_ok, goal, goal_ok, _, id, listed, listed_ok, _, key, _,
      status, updated, updated_ok, _, rfl, _, rfl, _, rfl, _, rfl, ok⟩
    obtain rfl := Except.ok.inj ok
    obtain ⟨v, status_found, status_read⟩ := Json.decodeField_eq_some.mp status
    exact {
      id := (text _ _).mp id
      id_used
      boardId := (text _ _).mp board
      boardId_used
      sessionKey := (text _ _).mp key
      status := ⟨v, status_found, Status.decode_eq_ok.mp status_read⟩
      messages := ⟨_, (Json.decodeField_optional lists).mp ⟨listed, listed_ok, rfl⟩, rfl⟩
      draftGoal := (Json.decodeField_optional goals).mp ⟨goal, goal_ok, rfl⟩
      createdAt := (Json.decodeField_optional times).mp ⟨created, created_ok, rfl⟩
      updatedAt := (Json.decodeField_optional times).mp ⟨updated, updated_ok, rfl⟩ }
  · intro is
    obtain ⟨v, status_found, status_named⟩ := is.status
    obtain ⟨found, listed, messages⟩ := is.messages
    obtain ⟨listed, listed_ok, listed_joined⟩ := (Json.decodeField_optional lists).mpr listed
    obtain ⟨goal, goal_ok, goal_joined⟩ := (Json.decodeField_optional goals).mpr is.draftGoal
    obtain ⟨created, created_ok, created_joined⟩ :=
      (Json.decodeField_optional times).mpr is.createdAt
    obtain ⟨updated, updated_ok, updated_joined⟩ :=
      (Json.decodeField_optional times).mpr is.updatedAt
    refine ⟨_, (text _ _).mpr is.boardId, created, created_ok, goal, goal_ok, _,
      (text _ _).mpr is.id, listed, listed_ok, _, (text _ _).mpr is.sessionKey, some s.status,
      Json.decodeField_eq_some.mpr ⟨v, status_found, Status.decode_eq_ok.mpr status_named⟩, updated,
      updated_ok, _, rfl, _, rfl, _, rfl, _, rfl, ?_⟩
    rw [listed_joined, goal_joined, created_joined, updated_joined, ← messages]

theorem Session.decode_object {fields : Fields} {s : Session} :
    decode (.object fields) = .ok s ↔ s.Members fields := by
  constructor
  · intro ok
    cases read : ofFields fields with
    | error e => simp [decode, read] at ok
    | ok t =>
      by_cases id : Text.allBlank t.id = true
      · simp [decode, read, id] at ok
      · by_cases board : Text.allBlank t.boardId = true
        · simp [decode, read, id, board] at ok
        · obtain rfl : t = s := by simpa [decode, read, id, board] using ok
          rw [Text.allBlank_iff] at id board
          exact (ofFields_eq_ok id board).mp read
  · intro is
    have read := (ofFields_eq_ok is.id_used is.boardId_used).mpr is
    have id := mt Text.allBlank_iff.mp is.id_used
    have board := mt Text.allBlank_iff.mp is.boardId_used
    simp [decode, read, id, board]

theorem Session.ofJson_eq_ok {v : Value} {s : Session} : ofJson v = .ok s ↔ Describes v s := by
  have decoded : ofJson v = .ok s ↔ decode v = .ok s := by
    unfold ofJson
    cases decode v <;> simp
  rw [decoded]
  cases v with
  | object fields =>
    rw [decode_object]
    constructor
    · exact fun is => ⟨fields, rfl, is⟩
    · rintro ⟨_, same, is⟩
      exact Value.object.inj same ▸ is
  | _ =>
    constructor
    · intro ok
      cases ok
    · rintro ⟨fields, same, -⟩
      cases same

/-- A value that is not read is malformed. -/
theorem Session.malformed_of_error {v : Value} {e : ServiceError} (h : ofJson v = .error e) :
    ∃ reason, e = .malformed reason := by
  unfold ofJson at h
  cases read : decode v with
  | ok s => simp [read] at h
  | error fault =>
    simp only [read, Except.error.injEq] at h
    exact ⟨_, h.symm⟩

/-- What reading a value as a session comes to. -/
structure Session.Judged (v : Value) : Prop where
  accepted : ∀ s, ofJson v = .ok s ↔ Describes v s
  refused : (∀ s, ¬ Describes v s) → ∃ reason, ofJson v = .error (.malformed reason)
  malformed : ∀ e, ofJson v = .error e → ∃ reason, e = .malformed reason
  unknown : ∀ w, knownPart v = knownPart w →
    ((∃ s, ofJson v = .ok s) ↔ ∃ s, ofJson w = .ok s)

/-- Exactly what the grammar describes is read, and as what it describes. Everything else is
malformed, and members that are not known do not matter. -/
theorem Session.ofJson_judges (v : Value) : Judged v := by
  constructor
  · exact fun s => ofJson_eq_ok
  · intro not_described
    cases read : ofJson v with
    | ok s => exact absurd (ofJson_eq_ok.mp read) (not_described s)
    | error e =>
      obtain ⟨reason, rfl⟩ := malformed_of_error read
      exact ⟨reason, rfl⟩
  · exact fun e => malformed_of_error
  · exact fun w same => ⟨accepted_of_knownPart_eq same, accepted_of_knownPart_eq same.symm⟩

end Dialogue
