import Mathlib.Data.List.Forall2
import Dialogue.Json.Shape
import Dialogue.Proofs.Except
import Dialogue.Proofs.Json.Members

/-! # The shapes that are read

For each of the common shapes, what a value of that shape looks like, as a relation between the
value and what it stands for, and that the reader finds exactly that. -/

namespace Dialogue.Json

/-- A value that may be null stands for nothing then. -/
inductive Nullable {α : Type} (R : Value → α → Prop) : Value → Option α → Prop
  | null : Nullable R .null none
  | given {v : Value} {a : α} (notNull : v ≠ .null) (is : R v a) : Nullable R v (some a)

/-- A member that may be missing or null stands for nothing then. -/
inductive Optional {α : Type} (R : Value → α → Prop) (fields : Fields) (key : String) :
    Option α → Prop
  | missing (absent : fields.lookup key = none) : Optional R fields key none
  | found {v : Value} {o : Option α} (there : fields.lookup key = some v) (is : Nullable R v o) :
    Optional R fields key o

/-- The value is the text. -/
def IsText (v : Value) (s : String) : Prop := v = .string s

/-- The value is the label, or an object whose only key is the label, with the value null. -/
def Named (label : String) (v : Value) : Prop := v = .string label ∨ v = .object [(label, .null)]

/-- The value is a text that is read as the point of time. -/
def Timed (v : Value) (t : Time.Instant) : Prop :=
  ∃ text, v = .string text ∧ Time.Instant.parse text = .ok t

/-- The value is an array whose items stand for those of the list, one by one. -/
def Listed {α : Type} (R : Value → α → Prop) (v : Value) (as : List α) : Prop :=
  ∃ items, v = .array items ∧ List.Forall₂ R items as

section Shapes

variable {α : Type} {R : Value → α → Prop} {fields : Fields} {key : String} {v : Value}

theorem nullable_null {o : Option α} : Nullable R .null o ↔ o = none := by
  constructor
  · intro is
    cases is with
    | null => rfl
    | given notNull => exact absurd rfl notNull
  · rintro rfl
    exact .null

theorem nullable_of_ne_null (notNull : v ≠ .null) {o : Option α} :
    Nullable R v o ↔ ∃ a, R v a ∧ o = some a := by
  constructor
  · intro is
    cases is with
    | null => exact absurd rfl notNull
    | @given _ a _ is => exact ⟨a, is, rfl⟩
  · rintro ⟨a, is, rfl⟩
    exact .given notNull is

theorem optional_of_missing (absent : fields.lookup key = none) {o : Option α} :
    Optional R fields key o ↔ o = none := by
  constructor
  · intro is
    cases is with
    | missing => rfl
    | found there => exact absurd (absent.symm.trans there) (by simp)
  · rintro rfl
    exact .missing absent

theorem optional_of_found (there : fields.lookup key = some v) {o : Option α} :
    Optional R fields key o ↔ Nullable R v o := by
  constructor
  · intro is
    cases is with
    | missing absent => exact absurd (absent.symm.trans there) (by simp)
    | found there' is =>
      obtain rfl := Option.some.inj (there'.symm.trans there)
      exact is
  · exact .found there

/-- What a member stands for, it stands for by a value that is not null. -/
theorem Optional.of_some {a : α} (is : Optional R fields key (some a)) :
    ∃ v, fields.lookup key = some v ∧ v ≠ .null ∧ R v a := by
  cases is with
  | found there is =>
    cases is with
    | given notNull is => exact ⟨_, there, notNull, is⟩

/-- What a list holds, an item of the array stands for. -/
theorem Listed.of_mem {as : List α} (is : Listed R v as) {a : α} (member : a ∈ as) :
    ∃ item, R item a := by
  obtain ⟨items, -, all⟩ := is
  induction all with
  | nil => cases member
  | cons first _ ih =>
    rcases List.mem_cons.mp member with rfl | later
    · exact ⟨_, first⟩
    · exact ih later

section Written

/-! When the value that is written for a thing stands for that thing alone, and for it only if `P`
holds of it, so do the values that are written for what is made of such things. -/

variable {write : α → Value} {P : α → Prop}

theorem nullable_written {o o' : Option α} (notNull : ∀ a ∈ o, write a ≠ .null)
    (each : ∀ a ∈ o, ∀ b, R (write a) b ↔ b = a ∧ P a) :
    Nullable R ((o.map write).getD .null) o' ↔ o' = o ∧ ∀ a ∈ o, P a := by
  cases o with
  | none => simp [nullable_null]
  | some a =>
    have alone := each a rfl
    rw [Option.map_some, Option.getD_some, nullable_of_ne_null (notNull a rfl)]
    simp only [alone, Option.mem_def, Option.some.injEq, forall_eq']
    constructor
    · rintro ⟨b, ⟨rfl, holds⟩, rfl⟩
      exact ⟨rfl, holds⟩
    · rintro ⟨rfl, holds⟩
      exact ⟨a, ⟨rfl, holds⟩, rfl⟩

theorem optional_written {o o' : Option α} (written : fields.lookup key = o.map write)
    (notNull : ∀ a ∈ o, write a ≠ .null) (each : ∀ a ∈ o, ∀ b, R (write a) b ↔ b = a ∧ P a) :
    Optional R fields key o' ↔ o' = o ∧ ∀ a ∈ o, P a := by
  rw [← nullable_written notNull each]
  cases o with
  | none => rw [optional_of_missing written, Option.map_none, Option.getD_none, nullable_null]
  | some a => rw [optional_of_found written, Option.map_some, Option.getD_some]

theorem listed_written {as bs : List α} (each : ∀ a ∈ as, ∀ b, R (write a) b ↔ b = a ∧ P a) :
    Listed R (.array (as.map write)) bs ↔ bs = as ∧ ∀ a ∈ as, P a := by
  have items : Listed R (.array (as.map write)) bs ↔ List.Forall₂ R (as.map write) bs := by
    simp [Listed]
  rw [items]
  clear items
  induction as generalizing bs with
  | nil => simp
  | cons a rest ih =>
    have first := each a (by simp)
    have others : ∀ b ∈ rest, ∀ c, R (write b) c ↔ c = b ∧ P b :=
      fun b member => each b (by simp [member])
    constructor
    · intro all
      cases all with
      | cons is more =>
        obtain ⟨rfl, holds⟩ := (first _).mp is
        obtain ⟨rfl, all_hold⟩ := (ih others).mp more
        exact ⟨rfl, by simpa using ⟨holds, all_hold⟩⟩
    · rintro ⟨rfl, all_hold⟩
      exact .cons ((first a).mpr ⟨rfl, all_hold a (by simp)⟩)
        ((ih others).mpr ⟨rfl, fun b member => all_hold b (by simp [member])⟩)

end Written

theorem named_string {label text : String} : Named label (.string text) ↔ label = text := by
  simp [Named, eq_comm]

end Shapes

section Readers

variable {α : Type} {R : Value → α → Prop} {decode : Decoder α} {fields : Fields} {key : String}
  {v : Value}

theorem decodeText_eq_ok {s : String} : decodeText v = .ok s ↔ IsText v s := by
  cases v <;> simp [decodeText, IsText]

theorem decodeNullable_of_ne_null (decode : Decoder α) (notNull : v ≠ .null) :
    decodeNullable decode v = (decode v).map some := by
  cases v with
  | null => exact absurd rfl notNull
  | _ => rfl

theorem decodeNullable_eq_ok (reads : ∀ v a, decode v = .ok a ↔ R v a) {o : Option α} :
    decodeNullable decode v = .ok o ↔ Nullable R v o := by
  by_cases null : v = .null
  · subst null
    rw [nullable_null]
    exact ⟨fun ok => (Except.ok.inj ok).symm, fun is => congrArg Except.ok is.symm⟩
  · rw [decodeNullable_of_ne_null decode null, Except.map_eq_ok, nullable_of_ne_null null]
    exact exists_congr fun a => and_congr (reads v a) eq_comm

theorem decodeTime_eq_ok {o : Option Time.Instant} :
    decodeTime v = .ok o ↔ Nullable Timed v o := by
  unfold decodeTime
  rw [Except.do_eq_ok]
  constructor
  · rintro ⟨text, ok, parsed⟩
    cases (decodeNullable_eq_ok fun _ _ => decodeText_eq_ok).mp ok with
    | null =>
      obtain rfl := Except.ok.inj parsed
      exact .null
    | @given _ text notNull is =>
      cases known : Time.Instant.parse text with
      | error fault => simp [known] at parsed
      | ok t =>
        simp only [known, Except.ok.injEq] at parsed
        obtain rfl := parsed
        exact .given notNull ⟨text, is, known⟩
  · intro is
    cases is with
    | null => exact ⟨none, rfl, rfl⟩
    | given notNull is =>
      obtain ⟨text, rfl, known⟩ := is
      exact ⟨some text, rfl, by simp only [known]⟩

theorem findLabel_eq_ok {labels : List (String × α)} {label : String} {a : α} :
    findLabel labels label = .ok a ↔ labels.lookup label = some a := by
  unfold findLabel
  cases labels.lookup label <;> simp

theorem decodeLabel_eq_ok {labels : List (String × α)} {a : α} :
    decodeLabel labels v = .ok a ↔ ∃ label, labels.lookup label = some a ∧ Named label v := by
  constructor
  · intro ok
    unfold decodeLabel at ok
    split at ok
    · exact ⟨_, findLabel_eq_ok.mp ok, .inl rfl⟩
    · rename_i label v
      obtain ⟨b, known, ok⟩ := Except.do_eq_ok.mp ok
      by_cases null : v = .null
      · rw [if_pos null] at ok
        obtain rfl := Except.ok.inj ok
        exact ⟨label, findLabel_eq_ok.mp known, .inr (by rw [null])⟩
      · rw [if_neg null] at ok
        cases ok
    · cases ok
    · cases ok
  · rintro ⟨label, known, rfl | rfl⟩
    · exact findLabel_eq_ok.mpr known
    · exact Except.do_eq_ok.mpr ⟨a, findLabel_eq_ok.mpr known, rfl⟩

/-- When everything has a label of its own, what is read is what the value names. -/
theorem decodeLabel_iff_named {labels : List (String × α)} {label : α → String}
    (own : ∀ entry ∈ labels, entry.1 = label entry.2)
    (all : ∀ a, labels.lookup (label a) = some a) {a : α} :
    decodeLabel labels v = .ok a ↔ Named (label a) v := by
  rw [decodeLabel_eq_ok]
  constructor
  · rintro ⟨l, known, named⟩
    obtain ⟨before, after, split, -⟩ := List.lookup_eq_some_iff.mp known
    have same : l = label a := own (l, a) (by simp [split])
    exact same ▸ named
  · exact fun named => ⟨label a, all a, named⟩

theorem decodeItems_eq_ok (reads : ∀ v a, decode v = .ok a ↔ R v a) {items : List Value}
    {as : List α} : decodeItems decode items = .ok as ↔ List.Forall₂ R items as := by
  induction items generalizing as with
  | nil => simp [decodeItems, eq_comm]
  | cons v rest ih =>
    simp only [decodeItems, Except.do_eq_ok, Except.ok.injEq]
    constructor
    · rintro ⟨a, first, more, others, rfl⟩
      exact .cons ((reads v a).mp first) (ih.mp others)
    · intro all
      cases all with
      | cons first others => exact ⟨_, (reads v _).mpr first, _, ih.mpr others, rfl⟩

theorem decodeList_eq_ok (reads : ∀ v a, decode v = .ok a ↔ R v a) {as : List α} :
    decodeList decode v = .ok as ↔ Listed R v as := by
  cases v with
  | array items => simp [decodeList, Listed, decodeItems_eq_ok reads]
  | _ => simp [decodeList, Listed]

theorem decodeField_eq_ok {found : Option α} :
    decodeField fields key decode = .ok found ↔
      (fields.lookup key = none ∧ found = none) ∨
        ∃ v a, fields.lookup key = some v ∧ decode v = .ok a ∧ found = some a := by
  unfold decodeField
  cases fields.lookup key with
  | none => simp [eq_comm]
  | some v =>
    refine Except.map_eq_ok.trans ⟨?_, ?_⟩
    · rintro ⟨a, ok, rfl⟩
      exact .inr ⟨v, a, rfl, ok, rfl⟩
    · rintro (⟨absent, -⟩ | ⟨w, a, there, ok, rfl⟩)
      · cases absent
      · obtain rfl := Option.some.inj there
        exact ⟨a, ok, rfl⟩

theorem decodeField_eq_some {a : α} :
    decodeField fields key decode = .ok (some a) ↔
      ∃ v, fields.lookup key = some v ∧ decode v = .ok a := by
  simp [decodeField_eq_ok]

/-- A member that may be missing, and whose value may be null, is read as `Optional` says. -/
theorem decodeField_optional {decode : Decoder (Option α)}
    (reads : ∀ v o, decode v = .ok o ↔ Nullable R v o) {o : Option α} :
    (∃ found, decodeField fields key decode = .ok found ∧ found.join = o) ↔
      Optional R fields key o := by
  constructor
  · rintro ⟨found, ok, rfl⟩
    rcases decodeField_eq_ok.mp ok with ⟨absent, rfl⟩ | ⟨v, o, there, read, rfl⟩
    · exact .missing absent
    · exact .found there ((reads v o).mp read)
  · intro is
    cases is with
    | missing absent => exact ⟨none, decodeField_eq_ok.mpr (.inl ⟨absent, rfl⟩), rfl⟩
    | found there is =>
      exact ⟨some o, decodeField_eq_some.mpr ⟨_, there, (reads _ o).mpr is⟩, rfl⟩

/-- A member is read from those that are known as it is from all of them. -/
theorem decodeField_only {keys : List String} (known : key ∈ keys) (decode : Decoder α) :
    decodeField (only keys fields) key decode = decodeField fields key decode := by
  rw [decodeField, lookup_only known, decodeField]

theorem decodeField_mapMembers (f : String → Value → Value) (decode : Decoder α) :
    decodeField (mapMembers f fields) key decode =
      decodeField fields key fun v => decode (f key v) := by
  rw [decodeField, lookup_mapMembers, decodeField]
  cases fields.lookup key <;> rfl

theorem present_eq_ok {name : String} {o : Option α} {a : α} :
    present name o = .ok a ↔ o = some a := by
  cases o <;> simp [present]

end Readers

end Dialogue.Json
