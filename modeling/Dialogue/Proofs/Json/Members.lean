import Dialogue.Json.Value

/-! # The members of an object

What is found under a key once members were put in, left out or changed. None of it needs the
members to be in order. -/

namespace Dialogue.Json

/-- The members with one of these keys. -/
def only (keys : List String) (fields : Fields) : Fields :=
  fields.filter fun member => keys.contains member.1

/-- The members without those that have one of these keys. -/
def without (keys : List String) (fields : Fields) : Fields :=
  fields.filter fun member => !keys.contains member.1

/-- The members, each with its value changed as its key says. -/
def mapMembers (f : String → Value → Value) (fields : Fields) : Fields :=
  fields.map fun member => (member.1, f member.1 member.2)

section Members

variable {keys : List String} {key other : String}

theorem lookup_cons_of_ne (ne : key ≠ other) (v : Value) (rest : Fields) :
    List.lookup key ((other, v) :: rest) = rest.lookup key := by
  simp [List.lookup_cons, beq_false_of_ne ne]

theorem lookup_only (known : key ∈ keys) (fields : Fields) :
    (only keys fields).lookup key = fields.lookup key := by
  induction fields with
  | nil => rfl
  | cons member rest ih =>
    obtain ⟨k, v⟩ := member
    rw [only] at ih ⊢
    by_cases same : key = k
    · subst same
      simp [known]
    · by_cases kept : k ∈ keys
      · rw [List.filter_cons_of_pos (by simpa using kept), lookup_cons_of_ne same,
          lookup_cons_of_ne same, ih]
      · rw [List.filter_cons_of_neg (by simpa using kept), lookup_cons_of_ne same, ih]

theorem without_only (keys : List String) (fields : Fields) :
    without keys (only keys fields) = [] := by
  simp [without, only]

theorem lookup_mapMembers (f : String → Value → Value) (fields : Fields) (key : String) :
    (mapMembers f fields).lookup key = (fields.lookup key).map (f key) := by
  induction fields with
  | nil => rfl
  | cons member rest ih =>
    obtain ⟨k, v⟩ := member
    rw [mapMembers, List.map_cons, ← mapMembers]
    by_cases same : key = k
    · subst same
      simp
    · rw [lookup_cons_of_ne same, lookup_cons_of_ne same, ih]

theorem lookup_insertField (key : String) (v : Value) (fields : Fields) :
    (insertField key v fields).lookup key = some v := by
  induction fields with
  | nil => simp [insertField]
  | cons member rest ih =>
    obtain ⟨k, w⟩ := member
    rw [insertField]
    by_cases same : key = k
    · simp [same]
    · rw [if_neg same]
      split
      · simp
      · rw [lookup_cons_of_ne same, ih]

theorem lookup_insertField_of_ne (ne : other ≠ key) (v : Value) (fields : Fields) :
    (insertField key v fields).lookup other = fields.lookup other := by
  induction fields with
  | nil => rw [insertField, lookup_cons_of_ne ne]
  | cons member rest ih =>
    obtain ⟨k, w⟩ := member
    rw [insertField]
    split
    · rename_i same
      subst same
      rw [lookup_cons_of_ne ne, lookup_cons_of_ne ne]
    · split
      · rw [lookup_cons_of_ne ne]
      · rw [List.lookup_cons, List.lookup_cons, ih]

/-- Putting in a member does not touch the members with other keys. -/
theorem without_insertField (known : key ∈ keys) (v : Value) (fields : Fields) :
    without keys (insertField key v fields) = without keys fields := by
  induction fields with
  | nil => simp [insertField, without, known]
  | cons member rest ih =>
    obtain ⟨k, w⟩ := member
    simp only [without] at ih ⊢
    rw [insertField]
    split
    · rename_i same
      subst same
      simp [known]
    · split
      · simp [known]
      · rw [List.filter_cons, List.filter_cons, ih]

theorem lookup_without (known : key ∈ keys) (fields : Fields) :
    (without keys fields).lookup key = none := by
  induction fields with
  | nil => rfl
  | cons member rest ih =>
    obtain ⟨k, v⟩ := member
    rw [without] at ih ⊢
    by_cases kept : k ∈ keys
    · rw [List.filter_cons_of_neg (by simpa using kept), ih]
    · have ne : key ≠ k := fun same => kept (same ▸ known)
      rw [List.filter_cons_of_pos (by simpa using kept), lookup_cons_of_ne ne, ih]

/-- Leaving out members twice is leaving them out once. -/
theorem without_without (keys : List String) (fields : Fields) :
    without keys (without keys fields) = without keys fields := by
  simp [without]

/-- The members with a member put in if there is a value for it. -/
def putField (key : String) (v : Option Value) (fields : Fields) : Fields :=
  match v with
  | some v => insertField key v fields
  | none => fields

theorem lookup_putField {v : Option Value} {fields : Fields} (absent : fields.lookup key = none) :
    (putField key v fields).lookup key = v := by
  cases v with
  | none => exact absent
  | some v => exact lookup_insertField key v fields

theorem lookup_putField_of_ne (ne : other ≠ key) (v : Option Value) (fields : Fields) :
    (putField key v fields).lookup other = fields.lookup other := by
  cases v with
  | none => rfl
  | some v => exact lookup_insertField_of_ne ne v fields

theorem without_putField (known : key ∈ keys) (v : Option Value) (fields : Fields) :
    without keys (putField key v fields) = without keys fields := by
  cases v with
  | none => rfl
  | some v => exact without_insertField known v fields

theorem sorted_pair (before : key < other) (v w : Value) : Sorted [(key, v), (other, w)] :=
  List.pairwise_pair.mpr before

/-- A member whose key comes after all others is put at the end. -/
theorem insertField_last {fields : Fields} (after : ∀ member ∈ fields, member.1 < key) (v : Value) :
    insertField key v fields = fields ++ [(key, v)] := by
  induction fields with
  | nil => rfl
  | cons member rest ih =>
    obtain ⟨k, w⟩ := member
    have later : k < key := after (k, w) (List.mem_cons_self ..)
    have ne : key ≠ k := fun same => String.lt_irrefl _ (same ▸ later)
    have others := ih fun member inRest => after member (List.mem_cons_of_mem _ inRest)
    rw [insertField, if_neg ne, if_neg (fun before => String.lt_asymm before later), others,
      List.cons_append]

theorem foldl_insertField (fields : Fields) :
    ∀ first : Fields, Sorted (first ++ fields) →
      fields.foldl (fun acc (k, v) => insertField k v acc) first = first ++ fields := by
  induction fields with
  | nil => exact fun first _ => (List.append_nil first).symm
  | cons member rest ih =>
    intro first sorted
    obtain ⟨key, v⟩ := member
    have after : ∀ member ∈ first, member.1 < key := fun member early =>
      (List.pairwise_append.mp sorted).2.2 member early (key, v) (List.mem_cons_self ..)
    have put : first ++ (key, v) :: rest = insertField key v first ++ rest := by
      rw [insertField_last after, List.append_assoc, List.singleton_append]
    rw [put] at sorted
    rw [List.foldl_cons, ih _ sorted, put]

/-- Members that stand in order stay as they are. -/
theorem ofFields_of_sorted {fields : Fields} (sorted : Sorted fields) :
    Value.ofFields fields = .object fields := by
  rw [Value.ofFields, foldl_insertField fields [] sorted, List.nil_append]

end Members

end Dialogue.Json
