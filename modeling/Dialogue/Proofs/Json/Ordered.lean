import Mathlib.Data.List.Perm.Basic
import Dialogue.Proofs.Json.Members
import Dialogue.Proofs.Json.Suffix

/-! # Members in order

In every value that is read the members of an object stand in increasing order of their keys, each
key once. What is found under each key tells such members apart. -/

namespace Dialogue.Json

variable {fields other : Fields} {key : String} {v : Value}

/-! ## Lists of members -/

namespace Sorted

theorem nodup (sorted : Sorted fields) : fields.Nodup := by
  refine sorted.imp ?_
  rintro member _ before rfl
  exact String.lt_irrefl _ before

/-- Each member is found under its key. -/
theorem lookup_eq_some_iff (sorted : Sorted fields) :
    fields.lookup key = some v ↔ (key, v) ∈ fields := by
  induction fields with
  | nil => simp
  | cons member rest ih =>
    obtain ⟨k, w⟩ := member
    obtain ⟨first, rest_sorted⟩ := List.pairwise_cons.mp sorted
    by_cases same : key = k
    · subst same
      have alone : (key, v) ∉ rest := fun later => String.lt_irrefl _ (first (key, v) later)
      simp [alone, eq_comm]
    · rw [lookup_cons_of_ne same, ih rest_sorted]
      simp [same]

/-- Members in order are the same when the same is found under each key. -/
theorem ext (sorted : Sorted fields) (other_sorted : Sorted other)
    (same : ∀ key, fields.lookup key = other.lookup key) : fields = other := by
  have perm : fields.Perm other := by
    refine (List.perm_ext_iff_of_nodup sorted.nodup other_sorted.nodup).mpr ?_
    rintro ⟨key, v⟩
    rw [← sorted.lookup_eq_some_iff, ← other_sorted.lookup_eq_some_iff, same]
  refine perm.eq_of_pairwise ?_ sorted other_sorted
  intro member member' _ _ before after
  exact absurd after (String.lt_asymm before)

theorem filter (sorted : Sorted fields) (keeps : String × Value → Bool) :
    Sorted (fields.filter keeps) :=
  List.Pairwise.filter keeps sorted

/-- What is found once some members are left out. -/
theorem lookup_filter (sorted : Sorted fields) (keeps : String × Value → Bool) (key : String) :
    (fields.filter keeps).lookup key = (fields.lookup key).filter fun v => keeps (key, v) := by
  refine Option.ext fun v => ?_
  rw [(sorted.filter keeps).lookup_eq_some_iff, List.mem_filter, ← sorted.lookup_eq_some_iff,
    Option.filter_eq_some_iff]

end Sorted

theorem mem_of_mem_insertField {member : String × Value}
    (inside : member ∈ insertField key v fields) : member = (key, v) ∨ member ∈ fields := by
  induction fields with
  | nil => exact .inl (List.mem_singleton.mp inside)
  | cons first rest ih =>
    obtain ⟨k, w⟩ := first
    rw [insertField] at inside
    split at inside
    · rcases List.mem_cons.mp inside with rfl | later
      · exact .inl rfl
      · exact .inr (List.mem_cons_of_mem _ later)
    · split at inside
      · exact List.mem_cons.mp inside
      · rcases List.mem_cons.mp inside with rfl | later
        · exact .inr (List.mem_cons_self ..)
        · exact (ih later).imp_right (List.mem_cons_of_mem _)

theorem Sorted.insertField (sorted : Sorted fields) (key : String) (v : Value) :
    Sorted (insertField key v fields) := by
  induction fields with
  | nil => exact List.pairwise_singleton _ _
  | cons first rest ih =>
    obtain ⟨k, w⟩ := first
    obtain ⟨before, rest_sorted⟩ := List.pairwise_cons.mp sorted
    rw [Json.insertField]
    split
    · rename_i same
      subst same
      exact List.pairwise_cons.mpr ⟨before, rest_sorted⟩
    · rename_i differ
      split
      · rename_i earlier
        refine List.pairwise_cons.mpr ⟨?_, sorted⟩
        intro member inside
        rcases List.mem_cons.mp inside with rfl | later
        · exact earlier
        · exact String.lt_trans earlier (before member later)
      · rename_i later
        have after : k < key :=
          Decidable.byContradiction fun none => differ (String.le_antisymm none later)
        refine List.pairwise_cons.mpr ⟨?_, ih rest_sorted⟩
        intro member inside
        rcases mem_of_mem_insertField inside with rfl | inRest
        · exact after
        · exact before member inRest

theorem Sorted.putField (sorted : Sorted fields) (key : String) (v : Option Value) :
    Sorted (putField key v fields) := by
  cases v with
  | none => exact sorted
  | some v => exact sorted.insertField key v

theorem Sorted.without (sorted : Sorted fields) (keys : List String) :
    Sorted (without keys fields) :=
  sorted.filter _

/-! ## Values -/

/-- The members of every object in the value stand in order. -/
inductive Value.Ordered : Value → Prop
  | null : Ordered .null
  | bool (b : Bool) : Ordered (.bool b)
  | number (n : Number) : Ordered (.number n)
  | string (s : String) : Ordered (.string s)
  | array {items : List Value} (each : ∀ item ∈ items, item.Ordered) : Ordered (.array items)
  | object {fields : Fields} (sorted : Sorted fields)
    (each : ∀ member ∈ fields, member.2.Ordered) : Ordered (.object fields)

theorem Value.Ordered.sorted (ordered : (Value.object fields).Ordered) : Sorted fields := by
  cases ordered with
  | object sorted each => exact sorted

theorem Value.ordered_ofFields (each : ∀ member ∈ fields, member.2.Ordered) :
    (ofFields fields).Ordered := by
  suffices put : ∀ first : Fields, Sorted first → (∀ member ∈ first, member.2.Ordered) →
      (Value.object (fields.foldl (fun acc m => insertField m.1 m.2 acc) first)).Ordered from
    put [] List.Pairwise.nil fun member inside => absurd inside List.not_mem_nil
  induction fields with
  | nil => exact fun first sorted all => .object sorted all
  | cons member rest ih =>
    intro first sorted all
    have later : ∀ member ∈ rest, member.2.Ordered :=
      fun member inside => each member (List.mem_cons_of_mem _ inside)
    refine ih later _ (sorted.insertField _ _) ?_
    intro member' inside
    rcases mem_of_mem_insertField inside with rfl | before
    · exact each member (List.mem_cons_self ..)
    · exact all member' before

/-! ## What is read -/

/-- A word is read as the value that it stands for. -/
theorem readConstant_eq {s r word : List Char} {v w : Value} {rest : Rest s}
    {f : ∀ x : Value × { t : List Char // t.length ≤ r.length }, x.2.1.length < s.length}
    (h : (readConstant word w r).map (fun x => (x.1, ⟨x.2.1, f x⟩)) = .ok (v, rest)) : v = w := by
  obtain ⟨⟨w', left⟩, read, same⟩ := Except.map_eq_ok.mp h
  obtain ⟨rfl, rfl⟩ := Prod.mk.inj same
  exact (readConstant_suffix read).1

mutual

theorem readValue_ordered {room : Nat} {s : List Char} {v : Value} {rest : Rest s}
    (h : readValue room s = .ok (v, rest)) : v.Ordered := by
  rw [readValue] at h
  split at h
  · cases h
  · rename_i c r hs
    have shorter := length_of_skipSpace hs
    dsimp only at h
    split at h
    · rw [readConstant_eq h]
      exact .null
    split at h
    · rw [readConstant_eq h]
      exact .bool true
    split at h
    · rw [readConstant_eq h]
      exact .bool false
    split at h
    · obtain ⟨w, left, read, rfl, -⟩ := build_eq_ok h
      obtain ⟨⟨n, rfl⟩, -⟩ := readNumberValue_suffix read
      exact .number n
    split at h
    · obtain ⟨cs, left, read, rfl, -⟩ := build_eq_ok h
      exact .string _
    split at h
    · split at h
      · cases h
      · split at h
        · cases h
        · cases h
          exact .array fun item inside => absurd inside List.not_mem_nil
        · obtain ⟨items, left, read, rfl, -⟩ := build_eq_ok h
          exact .array (readItems_ordered read)
    split at h
    · split at h
      · cases h
      · split at h
        · cases h
        · cases h
          exact .object List.Pairwise.nil fun member inside => absurd inside List.not_mem_nil
        · rename_i t hr
          obtain ⟨fields, left, read, rfl, -⟩ := build_eq_ok h
          have shorter := Nat.lt_trans (length_of_skipSpace hr) shorter
          exact Value.ordered_ofFields (readMembers_ordered read)
        · cases h
    · cases h
termination_by (s.length, 0)

theorem readItems_ordered {room : Nat} {s : List Char} {items : List Value} {rest : Rest s}
    (h : readItems room s = .ok (items, rest)) : ∀ item ∈ items, item.Ordered := by
  rw [readItems] at h
  obtain ⟨⟨v, left⟩, read, h⟩ := Except.do_eq_ok.mp h
  have first := readValue_ordered read
  dsimp only at h
  split at h
  · cases h
  · rename_i c r hs
    have shorter := Nat.lt_trans (length_of_skipSpace hs) left.2
    split at h
    · cases h
      exact List.forall_mem_singleton.mpr first
    split at h
    · split at h
      · cases h
      · cases h
      · obtain ⟨more, left', read', rfl, -⟩ := build_eq_ok h
        exact List.forall_mem_cons.mpr ⟨first, readItems_ordered read'⟩
    · cases h
termination_by (s.length, 1)

theorem readMembers_ordered {room : Nat} {s : List Char} {fields : Fields} {rest : Rest s}
    (h : readMembers room s = .ok (fields, rest)) : ∀ member ∈ fields, member.2.Ordered := by
  rw [readMembers] at h
  obtain ⟨⟨key, left⟩, named, h⟩ := Except.do_eq_ok.mp h
  obtain ⟨⟨v, left'⟩, read, h⟩ := Except.do_eq_ok.mp h
  have first := readValue_ordered read
  dsimp only at h
  split at h
  · cases h
  · rename_i c r hs
    have shorter := Nat.lt_trans (length_of_skipSpace hs) (Nat.lt_trans left'.2 left.2)
    split at h
    · cases h
      exact List.forall_mem_singleton.mpr first
    split at h
    · split at h
      · cases h
      · cases h
      · rename_i t hr
        obtain ⟨more, left'', read', rfl, -⟩ := build_eq_ok h
        have shorter := Nat.lt_trans (length_of_skipSpace hr) shorter
        exact List.forall_mem_cons.mpr ⟨first, readMembers_ordered read'⟩
      · cases h
    · cases h
termination_by (s.length, 0)

end

/-- Every value that is read is in order. -/
theorem ordered_of_parse {text : String} (read : parse text = .ok v) : v.Ordered := by
  unfold parse at read
  dsimp only at read
  split at read
  · rename_i w whole
    cases read
    unfold readText at whole
    obtain ⟨⟨w, rest⟩, first, whole⟩ := Except.do_eq_ok.mp whole
    dsimp only at whole
    split at whole
    · cases whole
      exact readValue_ordered first
    · cases whole
  · cases read

end Dialogue.Json
