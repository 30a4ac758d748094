import Dialogue.Prompt
import Dialogue.Proofs.Json.Written
import Dialogue.Proofs.Text.Blank
import Dialogue.Proofs.Session.Grammar

/-! # Questions that were encoded

The text of an object with a question and its options is read as that question: trimmed, with the
label of each option, and without the options whose label is blank. What is read is in a normal
form, so that it is read back the same when it is encoded again. -/

namespace Dialogue

open Json (Value Fields Legible)

/-! ## Trimmed texts -/

namespace Text

theorem trimmed_trimmed (s : String) : trimmed (trimmed s) = trimmed s := by
  rw [trimmed, trimmed, String.toList_ofList, trim_trim]

theorem allBlank_trimmed (s : String) : allBlank (trimmed s) = allBlank s := by
  rw [Bool.eq_iff_iff, allBlank_iff, allBlank_iff, trimmed_trimmed]

/-- The text is not blank, and nothing of it is trimmed. -/
structure Neat (s : String) : Prop where
  used : allBlank s = false
  trimmed : Text.trimmed s = s

theorem neat_trimmed {s : String} (used : allBlank s = false) : Neat (trimmed s) :=
  ⟨(allBlank_trimmed s).trans used, trimmed_trimmed s⟩

end Text

namespace Prompt

open Text (allBlank trimmed Neat Tight Around)

/-! ## Options -/

/-- The name of an option: the text itself, the `label` of an object, or its `id` if it has no
label. -/
inductive Names : Value → String → Prop
  | text (s : String) : Names (.string s) s
  | label {fields : Fields} {s : String} (found : fields.lookup "label" = some (.string s)) :
    Names (.object fields) s
  | id {fields : Fields} {s : String} (unlabelled : ∀ t, fields.lookup "label" ≠ some (.string t))
    (found : fields.lookup "id" = some (.string s)) : Names (.object fields) s

theorem asString?_eq_none {v : Option Value} (other : ∀ t, v ≠ some (.string t)) :
    v.bind Value.asString? = none := by
  cases v with
  | none => rfl
  | some v =>
    cases v with
    | string t => exact absurd rfl (other t)
    | _ => rfl

theorem Names.optionText? {item : Value} {name : String} (names : Names item name) :
    optionText? item = some name := by
  cases names with
  | text => rfl
  | label found => simp [Prompt.optionText?, found, Value.asString?]
  | id unlabelled found =>
    simp [Prompt.optionText?, asString?_eq_none unlabelled, found, Value.asString?]

/-- An item of the options of a question, which offers an option of that name. -/
structure Offers (item : Value) (name : String) : Prop where
  names : Names item name
  legible : Legible 125 item

theorem offers_text (s : String) : Offers (.string s) s := ⟨.text s, .string s⟩

/-- An object with a label, an id or both offers its label, or else its id. -/
theorem offers_object {id label : Option String} {name : String}
    (named : label.or id = some name) :
    Offers (.object (id.toList.map (fun s => ("id", .string s)) ++
      label.toList.map fun s => ("label", .string s))) name := by
  have single : ∀ key s, Legible 125 (.object [(key, .string s)]) := fun key s =>
    .object (List.pairwise_singleton _ _) fun member inFields =>
      List.mem_singleton.mp inFields ▸ .string s
  cases label with
  | none =>
    obtain rfl : id = some name := named
    exact ⟨.id (fun t found => nomatch found) rfl, single "id" name⟩
  | some s =>
    obtain rfl : s = name := Option.some.inj named
    cases id with
    | none => exact ⟨.label rfl, single "label" s⟩
    | some t =>
      refine ⟨.label rfl, .object ?_ ?_⟩
      · exact Json.sorted_pair (by decide) _ _
      · intro member inFields
        have string : ∃ u, member.2 = .string u := by
          rcases List.mem_pair.mp inFields with rfl | rfl
          · exact ⟨t, rfl⟩
          · exact ⟨s, rfl⟩
        obtain ⟨u, same⟩ := string
        exact same ▸ .string u

theorem legible_of_offers {items : List Value} {names : List String}
    (offers : List.Forall₂ Offers items names) : ∀ item ∈ items, Legible 125 item := by
  induction offers with
  | nil => exact List.forall_mem_nil _
  | cons offer _ ih => exact List.forall_mem_cons.mpr ⟨offer.legible, ih⟩

/-- The options that are left of those with these names. -/
def kept (names : List String) : List String := (names.filter (!allBlank ·)).map trimmed

theorem filterMap_optionLabel? {items : List Value} {names : List String}
    (offers : List.Forall₂ Offers items names) : items.filterMap optionLabel? = kept names := by
  induction offers with
  | nil => rfl
  | @cons item name items names offer _ ih =>
    have label : optionLabel? item = if allBlank name then none else some (trimmed name) := by
      rw [optionLabel?, offer.names.optionText?]
    rw [kept] at ih ⊢
    cases blank : allBlank name with
    | true =>
      rw [blank, if_pos rfl] at label
      rw [List.filterMap_cons_none label, List.filter_cons_of_neg (by simp [blank]), ih]
    | false =>
      rw [blank, if_neg Bool.false_ne_true] at label
      rw [List.filterMap_cons_some label, List.filter_cons_of_pos (by simp [blank]), ih,
        List.map_cons]

/-! ## Questions -/

/-- The content is the text of an object with a question and its options, perhaps with blanks
around it. -/
def Encodes (content text : String) (items : List Value) : Prop :=
  ∃ fields, (fields = [("question", .string text), ("options", .array items)] ∨
      fields = [("options", .array items), ("question", .string text)]) ∧
    Around (Value.object fields).write content.toList

theorem encodes_text {text : String} {items : List Value} {fields : Fields}
    (order : fields = [("question", .string text), ("options", .array items)] ∨
      fields = [("options", .array items), ("question", .string text)]) :
    Encodes (Value.object fields).text text items := by
  refine ⟨fields, order, ?_⟩
  rw [Value.text, String.toList_ofList]
  exact Text.around_self _

/-- A text that begins with a brace is in no code fence. -/
theorem stripFence_of_brace (s : List Char) : stripFence ('\x7b' :: s) = '\x7b' :: s := by
  have other : fence.isPrefixOf? ('\x7b' :: s) = none := rfl
  rw [stripFence, other]

/-- The question in the text of an object, whatever blanks are around it. -/
theorem question?_written {content : String} {fields ordered : Fields}
    (around : Around (Value.object fields).write content.toList)
    (legible : ∀ member ∈ fields, Legible 126 member.2)
    (order : Value.ofFields fields = .object ordered) :
    question? content = questionOfFields? ordered := by
  obtain ⟨body, written⟩ := Json.exists_write_object_eq fields
  have tight : Tight (Value.object fields).write := by
    rw [written]
    exact Text.tight_of_ends rfl rfl body
  have read := Json.readText_written_object legible
  have unfenced : stripFence (Value.object fields).write = (Value.object fields).write := by
    rw [written, stripFence_of_brace]
  have brace : (Value.object fields).write.head? = some '\x7b' := by
    rw [written]
    rfl
  rw [question?, tight.trim_around around]
  simp only [unfenced, brace, if_true, read, order]

/-- The members of a question are put in one order. -/
theorem ofFields_payload {fields : Fields} {text : String} {items : List Value}
    (payload : fields = [("question", .string text), ("options", .array items)] ∨
      fields = [("options", .array items), ("question", .string text)]) :
    Value.ofFields fields = .object [("options", .array items), ("question", .string text)] := by
  have sorted : Json.Sorted [("options", .array items), ("question", .string text)] :=
    Json.sorted_pair (by decide) _ _
  rcases payload with rfl | rfl
  · rw [← Json.ofFields_of_sorted sorted]
    rfl
  · exact Json.ofFields_of_sorted sorted

/-- A question that was encoded is read as its trimmed text and the options that its items offer. -/
theorem ofContent_encoded {content text : String} {items : List Value} {names : List String}
    (encodes : Encodes content text items) (used : allBlank text = false)
    (offers : List.Forall₂ Offers items names) :
    ofContent content = .question ⟨trimmed text, kept names⟩ := by
  obtain ⟨fields, payload, around⟩ := encodes
  have legible : ∀ member ∈ fields, Legible 126 member.2 := by
    have both : ∀ member ∈ fields, member.2 = .string text ∨ member.2 = .array items := by
      rcases payload with rfl | rfl <;> simp
    intro member inFields
    rcases both member inFields with same | same
    · exact same ▸ .string text
    · exact same ▸ .array (legible_of_offers offers)
  have lookup : List.lookup "question" [("options", .array items), ("question", .string text)] =
      some (Value.string text) := rfl
  have options : optionLabels? [("options", .array items), ("question", .string text)] =
      some (kept names) := by
    rw [← filterMap_optionLabel? offers]
    rfl
  rw [ofContent, question?_written around legible (ofFields_payload payload)]
  simp [questionOfFields?, lookup, Value.asString?, used, options]

/-! ## Questions that were read -/

/-- A question as it is read: its text and its options are neither blank nor to be trimmed. -/
structure Normal (q : Question) : Prop where
  text : Neat q.text
  options : ∀ o ∈ q.options, Neat o

theorem neat_of_optionLabel? {item : Value} {o : String} (label : optionLabel? item = some o) :
    Neat o := by
  unfold optionLabel? at label
  split at label
  · cases label
  · split at label
    · cases label
    · rename_i used
      obtain rfl := Option.some.inj label
      exact Text.neat_trimmed (Bool.not_eq_true _ ▸ used)

theorem neat_of_optionLabels? {fields : Fields} {options : List String}
    (labels : optionLabels? fields = some options) : ∀ o ∈ options, Neat o := by
  unfold optionLabels? at labels
  split at labels
  · obtain rfl := Option.some.inj labels
    exact List.forall_mem_nil _
  · obtain rfl := Option.some.inj labels
    exact List.forall_mem_nil _
  · obtain rfl := Option.some.inj labels
    intro o member
    obtain ⟨item, -, label⟩ := List.mem_filterMap.mp member
    exact neat_of_optionLabel? label
  · cases labels

theorem normal_of_fields {fields : Fields} {q : Question}
    (question : questionOfFields? fields = some q) : Normal q := by
  unfold questionOfFields? at question
  obtain ⟨text, -, question⟩ := Option.bind_eq_some_iff.mp question
  split at question
  · cases question
  · rename_i used
    obtain ⟨options, labels, made⟩ := Option.bind_eq_some_iff.mp question
    obtain rfl := Option.some.inj made
    exact ⟨Text.neat_trimmed (Bool.not_eq_true _ ▸ used), neat_of_optionLabels? labels⟩

/-- Every question that is read is in the normal form. -/
theorem normal_of_content {content : String} {q : Question}
    (read : ofContent content = .question q) : Normal q := by
  have found : question? content = some q := by
    unfold ofContent at read
    split at read
    · rename_i q' found
      cases read
      exact found
    · cases read
  unfold question? at found
  dsimp only at found
  split at found
  · split at found
    · exact normal_of_fields found
    · cases found
  · cases found

theorem offers_strings (options : List String) :
    List.Forall₂ Offers (options.map .string) options := by
  induction options with
  | nil => exact .nil
  | cons o rest ih => exact .cons (offers_text o) ih

theorem kept_of_neat {options : List String} (neat : ∀ o ∈ options, Neat o) :
    kept options = options := by
  have all : options.filter (!allBlank ·) = options :=
    List.filter_eq_self.mpr fun o member => by simp [(neat o member).used]
  rw [kept, all, List.map_congr_left fun o member => (neat o member).trimmed, List.map_id']

/-- A question that is read is read again from the text that it is encoded in. -/
theorem ofContent_reencoded {content content' : String} {q : Question}
    (read : ofContent content = .question q)
    (encodes : Encodes content' q.text (q.options.map .string)) :
    ofContent content' = .question q := by
  have normal := normal_of_content read
  rw [ofContent_encoded encodes normal.text.used (offers_strings q.options), normal.text.trimmed,
    kept_of_neat normal.options]

/-- What is encoded as a question is read as that question, in a normal form; and a question that
was read is encoded and read as it is. -/
theorem read_of_encoded :
    (∀ {content text : String} {items : List Value} {names : List String},
      Encodes content text items → allBlank text = false → List.Forall₂ Offers items names →
        ofContent content = .question ⟨trimmed text, kept names⟩) ∧
    ∀ {content content' : String} {q : Question}, ofContent content = .question q →
      Encodes content' q.text (q.options.map .string) → ofContent content' = .question q :=
  ⟨ofContent_encoded, ofContent_reencoded⟩

/-- A question with an option that is text, one with only an id, and a blank one. -/
theorem read_of_encoded_three :
    let items : List Value := [.string "A ", .object [("id", .string "b")], .string " "]
    let payload := Value.object [("options", .array items), ("question", .string " Which?")]
    let again := Value.object [("options", .array [.string "A", .string "b"]),
      ("question", .string "Which?")]
    ofContent payload.text = .question ⟨"Which?", ["A", "b"]⟩ ∧
      ofContent again.text = .question ⟨"Which?", ["A", "b"]⟩ := by
  intro items payload again
  have offers : List.Forall₂ Offers items ["A ", "b", " "] :=
    .cons (offers_text "A ") (.cons (@offers_object (some "b") none "b" rfl)
      (.cons (offers_text " ") .nil))
  have encodes : Encodes payload.text " Which?" items := encodes_text (.inr rfl)
  have encodes' : Encodes again.text "Which?" [.string "A", .string "b"] :=
    encodes_text (.inr rfl)
  have text : trimmed " Which?" = "Which?" := by decide +kernel
  have left : kept ["A ", "b", " "] = ["A", "b"] := by decide +kernel
  have read := read_of_encoded.1 encodes (by decide) offers
  rw [text, left] at read
  exact ⟨read, read_of_encoded.2 read encodes'⟩

end Prompt

end Dialogue
