import Dialogue.Prompt
import Dialogue.Proofs.Json.Suffix
import Dialogue.Proofs.Prompt.Encoded

/-! # Code fences

A code fence around a content that begins with a brace does not change what is read: a question in
it is found, and anything else is shown with its fence. Only one fence is taken off, so a question
in two fences is not found. -/

namespace Dialogue.Prompt

open Json (Value Fields)
open Text (trim trimStart trimmed Tight Around Blank)

variable {c inner fenced text info body : List Char}

/-- The content in a code fence, with a line that opens it or without. The line is kept apart from
the content as long as it does not begin with a brace itself. -/
inductive Fenced (c : List Char) : List Char → Prop
  | block {info : List Char} (line : '\n' ∉ info) (plain : (trimStart info).head? ≠ some '\x7b') :
    Fenced c (fence ++ (info ++ '\n' :: (c ++ ['\n'])) ++ fence)
  | inline : Fenced c (fence ++ c ++ fence)

/-- The character that a code fence is made of. -/
def mark : Char := Char.ofNat 0x60

/-! ## Taking the fence off -/

theorem isSuffixOf?_fence (inner : List Char) : fence.isSuffixOf? (inner ++ fence) = some inner := by
  have mirrored : fence.isPrefixOf? (fence ++ inner.reverse) = some inner.reverse := rfl
  have same : fence.reverse = fence := rfl
  rw [List.isSuffixOf?, List.reverse_append, same, mirrored, Option.map_some, List.reverse_reverse]

theorem stripFence_fence (inner : List Char) :
    stripFence (fence ++ inner ++ fence) = fencedBody inner := by
  have opened : fence.isPrefixOf? (fence ++ (inner ++ fence)) = some (inner ++ fence) := rfl
  rw [stripFence, List.append_assoc, opened]
  dsimp only
  rw [isSuffixOf?_fence]

theorem fence_eq (inner : List Char) :
    fence ++ inner ++ fence = mark :: ((mark :: mark :: inner ++ [mark, mark]) ++ [mark]) := by
  have marks : fence = [mark, mark, mark] := rfl
  simp [marks]

/-- A fenced text ends in marks, and is not trimmed. -/
structure Marked (s : List Char) : Prop where
  tight : Tight s
  last : s.getLast? = some mark

theorem marked_fence (inner : List Char) : Marked (fence ++ inner ++ fence) := by
  rw [fence_eq]
  exact ⟨Text.tight_of_ends rfl rfl _, by rw [← List.cons_append, List.getLast?_concat]⟩

theorem Fenced.marked (inFence : Fenced c fenced) : Marked fenced := by
  cases inFence with
  | block line plain => exact marked_fence _
  | inline => exact marked_fence _

theorem splitLine_line (line : '\n' ∉ info) (body : List Char) :
    splitLine (info ++ '\n' :: body) = some (info, body) := by
  induction info with
  | nil => rfl
  | cons d rest ih =>
    obtain ⟨other, line⟩ := List.ne_and_not_mem_of_not_mem_cons line
    rw [List.cons_append, splitLine, if_neg other.symm, ih line, Option.map_some]

theorem eq_of_splitLine (split : splitLine inner = some (info, body)) :
    inner = info ++ '\n' :: body := by
  induction inner generalizing info with
  | nil => cases split
  | cons d rest ih =>
    rw [splitLine] at split
    split at split
    · rename_i same
      cases split
      rw [same, List.nil_append]
    · obtain ⟨⟨line, after⟩, found, same⟩ := Option.map_eq_some_iff.mp split
      cases same
      rw [ih found, List.cons_append]

/-! ## What is in the fence -/

/-- The line that opens a fence is dropped. -/
theorem fencedBody_block (line : '\n' ∉ info) (plain : (trimStart info).head? ≠ some '\x7b') :
    fencedBody (info ++ '\n' :: (c ++ ['\n'])) = trim c := by
  have around : Around c (c ++ ['\n']) :=
    ⟨[], ['\n'], List.forall_mem_nil _, List.forall_mem_singleton.mpr rfl, rfl⟩
  rw [fencedBody, splitLine_line line]
  dsimp only
  rw [if_neg plain, around.trim_eq]

/-- A line before a brace that does not begin with the brace is blank. -/
theorem blank_of_brace (brace : (trim (info ++ body)).head? = some '\x7b')
    (plain : (trimStart info).head? ≠ some '\x7b') : Blank info := by
  cases left : trimStart info with
  | nil => exact List.dropWhile_eq_nil_iff.mp left
  | cons d rest =>
    have used : Text.isBlank d = false := Text.head_dropWhile info d (by rw [← trimStart, left]; rfl)
    have first : (trim info).head? = some d := by
      rw [trim, left, Text.trimEnd_cons used]
      rfl
    have same := (Text.head?_trim_append first body).symm.trans brace
    rw [left] at plain
    exact absurd same plain

/-- A content that begins with a brace is what is in its fence. -/
theorem fencedBody_brace (brace : (trim c).head? = some '\x7b') : fencedBody c = trim c := by
  unfold fencedBody
  split
  · rename_i info body split
    obtain rfl := eq_of_splitLine split
    split
    · rfl
    · rename_i plain
      have around : Around body (info ++ '\n' :: body) := by
        refine ⟨info ++ ['\n'], [], ?_, List.forall_mem_nil _, by simp⟩
        exact List.forall_mem_append.mpr
          ⟨blank_of_brace brace plain, List.forall_mem_singleton.mpr rfl⟩
      exact around.trim_eq.symm
  · rfl

theorem Fenced.stripFence (inFence : Fenced c fenced) (brace : (trim c).head? = some '\x7b') :
    stripFence fenced = trim c := by
  cases inFence with
  | block line plain => rw [stripFence_fence, fencedBody_block line plain]
  | inline => rw [stripFence_fence, fencedBody_brace brace]

/-- Whatever is taken out of the fence of a fenced text ends in a mark. -/
theorem fencedBody_marked (marked : Marked (trim inner)) {d : Char}
    (last : (fencedBody inner).getLast? = some d) : d = mark := by
  unfold fencedBody at last
  split at last
  · rename_i info body split
    obtain rfl := eq_of_splitLine split
    split at last
    · exact Option.some.inj (last.symm.trans marked.last)
    · have whole := Text.getLast?_trim_append last (info ++ ['\n'])
      rw [List.append_assoc, List.singleton_append] at whole
      exact Option.some.inj (whole.symm.trans marked.last)
  · exact Option.some.inj (last.symm.trans marked.last)

theorem Fenced.stripFence_twice {once again twice : List Char} (inside : Fenced c once)
    (around : Around once again) (inFence : Fenced again twice) {d : Char}
    (last : (Prompt.stripFence twice).getLast? = some d) : d = mark := by
  have marked : Marked (trim again) := by
    rw [inside.marked.tight.trim_around around]
    exact inside.marked
  cases inFence with
  | block line plain =>
    rw [stripFence_fence, fencedBody_block line plain] at last
    exact Option.some.inj (last.symm.trans marked.last)
  | inline =>
    rw [stripFence_fence] at last
    exact fencedBody_marked marked last

/-- A text that ends in a mark is no object. -/
theorem readText_mark {s : List Char} (last : ∀ d, s.getLast? = some d → d = mark)
    (fields : Fields) : Json.readText s ≠ .ok (.object fields) := by
  intro read
  obtain ⟨body, spaces, rfl, space⟩ := Json.readText_object read
  rcases List.eq_nil_or_concat spaces with rfl | ⟨more, d, rfl⟩
  · have brace : '\x7d' = mark := last _ List.getLast?_concat
    exact absurd brace (by decide)
  · rw [List.concat_eq_append] at last space
    have same : d = mark := by
      refine last d ?_
      rw [← List.cons_append, ← List.append_assoc, List.getLast?_concat]
    have space := space d (by simp)
    rw [same] at space
    exact absurd space (by decide)

/-! ## What is read -/

/-- A question is found in what is left when the text is trimmed and its fence taken off. -/
theorem question?_of_stripFence {content content' : String}
    (same : stripFence (trim content.toList) = stripFence (trim content'.toList)) :
    question? content = question? content' := by
  rw [question?, same, question?]

theorem question?_of_mark {content : String}
    (last : ∀ d, (stripFence (trim content.toList)).getLast? = some d → d = mark) :
    question? content = none := by
  rw [question?]
  split
  · split
    · rename_i fields read
      exact absurd read (readText_mark last fields)
    · rfl
  · rfl

/-- A content that begins with a brace is read in a fence as it is read without. -/
theorem question?_fenced {content content' : String} (inFence : Fenced content.toList fenced)
    (around : Around fenced content'.toList)
    (brace : (trim content.toList).head? = some '\x7b') : question? content' = question? content := by
  refine question?_of_stripFence ?_
  obtain ⟨rest, left⟩ := List.head?_eq_some_iff.mp brace
  rw [inFence.marked.tight.trim_around around, inFence.stripFence brace, left, stripFence_of_brace]

/-- A code fence is seen through once: a question in it is read as without the fence, and what is no
question is shown with it. A second fence hides any question. -/
theorem fence_once :
    (∀ {content content' : String} {fenced : List Char},
      (trim content.toList).head? = some '\x7b' → Fenced content.toList fenced →
        Around fenced content'.toList →
          ofContent content' = match ofContent content with
            | .question q => .question q
            | .plain _ => .plain (String.ofList fenced)) ∧
    ∀ {content : String} {c once again twice : List Char}, Fenced c once → Around once again →
      Fenced again twice → Around twice content.toList →
        ofContent content = .plain (String.ofList twice) := by
  constructor
  · intro content content' fenced brace inFence around
    have trimmed : trimmed content' = String.ofList fenced := by
      rw [Text.trimmed, inFence.marked.tight.trim_around around]
    rw [ofContent, ofContent, question?_fenced inFence around brace, trimmed]
    cases question? content with
    | none => rfl
    | some q => rfl
  · intro content c once again twice inside between outside around
    have trim_eq := outside.marked.tight.trim_around around
    have none : question? content = none := by
      refine question?_of_mark fun d last => ?_
      rw [trim_eq] at last
      exact inside.stripFence_twice between outside last
    rw [ofContent, none, trimmed, trim_eq]

/-- A question in one code fence, and in two. -/
theorem fence_once_json :
    let payload := Value.object [("options", .array []), ("question", .string "Why?")]
    let once := fence ++ ("json".toList ++ '\n' :: (payload.write ++ ['\n'])) ++ fence
    let twice := fence ++ once ++ fence
    ofContent (String.ofList once) = .question ⟨"Why?", []⟩ ∧
      ofContent (String.ofList twice) = .plain (String.ofList twice) := by
  intro payload once twice
  have text : payload.text.toList = payload.write := String.toList_ofList
  have unfenced : ofContent payload.text = .question ⟨"Why?", []⟩ := by
    have encodes : Encodes payload.text "Why?" [] := encodes_text (.inr rfl)
    have neat : trimmed "Why?" = "Why?" := by decide +kernel
    rw [ofContent_encoded encodes (by decide) .nil, neat]
    rfl
  have brace : (trim payload.text.toList).head? = some '\x7b' := by
    obtain ⟨body, written⟩ := Json.exists_write_object_eq
      [("options", .array []), ("question", .string "Why?")]
    rw [text, written, (Text.tight_of_ends rfl rfl body).trim_eq]
    rfl
  have inside : Fenced payload.text.toList once := by
    rw [text]
    exact .block (by decide) (by decide)
  have around : ∀ s : List Char, Around s (String.ofList s).toList := by
    intro s
    rw [String.toList_ofList]
    exact Text.around_self s
  refine ⟨?_, fence_once.2 inside (Text.around_self once) .inline (around twice)⟩
  have read := fence_once.1 brace inside (around once)
  rwa [unfenced] at read

end Dialogue.Prompt
