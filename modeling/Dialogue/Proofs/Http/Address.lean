import Dialogue.Http.Request
import Dialogue.Proofs.Text.Split

/-! # Addresses

The address of a call is put together from ids as they are. It tells the operation, and the board
and the session between them, but not where the id of the board ends and that of the session
begins: a slash may stand in either, and so may the word that stands between them. So two calls
about different boards can have one address, and then one request makes both. -/

namespace Dialogue

/-- Two lists agree around an item, each having it after a part of its own, when they have the same
parts, or the one has the item once more where the other has its first part. -/
theorem append_cons_eq_iff {α : Type} {item : α} {as bs cs ds : List α} :
    as ++ item :: bs = cs ++ item :: ds ↔
      (as = cs ∧ bs = ds) ∨ (∃ middle, cs = as ++ item :: middle ∧ bs = middle ++ item :: ds) ∨
        ∃ middle, as = cs ++ item :: middle ∧ ds = middle ++ item :: bs := by
  rw [List.append_eq_append_iff]
  constructor
  · rintro (⟨more, rfl, rest⟩ | ⟨more, rfl, rest⟩)
    · cases more with
      | nil => exact .inl ⟨(List.append_nil as).symm, (List.cons.inj rest).2⟩
      | cons first middle =>
        obtain ⟨rfl, others⟩ := List.cons.inj rest
        exact .inr (.inl ⟨middle, rfl, others⟩)
    · cases more with
      | nil => exact .inl ⟨List.append_nil cs, (List.cons.inj rest).2.symm⟩
      | cons first middle =>
        obtain ⟨rfl, others⟩ := List.cons.inj rest
        exact .inr (.inr ⟨middle, rfl, others⟩)
  · rintro (⟨rfl, rfl⟩ | ⟨middle, rfl, rfl⟩ | ⟨middle, rfl, rfl⟩)
    · exact .inl ⟨[], (List.append_nil as).symm, rfl⟩
    · exact .inl ⟨item :: middle, rfl, rfl⟩
    · exact .inr ⟨item :: middle, rfl, rfl⟩

namespace Call

/-! ## Paths -/

/-- The segments that an id is in a path. -/
def segments (id : String) : List (List Char) := Text.splitBy (· == '/') id.toList

/-- The word that stands between the ids in a path. -/
def word : List Char := "onboarding".toList

/-- The path of a session, from the id of its board on. -/
def path (boardId sessionId : String) : List Char :=
  boardId.toList ++ '/' :: (word ++ '/' :: sessionId.toList)

/-- A part of the one session's id, from its beginning to the word, is the end of the other board's
id. -/
def Shifts (boardId sessionId boardId' sessionId' : String) : Prop :=
  ∃ middle, segments boardId' = segments boardId ++ word :: middle ∧
    segments sessionId = middle ++ word :: segments sessionId'

theorem segments_injective {id id' : String} (same : segments id = segments id') : id = id' :=
  String.toList_inj.mp (Text.splitBy_injective same)

theorem splitBy_path (boardId sessionId : String) :
    Text.splitBy (· == '/') (path boardId sessionId) =
      segments boardId ++ word :: segments sessionId := by
  have alone : Text.splitBy (· == '/') word = [word] := by decide
  have cut := Text.splitBy_append (p := (· == '/')) (c := '/') (beq_self_eq_true '/')
  rw [path, cut, cut, alone]
  rfl

/-- The path of a session tells its board and its session, but for a shift from the one id to the
other. -/
theorem path_eq_iff {b s b' s' : String} :
    path b s = path b' s' ↔ (b = b' ∧ s = s') ∨ Shifts b s b' s' ∨ Shifts b' s' b s := by
  have parts : path b s = path b' s' ↔
      segments b ++ word :: segments s = segments b' ++ word :: segments s' := by
    rw [← splitBy_path, ← splitBy_path]
    exact ⟨congrArg _, Text.splitBy_injective⟩
  have same : ∀ id id', segments id = segments id' ↔ id = id' :=
    fun _ _ => ⟨segments_injective, congrArg _⟩
  rw [parts, append_cons_eq_iff, same, same]
  rfl

/-- An id of several segments has a slash in it. -/
theorem slash_of_segments {id : String} {first second : List Char} {more : List (List Char)}
    (several : segments id = first :: second :: more) : '/' ∈ id.toList := by
  refine Classical.byContradiction fun none => ?_
  have single : segments id = [id.toList] :=
    Text.splitBy_of_none fun c inside => beq_false_of_ne fun same => none (same ▸ inside)
  rw [single] at several
  cases several

/-- A shift takes a slash in the one board's id and in the other session's. -/
theorem Shifts.slashes {b s b' s' : String} (shifts : Shifts b s b' s') :
    '/' ∈ b'.toList ∧ '/' ∈ s.toList := by
  obtain ⟨middle, board, session⟩ := shifts
  constructor
  · cases first : segments b with
    | nil => exact absurd first (Text.splitBy_ne_nil _ _)
    | cons part more =>
      rw [first, List.cons_append] at board
      cases more with
      | nil => exact slash_of_segments board
      | cons part' more => exact slash_of_segments board
  · cases last : segments s' with
    | nil => exact absurd last (Text.splitBy_ne_nil _ _)
    | cons part more =>
      rw [last] at session
      cases middle with
      | nil => exact slash_of_segments session
      | cons part' middle =>
        cases middle with
        | nil => exact slash_of_segments session
        | cons part'' middle => exact slash_of_segments session

/-- A shift is from one board to another and from one session to another. -/
theorem Shifts.ne {b s b' s' : String} (shifts : Shifts b s b' s') : b ≠ b' ∧ s ≠ s' := by
  obtain ⟨middle, board, session⟩ := shifts
  have longer := congrArg List.length board
  have shorter := congrArg List.length session
  rw [List.length_append, List.length_cons] at longer shorter
  constructor
  · rintro rfl
    omega
  · rintro rfl
    omega

/-! ## Addresses -/

/-- The beginning of all addresses. -/
def root (baseUrl : String) : List Char :=
  (baseUrl.toList.reverse.dropWhile (· == '/')).reverse ++ "/api/v1/boards/".toList

/-- What follows the path of a session. -/
def ending : Operation → List Char
  | .start => []
  | .refresh => []
  | .answer => "/answer".toList
  | .confirm => "/confirm".toList

/-- The tail of a call is the session's id between a slash and the ending. A start is made at the
path of the session whose id would be the word for it. -/
theorem toList_tail (call : Call) :
    call.tail.toList = '/' :: (call.sessionId?.getD "start").toList ++ ending call.operation := by
  have start : "/start".toList = '/' :: "start".toList := by decide
  cases call with
  | start boardId => exact start.trans (List.append_nil _).symm
  | get boardId sessionId =>
    rw [tail, String.toList_append]
    exact (List.append_nil _).symm
  | answer boardId sessionId payload =>
    rw [tail, String.toList_append, String.toList_append]
    rfl
  | confirm boardId sessionId =>
    rw [tail, String.toList_append, String.toList_append]
    rfl

theorem toList_address (baseUrl : String) (call : Call) :
    (call.address baseUrl).toList =
      root baseUrl ++ path call.boardId (call.sessionId?.getD "start") ++
        ending call.operation := by
  have between : "/onboarding".toList = '/' :: word := by decide
  rw [address, String.toList_append, String.toList_append, String.toList_append,
    String.toList_append, toList_tail, between, String.toList_ofList, root, path]
  simp only [List.append_assoc, List.cons_append]

/-- The last letter of the addresses that an operation posts to. -/
def lastLetter : Operation → Char
  | .start => 't'
  | .refresh => '/'
  | .answer => 'r'
  | .confirm => 'm'

theorem lastLetter_injective {op op' : Operation} (same : lastLetter op = lastLetter op') :
    op = op' := by
  cases op <;> cases op' <;> first | rfl | exact absurd same (by decide)

theorem getLast?_append_of_getLast? (s : String) {t : String} {c : Char}
    (last : t.toList.getLast? = some c) : (s ++ t).toList.getLast? = some c := by
  rw [String.toList_append, List.getLast?_append, last, Option.some_or]

theorem getLast?_address (baseUrl : String) {call : Call} (posted : call.operation ≠ .refresh) :
    (call.address baseUrl).toList.getLast? = some (lastLetter call.operation) := by
  have start : "/start".toList.getLast? = some 't' := by decide
  have answer : "/answer".toList.getLast? = some 'r' := by decide
  have confirm : "/confirm".toList.getLast? = some 'm' := by decide
  refine getLast?_append_of_getLast? _ ?_
  cases call with
  | start boardId => exact start
  | get boardId sessionId => exact absurd rfl posted
  | answer boardId sessionId payload => exact getLast?_append_of_getLast? _ answer
  | confirm boardId sessionId => exact getLast?_append_of_getLast? _ confirm

theorem method_eq_get_iff {call : Call} : call.method = "GET" ↔ call.operation = .refresh := by
  cases call <;> simp [method, operation]

/-- The method and the address tell the operation. -/
theorem operation_of_address {baseUrl : String} {x y : Call} (method : x.method = y.method)
    (address : x.address baseUrl = y.address baseUrl) : x.operation = y.operation := by
  by_cases fetched : x.operation = .refresh
  · have fetched' := method_eq_get_iff.mp (method ▸ method_eq_get_iff.mpr fetched)
    rw [fetched, fetched']
  · have posted : y.operation ≠ .refresh := fun fetched' =>
      fetched (method_eq_get_iff.mp (method ▸ method_eq_get_iff.mpr fetched'))
    have last := getLast?_address baseUrl fetched
    rw [address, getLast?_address baseUrl posted] at last
    exact (lastLetter_injective (Option.some.inj last)).symm

theorem method_of_operation {x y : Call} (same : x.operation = y.operation) :
    x.method = y.method := by
  cases x <;> cases y <;> first | rfl | cases same

theorem sessionId?_eq_none_iff {call : Call} :
    call.sessionId? = none ↔ call.operation = .start := by
  cases call <;> simp [sessionId?, operation]

/-- Two calls of one operation whose ids make one path in two ways. -/
def Blurred (x y : Call) : Prop :=
  x.operation = y.operation ∧ ∃ s t, x.sessionId? = some s ∧ y.sessionId? = some t ∧
    (Shifts x.boardId s y.boardId t ∨ Shifts y.boardId t x.boardId s)

/-- Whether two calls are of one operation and about one conversation. -/
def SameMatter (x y : Call) : Prop :=
  x.operation = y.operation ∧ x.boardId = y.boardId ∧ x.sessionId? = y.sessionId?

/-- Calls with one address are about the same, or are blurred. -/
theorem address_eq_iff (baseUrl : String) (x y : Call) :
    (x.method = y.method ∧ x.address baseUrl = y.address baseUrl) ↔
      SameMatter x y ∨ Blurred x y := by
  have sameAddress : x.operation = y.operation → (x.address baseUrl = y.address baseUrl ↔
      path x.boardId (x.sessionId?.getD "start") = path y.boardId (y.sessionId?.getD "start")) := by
    intro same
    rw [← String.toList_inj, toList_address, toList_address, same, List.append_cancel_right_eq,
      List.append_cancel_left_eq]
  have sessions : x.operation = y.operation → (x.sessionId? = none ↔ y.sessionId? = none) := by
    intro same
    rw [sessionId?_eq_none_iff, sessionId?_eq_none_iff, same]
  constructor
  · rintro ⟨method, address⟩
    have same := operation_of_address method address
    have paths := (sameAddress same).mp address
    rw [path_eq_iff] at paths
    cases left : x.sessionId? with
    | none =>
      have right := (sessions same).mp left
      rw [left, right] at paths
      rcases paths with ⟨board, -⟩ | shifts | shifts
      · exact .inl ⟨same, board, left.trans right.symm⟩
      · exact absurd shifts.slashes.2 (by decide)
      · exact absurd shifts.slashes.2 (by decide)
    | some s =>
      cases right : y.sessionId? with
      | none => cases left.symm.trans ((sessions same).mpr right)
      | some t =>
        rw [left, right] at paths
        rcases paths with ⟨board, rfl⟩ | shifts
        · exact .inl ⟨same, board, left.trans right.symm⟩
        · exact .inr ⟨same, s, t, left, right, shifts⟩
  · rintro (⟨same, board, session⟩ | ⟨same, s, t, left, right, shifts⟩)
    · refine ⟨method_of_operation same, (sameAddress same).mpr ?_⟩
      rw [board, session]
    · refine ⟨method_of_operation same, (sameAddress same).mpr ?_⟩
      rw [left, right]
      exact path_eq_iff.mpr (.inr shifts)

/-- Blurred calls are about two boards and about two sessions, and there is a slash in the id of the
one board and in that of the other session. -/
theorem Blurred.ids {x y : Call} (blurred : Blurred x y) :
    ∃ s t, x.sessionId? = some s ∧ y.sessionId? = some t ∧ x.boardId ≠ y.boardId ∧ s ≠ t ∧
      (('/' ∈ y.boardId.toList ∧ '/' ∈ s.toList) ∨ ('/' ∈ x.boardId.toList ∧ '/' ∈ t.toList)) := by
  obtain ⟨-, s, t, left, right, shifts | shifts⟩ := blurred
  · exact ⟨s, t, left, right, shifts.ne.1, shifts.ne.2, .inl shifts.slashes⟩
  · exact ⟨s, t, left, right, shifts.ne.1.symm, shifts.ne.2.symm, .inr shifts.slashes⟩

end Call

/-- A request is made of the method, the address and the body of a call. -/
theorem HttpRequest.of_congr {settings : ServiceSettings} {x y : Call}
    (method : x.method = y.method)
    (address : x.address settings.baseUrl = y.address settings.baseUrl)
    (body : x.body? = y.body?) : of settings x = of settings y := by
  have made : ∀ url headers, make url headers x = make url headers y := by
    intro url headers
    rw [make, make, method, body]
  simp only [of, address, made]

namespace Call

/-- What the addresses of two calls tell of them. The addresses are taken as the texts that are read
as URLs. -/
structure ToldApart (x y : Call) : Prop where
  /-- Calls that differ in the operation, the board or the session go to two addresses, or by two
  methods, whatever the base is, just when they are not blurred. -/
  apart : ¬ SameMatter x y → ∀ baseUrl,
    ((x.method, x.address baseUrl) ≠ (y.method, y.address baseUrl) ↔ ¬ Blurred x y)
  /-- Blurred calls cannot be told apart at all: what the one sends the other sends. -/
  taken : Blurred x y → x.body? = y.body? → ∀ settings,
    HttpRequest.of settings x = HttpRequest.of settings y
  /-- Calls of two operations are not blurred, nor is a start with anything. -/
  operation : x.operation ≠ y.operation ∨ x.operation = .start → ¬ Blurred x y
  /-- Calls about one board are not blurred, nor are calls about one session. -/
  shared : x.boardId = y.boardId ∨ x.sessionId? = y.sessionId? → ¬ Blurred x y
  /-- Where no board has a slash in its id no calls are blurred. -/
  boards : '/' ∉ x.boardId.toList → '/' ∉ y.boardId.toList → ¬ Blurred x y
  /-- Where no session has a slash in its id no calls are blurred. -/
  sessions : (∀ s ∈ x.sessionId?, '/' ∉ s.toList) → (∀ t ∈ y.sessionId?, '/' ∉ t.toList) →
    ¬ Blurred x y

/-- Any two calls that differ are told apart by where they go, unless they are of one operation and
a part of the one session's id, to the word between the ids, is the end of the other board's id. -/
theorem told_apart (x y : Call) : ToldApart x y where
  apart differ baseUrl := by
    rw [ne_eq, Prod.mk.injEq, address_eq_iff, or_iff_right differ]
  taken blurred body settings := by
    obtain ⟨method, address⟩ := (address_eq_iff settings.baseUrl x y).mpr (.inr blurred)
    exact HttpRequest.of_congr method address body
  operation := by
    rintro (differ | started) blurred
    · exact differ blurred.1
    · obtain ⟨s, -, left, -⟩ := blurred.ids
      cases left.symm.trans (sessionId?_eq_none_iff.mpr started)
  shared := by
    intro same blurred
    obtain ⟨s, t, left, right, boards, sessions, -⟩ := blurred.ids
    rcases same with same | same
    · exact boards same
    · rw [left, right] at same
      exact sessions (Option.some.inj same)
  boards left right blurred := by
    obtain ⟨_, _, -, -, -, -, ⟨slash, -⟩ | ⟨slash, -⟩⟩ := blurred.ids
    · exact right slash
    · exact left slash
  sessions left right blurred := by
    obtain ⟨s, t, first, second, -, -, ⟨-, slash⟩ | ⟨-, slash⟩⟩ := blurred.ids
    · exact left s first slash
    · exact right t second slash

/-- Whether the ids of a call are not blank. -/
def Named (call : Call) : Prop :=
  Text.allBlank call.boardId = false ∧ ∀ s ∈ call.sessionId?, Text.allBlank s = false

/-- Calls about two conversations may go to one address. -/
theorem not_always_apart :
    ¬ ∀ (baseUrl : String) (x y : Call), x.Named → y.Named → ¬ SameMatter x y →
      (x.method, x.address baseUrl) ≠ (y.method, y.address baseUrl) := by
  intro always
  have named : Named (.confirm "a" "x/onboarding/y") := ⟨by decide, by simp [sessionId?]; decide⟩
  have named' : Named (.confirm "a/onboarding/x" "y") := ⟨by decide, by simp [sessionId?]; decide⟩
  have shifts : Shifts "a" "x/onboarding/y" "a/onboarding/x" "y" :=
    ⟨["x".toList], by decide, by decide⟩
  have blurred : Blurred (.confirm "a" "x/onboarding/y") (.confirm "a/onboarding/x" "y") :=
    ⟨rfl, _, _, rfl, rfl, .inl shifts⟩
  obtain ⟨method, address⟩ := (address_eq_iff "http://localhost:3000" _ _).mpr (.inr blurred)
  refine always "http://localhost:3000" _ _ named named' ?_ (Prod.ext method address)
  rintro ⟨-, board, -⟩
  exact shifts.ne.1 board

end Call

end Dialogue
