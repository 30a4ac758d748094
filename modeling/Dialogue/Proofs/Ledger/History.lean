import Dialogue.Proofs.Ledger

/-! # The ledger and its history

The ledger keeps a few numbers of all that has been done with it. What it says of a ticket is
nevertheless what the whole history says: the ticket is of the present epoch when no new epoch came
after it, and it is current when besides nothing came after it that ends it. -/

namespace Dialogue

/-- What can be done with a ledger. -/
inductive Entry where
  | issue (op : Operation)
  | invalidate
  deriving DecidableEq, Repr

namespace Entry

/-- The entry ends the tickets of an operation: a new epoch ends all of them, a new request those of
its own kind and every refresh. -/
def Ends : Entry → Operation → Prop
  | issue op, other => other = op ∨ other = .refresh
  | invalidate, _ => True

/-- No entry ends the tickets of an operation. -/
theorem forall_not_ends_iff {after : List Entry} {op : Operation} :
    (∀ e ∈ after, ¬ e.Ends op) ↔
      invalidate ∉ after ∧ issue op ∉ after ∧
        (op = .refresh → ∀ other ≠ .refresh, issue other ∉ after) := by
  constructor
  · intro spared
    refine ⟨fun member => ?_, fun member => ?_, fun refresh other _ member => ?_⟩
    · exact spared _ member trivial
    · exact spared _ member (.inl rfl)
    · exact spared _ member (.inr refresh)
  · rintro ⟨epoch, same, others⟩ e member ends
    cases e with
    | invalidate => exact epoch member
    | issue other =>
      by_cases kind : other = op
      · rw [kind] at member
        exact same member
      · rcases ends with eq | refresh
        · exact kind eq.symm
        · rw [refresh] at kind
          exact others refresh other kind member

end Entry

namespace Ledger

/-- Notes an entry. -/
def note (l : Ledger) : Entry → Ledger
  | .issue op => l.issue op
  | .invalidate => l.invalidateAll

/-- The ticket that an entry issues. -/
def ticket? (l : Ledger) : Entry → Option Ticket
  | .issue op => some (l.nextTicket op)
  | .invalidate => none

/-- The ledger after a history. -/
def replay (l : Ledger) (history : List Entry) : Ledger := history.foldl note l

/-- The tickets that a history issues, in their order. -/
def tickets (l : Ledger) : List Entry → List Ticket
  | [] => []
  | e :: rest => (l.ticket? e).toList ++ (l.note e).tickets rest

theorem replay_cons (l : Ledger) (e : Entry) (rest : List Entry) :
    l.replay (e :: rest) = (l.note e).replay rest := rfl

theorem replay_append (l : Ledger) (before after : List Entry) :
    l.replay (before ++ after) = (l.replay before).replay after :=
  List.foldl_append

section Note

variable {l : Ledger} {t : Ticket}

theorem Counted.note (h : l.Counted) (e : Entry) : (l.note e).Counted := by
  cases e with
  | issue op => exact h.issue op
  | invalidate => exact h.invalidateAll

theorem Covers.note (h : l.Covers t) (e : Entry) : (l.note e).Covers t := by
  cases e with
  | issue op => exact h.issue op
  | invalidate => exact h.invalidateAll

theorem covers_of_ticket? {e : Entry} (issues : l.ticket? e = some t) : (l.note e).Covers t := by
  cases e with
  | issue op =>
    obtain rfl := Option.some.inj issues
    exact covers_nextTicket l op
  | invalidate => cases issues

/-- A ticket is ended by an entry, or is as current as it was. -/
theorem isCurrent_note_iff (h : l.Covers t) (e : Entry) :
    (l.note e).isCurrent t = true ↔ l.isCurrent t = true ∧ ¬ e.Ends t.operation := by
  cases e with
  | issue op =>
    show (l.issue op).isCurrent t = true ↔ _
    rw [isCurrent_issue_iff h, Entry.Ends, not_or, and_comm (a := t.operation ≠ .refresh)]
  | invalidate =>
    show l.invalidateAll.isCurrent t = true ↔ _
    simp [isCurrent_invalidateAll h, Entry.Ends]

theorem sameEpoch_note_iff (h : l.Covers t) (e : Entry) :
    (l.note e).sameEpoch t = true ↔ l.sameEpoch t = true ∧ e ≠ .invalidate := by
  cases e with
  | issue op =>
    show l.sameEpoch t = true ↔ _
    simp
  | invalidate =>
    show l.invalidateAll.sameEpoch t = true ↔ _
    simp [sameEpoch_invalidateAll h]

end Note

section Replay

variable {l : Ledger} {t : Ticket}

theorem Counted.replay (history : List Entry) :
    ∀ {l : Ledger}, l.Counted → (l.replay history).Counted := by
  induction history with
  | nil => exact id
  | cons e rest ih => exact fun h => ih (h.note e)

theorem Covers.replay (history : List Entry) :
    ∀ {l : Ledger}, l.Covers t → (l.replay history).Covers t := by
  induction history with
  | nil => exact id
  | cons e rest ih => exact fun h => ih (h.note e)

/-- A ticket stays current as long as no entry ends it. -/
theorem isCurrent_replay_iff (after : List Entry) :
    ∀ {l : Ledger}, l.Covers t →
      ((l.replay after).isCurrent t = true ↔
        l.isCurrent t = true ∧ ∀ e ∈ after, ¬ e.Ends t.operation) := by
  induction after with
  | nil => simp [replay]
  | cons e rest ih =>
    intro l h
    rw [replay_cons, ih (h.note e), isCurrent_note_iff h e, List.forall_mem_cons, and_assoc]

/-- A ticket stays in its epoch as long as no entry starts a new one. -/
theorem sameEpoch_replay_iff (after : List Entry) :
    ∀ {l : Ledger}, l.Covers t →
      ((l.replay after).sameEpoch t = true ↔
        l.sameEpoch t = true ∧ .invalidate ∉ after) := by
  induction after with
  | nil => simp [replay]
  | cons e rest ih =>
    intro l h
    rw [replay_cons, ih (h.note e), sameEpoch_note_iff h e, List.mem_cons, not_or, and_assoc,
      ne_comm]

/-- A ticket that has ended is not taken up again. -/
theorem isCurrent_of_replay (h : l.Covers t) {later : List Entry}
    (current : (l.replay later).isCurrent t = true) : l.isCurrent t = true :=
  ((isCurrent_replay_iff later h).mp current).1

/-- The tickets of a history are those that its entries issue. -/
theorem mem_tickets_iff (history : List Entry) :
    ∀ {l : Ledger}, t ∈ l.tickets history ↔
      ∃ before op after, history = before ++ .issue op :: after ∧
        t = (l.replay before).nextTicket op := by
  induction history with
  | nil => simp [tickets]
  | cons e rest ih =>
    intro l
    rw [tickets, List.mem_append, Option.mem_toList, ih]
    constructor
    · rintro (here | ⟨before, op, after, rfl, rfl⟩)
      · cases e with
        | issue op => exact ⟨[], op, rest, rfl, (Option.some.inj here).symm⟩
        | invalidate => cases here
      · exact ⟨e :: before, op, after, rfl, rfl⟩
    · rintro ⟨before, op, after, split, rfl⟩
      rcases List.cons_eq_append_iff.mp split with ⟨rfl, split⟩ | ⟨before', rfl, split⟩
      · obtain ⟨rfl, rfl⟩ := List.cons.inj split
        exact .inl rfl
      · exact .inr ⟨before', op, after, (List.cons.inj split).2, rfl⟩

theorem covers_of_mem_tickets {history : List Entry} (member : t ∈ l.tickets history) :
    (l.replay history).Covers t := by
  obtain ⟨before, op, after, rfl, rfl⟩ := (mem_tickets_iff history).mp member
  rw [replay_append, replay_cons]
  exact Covers.replay after (covers_nextTicket _ op)

theorem tickets_append (before after : List Entry) :
    ∀ l : Ledger, l.tickets (before ++ after) =
      l.tickets before ++ (l.replay before).tickets after := by
  induction before with
  | nil => exact fun l => rfl
  | cons e rest ih =>
    intro l
    rw [List.cons_append, tickets, ih, tickets, List.append_assoc, replay_cons]

theorem issued_note (l : Ledger) (e : Entry) :
    (l.note e).issued = l.issued + (l.ticket? e).toList.length := by
  cases e <;> rfl

/-- The ledger counts the tickets that it issues. -/
theorem issued_replay (history : List Entry) :
    ∀ l : Ledger, (l.replay history).issued = l.issued + (l.tickets history).length := by
  induction history with
  | nil => exact fun l => rfl
  | cons e rest ih =>
    intro l
    rw [replay_cons, ih, issued_note, tickets, List.length_append, Nat.add_assoc]

/-- The ledger counts the epochs. -/
theorem epoch_replay (history : List Entry) :
    ∀ l : Ledger, (l.replay history).epoch = l.epoch + history.count .invalidate := by
  induction history with
  | nil => exact fun l => rfl
  | cons e rest ih =>
    intro l
    rw [replay_cons, ih]
    cases e with
    | issue op =>
      rw [List.count_cons_of_ne Entry.noConfusion]
      rfl
    | invalidate =>
      rw [List.count_cons_self]
      show l.epoch + 1 + _ = _
      omega

/-- The numbers of new tickets go on from those issued before. -/
theorem lt_of_mem_tickets {history : List Entry} (member : t ∈ l.tickets history) :
    l.issued < t.seq := by
  obtain ⟨before, op, after, rfl, rfl⟩ := (mem_tickets_iff history).mp member
  show l.issued < (l.replay before).issued + 1
  rw [issued_replay]
  omega

theorem pairwise_tickets (history : List Entry) :
    ∀ l : Ledger, (l.tickets history).Pairwise (·.seq < ·.seq) := by
  induction history with
  | nil => exact fun l => .nil
  | cons e rest ih =>
    intro l
    rw [tickets, List.pairwise_append]
    refine ⟨?_, ih _, ?_⟩
    · cases e with
      | issue op => exact List.pairwise_singleton _ _
      | invalidate => exact .nil
    · intro first here second later
      have number : first.seq ≤ (l.note e).issued :=
        (covers_of_ticket? (Option.mem_toList.mp here)).seq
      exact Nat.lt_of_le_of_lt number (lt_of_mem_tickets later)

theorem tickets_eq_nil_iff {history : List Entry} :
    l.tickets history = [] ↔ ∀ op, .issue op ∉ history := by
  rw [List.eq_nil_iff_forall_not_mem]
  constructor
  · intro silent op member
    obtain ⟨before, after, split⟩ := List.append_of_mem member
    exact silent _ ((mem_tickets_iff history).mpr ⟨before, op, after, split, rfl⟩)
  · intro silent t member
    obtain ⟨before, op, after, rfl, rfl⟩ := (mem_tickets_iff history).mp member
    exact silent op (List.mem_append_right _ (List.mem_cons_self ..))

/-- A ticket is the newest one when nothing was issued after it. -/
theorem getLast?_tickets_iff {before after : List Entry} {op : Operation} :
    (l.tickets (before ++ .issue op :: after)).getLast? = some ((l.replay before).nextTicket op) ↔
      ∀ other, .issue other ∉ after := by
  have split : l.tickets (before ++ .issue op :: after) =
      l.tickets before ++ [(l.replay before).nextTicket op] ++
        ((l.replay before).issue op).tickets after := by
    rw [tickets_append, List.append_assoc]
    rfl
  rw [split, ← tickets_eq_nil_iff (l := (l.replay before).issue op)]
  constructor
  · intro last
    cases newest : (((l.replay before).issue op).tickets after).getLast? with
    | none => exact List.getLast?_eq_none_iff.mp newest
    | some t =>
      -- the newest of the later tickets has a greater number
      rw [List.getLast?_append, newest, Option.some_or] at last
      have greater := lt_of_mem_tickets (List.mem_of_getLast? newest)
      rw [Option.some.inj last] at greater
      exact absurd greater (Nat.lt_irrefl _)
  · intro silent
    rw [silent, List.append_nil]
    exact List.getLast?_concat

end Replay

/-- What a ledger with a history says of the tickets that were issued in it, told by the history
alone. -/
structure Judges (history : List Entry) : Prop where
  issued : ∀ t, t ∈ empty.tickets history ↔ ∃ before op after,
    history = before ++ .issue op :: after ∧ t = (empty.replay before).nextTicket op
  current : ∀ before op after, history = before ++ .issue op :: after →
    ((empty.replay history).isCurrent ((empty.replay before).nextTicket op) = true ↔
      .invalidate ∉ after ∧ .issue op ∉ after ∧
        (op = .refresh → ∀ other ≠ .refresh, .issue other ∉ after))
  sameEpoch : ∀ before op after, history = before ++ .issue op :: after →
    ((empty.replay history).sameEpoch ((empty.replay before).nextTicket op) = true ↔
      .invalidate ∉ after)
  newest : ∀ t ∈ empty.tickets history, t.operation = .refresh →
    ((empty.replay history).isCurrent t = true ↔
      (empty.replay history).sameEpoch t = true ∧ (empty.tickets history).getLast? = some t)
  ordered : (empty.tickets history).Pairwise (·.seq < ·.seq)
  stale : ∀ t ∈ empty.tickets history, (empty.replay history).isCurrent t = false →
    ∀ later, (empty.replay (history ++ later)).isCurrent t = false
  counted : (empty.replay history).issued = (empty.tickets history).length ∧
    (empty.replay history).epoch = history.count .invalidate

theorem isCurrent_split_iff (before : List Entry) (op : Operation) (after : List Entry) :
    (empty.replay (before ++ .issue op :: after)).isCurrent
        ((empty.replay before).nextTicket op) = true ↔
      ∀ e ∈ after, ¬ e.Ends op := by
  have counted : (empty.replay before).Counted := counted_empty.replay before
  rw [replay_append, replay_cons]
  show (((empty.replay before).issue op).replay after).isCurrent _ = true ↔ _
  rw [isCurrent_replay_iff after (covers_nextTicket _ op), isCurrent_nextTicket counted]
  exact and_iff_right rfl

theorem sameEpoch_split_iff (before : List Entry) (op : Operation) (after : List Entry) :
    (empty.replay (before ++ .issue op :: after)).sameEpoch
        ((empty.replay before).nextTicket op) = true ↔
      .invalidate ∉ after := by
  rw [replay_append, replay_cons]
  show (((empty.replay before).issue op).replay after).sameEpoch _ = true ↔ _
  rw [sameEpoch_replay_iff after (covers_nextTicket _ op)]
  exact and_iff_right (sameEpoch_iff.mpr rfl)

/-- Whatever has been done with a ledger, its few numbers tell of every ticket what the history
tells. -/
theorem replay_judges (history : List Entry) : Judges history := by
  refine ⟨fun t => mem_tickets_iff history, ?_, ?_, ?_, pairwise_tickets history _, ?_, ?_⟩
  · rintro before op after rfl
    rw [isCurrent_split_iff, Entry.forall_not_ends_iff]
  · rintro before op after rfl
    exact sameEpoch_split_iff before op after
  · intro t member refresh
    obtain ⟨before, op, after, rfl, rfl⟩ := (mem_tickets_iff history).mp member
    obtain rfl : op = .refresh := refresh
    rw [isCurrent_split_iff, sameEpoch_split_iff, getLast?_tickets_iff,
      Entry.forall_not_ends_iff]
    constructor
    · rintro ⟨epoch, same, others⟩
      refine ⟨epoch, fun other => ?_⟩
      by_cases kind : other = .refresh
      · rw [kind]
        exact same
      · exact others rfl other kind
    · rintro ⟨epoch, silent⟩
      exact ⟨epoch, silent .refresh, fun _ other _ => silent other⟩
  · intro t member ended later
    rw [replay_append]
    refine Bool.eq_false_iff.mpr fun current => ?_
    rw [isCurrent_of_replay (covers_of_mem_tickets member) current] at ended
    cases ended
  · refine ⟨?_, ?_⟩
    · rw [issued_replay]
      exact Nat.zero_add _
    · rw [epoch_replay]
      exact Nat.zero_add _

end Ledger

end Dialogue
