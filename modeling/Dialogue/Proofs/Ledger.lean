import Dialogue.Ledger

/-! # What becomes of a ticket

A ticket is current when it is issued. Whether it stays so is decided operation by operation: a new
request ends the tickets of its own kind and every refresh, and a new epoch ends all of them. A
ledger never takes a ticket up again. -/

namespace Dialogue

theorem Latest.get_set (l : Latest) (seq : Nat) (op other : Operation) :
    (l.set seq op).get other = if other = op then seq else l.get other := by
  cases op <;> cases other <;> rfl

namespace Ledger

/-- The ticket is as old as the ledger: its number and its epoch have been reached. -/
structure Covers (l : Ledger) (t : Ticket) : Prop where
  seq : t.seq ≤ l.issued
  epoch : t.epoch ≤ l.epoch

/-- The newest request that is no refresh is one of the requests issued so far. -/
def Counted (l : Ledger) : Prop := l.lastChange ≤ l.issued

theorem counted_empty : empty.Counted := Nat.le_refl 0

theorem Counted.issue {l : Ledger} (h : l.Counted) (op : Operation) : (l.issue op).Counted := by
  have before : l.lastChange ≤ l.issued := h
  show (if op = .refresh then l.lastChange else l.issued + 1) ≤ l.issued + 1
  split <;> omega

theorem Counted.invalidateAll {l : Ledger} (h : l.Counted) : l.invalidateAll.Counted := h

theorem covers_nextTicket (l : Ledger) (op : Operation) :
    (l.issue op).Covers (l.nextTicket op) :=
  ⟨Nat.le_refl _, Nat.le_refl _⟩

theorem Covers.issue {l : Ledger} {t : Ticket} (h : l.Covers t) (op : Operation) :
    (l.issue op).Covers t :=
  ⟨Nat.le_succ_of_le h.seq, h.epoch⟩

theorem Covers.invalidateAll {l : Ledger} {t : Ticket} (h : l.Covers t) :
    l.invalidateAll.Covers t :=
  ⟨h.seq, Nat.le_succ_of_le h.epoch⟩

theorem sameEpoch_iff {l : Ledger} {t : Ticket} : l.sameEpoch t = true ↔ t.epoch = l.epoch := by
  rw [sameEpoch, decide_eq_true_iff]

theorem sameEpoch_invalidateAll {l : Ledger} {t : Ticket} (h : l.Covers t) :
    l.invalidateAll.sameEpoch t = false := by
  have old : t.epoch ≤ l.epoch := h.epoch
  have passed : t.epoch ≠ l.epoch + 1 := by omega
  exact decide_eq_false passed

/-- The three tests that a current ticket passes. -/
theorem isCurrent_iff {l : Ledger} {t : Ticket} :
    l.isCurrent t = true ↔
      t.epoch = l.epoch ∧ l.latest.get t.operation = t.seq ∧
        (t.operation = .refresh → l.lastChange < t.seq) := by
  rw [isCurrent, Bool.and_eq_true, Bool.and_eq_true, sameEpoch_iff, decide_eq_true_iff,
    Bool.or_eq_true, decide_eq_true_iff, decide_eq_true_iff, and_assoc, Decidable.imp_iff_not_or]

theorem sameEpoch_of_isCurrent {l : Ledger} {t : Ticket} (current : l.isCurrent t = true) :
    l.sameEpoch t = true :=
  sameEpoch_iff.mpr (isCurrent_iff.mp current).1

/-- A ticket of an earlier epoch is not current. -/
theorem isCurrent_of_old {l : Ledger} {t : Ticket} (old : l.sameEpoch t = false) :
    l.isCurrent t = false := by
  rw [isCurrent, old, Bool.false_and, Bool.false_and]

/-- A ticket is current when it is issued. -/
theorem isCurrent_nextTicket {l : Ledger} (h : l.Counted) (op : Operation) :
    (l.issue op).isCurrent (l.nextTicket op) = true := by
  rw [isCurrent_iff]
  refine ⟨rfl, ?_, ?_⟩
  · show (l.latest.set (l.issued + 1) op).get op = l.issued + 1
    rw [Latest.get_set, if_pos rfl]
  · intro refresh
    have same : op = .refresh := refresh
    show (if op = .refresh then l.lastChange else l.issued + 1) < l.issued + 1
    rw [if_pos same]
    exact Nat.lt_succ_of_le h

/-- A new request ends the tickets of its own kind and those of all refreshes. -/
theorem isCurrent_issue_iff {l : Ledger} {t : Ticket} (h : l.Covers t) (op : Operation) :
    (l.issue op).isCurrent t = true ↔
      l.isCurrent t = true ∧ t.operation ≠ .refresh ∧ t.operation ≠ op := by
  have old : t.seq ≤ l.issued := h.seq
  rw [isCurrent_iff, isCurrent_iff]
  show t.epoch = l.epoch ∧ (l.latest.set (l.issued + 1) op).get t.operation = t.seq ∧
    (t.operation = .refresh → (if op = .refresh then l.lastChange else l.issued + 1) < t.seq) ↔ _
  rw [Latest.get_set]
  constructor
  · rintro ⟨epoch, newest, unchanged⟩
    have other : t.operation ≠ op := by
      intro same
      rw [if_pos same] at newest
      omega
    have noRefresh : t.operation ≠ .refresh := by
      intro refresh
      have lost := unchanged refresh
      rw [if_neg (fun eq => other (refresh.trans eq.symm))] at lost
      omega
    rw [if_neg other] at newest
    exact ⟨⟨epoch, newest, fun refresh => absurd refresh noRefresh⟩, noRefresh, other⟩
  · rintro ⟨⟨epoch, newest, -⟩, noRefresh, other⟩
    rw [if_neg other]
    exact ⟨epoch, newest, fun refresh => absurd refresh noRefresh⟩

/-- A new epoch ends all tickets. -/
theorem isCurrent_invalidateAll {l : Ledger} {t : Ticket} (h : l.Covers t) :
    l.invalidateAll.isCurrent t = false :=
  isCurrent_of_old (sameEpoch_invalidateAll h)

end Ledger

end Dialogue
