import Dialogue.Operation

/-! # The request ledger

Every request takes a ticket. When its reply arrives, the ledger tells whether it may still be
applied: the newest request of a kind wins, a refresh also loses to any other request made after
it, and a new epoch turns down everything issued before it. -/

namespace Dialogue

/-- The mark of one request. -/
structure Ticket where
  operation : Operation
  seq : Nat
  epoch : Nat
  deriving DecidableEq, Repr

/-- The number of the newest request of each kind. -/
structure Latest where
  start : Nat
  refresh : Nat
  answer : Nat
  confirm : Nat
  deriving DecidableEq, Repr

/-- The number of the newest request of a kind. -/
def Latest.get (l : Latest) : Operation → Nat
  | .start => l.start
  | .refresh => l.refresh
  | .answer => l.answer
  | .confirm => l.confirm

/-- Notes a new request of a kind. -/
def Latest.set (l : Latest) (seq : Nat) : Operation → Latest
  | .start => { l with start := seq }
  | .refresh => { l with refresh := seq }
  | .answer => { l with answer := seq }
  | .confirm => { l with confirm := seq }

/-- What is known of the requests made so far. `lastChange` is the number of the newest request
that is no refresh. -/
structure Ledger where
  issued : Nat
  epoch : Nat
  latest : Latest
  lastChange : Nat
  deriving DecidableEq, Repr

namespace Ledger

/-- A ledger without requests. -/
def empty : Ledger := ⟨0, 0, ⟨0, 0, 0, 0⟩, 0⟩

/-- The ticket of the next request. -/
def nextTicket (l : Ledger) (op : Operation) : Ticket := ⟨op, l.issued + 1, l.epoch⟩

/-- Notes a new request, whose ticket is `nextTicket`. -/
def issue (l : Ledger) (op : Operation) : Ledger where
  issued := l.issued + 1
  epoch := l.epoch
  latest := l.latest.set (l.issued + 1) op
  lastChange := if op = .refresh then l.lastChange else l.issued + 1

/-- Whether the ticket was issued in the present epoch. -/
def sameEpoch (l : Ledger) (t : Ticket) : Bool := t.epoch = l.epoch

/-- Whether a reply to the ticket's request may still be applied. -/
def isCurrent (l : Ledger) (t : Ticket) : Bool :=
  l.sameEpoch t && l.latest.get t.operation = t.seq &&
    (t.operation ≠ .refresh || l.lastChange < t.seq)

/-- Starts a new epoch. -/
def invalidateAll (l : Ledger) : Ledger := { l with epoch := l.epoch + 1 }

end Ledger

end Dialogue
