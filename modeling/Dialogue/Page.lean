/-! # The page

Whether the page that shows a conversation is visible. A page may always be visible, or tell of
its changes, or only answer when it is asked. -/

namespace Dialogue

/-- Whether a page is visible, and how often that has changed. -/
structure Visibility where
  active : Bool
  changes : Nat
  deriving DecidableEq, Repr

/-- A page that has just been opened. -/
def Visibility.start (active : Bool) : Visibility := ⟨active, 0⟩

/-- Shows or hides the page. Setting what is so already is no change. -/
def Visibility.set (v : Visibility) (active : Bool) : Visibility :=
  if v.active = active then v else ⟨active, v.changes + 1⟩

/-- How much of the changes an observer has seen. -/
structure Subscription where
  seen : Nat
  deriving DecidableEq, Repr

/-- A new observer, for whom everything so far is old. -/
def Visibility.subscribe (v : Visibility) : Subscription := ⟨v.changes⟩

/-- Whether there is a change that the observer has not seen. -/
def Subscription.hasNews (s : Subscription) (v : Visibility) : Bool := s.seen ≠ v.changes

/-- How a page tells of its visibility. -/
inductive PageKind where
  | alwaysActive
  | pushing
  | queried
  deriving DecidableEq, Repr

/-- A page, with what the conversation has seen of its changes. -/
structure Page where
  kind : PageKind
  visibility : Visibility
  watched : Subscription
  deriving DecidableEq, Repr

namespace Page

/-- A page that has just been opened. -/
def start (kind : PageKind) (active : Bool) : Page :=
  ⟨kind, .start active, (Visibility.start active).subscribe⟩

/-- Whether the page is visible now. -/
def isActive (p : Page) : Bool := p.kind = .alwaysActive || p.visibility.active

/-- Whether the page has told of a change that has not been attended to. -/
def hasNews (p : Page) : Bool := p.kind = .pushing && p.watched.hasNews p.visibility

/-- Shows or hides the page. -/
def set (p : Page) (active : Bool) : Page := { p with visibility := p.visibility.set active }

/-- Attends to the changes so far. -/
def see (p : Page) : Page := { p with watched := p.visibility.subscribe }

end Page

end Dialogue
