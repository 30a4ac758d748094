import Dialogue.Answer

/-! # Calls

What is asked of the remote side: to start the session of a board, and to get, answer or confirm a
session of a board. -/

namespace Dialogue

/-- One call of the remote side. -/
inductive Call where
  | start (boardId : String)
  | get (boardId sessionId : String)
  | answer (boardId sessionId : String) (answer : Answer)
  | confirm (boardId sessionId : String)
  deriving DecidableEq, Repr

namespace Call

/-- The operation that a call belongs to. -/
def operation : Call → Operation
  | start _ => .start
  | get .. => .refresh
  | answer .. => .answer
  | confirm .. => .confirm

/-- The board that a call is about. -/
def boardId : Call → String
  | start b => b
  | get b _ => b
  | answer b _ _ => b
  | confirm b _ => b

/-- The session that a call is about. -/
def sessionId? : Call → Option String
  | start _ => none
  | get _ s => some s
  | answer _ s _ => some s
  | confirm _ s => some s

end Call

end Dialogue
