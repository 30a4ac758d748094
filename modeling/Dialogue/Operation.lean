/-! # Operations

The four things that can be asked of the remote side. -/

namespace Dialogue

/-- A kind of request. -/
inductive Operation where
  | start
  | refresh
  | answer
  | confirm
  deriving DecidableEq, Repr

/-- The name of an operation. -/
def Operation.label : Operation → String
  | start => "start"
  | refresh => "refresh"
  | answer => "answer"
  | confirm => "confirm"

end Dialogue
