import Dialogue.Conversation.Replies

/-! # Scripts

A script plays the remote side: for each operation a queue of replies, which are given in order. A
reply may be held back until its hold is released, and take some time after that. -/

namespace Dialogue

/-- A reply of a script. -/
structure ScriptedReply where
  hold : Option String
  delay : Nat
  reply : Reply

/-- The replies that are left, by operation. -/
structure Script where
  start : List ScriptedReply
  refresh : List ScriptedReply
  answer : List ScriptedReply
  confirm : List ScriptedReply

namespace Script

/-- The reply when a queue has run out. -/
def exhausted : ScriptedReply := ⟨none, 0, .error (.network "no scripted response")⟩

/-- The next reply of a queue, and what is left of it. -/
def pop : List ScriptedReply → ScriptedReply × List ScriptedReply
  | [] => (exhausted, [])
  | r :: rest => (r, rest)

/-- The next reply to an operation, and the script without it. -/
def take (s : Script) : Operation → ScriptedReply × Script
  | .start => let (r, rest) := pop s.start; (r, { s with start := rest })
  | .refresh => let (r, rest) := pop s.refresh; (r, { s with refresh := rest })
  | .answer => let (r, rest) := pop s.answer; (r, { s with answer := rest })
  | .confirm => let (r, rest) := pop s.confirm; (r, { s with confirm := rest })

end Script

end Dialogue
