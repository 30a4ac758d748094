import Dialogue.Terminal.Launch
import Dialogue.Terminal.Input

/-! # The program

The program holds one conversation. It reads a line when the one before it is done with, sends the
requests of the conversation, and lets the timer tick meanwhile. It ends when the user quits or
when the goal is confirmed. What it does to the outside is returned as effects. -/

namespace Dialogue.Terminal

/-- What the program does to the outside. -/
inductive Effect where
  | print (output : Output)
  | send (request : Request)
  deriving DecidableEq, Repr

/-- What the program waits for before it reads the next line: the request of the opening, or that
of a line. -/
structure Awaited where
  seq : Nat
  opening : Bool
  deriving DecidableEq, Repr

/-- The program. -/
structure Program where
  conversation : Conversation
  awaited : Option Awaited
  isOver : Bool
  deriving DecidableEq, Repr

namespace Program

/-- The program before its conversation is opened. -/
def initial (l : Launch) : Program :=
  ⟨.initial l.boardId l.interval (.start .alwaysActive true), none, false⟩

/-- Whether the program reads a line next. -/
def reads (p : Program) : Bool := p.awaited.isNone && !p.isOver

/-- A line is done with: a failure is told, and a confirmation ends the program. -/
def conclude (result : Except ActionError Unit) (p : Program) : Program × List Effect :=
  let notices := match result with
    | .ok () => []
    | .error e => [.print (notice e)]
  if 0 < p.conversation.told && !p.isOver then
    ({ p with awaited := none, isOver := true }, notices ++ [.print farewell])
  else ({ p with awaited := none }, notices)

/-- Goes on with an action that has reached its first request or its end. -/
def proceed (opening : Bool) (done : Conversation × Outcome) (p : Program) :
    Program × List Effect :=
  let p : Program := { p with conversation := done.1 }
  match done.2 with
  | .waiting request =>
    ({ p with awaited := some ⟨request.ticket.seq, opening⟩ }, [.send request])
  | .ended result => if opening then ({ p with awaited := none }, []) else p.conclude result
  | .goesOn => (p, [])

/-- Opens the conversation. A failure is not told, as the user can retry. -/
def opened (now : Nat) (p : Program) : Program × List Effect :=
  p.proceed true (p.conversation.act now .start)

/-- Reads a line. Blanks around it do not count, nor does a blank line. -/
def readLine (now : Nat) (line : String) (p : Program) : Program × List Effect :=
  let line := Text.trimmed line
  if line.isEmpty then (p, [])
  else
    let (p, effects) := p.proceed false (handle now line p.conversation)
    ({ p with isOver := p.isOver || line = "/quit" }, effects)

/-- Takes the reply to a request. -/
def takeReply (now seq : Nat) (reply : Reply) (p : Program) : Program × List Effect :=
  let done := p.conversation.reply now seq reply
  match p.awaited with
  | some a =>
    if a.seq = seq then p.proceed a.opening done else ({ p with conversation := done.1 }, [])
  | none => ({ p with conversation := done.1 }, [])

/-- Makes the tick of the timer that is due, if there is one. -/
def tick (now : Nat) (p : Program) : Program × List Effect :=
  match p.conversation.timer.fire now with
  | none => (p, [])
  | some (arming, _) =>
    let (c, outcome) := (p.conversation.tick now).1.poll now arming.id
    ({ p with conversation := c },
      match outcome with
      | .waiting request => [.send request]
      | _ => [])

end Program

end Dialogue.Terminal
