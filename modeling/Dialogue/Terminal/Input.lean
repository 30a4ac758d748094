import Dialogue.Conversation.Run
import Dialogue.Text.Numeral

/-! # Typed lines

What a line that the user types means: one of the commands, the number of an option that is shown,
or else a text to answer with. -/

namespace Dialogue.Terminal

/-- The meaning of a line. -/
inductive Line where
  | quit
  | confirm
  | retry
  | refresh
  | choose (label : String)
  | text (text : String)
  deriving DecidableEq, Repr

/-- The option of a number, counted from one. -/
def optionAt? (options : List String) (line : String) : Option String :=
  match Text.readNumeral Text.maxWord line.toList with
  | .ok (n + 1) => options[n]?
  | _ => none

/-- The meaning of a line when the given options are shown. -/
def Line.of (options : List String) (line : String) : Line :=
  if line = "/quit" then quit
  else if line = "/confirm" then confirm
  else if line = "/retry" then retry
  else if line = "/refresh" then refresh
  else match optionAt? options line with
    | some label => choose label
    | none => text line

/-- The options that are shown. -/
def shownOptions (v : View) : List String := (v.prompt.map Prompt.options).getD []

/-- Highlights an option, and submits it if that is possible. -/
def choose (now : Nat) (label : String) (c : Conversation) : Conversation × Outcome :=
  match c.act now (.select label) with
  | (c, .ended (.ok ())) => c.act now .submitSelection
  | done => done

/-- Carries out a line, up to its first request or to its end. -/
def handle (now : Nat) (line : String) (c : Conversation) : Conversation × Outcome :=
  match Line.of (shownOptions c.view) line with
  | .quit => (c, .ended (.ok ()))
  | .confirm => c.act now .confirm
  | .retry => c.act now .retry
  | .refresh => c.act now .refresh
  | .choose label => choose now label c
  | .text text => c.act now (.submitText text)

end Dialogue.Terminal
