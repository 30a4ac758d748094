import Dialogue.Settings
import Dialogue.Terminal.Render

/-! # Launching the program

The program is launched with the id of a board, as its first argument or in the environment, and
with settings from the environment. When one of them is of no use it ends with a report of the
failure and what is behind it. -/

namespace Dialogue.Terminal

/-- What the program needs to start. -/
structure Launch where
  boardId : String
  settings : ServiceSettings
  interval : Period

/-- Why the program cannot start. -/
inductive LaunchError where
  | noBoard
  | service (error : Failure)
  | settings (error : SettingsError)
  deriving DecidableEq, Repr

/-- The report of a failure, with what is behind it. -/
def LaunchError.report : LaunchError → String
  | noBoard => "Error: usage: board-onboarding <board-id> (or set ONBOARDING_BOARD_ID)"
  | service error => "Error: " ++ error.message ++ "\n\nCaused by:\n    " ++ error.cause
  | settings error => "Error: " ++ error.message

/-- The id of the board. -/
def boardId? (arguments : List String) (env : Environment) : Option String :=
  arguments.head?.or (env "ONBOARDING_BOARD_ID")

/-- Collects what the program needs. -/
def launch (arguments : List String) (env : Environment) : Except LaunchError Launch := do
  let boardId ← match boardId? arguments env with
    | some b => .ok b
    | none => .error .noBoard
  let settings ← match ServiceSettings.ofEnvironment env with
    | .ok s => .ok s
    | .error e => .error (.service (.settings e))
  let interval ← match intervalOf env with
    | .ok p => .ok p
    | .error e => .error (.settings e)
  .ok ⟨boardId, settings, interval⟩

/-- A fraction of so many places, without the zeros at its end. -/
def fraction (places n : Nat) : List Char :=
  ((Text.padded places n).reverse.dropWhile (· == '0')).reverse

/-- A time in milliseconds, as it is shown: in seconds when it is at least one. -/
def shownTime (ms : Nat) : String :=
  if ms < 1000 then toString ms ++ "ms"
  else
    let rest := fraction 3 (ms % 1000)
    toString (ms / 1000) ++ String.ofList (if rest = [] then [] else '.' :: rest) ++ "s"

/-- What is printed when the program starts. -/
def banner (l : Launch) : List Output :=
  [err "📋 Board onboarding v0.1.0",
    err ("   API: " ++ l.settings.baseUrl),
    err ("   Board: " ++ l.boardId),
    err ("   Poll interval: " ++ shownTime l.interval.ms),
    err "   Pick an option by number, or type an answer.",
    err "   /confirm to accept the draft goal, /retry after an error, /quit to exit.\n"]

/-- What is printed when a line has failed. -/
def notice (error : ActionError) : Output :=
  err ("⚠️  " ++ error.message ++ if error.isRetryable then " (type /retry)" else "")

/-- What is printed when the goal is confirmed. -/
def farewell : Output := err "\n✅ Board goal confirmed."

end Dialogue.Terminal
