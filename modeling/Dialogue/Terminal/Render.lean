import Dialogue.View

/-! # Showing a conversation

What is printed when the view of a conversation changes. Prompts go to standard output, everything
else to standard error. Only what differs from the view that was shown before is printed. -/

namespace Dialogue.Terminal

/-- Where a line is printed. -/
inductive Stream where
  | out
  | err
  deriving DecidableEq, Repr

/-- A line and where it is printed. The text may itself begin with an empty line. -/
structure Output where
  stream : Stream
  text : String
  deriving DecidableEq, Repr

/-- A line on standard output. -/
def out (text : String) : Output := ⟨.out, text⟩

/-- A line on standard error. -/
def err (text : String) : Output := ⟨.err, text⟩

/-- The options with their numbers, counted from `n`. -/
def numbered : Nat → List String → List Output
  | _, [] => []
  | n, label :: rest => out ("  " ++ toString n ++ ". " ++ label) :: numbered (n + 1) rest

/-- A prompt: its text and its options. -/
def showPrompt (p : Prompt) : List Output := out ("\n" ++ p.text) :: numbered 1 p.options

/-- A draft goal, and how to confirm it. -/
def showGoal (g : DraftGoal) : List Output :=
  out "\nDraft goal:" :: (g.objective.map fun o => out ("  Objective: " ++ o)).toList ++
    (g.targetDate.map fun d => out ("  Target date: " ++ d)).toList ++
    [out "Type /confirm to accept."]

/-- What the user is asked: the prompt and the draft goal. -/
def promptBlock (v : View) : List Output :=
  (v.prompt.map showPrompt).getD [] ++ (v.draftGoal.map showGoal).getD []

/-- The errors that are new. -/
def showErrors (v : View) (previous : Option View) : List Output :=
  let surfaced := match v.error with
    | some e =>
      if previous.any fun p => p.error = some e then []
      else [err ("❌ " ++ e.message ++ " (type /retry)")]
    | none => []
  let reconnecting :=
    if v.reconnecting && !(previous.any (·.reconnecting)) then [err "… reconnecting"] else []
  surfaced ++ reconnecting

/-- Everything that is printed for a view after the one that was shown before. -/
def render (v : View) (previous : Option View) : List Output :=
  let phaseChanged := !(previous.any fun p => p.phase = v.phase)
  let promptChanged := !(previous.any fun p => p.prompt = v.prompt)
  let body := match v.phase with
    | .awaitingUserAnswer => if phaseChanged || promptChanged then promptBlock v else []
    | .awaitingAssistant => if phaseChanged then [err "… waiting for the assistant"] else []
    | .starting => if phaseChanged then [err "… starting onboarding"] else []
    | _ => []
  showErrors v previous ++ body

/-- Everything that is printed when a view has been published after the one that was shown before.
The same view is not shown again. -/
def renderNext (v : View) (previous : Option View) : List Output :=
  if previous = some v then [] else render v previous

end Dialogue.Terminal
