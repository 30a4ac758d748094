import Dialogue.Operation
import Dialogue.Phase
import Dialogue.Session.Decode

/-! # Failures

What can go wrong: in the settings, at the remote side, and in an action of the user. An action
fails either because a request did, and then it can be retried, or because it is not possible
now. -/

namespace Dialogue

/-- Why a request failed: nothing usable came back, or the answer was an error, or it was no
session. -/
inductive ServiceError where
  | network (reason : String)
  | status (code : Nat) (body : String)
  | malformed (reason : String)
  deriving DecidableEq, Repr

namespace ServiceError

/-- The wording of a failed request. -/
def message : ServiceError → String
  | network reason => "Request failed: " ++ reason
  | status code body => "Server returned " ++ toString code ++ ": " ++ body
  | malformed reason => "Malformed session payload: " ++ reason

/-- Whether something came back that was no session. -/
def isMalformed : ServiceError → Bool
  | malformed _ => true
  | _ => false

end ServiceError

/-- Reads a session that came back from a request. -/
def Session.ofJson (v : Json.Value) : Except ServiceError Session :=
  match decode v with
  | .ok s => .ok s
  | .error fault => .error (.malformed fault.message)

/-- Why an action failed. -/
inductive ActionError where
  | network (operation : Operation) (reason : String)
  | malformedResponse (operation : Operation) (reason : String)
  | invalidInput (reason : String)
  | duplicateSubmission
  | notAllowed (action : String) (phase : Phase)
  | shutDown
  deriving DecidableEq, Repr

namespace ActionError

/-- The wording of a failed action. -/
def message : ActionError → String
  | network operation reason => operation.label ++ " failed: " ++ reason
  | malformedResponse operation reason =>
    operation.label ++ " returned a malformed session: " ++ reason
  | invalidInput reason => "Invalid input: " ++ reason
  | duplicateSubmission => "An answer is already being submitted"
  | notAllowed action phase => "Cannot " ++ action ++ " while " ++ phase.label
  | shutDown => "Controller has been shut down"

/-- The failure of the action whose request failed. -/
def ofService (operation : Operation) (error : ServiceError) : ActionError :=
  if error.isMalformed then malformedResponse operation error.message
  else network operation error.message

/-- Whether a retry can help. -/
def isRetryable : ActionError → Bool
  | network .. => true
  | malformedResponse .. => true
  | _ => false

end ActionError

/-- Why the settings are of no use. -/
inductive SettingsError where
  | missing (name : String)
  | invalid (key : String) (reason : String)
  deriving DecidableEq, Repr

/-- The wording of a fault in the settings. -/
def SettingsError.message : SettingsError → String
  | missing name => "Missing required environment variable: " ++ name
  | invalid key reason => "Invalid configuration value for " ++ key ++ ": " ++ reason

/-- Anything that can go wrong. -/
inductive Failure where
  | settings (error : SettingsError)
  | service (error : ServiceError)
  | action (error : ActionError)
  deriving DecidableEq, Repr

namespace Failure

/-- The wording of a failure. -/
def message : Failure → String
  | settings error => "Configuration error: " ++ error.message
  | service error => "API error: " ++ error.message
  | action error => "Onboarding error: " ++ error.message

/-- The wording of what is behind a failure. -/
def cause : Failure → String
  | settings error => error.message
  | service error => error.message
  | action error => error.message

end Failure

end Dialogue
