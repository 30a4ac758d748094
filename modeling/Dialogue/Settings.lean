import Dialogue.Failure
import Dialogue.Text.Numeral
import Dialogue.Timer.Basic

/-! # Settings

The settings are read from environment variables. A number must be positive, and may have blanks
around it. A variable that is not text counts as one that is not set. -/

namespace Dialogue

/-- The value of each environment variable that is set. -/
abbrev Environment := String → Option String

/-- How the remote side is reached. -/
structure ServiceSettings where
  baseUrl : String
  token : Option String
  timeoutMs : Nat
  deriving DecidableEq, Repr

/-- How long to wait between polls, unless something else is set. -/
def defaultInterval : Period := ⟨2000, by decide⟩

/-- How long to wait for an answer, unless something else is set. -/
def defaultTimeoutMs : Nat := 15000

/-- Reads a positive number. -/
def positive (key raw : String) : Except SettingsError { n : Nat // 0 < n } :=
  match Text.readNumeral Text.maxWord (Text.trim raw.toList) with
  | .error e => .error (.invalid key e.message)
  | .ok n =>
    if h : 0 < n then .ok ⟨n, h⟩ else .error (.invalid key "must be greater than zero")

/-- The interval between polls. -/
def intervalOf (env : Environment) : Except SettingsError Period :=
  let key := "ONBOARDING_POLL_INTERVAL_MS"
  match env key with
  | none => .ok defaultInterval
  | some raw => (positive key raw).map fun n => ⟨n.1, n.2⟩

namespace ServiceSettings

/-- Settings with nothing but a base URL. -/
def ofUrl (baseUrl : String) : ServiceSettings := ⟨baseUrl, none, defaultTimeoutMs⟩

/-- The base URL, which must be one of HTTP. -/
def baseUrlOf (env : Environment) : Except SettingsError String :=
  let key := "ONBOARDING_API_URL"
  match env key with
  | none => .error (.missing key)
  | some url =>
    if url.startsWith "http://" || url.startsWith "https://" then .ok url
    else .error (.invalid key ("expected an http(s) URL, got " ++ Text.quoted url))

/-- The time to wait for an answer, which is set in seconds. -/
def timeoutOf (env : Environment) : Except SettingsError Nat :=
  let key := "ONBOARDING_HTTP_TIMEOUT_SECS"
  match env key with
  | none => .ok defaultTimeoutMs
  | some raw => (positive key raw).map fun n => n.1 * 1000

/-- The settings of the remote side. A blank token is none. -/
def ofEnvironment (env : Environment) : Except SettingsError ServiceSettings := do
  let baseUrl ← baseUrlOf env
  let timeoutMs ← timeoutOf env
  .ok ⟨baseUrl, (env "ONBOARDING_API_TOKEN").filter (!Text.allBlank ·), timeoutMs⟩

end ServiceSettings

end Dialogue
