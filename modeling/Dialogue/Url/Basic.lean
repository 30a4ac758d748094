import Dialogue.Text.Digit
import Dialogue.Text.Split

/-! # The parts of a URL

The special schemes, those of the web and a few others, read a backslash as a slash. All of them but
that of files need a host, and have a port of their own. -/

namespace Dialogue

/-- The part of a URL that names a host. -/
structure Authority where
  username : List Char
  password : Option (List Char)
  host : List Char
  port : Option Nat
  deriving DecidableEq, Repr

/-- The path of a URL: a text, or the segments after each slash. -/
inductive UrlPath where
  | bare (text : List Char)
  | segments (parts : List (List Char))
  deriving DecidableEq, Repr

/-- An absolute URL. -/
structure Url where
  scheme : List Char
  authority : Option Authority
  path : UrlPath
  query : Option (List Char)
  fragment : Option (List Char)
  deriving DecidableEq, Repr

namespace Url

/-- The special schemes that need a host, with their ports. -/
def ports : List (String × Nat) :=
  [("http", 80), ("https", 443), ("ws", 80), ("wss", 443), ("ftp", 21)]

/-- The port of a scheme. -/
def defaultPort? (scheme : List Char) : Option Nat := ports.lookup (String.ofList scheme)

/-- Whether a character separates the segments of a path. -/
def isSlash (special : Bool) (c : Char) : Bool := c = '/' || special && c = '\\'

end Url

end Dialogue
