import Dialogue.Url.Basic
import Dialogue.Url.Host

/-! # The host and what surrounds it

A user name, a password and a port may surround the host of a URL. -/

namespace Dialogue.Url

/-- The text before the last `@` and after it, if there is one. -/
def cutUser? (s : List Char) : Option (List Char × List Char) :=
  match Text.breakAt (· == '@') s.reverse with
  | (after, _ :: before) => some (before.reverse, after.reverse)
  | (_, []) => none

/-- The text of a host and the text after it. A colon inside brackets does not end a host. -/
def breakHost : Bool → List Char → List Char × List Char
  | _, [] => ([], [])
  | inside, c :: rest =>
    if c = ':' ∧ !inside then ([], c :: rest)
    else
      let inside := if c = '[' then true else if c = ']' then false else inside
      let (host, after) := breakHost inside rest
      (c :: host, after)

/-- Reads a port, and returns the text after it, which begins with a backslash if there is any. The
port of the scheme itself is left out. -/
def port? (scheme : List Char) : List Char → Option (Option Nat × List Char)
  | ':' :: s =>
    let (digits, rest) := Text.breakAt (!Text.isDigit ·) s
    let n := Text.valueOf digits
    if 65535 < n || rest.head?.any (· ≠ '\\') then none
    else some (if digits = [] || defaultPort? scheme = some n then none else some n, rest)
  | [] => some (none, [])
  | _ => none

/-- Reads a user name and a password. An empty password is none. -/
def readUser (s : List Char) : List Char × Option (List Char) :=
  let (username, password) := match Text.cutAt? ':' s with
    | some (name, password) => (name, if password = [] then none else some password)
    | none => (s, none)
  (percentEncode userSet username, password.map (percentEncode userSet))

/-- Reads the part of a URL that names a host, and returns the text after the port. Only a host
that need not be there may be missing, and then nothing else may surround it but a colon for an
empty user name and an empty password. -/
def authority? (scheme : List Char) (special : Bool) (s : List Char) :
    Option (Authority × List Char) := do
  let (user, s) := match cutUser? s with
    | some (user, s) => (some user, s)
    | none => (none, s)
  let (host, port) := breakHost false s
  if host = [] && (special || port ≠ [] || user.any (· ≠ [':'])) then none
  let host ← if special then specialHost? host else otherHost? host
  let (port, rest) ← port? scheme port
  let (username, password) := readUser (user.getD [])
  some (⟨username, password, host, port⟩, rest)

end Dialogue.Url
