import Dialogue.Url.Reader

/-! # Writing a URL

The text of a URL, and the target that a request to it names. -/

namespace Dialogue.Url

/-- A part with the mark before it, if it is there. -/
def marked (mark : Char) : Option (List Char) → List Char
  | some s => mark :: s
  | none => []

/-- The user name and the password, with the mark after them. -/
def Authority.user (a : Authority) : List Char :=
  if a.username = [] && a.password = none then []
  else a.username ++ marked ':' a.password ++ ['@']

/-- The host and what surrounds it. -/
def writeAuthority : Option Authority → List Char
  | none => []
  | some a => '/' :: '/' :: Authority.user a ++ a.host ++ marked ':' (a.port.map Text.decimal)

/-- The path. -/
def writePath : UrlPath → List Char
  | .bare text => text
  | .segments parts => parts.flatMap ('/' :: ·)

/-- What stands between a scheme and a path that would seem to begin with a host. -/
def guard (u : Url) : List Char :=
  match u.authority, u.path with
  | none, .segments ([] :: _ :: _) => ['/', '.']
  | _, _ => []

/-- The whole URL. -/
def write (u : Url) : List Char :=
  u.scheme ++ ':' :: writeAuthority u.authority ++ u.guard ++ writePath u.path ++
    marked '?' u.query ++ marked '#' u.fragment

/-- The text of a URL. -/
def text (u : Url) : String := String.ofList u.write

/-- The target that a request names: the path and the query. -/
def target (u : Url) : String := String.ofList (writePath u.path ++ marked '?' u.query)

/-- Whether the URL names a host. -/
def hasHost (u : Url) : Bool := u.authority.any (·.host ≠ [])

/-- Whether the URL is one of HTTP, encrypted or not. -/
def isHttp (u : Url) : Bool := ["http", "https"].contains (String.ofList u.scheme)

/-- Whether the URL asks for an encrypted connection. -/
def isEncrypted (u : Url) : Bool := u.scheme = "https".toList

end Dialogue.Url
