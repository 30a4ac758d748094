import Dialogue.Url.Writer

/-! # Credentials in a URL

A user name and a password that stand in a URL are not part of the address that is asked. -/

namespace Dialogue

/-- A user name and a password. -/
structure Credentials where
  username : String
  password : Option String
  deriving DecidableEq, Repr

namespace Url

/-- The text that a part in percent-encoding stands for, if its bytes are a text. -/
def decoded? (s : List Char) : Option String :=
  String.fromUTF8? ⟨(percentDecode s).toArray⟩

/-- The credentials in a URL, if there are any. -/
def credentials? (u : Url) : Option Credentials := do
  let a ← u.authority
  let username ← decoded? a.username
  let password := a.password.bind decoded?
  if username.isEmpty && password.isNone then none else some ⟨username, password⟩

/-- The URL without a user name and a password. -/
def anonymous (u : Url) : Url :=
  { u with authority := u.authority.map fun a => { a with username := [], password := none } }

end Url

end Dialogue
