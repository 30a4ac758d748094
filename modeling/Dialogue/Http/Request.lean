import Dialogue.Url.Credentials
import Dialogue.Call
import Dialogue.Settings
import Dialogue.Json.Writer
import Dialogue.Text.Base64

/-! # Requests to the service

The service is reached over HTTP. The ids of the board and of the session are part of the address,
as they are; the address is then read as a URL. A token goes along with every request, and so do
credentials in the URL. Encrypted connections are not offered, so a request for one is never
answered. -/

namespace Dialogue

namespace Call

/-- The method of a call. -/
def method : Call → String
  | get .. => "GET"
  | _ => "POST"

/-- What follows the address of a board's conversation. -/
def tail : Call → String
  | start _ => "/start"
  | get _ s => "/" ++ s
  | answer _ s _ => "/" ++ s ++ "/answer"
  | confirm _ s => "/" ++ s ++ "/confirm"

/-- The address of a call. Slashes at the end of the base do not count. -/
def address (baseUrl : String) (call : Call) : String :=
  let base := String.ofList ((baseUrl.toList.reverse.dropWhile (· == '/')).reverse)
  base ++ "/api/v1/boards/" ++ call.boardId ++ "/onboarding" ++ call.tail

/-- The body of a call. -/
def body? : Call → Option Json.Value
  | answer _ _ a => some a.body.toJson
  | _ => none

end Call

/-- A request as it is sent. -/
structure HttpRequest where
  method : String
  url : Url
  authorization : List String
  contentType : Option String
  body : String
  deriving DecidableEq, Repr

namespace HttpRequest

/-- Whether a character may stand in a header. -/
def isHeaderChar (c : Char) : Bool := c = '\t' || 0x20 ≤ c.toNat && c.toNat ≠ 0x7F

/-- The header that carries a token. -/
def bearer? (token : String) : Option String :=
  if token.toList.all isHeaderChar then some ("Bearer " ++ token) else none

/-- The header that carries credentials. -/
def basic (c : Credentials) : String :=
  let text := c.username ++ ":" ++ c.password.getD ""
  "Basic " ++ String.ofList (Text.base64 (Text.encode text.toList))

/-- Whether a character may stand in the host that a request is sent to. The name of a host may hold
a few more. -/
def isHostChar (c : Char) : Bool := ['"', '\x60', '\x7b', '\x7d'].all (c ≠ ·)

/-- The number of characters that the address of a request may have. -/
def addressLimit : Nat := 65534

/-- Whether a request can be sent to a URL. -/
def isAskable (url : Url) : Bool :=
  url.isHttp && url.authority.all (·.host.all isHostChar) && url.write.length ≤ addressLimit

/-- The failure of a request that could not be put together. -/
def unbuildable : ServiceError := .network "builder error"

/-- The failure of a request to a URL that cannot be asked. -/
def unusable (url : Url) : ServiceError := .network ("builder error for url (" ++ url.text ++ ")")

/-- The failure of a request that was not answered. -/
def unanswered (url : Url) : ServiceError :=
  .network ("error sending request for url (" ++ url.text ++ ")")

/-- Puts a request to a URL together. -/
def make (url : Url) (authorization : List String) (call : Call) :
    Except ServiceError HttpRequest :=
  if !isAskable url then .error (unusable url)
  else if url.isEncrypted then .error (unanswered url)
  else
    let body := call.body?
    .ok {
      method := call.method
      url
      authorization
      contentType := body.map fun _ => "application/json"
      body := (body.map Json.Value.text).getD "" }

/-- The request that makes a call. -/
def of (settings : ServiceSettings) (call : Call) : Except ServiceError HttpRequest :=
  match Url.parse? (call.address settings.baseUrl).toList with
  | none => .error unbuildable
  | some url =>
    if !url.hasHost then .error (unusable url)
    else
      let (target, credentials) := match url.credentials? with
        | some c => (url.anonymous, [basic c])
        | none => (url, [])
      match settings.token.map bearer? with
      | some none => .error unbuildable
      | some (some bearer) => make target (credentials ++ [bearer]) call
      | none => make target credentials call

end HttpRequest

end Dialogue
