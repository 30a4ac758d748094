import Dialogue.Http.Request
import Dialogue.Http.ContentType
import Dialogue.Json.Reader
import Dialogue.Conversation.Replies

/-! # Responses of the service

What comes back from a request, and the session that it holds. The body is read as text, whatever
its bytes are, in the character set that it is said to be in. An answer that is not a success is
reported with the beginning of its body. -/

namespace Dialogue

/-- What comes back from a request: nothing, or a response whose body may be cut short. -/
inductive HttpResponse where
  | lost
  | received (status : Nat) (contentType : String) (body : List UInt8) (complete : Bool)
  deriving DecidableEq, Repr

namespace HttpResponse

/-- The responses that have no body, whatever follows them. -/
def isBodiless (status : Nat) : Bool := status = 101 || status = 204 || status = 304

/-- Whether a status can be that of a response. The other codes below 200 only announce one. -/
def isStatus (status : Nat) : Bool := status = 101 || 200 ≤ status && status ≤ 999

/-- Whether a status is one of success. -/
def isSuccess (status : Nat) : Bool := 200 ≤ status && status < 300

/-- The number of bytes of a body that an error shows. -/
def shownBytes : Nat := 512

/-- Reads the session that a body holds. -/
def readSession (body : List Char) : Reply :=
  match Json.parse (String.ofList body) with
  | .error e => .error (.malformed e.message)
  | .ok v => Session.ofJson v

/-- Reads a body that came with a status. -/
def readBody (status : Nat) (body : List Char) : Reply :=
  if isSuccess status then readSession body
  else .error (.status status (Text.shortened shownBytes (String.ofList body)))

/-- What a response to a request means. -/
def read (request : HttpRequest) : HttpResponse → Reply
  | lost => .error (HttpRequest.unanswered request.url)
  | received status contentType body complete =>
    if !isStatus status then .error (HttpRequest.unanswered request.url)
    else if isBodiless status then readBody status []
    else if !complete then
      .error (.network "Failed to read response body: error decoding response body")
    else readBody status ((ContentType.charset contentType).read body)

end HttpResponse

end Dialogue
