import Dialogue.Terminal.Program
import Dialogue.Http.Response

/-! # Visits

One use of the program from its launch to its end, with the lines that are typed and the responses
that the service gives in order. Every request is answered before the next line is read. -/

namespace Dialogue.Terminal

/-- A visit so far: the program, the responses that are left, the requests that were sent and what
was printed. -/
structure Visit where
  settings : ServiceSettings
  program : Program
  responses : List HttpResponse
  requests : List HttpRequest
  printed : List Output

namespace Visit

/-- The response when there are no more. -/
def exhausted : HttpResponse := .received 503 "" "no scripted response".toUTF8.toList true

/-- Sends the request of a call and reads its response. -/
def ask (call : Call) (v : Visit) : Reply × Visit :=
  match HttpRequest.of v.settings call with
  | .error e => (.error e, v)
  | .ok request =>
    (HttpResponse.read request (v.responses.head?.getD exhausted),
      { v with responses := v.responses.drop 1, requests := v.requests ++ [request] })

/-- Prints what there is to print, and returns the request that was sent, if one was. -/
def print (effects : List Effect) (v : Visit) : Option Request × Visit :=
  effects.foldl (fun (sent, v) effect =>
    match effect with
    | .print o => (sent, { v with printed := v.printed ++ [o] })
    | .send request => (some request, v)) (none, v)

/-- Goes on with the program until it has nothing more to send. The reply to a request sends
nothing, so one request is all there is. -/
def goOn (next : Program × List Effect) (v : Visit) : Visit :=
  let (sent, v) := { v with program := next.1 }.print next.2
  match sent with
  | none => v
  | some request =>
    let (reply, v) := v.ask request.call
    let (program, effects) := v.program.takeReply 0 request.ticket.seq reply
    ({ v with program }.print effects).2

/-- Reads lines as long as the program does. -/
def readLines (v : Visit) : List String → Visit
  | [] => v
  | line :: rest =>
    if v.program.reads then (v.goOn (v.program.readLine 0 line)).readLines rest else v

end Visit

/-- A whole visit. Either it cannot start, or it is what it was in the end. -/
def visit (arguments : List String) (env : Environment) (responses : List HttpResponse)
    (lines : List String) : Except LaunchError Visit := do
  let l ← launch arguments env
  let v : Visit := ⟨l.settings, .initial l, responses, [], banner l⟩
  .ok ((v.goOn (v.program.opened 0)).readLines lines)

end Dialogue.Terminal
