import Dialogue.Terminal.Program
import Dialogue.Http.Wire
import Std.Internal.UV.DNS
import Std.Internal.UV.TCP
import Std.Internal.UV.Timer

/-! # The command line

The outer layer of the program: it reads lines, sends requests over the network, waits for the
timer and prints. What happens when is decided by `Program`. -/

namespace Dialogue.Terminal

open Std.Internal.UV Std.Net

/-- Something that the outside tells the program. -/
inductive Message where
  | line (text : Option String)
  | reply (seq : Nat) (reply : Reply)
  | wake

/-- What the program waits for: the replies to its requests, the time of the next tick, and a
line. -/
structure Pending where
  replies : List (Nat × Task Message)
  wake : Option (Nat × Task Message)
  line : Option (Task Message)

/-- Everything that is waited for. -/
def Pending.tasks (p : Pending) : List (Task Message) :=
  p.replies.map Prod.snd ++ (p.wake.map Prod.snd).toList ++ p.line.toList

/-- What is left to wait for after a message. -/
def Pending.after (p : Pending) : Message → Pending
  | .line _ => { p with line := none }
  | .reply seq _ => { p with replies := p.replies.filter fun r => r.1 ≠ seq }
  | .wake => { p with wake := none }

/-- Prints a line. -/
def Output.print (o : Output) : IO Unit :=
  match o.stream with
  | .out => IO.println o.text
  | .err => IO.eprintln o.text

/-- Waits for what a promise brings. -/
def awaited {α : Type} (promise : IO.Promise (Except IO.Error α)) : IO α := do
  match ← IO.wait promise.result? with
  | some (.ok a) => return a
  | some (.error e) => throw e
  | none => throw (IO.userError "connection lost")

/-- The address of a host, which stands in brackets if it is one of the long form. -/
def socketAddress (host : String) (port : UInt16) : IO SocketAddress := do
  let name := String.ofList (host.toList.filter fun c => c ≠ '[' && c ≠ ']')
  let found ← awaited (← DNS.getAddrInfo name (toString port.toNat) 0)
  match found[0]? with
  | some (IPAddr.v4 addr) => return SocketAddress.v4 ⟨addr, port⟩
  | some (IPAddr.v6 addr) => return SocketAddress.v6 ⟨addr, port⟩
  | none => throw (IO.userError "no such host")

/-- Receives bytes to their end. -/
partial def receiveAll (socket : TCP.Socket) (acc : ByteArray) : IO ByteArray := do
  match ← awaited (← socket.recv? 65536) with
  | some bytes => receiveAll socket (acc ++ bytes)
  | none => return acc

/-- Sends a request and receives the bytes of the answer. -/
def exchange (request : HttpRequest) (host : String) (port : UInt16) : IO ByteArray := do
  let socket ← TCP.Socket.new
  awaited (← socket.connect (← socketAddress host port))
  awaited (← socket.send #[request.bytes])
  receiveAll socket .empty

/-- The response to a request. -/
def respond (request : HttpRequest) : IO HttpResponse := do
  match request.url.authority with
  | none => return .lost
  | some a =>
    try
      let bytes ← exchange request (String.ofList a.host) (UInt16.ofNat (a.port.getD 80))
      return HttpResponse.ofBytes bytes.size bytes.toList
    catch _ => return .lost

/-- A message that comes after some time. A time that is too long for a clock is cut short. -/
def messageAfter (ms : Nat) (message : Message) : IO (Task Message) := do
  let timer ← Std.Internal.UV.Timer.mk (UInt64.ofNat (min ms 0x4000000000000000)) false
  let promise ← timer.next
  return promise.result?.map fun _ => message

/-- Does something that may block, beside everything else. -/
def background (act : IO Message) : IO (Task (Except IO.Error Message)) :=
  IO.asTask act .dedicated

/-- The message of a task that may fail. -/
def messageOf (task : Task (Except IO.Error Message)) (failed : Message) : Task Message :=
  task.map fun
    | .ok message => message
    | .error _ => failed

/-- Makes a call of the service. It fails when it takes too long. -/
def serve (settings : ServiceSettings) (request : Request) : IO (Nat × Task Message) := do
  let seq := request.ticket.seq
  match HttpRequest.of settings request.call with
  | .error e => return (seq, .pure (.reply seq (.error e)))
  | .ok http =>
    let unanswered := Message.reply seq (HttpResponse.read http .lost)
    let answer ← background do
      return Message.reply seq (HttpResponse.read http (← respond http))
    let late ← messageAfter settings.timeoutMs unanswered
    let first ← background (IO.waitAny [messageOf answer unanswered, late])
    return (seq, messageOf first unanswered)

/-- Carries out effects, and returns the replies that will come. -/
def perform (settings : ServiceSettings) : List Effect → IO (List (Nat × Task Message))
  | [] => return []
  | .print o :: rest => do
    o.print
    perform settings rest
  | .send request :: rest => do
    let reply ← serve settings request
    return reply :: (← perform settings rest)

/-- Reads the next line. -/
def nextLine : IO (Task Message) := do
  let task ← background do
    let line ← (← IO.getStdin).getLine
    return Message.line (if line.isEmpty then none else some line)
  return messageOf task (.line none)

/-- Waits for the next tick too, if the timer is armed. -/
def Pending.withWake (p : Pending) (due? : Option Nat) : IO Pending := do
  match due? with
  | none => return { p with wake := none }
  | some due =>
    if p.wake.map Prod.fst = some due then return p
    let now ← IO.monoMsNow
    return { p with wake := some (due, ← messageAfter (due - now) .wake) }

/-- Waits for a line too, if the program reads one. -/
def Pending.withLine (p : Pending) (reads : Bool) : IO Pending := do
  if reads && p.line.isNone then return { p with line := some (← nextLine) }
  return p

/-- Waits for the next message. -/
def Pending.receive (p : Pending) : IO Message := do
  match p.tasks with
  | [] => return .line none
  | first :: rest => IO.waitAny (first :: rest) (Nat.succ_pos rest.length)

/-- Goes on until the program is over or there are no more lines. -/
partial def loop (settings : ServiceSettings) (p : Program) (shown : Option View)
    (pending : Pending) : IO Unit := do
  let view := p.conversation.view
  (renderNext view shown).forM Output.print
  if p.isOver then return
  let pending ← pending.withWake p.conversation.timer.nextTick?
  let pending ← pending.withLine p.reads
  let message ← pending.receive
  let now ← IO.monoMsNow
  let pending := pending.after message
  match message with
  | .line none => return
  | .line (some line) => proceed pending view (p.readLine now line)
  | .reply seq reply => proceed pending view (p.takeReply now seq reply)
  | .wake => proceed pending view (p.tick now)
where
  /-- Goes on after a message. -/
  proceed (pending : Pending) (shown : View) (next : Program × List Effect) : IO Unit := do
    let replies ← perform settings next.2
    loop settings next.1 (some shown) { pending with replies := pending.replies ++ replies }

/-- The environment variables that the program knows. -/
def readEnvironment : IO Environment := do
  let names := ["ONBOARDING_BOARD_ID", "ONBOARDING_API_URL", "ONBOARDING_API_TOKEN",
    "ONBOARDING_HTTP_TIMEOUT_SECS", "ONBOARDING_POLL_INTERVAL_MS"]
  let values ← names.mapM fun name => return (name, ← IO.getEnv name)
  return fun name => (values.lookup name).join

/-- Runs the program with its arguments, and returns its exit code. -/
def run (arguments : List String) : IO UInt32 := do
  match launch arguments (← readEnvironment) with
  | .error e =>
    IO.eprintln e.report
    return 1
  | .ok l =>
    (banner l).forM Output.print
    let (p, effects) := (Program.initial l).opened (← IO.monoMsNow)
    let replies ← perform l.settings effects
    loop l.settings p none ⟨replies, none, none⟩
    return 0

end Dialogue.Terminal

/-- Runs the program. -/
def main (arguments : List String) : IO UInt32 := Dialogue.Terminal.run arguments
