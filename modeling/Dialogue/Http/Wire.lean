import Dialogue.Http.Response

/-! # HTTP on the wire

The bytes of a request, and the response that the bytes of an answer make. The connection is closed
after the answer, so an answer ends where it says it ends or else where the bytes do. -/

namespace Dialogue

/-- The end of a line. -/
def lineEnd : String := "\r\n"

/-- A header line. -/
def headerLine (name value : String) : String := name ++ ": " ++ value ++ lineEnd

/-- A header line, if there is a value for it. -/
def headerLine? (name : String) : Option String → String
  | some value => headerLine name value
  | none => ""

/-- The host of a request, with its port if it is not the one of the scheme. -/
def HttpRequest.host (r : HttpRequest) : String :=
  match r.url.authority with
  | some a => String.ofList (a.host ++ Url.marked ':' (a.port.map Text.decimal))
  | none => ""

/-- The bytes of a request. -/
def HttpRequest.bytes (r : HttpRequest) : ByteArray :=
  let length := if r.method = "GET" then none else some (toString r.body.utf8ByteSize)
  (r.method ++ " " ++ r.url.target ++ " HTTP/1.1" ++ lineEnd ++ headerLine "host" r.host ++
    headerLine "accept" "*/*" ++ headerLine "connection" "close" ++
    String.join (r.authorization.map (headerLine "authorization")) ++
    headerLine? "content-type" r.contentType ++ headerLine? "content-length" length ++ lineEnd ++
    r.body).toUTF8

namespace HttpResponse

/-- The bytes of a head before the blank line that ends it, and the bytes after that. -/
def splitHead : List UInt8 → Option (List UInt8 × List UInt8)
  | 13 :: 10 :: 13 :: 10 :: rest => some ([], rest)
  | b :: rest => (splitHead rest).map fun (head, body) => (b :: head, body)
  | [] => none

/-- The status in the first line of a head. -/
def statusOf? (line : List Char) : Option Nat :=
  match Text.splitBy (· == ' ') line with
  | version :: code :: _ =>
    if (String.ofList version).startsWith "HTTP/1." && code.length = 3 && code.all Text.isDigit
    then some (Text.valueOf code) else none
  | _ => none

/-- The name and the value of a header line. -/
def headerOf? (line : List Char) : Option (String × String) :=
  (Text.cutAt? ':' line).map fun (name, value) =>
    (String.ofList (Text.lowerCase name), String.ofList (Text.trim value))

/-- Reads a body that comes in chunks: the bytes, and whether the last chunk was there. -/
def readChunks : Nat → List UInt8 → List UInt8 × Bool
  | 0, _ => ([], false)
  | fuel + 1, bytes =>
    let line := bytes.takeWhile (· ≠ 13)
    let rest := bytes.drop (line.length + 2)
    let digits := (line.map fun b => Char.ofNat b.toNat).takeWhile fun c =>
      (Json.hexValue? c).isSome
    let size := digits.foldl (fun n c => n * 16 + (Json.hexValue? c).getD 0) 0
    if digits = [] then ([], false)
    else if size = 0 then ([], true)
    else if rest.length < size then (rest, false)
    else
      let (more, complete) := readChunks fuel (rest.drop (size + 2))
      (rest.take size ++ more, complete)

/-- Reads the body that follows a head with the given headers. -/
def bodyOf (headers : List (String × String)) (bytes : List UInt8) : List UInt8 × Bool :=
  if headers.lookup "transfer-encoding" = some "chunked" then readChunks bytes.length bytes
  else match headers.lookup "content-length" with
    | some length =>
      let n := Text.valueOf length.toList
      (bytes.take n, n ≤ bytes.length)
    | none => (bytes, true)

/-- The response that the bytes of an answer make. A response that only announces another is
skipped. -/
def ofBytes : Nat → List UInt8 → HttpResponse
  | 0, _ => lost
  | fuel + 1, bytes =>
    match splitHead bytes with
    | none => lost
    | some (head, rest) =>
      let lines := Text.splitBy (· == '\n')
        ((Text.decodeUtf8 head).filter (· ≠ '\r'))
      match lines.head?.bind statusOf? with
      | none => lost
      | some status =>
        if status < 200 && status ≠ 101 then ofBytes fuel rest
        else
          let headers := lines.tail.filterMap headerOf?
          let (body, complete) := bodyOf headers rest
          received status ((headers.lookup "content-type").getD "") body complete

end HttpResponse

end Dialogue
