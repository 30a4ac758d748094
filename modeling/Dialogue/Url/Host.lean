import Dialogue.Url.Encoding
import Dialogue.DomainName.Ascii

/-! # Hosts

The host of a URL is a name, an address of four bytes, or an address of eight words in brackets.
For a special scheme a name is written in ASCII letters, and one that ends in a number has to be an
address. -/

namespace Dialogue.Url

/-! ## Addresses of four bytes -/

/-- The value of a digit in a base of at most sixteen. -/
def digitIn? (base : Nat) (c : Char) : Option Nat := (Json.hexValue? c).filter (· < base)

/-- The value of digits in a base. -/
def valueIn? (base : Nat) (s : List Char) : Option Nat :=
  s.foldl (fun n c => n.bind fun n => (digitIn? base c).map (n * base + ·)) (some 0)

/-- The value of a part of an address. It is hexadecimal after `0x` and octal after `0`. -/
def addressPart? : List Char → Option Nat
  | [] => none
  | '0' :: 'x' :: s => valueIn? 16 s
  | '0' :: 'X' :: s => valueIn? 16 s
  | '0' :: c :: s => valueIn? 8 (c :: s)
  | s => valueIn? 10 s

/-- The parts of an address; a point at the end does not count. -/
def addressParts (s : List Char) : List (List Char) :=
  let parts := Text.splitBy (· == '.') s
  match parts.getLast? with
  | some [] => if parts.length = 1 then parts else parts.dropLast
  | _ => parts

/-- Whether the last part of a name is a number, so that the name has to be an address. -/
def endsInNumber (s : List Char) : Bool :=
  match (addressParts s).getLast? with
  | some (c :: rest) => (c :: rest).all Text.isDigit || (addressPart? (c :: rest)).isSome
  | _ => false

/-- The number that the parts of an address make. All but the last are bytes, and the last fills
the bytes that remain. -/
def addressValue? : List Nat → Nat → Option Nat
  | [], _ => none
  | [last], room => if last < 256 ^ room then some last else none
  | n :: rest, room =>
    if n < 256 ∧ 1 < room then
      (addressValue? rest (room - 1)).map (n * 256 ^ (room - 1) + ·)
    else none

/-- Reads an address of four bytes. -/
def parseAddress? (s : List Char) : Option Nat := do
  let parts ← (addressParts s).mapM addressPart?
  addressValue? parts 4

/-- Writes an address of four bytes. -/
def writeAddress (n : Nat) : List Char :=
  Text.decimal (n / 0x1000000 % 256) ++ '.' :: Text.decimal (n / 0x10000 % 256) ++
    '.' :: Text.decimal (n / 256 % 256) ++ '.' :: Text.decimal (n % 256)

/-! ## Addresses of eight words -/

/-- A word of an address: one to four hexadecimal digits. -/
def word? (s : List Char) : Option Nat :=
  if 1 ≤ s.length ∧ s.length ≤ 4 then valueIn? 16 s else none

/-- A byte in decimal digits, without zeros in front. -/
def plainByte? (s : List Char) : Option Nat :=
  match s with
  | '0' :: _ :: _ => none
  | s =>
    if 1 ≤ s.length ∧ s.length ≤ 3 then (valueIn? 10 s).filter (· < 256) else none

/-- The words of a part of an address. The last group may be an address of four bytes. -/
def words? (final : Bool) (s : List Char) : Option (List Nat) :=
  if s = [] then some []
  else
    let groups := Text.splitBy (· == ':') s
    match final, groups.getLast? with
    | true, some last =>
      if last.contains '.' then do
        let front ← groups.dropLast.mapM word?
        match Text.splitBy (· == '.') last with
        | [a, b, c, d] =>
          let a ← plainByte? a
          let b ← plainByte? b
          let c ← plainByte? c
          let d ← plainByte? d
          some (front ++ [a * 256 + b, c * 256 + d])
        | _ => none
      else groups.mapM word?
    | _, _ => groups.mapM word?

/-- The text before the first `::` and after it. -/
def cutGap? : List Char → Option (List Char × List Char)
  | ':' :: ':' :: rest => some ([], rest)
  | c :: rest => (cutGap? rest).map fun (before, after) => (c :: before, after)
  | [] => none

/-- Reads an address of eight words. A gap stands for at least one word that is zero. -/
def parseLongAddress? (s : List Char) : Option (List Nat) :=
  match cutGap? s with
  | none => (words? true s).filter (·.length = 8)
  | some (before, after) => do
    let front ← words? false before
    let back ← words? true after
    if front.length + back.length < 8 then
      some (front ++ List.replicate (8 - front.length - back.length) 0 ++ back)
    else none

/-- The length of the run of zeros at the start. -/
def zeros (words : List Nat) : Nat := (words.takeWhile (· == 0)).length

/-- The longest run of zeros, the first of several: where it starts, and its length. -/
def longestZeros (words : List Nat) : Nat × Nat :=
  (List.range words.length).foldl (fun best i =>
    let n := zeros (words.drop i)
    if best.2 < n then (i, n) else best) (0, 0)

/-- Words between colons. -/
def writeWords (words : List Nat) : List Char :=
  [':'].intercalate (words.map (Nat.toDigits 16))

/-- Writes an address of eight words, with a gap for the longest run of zeros. -/
def writeLongAddress (words : List Nat) : List Char :=
  let (start, length) := longestZeros words
  if length < 2 then writeWords words
  else writeWords (words.take start) ++ ':' :: ':' :: writeWords (words.drop (start + length))

/-! ## Names -/

/-- Whether a character must not stand in a host. -/
def isForbidden (c : Char) : Bool :=
  ['\x00', '\t', '\n', '\r', ' ', '#', '/', ':', '<', '>', '?', '@', '[', '\\', ']', '^',
    '|'].contains c

/-- Whether a character must not stand in the name of a host. -/
def isForbiddenInName (c : Char) : Bool :=
  isForbidden c || c.toNat < 0x20 || c = '%' || c.toNat = 0x7F

/-- Reads an address in brackets. -/
def bracketed? (s : List Char) : Option (List Char) :=
  match s.getLast? with
  | some ']' =>
    (parseLongAddress? s.dropLast).map fun words => '[' :: writeLongAddress words ++ [']']
  | _ => none

/-- Reads the host of a special scheme, and gives its normal form. Bytes that are no text stand for
the replacement character, which no name may hold. -/
def specialHost? : List Char → Option (List Char)
  | '[' :: rest => bracketed? rest
  | s => do
    let name ← DomainName.ascii? isForbiddenInName (Text.decodeUtf8 (percentDecode s))
    if name = [] then none
    else if endsInNumber name then (parseAddress? name).map writeAddress
    else some name

/-- Reads the host of any other scheme. -/
def otherHost? : List Char → Option (List Char)
  | '[' :: rest => bracketed? rest
  | s => if s.any isForbidden then none else some (percentEncode [] s)

end Dialogue.Url
