import Dialogue.Url.Authority
import Dialogue.Url.Path

/-! # URLs

Reading an absolute URL. The special schemes resolve a backslash like a slash, and always have a
host, which may be empty for a file. -/

namespace Dialogue.Url

/-- Takes the fragment and the query off a text. -/
def cutTail (special : Bool) (s : List Char) :
    List Char × Option (List Char) × Option (List Char) :=
  let (s, fragment) := match Text.cutAt? '#' s with
    | some (s, f) => (s, some (percentEncode fragmentSet f))
    | none => (s, none)
  let set := if special then specialQuerySet else querySet
  match Text.cutAt? '?' s with
  | some (s, q) => (s, some (percentEncode set q), fragment)
  | none => (s, none, fragment)

/-- Reads what follows the colon of a scheme that needs a host. Any number of slashes may stand
before the host. -/
def readSpecial? (scheme s : List Char) : Option Url := do
  let (s, query, fragment) := cutTail true s
  let (host, path) := Text.breakAt (isSlash true) (s.dropWhile (isSlash true))
  let (authority, _) ← authority? scheme true host
  some ⟨scheme, some authority, pathAfterHost true path, query, fragment⟩

/-- The host of a file and the segments of its path, from the text after the colon of the scheme.
Two slashes announce a host; the local one is not named, and a drive in its place belongs to the
path. A host is followed by a slash that is not part of the path, but where none is named the path
begins at once. -/
def fileParts? : List Char → Option (List Char × List (List Char))
  | a :: b :: rest =>
    if isSlash true a && isSlash true b then
      let (host, path) := Text.breakAt (isSlash true) rest
      if isDrive host then some ([], segmentsOf true rest)
      else do
        let host ← if host = [] then some [] else specialHost? host
        if host = [] || host = "localhost".toList then some ([], segmentsOf true path)
        else some (host, segmentsOf true (afterSlash true path))
    else some ([], segmentsOf true (afterSlash true (a :: b :: rest)))
  | s => some ([], segmentsOf true (afterSlash true s))

/-- Reads what follows the colon of the scheme of files. A path that begins at a drive has no
host. -/
def readFile? (scheme s : List Char) : Option Url := do
  let (s, query, fragment) := cutTail true s
  let (host, parts) ← fileParts? s
  let host := if hasDrive parts then [] else host
  some ⟨scheme, some ⟨[], none, host, none⟩, .segments (fileSegments parts), query, fragment⟩

/-- Reads what follows the colon of any other scheme. -/
def readOther? (scheme s : List Char) : Option Url := do
  let (s, query, fragment) := cutTail false s
  match s with
  | '/' :: '/' :: rest =>
    let (host, path) := Text.breakAt (isSlash false) rest
    let (authority, rest) ← authority? scheme false host
    some ⟨scheme, some authority, pathAfterHost false (rest ++ path), query, fragment⟩
  | '/' :: rest => some ⟨scheme, none, .segments (segmentsOf false rest), query, fragment⟩
  | s => some ⟨scheme, none, .bare (percentEncode [] s), query, fragment⟩

/-- Whether a character may stand in a scheme. -/
def isSchemeChar (c : Char) : Bool :=
  c.isAlpha || Text.isDigit c || c = '+' || c = '-' || c = '.'

/-- Whether a character is dropped at the ends of a URL. -/
def isEdge (c : Char) : Bool := c.toNat ≤ 0x20

/-- The text of a URL without what is dropped: control characters and spaces at its ends, and tabs
and line breaks everywhere. -/
def cleaned (s : List Char) : List Char :=
  let s := ((s.dropWhile isEdge).reverse.dropWhile isEdge).reverse
  s.filter fun c => c ≠ '\t' ∧ c ≠ '\n' ∧ c ≠ '\r'

/-- Reads an absolute URL. -/
def parse? (s : List Char) : Option Url :=
  match Text.breakAt (fun c => !isSchemeChar c) (cleaned s) with
  | (first :: more, ':' :: rest) =>
    let scheme := Text.lowerCase (first :: more)
    if !first.isAlpha then none
    else if (defaultPort? scheme).isSome then readSpecial? scheme rest
    else if scheme = "file".toList then readFile? scheme rest
    else readOther? scheme rest
  | _ => none

end Dialogue.Url
