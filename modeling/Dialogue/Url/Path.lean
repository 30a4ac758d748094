import Dialogue.Url.Basic
import Dialogue.Url.Encoding

/-! # Paths

The segments of a path, with the dots among them resolved. A segment that names a drive is never
left again by going up, and the path of a file keeps it in its usual form. -/

namespace Dialogue.Url

/-- A segment that stays where it is. -/
def isDot (s : List Char) : Bool := [".", "%2e"].contains (String.ofList (Text.lowerCase s))

/-- A segment that goes up. -/
def isDoubleDot (s : List Char) : Bool :=
  ["..", ".%2e", "%2e.", "%2e%2e"].contains (String.ofList (Text.lowerCase s))

/-- A segment that names a drive: a letter and a colon, or a bar in its place. Where a backslash
does not separate segments it may follow. -/
def isDrive : List Char → Bool
  | letter :: mark :: rest =>
    letter.isAlpha && (mark = ':' || mark = '|') && rest.head?.all (· = '\\')
  | _ => false

/-- The segments that are left above those given, the last of which comes first. -/
def goUp : List (List Char) → List (List Char)
  | [] => []
  | s :: above => if isDrive s then s :: above else above

/-- Resolves the dots among segments, on top of those before them, the last of which comes
first. -/
def resolve : List (List Char) → List (List Char) → List (List Char)
  | above, [] => above.reverse
  | above, s :: rest =>
    let above' :=
      if isDoubleDot s then goUp above else if isDot s then above else s :: above
    let above' := if rest = [] && (isDoubleDot s || isDot s) then [] :: above' else above'
    resolve above' rest

/-- The segments of a path after its first slash. -/
def segmentsOf (special : Bool) (s : List Char) : List (List Char) :=
  resolve [] ((Text.splitBy (isSlash special) s).map (percentEncode pathSet))

/-- The text of a path after its first slash, if it begins with one. -/
def afterSlash (special : Bool) : List Char → List Char
  | [] => []
  | c :: rest => if isSlash special c then rest else c :: rest

/-- Reads the path after a host. -/
def pathAfterHost (special : Bool) (s : List Char) : UrlPath :=
  if s = [] && !special then .segments [] else .segments (segmentsOf special (afterSlash special s))

/-! ## Files -/

/-- Whether a path begins at a drive. -/
def hasDrive (parts : List (List Char)) : Bool := parts.head?.any isDrive

/-- The segments of the path of a file: a drive at its beginning has a colon, and no empty segment
stands at its beginning. -/
def fileSegments : List (List Char) → List (List Char)
  | [letter, mark] :: rest =>
    if isDrive [letter, mark] then [letter, ':'] :: rest else [letter, mark] :: rest
  | parts =>
    match parts.dropWhile (· = []) with
    | [] => [[]]
    | parts => parts

end Dialogue.Url
