import Dialogue.DomainName.Mapping
import Dialogue.DomainName.Normal
import Dialogue.DomainName.Punycode
import Dialogue.Text.Direction
import Dialogue.Text.Joining

/-! # Labels

The labels of a name stand between its points. A label must not begin with a mark, and a joiner in
it must stand where it makes a difference. If any label of a name holds letters that are written
from right to left, no label may mix the directions. -/

namespace Dialogue.DomainName

/-! ## The two forms of a label -/

/-- What a label in ASCII letters begins with if it stands for another. -/
def encodedMark : List Char := "xn--".toList

/-- The number of characters that a label in ASCII letters may have after the mark. -/
def encodedLimit : Nat := 2000

/-- The number of characters that any other label may have, unless it is in ASCII letters. -/
def decodedLimit : Nat := 1000

/-- Whether a text holds nothing outside ASCII. -/
def isAscii (s : List Char) : Bool := s.all Punycode.isBasic

/-- The label that a label stands for. One in ASCII letters has to stand for one that has others,
and for one that nothing has to be done to. -/
def readable? (label : List Char) : Option (List Char) :=
  if encodedMark.isPrefixOf label then
    let encoded := label.drop encodedMark.length
    if encodedLimit < encoded.length then none
    else (Punycode.decode? encoded).filter fun s => !isAscii s && s.all isPlain && composed s = s
  else some label

/-- The label in ASCII letters. -/
def encodedLabel (label : List Char) : List Char :=
  if isAscii label then label else encodedMark ++ Punycode.encode label

/-! ## Joiners -/

/-- The character that keeps its neighbours from joining. -/
def nonJoiner : Char := '\u200c'

/-- The character that asks its neighbours to join. -/
def joiner : Char := '\u200d'

/-- Whether the first character that is not transparent exists and satisfies `p`. -/
def reaches (p : Char → Bool) (s : List Char) : Bool :=
  (s.find? fun c => p c || !Text.isTransparent c).any p

/-- Whether a character may stand in a label after the text `before`, whose last character comes
first, and before the text `after`. A joiner stands after the sign that takes away a vowel; one
that keeps two letters from joining may also stand between two that would. -/
def mayStand (before : List Char) (c : Char) (after : List Char) : Bool :=
  if c = nonJoiner || c = joiner then
    before.head?.any (Text.combiningClass · = Text.viramaClass) ||
      (c = nonJoiner && reaches Text.joinsNext before && reaches Text.joinsPrevious after)
  else true

/-- Whether all characters of a text may stand where they stand, after the text `before`. -/
def allMayStand (before : List Char) : List Char → Bool
  | [] => true
  | c :: rest => mayStand before c rest && allMayStand (c :: before) rest

/-- Whether a label is one that a name may have, but for its directions. -/
def isWellFormed (label : List Char) : Bool :=
  (isAscii label || label.length ≤ decodedLimit) && !label.head?.any Text.isMark &&
    allMayStand [] label

/-! ## Directions -/

open Text (Direction)

/-- The directions of which one makes a name written from right to left. -/
def turning : List Direction := [.rightToLeft, .arabicLetter, .arabicNumber]

/-- The directions that go along with any letters. -/
def neutral : List Direction :=
  [.europeanNumber, .europeanSeparator, .europeanTerminator, .commonSeparator, .otherNeutral,
    .boundaryNeutral, .nonspacingMark]

/-- Whether the directions in a label fit together. The marks at its end do not count. -/
def isUniform : List Direction → Bool
  | [] => true
  | first :: rest =>
    let body := (rest.reverse.dropWhile (· = .nonspacingMark)).reverse
    if first = .leftToRight then
      body.all (fun d => d = .leftToRight || neutral.contains d) &&
        body.getLast?.all [.leftToRight, .europeanNumber].contains
    else if first = .rightToLeft || first = .arabicLetter then
      body.all (fun d => turning.contains d || neutral.contains d) &&
        body.getLast?.all (fun d => turning.contains d || d = .europeanNumber) &&
        !(body.contains .europeanNumber && body.contains .arabicNumber)
    else false

/-- Whether the directions in the labels of a name fit together. -/
def areUniform (labels : List (List Char)) : Bool :=
  let directions := labels.map (·.map Text.direction)
  !directions.any (·.any turning.contains) || directions.all isUniform

end Dialogue.DomainName
