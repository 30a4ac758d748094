/-! # Splitting text

Cutting a text at the characters of a class. -/

namespace Dialogue.Text

/-- The parts of a text between the characters that `p` holds of. There is always one part more
than there are such characters. -/
def splitBy (p : Char → Bool) : List Char → List (List Char)
  | [] => [[]]
  | c :: rest =>
    if p c then [] :: splitBy p rest
    else match splitBy p rest with
      | [] => [[c]]
      | part :: parts => (c :: part) :: parts

/-- The text before the first character that `p` holds of, and the text from there on. -/
def breakAt (p : Char → Bool) (s : List Char) : List Char × List Char :=
  (s.takeWhile (!p ·), s.dropWhile (!p ·))

/-- The text before the first `mark` and the text after it, if there is one. -/
def cutAt? (mark : Char) (s : List Char) : Option (List Char × List Char) :=
  match breakAt (· == mark) s with
  | (before, _ :: after) => some (before, after)
  | (_, []) => none

/-- The text in small letters, of the ASCII alphabet. -/
def lowerCase (s : List Char) : List Char := s.map Char.toLower

end Dialogue.Text
