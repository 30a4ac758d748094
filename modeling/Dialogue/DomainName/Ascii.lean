import Dialogue.DomainName.Label
import Dialogue.Text.Split

/-! # Domain names in ASCII letters

The form in which a domain name is looked up. Two names that differ only in capital letters, in
compatibility characters or in the way in which accents are written have the same form. -/

namespace Dialogue.DomainName

/-- The text with each character replaced by what stands for it, in composed form, if all may stand
in a name. -/
def mapped? (s : List Char) : Option (List Char) :=
  (s.mapM image?).map fun images => composed images.flatten

/-- The form of a name in ASCII letters. The characters in `forbidden` must not stand in it. -/
def ascii? (forbidden : Char → Bool) (s : List Char) : Option (List Char) := do
  let name ← mapped? s
  if name.any forbidden then none
  let labels ← (Text.splitBy (· == '.') name).mapM readable?
  if labels.all isWellFormed && areUniform labels then
    some (['.'].intercalate (labels.map encodedLabel))
  else none

end Dialogue.DomainName
