import PagedListing.Text.LetterCase.Context
import PagedListing.Text.LetterCase.Lower
import PagedListing.Text.LetterCase.Upper

set_option autoImplicit false

/-!
# Letter case

Lower-case and upper-case forms of whole texts. A form may have several characters,
and the lower-case form of a capital sigma depends on its neighbours.
-/

namespace PagedListing.Text

def lowerChar (c : Char) : List Char :=
  if c.toNat < 0x80 then [c.toLower]
  else if c = 'İ' then ['i', '\u0307']
  else [shiftCase lowerRuns c]

def upperChar (c : Char) : List Char :=
  if c.toNat < 0x80 then [c.toUpper]
  else match upperExpansions.lookup c.toNat with
    | some expansion => expansion
    | none => [shiftCase upperRuns c]

/-- Whether the nearest character that case rules do not pass over has a case. -/
def nearestIsCased (text : List Char) : Bool :=
  (text.dropWhile isCaseIgnorable).head?.any isCased

/-- A capital sigma at the end of a word has a form of its own. `before` is the text
in front of it, nearest character first. -/
def lowerSigma (before after : List Char) : Char :=
  if nearestIsCased before && !nearestIsCased after then 'ς' else 'σ'

/-- Lower-case form of a text that follows `before`, nearest character first. -/
def lowerAfter (before : List Char) : List Char → List Char
  | [] => []
  | c :: rest =>
      (if c = 'Σ' then [lowerSigma before rest] else lowerChar c) ++
        lowerAfter (c :: before) rest

def lower (text : List Char) : List Char := lowerAfter [] text

def upper (text : List Char) : List Char := text.flatMap upperChar

end PagedListing.Text
