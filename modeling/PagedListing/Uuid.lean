import PagedListing.Number.Reading
import PagedListing.Text.Hex

set_option autoImplicit false

/-!
# UUIDs

A UUID is a number of 128 bits. It is printed in one way and read from many: the words
`urn:` and `uuid:`, braces at the ends and every hyphen are removed first, and thirty-two
characters that read as a hexadecimal number must remain.
-/

namespace PagedListing

open PagedListing.Text

structure Uuid where
  value : Nat
  value_lt : value < Nat.pow 2 128
deriving DecidableEq, Repr

namespace Uuid

/-- Removes every occurrence of a word, looking from front to back. The number counts
the characters of an occurrence that are still to be removed. -/
def eraseWord (word : List Char) : Nat → List Char → List Char
  | _, [] => []
  | pending + 1, _ :: rest => eraseWord word pending rest
  | 0, c :: rest =>
      if word.isPrefixOf (c :: rest) then eraseWord word (word.length - 1) rest
      else c :: eraseWord word 0 rest

def isBrace (c : Char) : Bool := c == '\x7b' || c == '\x7d'

/-- The characters of a spelling that carry the number. -/
def significant (text : List Char) : List Char :=
  let unnamed := eraseWord "uuid:".toList 0 (eraseWord "urn:".toList 0 text)
  (trim isBrace unnamed).filter (· ≠ '-')

def digitCount : Nat := 32

def parse? (text : String) : Option Uuid :=
  let digits := significant text.toList
  if digits.length = digitCount then
    match Number.readHex? digits with
    | some value => if value_lt : value < Nat.pow 2 128 then some ⟨value, value_lt⟩ else none
    | none => none
  else none

/-- The canonical spelling: lower-case digits in groups of 8, 4, 4, 4 and 12. -/
def canonical (uuid : Uuid) : String :=
  let digits := hexFixed digitCount uuid.value
  String.ofList <| ['-'].intercalate
    [digits.take 8, (digits.drop 8).take 4, (digits.drop 12).take 4,
      (digits.drop 16).take 4, digits.drop 20]

def malformed (text : String) : String := "Invalid UUID '" ++ text ++ "'."

end Uuid

end PagedListing
