import PagedListing.Number.Reading
import PagedListing.Validation.Issue
import PagedListing.Value

set_option autoImplicit false

/-!
# Submitted integers

Integers may be submitted as numbers, as booleans and as text. Texts may have blanks at
the ends, a plus sign, zeros in front, underscores between digits and zeros after a point.
-/

namespace PagedListing.Validation

open PagedListing.Text
open PagedListing.Number

def isPositiveDigit (c : Char) : Bool := '1' ≤ c && c ≤ '9'

/-- The digits of the canonical numeral at the front of a text. A zero at the front has
no digits behind it. -/
def canonicalDigits : List Char → List Char
  | '0' :: _ => ['0']
  | text => text.takeWhile Char.isDigit

/-- Reads a canonical numeral: a minus sign if negative, and no zeros in front. One that is
too long is reported before anything that follows it is looked at. -/
def readCanonical (text : List Char) : Except IssueKind Int :=
  let (negative, body) := match text with
    | '-' :: rest => (true, rest)
    | rest => (false, rest)
  let digits := canonicalDigits body
  if maxDigits < digits.length + negative.toNat then .error .integerTooLong
  else if digits.isEmpty ∨ digits.length < body.length then .error .unreadableInteger
  else
    let magnitude := ofDigits 10 (digits.map fun c => c.toNat - 0x30)
    .ok (if negative then -(magnitude : Int) else magnitude)

/-- Skips zeros and underscores that follow a zero. The last of them is kept when neither
a digit nor a minus sign comes after it. -/
def skipZeros (last : Char) : List Char → Option (List Char)
  | [] => some [last]
  | c :: rest =>
      if c = '0' ∨ c = '_' then skipZeros c rest
      else if c = '-' ∨ isPositiveDigit c = true then some (c :: rest)
      else if c = '.' then some (last :: c :: rest)
      else none

/-- Drops zeros in front of a numeral; `none` when it does not begin like one. -/
def dropLeadingZeros : List Char → Option (List Char)
  | [] => none
  | c :: rest =>
      if c = '0' then skipZeros c rest
      else if c = '-' ∨ isPositiveDigit c = true then some (c :: rest)
      else none

/-- Drops a plus sign, unless a minus sign follows it. -/
def dropPlus : List Char → List Char
  | '+' :: '-' :: rest => '+' :: '-' :: rest
  | '+' :: rest => rest
  | text => text

/-- Drops a point with zeros, and nothing else, after it. -/
def dropZeroFraction (text : List Char) : List Char :=
  match text.dropWhile (· ≠ '.') with
  | _ :: zero :: zeros =>
      if (zero :: zeros).all (· == '0') then text.takeWhile (· ≠ '.') else text
  | _ => text

/-- Reads a numeral with blanks at the ends, a plus sign, zeros in front, underscores
between digits or zeros after a point. -/
def readAdorned? (text : List Char) : Option Int :=
  (dropLeadingZeros (dropPlus (trim isNumeralBlank text))).bind fun numeral =>
    readInt? (String.ofList (dropZeroFraction numeral))

def readIntegerText (text : String) : Except IssueKind Int :=
  match readCanonical text.toList with
  | .error .unreadableInteger => (readAdorned? text.toList).elim (.error .unreadableInteger) .ok
  | settled => settled

def isInt64 (value : Int) : Bool := -Nat.pow 2 63 ≤ value && value < Nat.pow 2 63

/-- Reads an integral double, which must lie within 64 bits. -/
def readIntegralDouble (double : Double) : Except IssueKind Int :=
  if double.isIntegral then
    if isInt64 double.truncate && double.truncate != -Nat.pow 2 63 then .ok double.truncate
    else .error .integerTooLong
  else .error .fractional

def readInteger : Value → Except IssueKind Int
  | .int value => .ok value
  | .bool value => .ok (if value then 1 else 0)
  | .text value => readIntegerText value
  | .decimal value =>
      match value.toDouble? with
      | some double => readIntegralDouble double
      | none => .error .infinite
  | _ => .error .notInteger

def integerAt (path : List Step) (value : Value) : Reading Int :=
  (readInteger value).mapError fun kind => [⟨path, kind⟩]

end PagedListing.Validation
