import PagedListing.Number.Grouping
import PagedListing.Number.Numeral
import PagedListing.Text.Blank
import PagedListing.Text.Digit
import PagedListing.Text.Hex
import PagedListing.Text.Quoted

set_option autoImplicit false

/-!
# Reading integers

A tolerant reader: blanks around the number, one sign, decimal digits of any script, and
single underscores between digits. Hexadecimal numbers may carry a mark in front.
-/

namespace PagedListing.Number

open PagedListing.Text

inductive ReadError where
  | malformed
  | tooLong (digits : Nat)
deriving DecidableEq, Repr

def splitSign : List Char → Bool × List Char
  | '-' :: rest => (true, rest)
  | '+' :: rest => (false, rest)
  | text => (false, text)

def isGroupedDigit (c : Char) : Bool := c == '_' || isDigit c

/-- Reads a decimal integer. Too many digits at the front are reported before anything that
follows them is looked at. -/
def readInt (text : String) : Except ReadError Int :=
  let (negative, body) := splitSign (trim isNumeralBlank text.toList)
  match ungroup? (body.takeWhile isGroupedDigit) with
  | none => .error .malformed
  | some digits =>
      if maxDigits < digits.length then .error (.tooLong digits.length)
      else if digits.isEmpty ∨ body.any (fun c => !isGroupedDigit c) then .error .malformed
      else
        let magnitude := ofDigits 10 (digits.filterMap digitValue?)
        .ok (if negative then -(magnitude : Int) else magnitude)

def readInt? (text : String) : Option Int := (readInt text).toOption

/-- The value of a hexadecimal digit: a decimal digit of any script or an ASCII letter. -/
def hexDigitValue? (c : Char) : Option Nat := (digitValue? c).or (hexValue? c)

/-- Drops the mark `0x` in front of hexadecimal digits, with one underscore after it. -/
def dropHexMark : List Char → List Char
  | nought :: mark :: rest =>
      if digitValue? nought = some 0 ∧ (mark = 'x' ∨ mark = 'X') then
        match rest with
        | '_' :: digits => digits
        | digits => digits
      else nought :: mark :: rest
  | text => text

/-- Reads a hexadecimal number, which has no limit on its digits and no minus sign. -/
def readHex? (text : List Char) : Option Nat :=
  match splitSign (trim isNumeralBlank text) with
  | (true, _) => none
  | (false, body) =>
      match ungroup? (dropHexMark body) with
      | none => none
      | some digits =>
          if digits.isEmpty ∨ digits.any (fun c => (hexDigitValue? c).isNone) then none
          else some (ofDigits 16 (digits.filterMap hexDigitValue?))

def shownCharacters : Nat := 200

def ReadError.message (text : String) : ReadError → String
  | .malformed =>
      "invalid literal for int() with base 10: " ++
        String.ofList ((quoted text.toList).take shownCharacters)
  | .tooLong digits =>
      "Exceeds the limit (" ++ maxDigits.repr ++
        " digits) for integer string conversion: value has " ++ digits.repr ++
        " digits; use sys.set_int_max_str_digits() to increase the limit"

/-- The report on an integer whose numeral would be too long. -/
def tooLongToWrite : String :=
  "Exceeds the limit (" ++ maxDigits.repr ++
    " digits) for integer string conversion; " ++
    "use sys.set_int_max_str_digits() to increase the limit"

end PagedListing.Number
