import PagedListing.Log.Template.Directive
import PagedListing.Number.Rounded
import PagedListing.Text.CodePoint

set_option autoImplicit false

/-!
# Conversions of message templates

One argument in the form that its directive asks for.
-/

namespace PagedListing.Log

open PagedListing.Number
open PagedListing.Text

namespace Directive

def sign (directive : Directive) (negative : Bool) : List Char :=
  if negative then ['-']
  else if directive.plusSign then ['+']
  else if directive.blankSign then [' ']
  else []

/-- Puts marks and body together and fills up to the width: with blanks on either side,
or with zeros between the marks and the body. -/
def fill (directive : Directive) (zeros : Bool) (marks body : List Char) : List Char :=
  let missing := directive.width.getD 0 - (marks.length + body.length)
  if directive.leftAligned then marks ++ body ++ List.replicate missing ' '
  else if zeros then marks ++ List.replicate missing '0' ++ body
  else List.replicate missing ' ' ++ marks ++ body

def text (directive : Directive) (shown : List Char) : List Char :=
  let cut := match directive.precision with
    | some precision => shown.take precision
    | none => shown
  directive.fill false [] cut

def maxIntegerPrecision : Nat := maxPrecision - 3

def checkDigits (directive : Directive) : Except TemplateFault Unit :=
  if maxIntegerPrecision < directive.precision.getD 0 then .error .tooManyDigits else .ok ()

def integer (directive : Directive) (negative : Bool) (mark digits : List Char) : List Char :=
  let padded := List.replicate (directive.precision.getD 0 - digits.length) '0' ++ digits
  directive.fill directive.zeroFilled
    (directive.sign negative ++ if directive.alternate then mark else []) padded

/-- The integer that an argument is converted to for decimal digits. -/
def wholeNumber (directive : Directive) : Value → Except TemplateFault Int
  | .int value => .ok value
  | .bool value => .ok value.toInt
  | .decimal value =>
      match value.toDouble? with
      | some double => .ok double.truncate
      | none => .error .infiniteInteger
  | value => .error (.numberRequired directive.conversion value)

/-- The integer that an argument is for digits of another base. -/
def exactInteger (directive : Directive) : Value → Except TemplateFault Int
  | .int value => .ok value
  | .bool value => .ok value.toInt
  | value => .error (.integerRequired directive.conversion value)

/-- The double that an argument is converted to; `none` stands for one beyond all finite
ones. -/
def double : Value → Except TemplateFault (Option Double)
  | .int value =>
      match Double.ofInt? value with
      | some double => .ok (some double)
      | none => .error .integerTooLarge
  | .bool value => .ok (Double.ofInt? value.toInt)
  | .decimal value => .ok value.toDouble?
  | value => .error (.fractionRequired value)

def isNegative : Value → Bool
  | .int value => value < 0
  | .decimal value => value.negative
  | _ => false

def magnitude (directive : Directive) (value : Double) : List Char :=
  let places := directive.precision.getD 6
  match directive.conversion.toLower with
  | 'f' => value.fixedText directive.alternate places
  | 'e' => value.scientificText directive.alternate places
  | _ => value.generalText directive.alternate places

def fraction (directive : Directive) (value : Value) : Except TemplateFault (List Char) := do
  let shown := match (← double value) with
    | some double => directive.magnitude double
    | none => "inf".toList
  let cased := if directive.conversion.isUpper then shown.map Char.toUpper else shown
  return directive.fill directive.zeroFilled (directive.sign (isNegative value)) cased

def decimal (directive : Directive) (value : Value) : Except TemplateFault (List Char) := do
  let number ← directive.wholeNumber value
  directive.checkDigits
  if isWritable number then
    return { directive with alternate := false }.integer (number < 0) []
      number.natAbs.repr.toList
  else throw .integerTooLong

/-- An argument as digits of base 8 or 16, behind a mark on demand. -/
def based (directive : Directive) (base : Nat) (value : Value) :
    Except TemplateFault (List Char) := do
  let number ← directive.exactInteger value
  directive.checkDigits
  let digits := Nat.toDigits base number.natAbs
  let cased := if directive.conversion.isUpper then digits.map Char.toUpper else digits
  return directive.integer (number < 0) ['0', directive.conversion] cased

/-- The code point that an argument is or stands for, which may be a surrogate. -/
def codePoint : Value → Except TemplateFault CodePoint
  | .text value =>
      match value.toList with
      | [c] => .ok c.toNat
      | _ => .error .characterRequired
  | .int value =>
      if 0 ≤ value ∧ value < 0x110000 then .ok value.toNat else .error .characterOutOfRange
  | .bool value => .ok value.toNat
  | _ => .error .characterRequired

def single (directive : Directive) (code : CodePoint) : List CodePoint :=
  let blanks := codePoints (List.replicate (directive.width.getD 0 - 1) ' ')
  if directive.leftAligned then code :: blanks else blanks ++ [code]

def written (shown : Option (List Char)) : Except TemplateFault (List Char) :=
  match shown with
  | some text => .ok text
  | none => .error .integerTooLong

def asciiOnly (literal : List Char) : List Char :=
  literal.flatMap fun c => if c.toNat < 0x80 then [c] else escapeCode c

/-- An argument in the form that a directive asks for, however wide. `position` is where
the conversion stands in the template. -/
def form (directive : Directive) (position : Nat) (value : Value) :
    Except TemplateFault (List CodePoint) :=
  match directive.conversion with
  | 's' => (codePoints ∘ directive.text) <$> written (value.display?.map String.toList)
  | 'r' => (codePoints ∘ directive.text) <$> written value.literal?
  | 'a' => (codePoints ∘ directive.text ∘ asciiOnly) <$> written value.literal?
  | 'd' | 'i' | 'u' => codePoints <$> directive.decimal value
  | 'o' => codePoints <$> directive.based 8 value
  | 'x' | 'X' => codePoints <$> directive.based 16 value
  | 'e' | 'E' | 'f' | 'F' | 'g' | 'G' => codePoints <$> directive.fraction value
  | 'c' => directive.single <$> codePoint value
  | conversion => .error (.unknownConversion conversion position)

def maxHeldWidth : Nat := Nat.pow 2 31 - 1

/-- An argument in the form that a directive asks for, unless that is too wide to hold. -/
def convert (directive : Directive) (position : Nat) (value : Value) :
    Except TemplateFault (List CodePoint) :=
  if maxHeldWidth < directive.width.getD 0 then do
    discard ({ directive with width := none }.form position value)
    throw .tooWide
  else directive.form position value

end Directive

end PagedListing.Log
