import PagedListing.Log.Template.Arguments
import PagedListing.Validation.Integer

set_option autoImplicit false

/-!
# Directives of message templates

A directive tells how one argument is written: flags, least width, precision and the
conversion. It is read from what follows a percent sign.
-/

namespace PagedListing.Log

structure Directive where
  leftAligned : Bool := false
  plusSign : Bool := false
  blankSign : Bool := false
  alternate : Bool := false
  zeroFilled : Bool := false
  width : Option Nat := none
  precision : Option Nat := none
  conversion : Char := 's'
deriving Repr

namespace Directive

/-- The number of opened parentheses behind a character of a key. -/
def nesting (depth : Nat) (c : Char) : Nat :=
  if c = '(' then depth + 1 else if c = ')' then depth - 1 else depth

def splitKey? (depth : Nat) : List Char → Option (List Char × List Char)
  | [] => none
  | c :: rest =>
      if nesting depth c = 0 then some ([], rest)
      else (splitKey? (nesting depth c) rest).map fun (key, rest) => (c :: key, rest)

def setFlag (directive : Directive) (flag : Char) : Directive :=
  if flag = '-' then { directive with leftAligned := true }
  else if flag = '+' then { directive with plusSign := true }
  else if flag = ' ' then { directive with blankSign := true }
  else if flag = '#' then { directive with alternate := true }
  else { directive with zeroFilled := true }

def isFlag (c : Char) : Bool := "-+ #0".toList.contains c

def takeInteger (arguments : Arguments) : Except TemplateFault (Int × Arguments) := do
  match (← arguments.next) with
  | (.int value, arguments) => return (value, arguments)
  | (.bool value, arguments) => return (value.toInt, arguments)
  | _ => throw .widthNotInteger

def splitNumber (text : List Char) : Option Nat × List Char :=
  let digits := text.takeWhile Char.isDigit
  (if digits.isEmpty then none
    else some (Number.ofDigits 10 (digits.map fun c => c.toNat - 0x30)),
    text.dropWhile Char.isDigit)

def maxWidth : Nat := Nat.pow 2 63 - 1

def maxPrecision : Nat := Nat.pow 2 31 - 1

/-- Whether an integer is one of those that a given number of bits, among them a sign,
can hold. The least has no opposite among them. -/
def fitsBits (bits : Nat) (value : Int) : Bool :=
  -Nat.pow 2 (bits - 1) ≤ value && value < Nat.pow 2 (bits - 1)

def setWidth (directive : Directive) (width : Option Nat) : Except TemplateFault Directive :=
  if maxWidth < width.getD 0 then .error .widthTooLarge else .ok { directive with width }

def setPrecision (directive : Directive) (precision : Nat) : Except TemplateFault Directive :=
  if maxPrecision < precision then .error .precisionTooLarge
  else .ok { directive with precision := some precision }

/-- Sets the width to an argument. A negative one aligns to the left, and one without an
opposite has no other effect. -/
def setWidthArgument (directive : Directive) (width : Int) : Except TemplateFault Directive :=
  if fitsBits 64 width then
    .ok { directive with
      leftAligned := directive.leftAligned || width < 0
      width := some (if width.natAbs ≤ maxWidth then width.natAbs else 0) }
  else .error .widthArgumentTooLarge

/-- Sets the precision to an argument. A negative one counts as zero. -/
def setPrecisionArgument (directive : Directive) (precision : Int) :
    Except TemplateFault Directive :=
  if fitsBits 32 precision then .ok { directive with precision := some precision.toNat }
  else .error .precisionArgumentTooLarge

/-- Reads the width, which may be taken from the arguments. -/
def readWidth (directive : Directive) (arguments : Arguments) :
    List Char → Except TemplateFault (Directive × Arguments × List Char)
  | '*' :: rest => do
      let (width, arguments) ← takeInteger arguments
      return (← directive.setWidthArgument width, arguments, rest)
  | text => do
      let (width, rest) := splitNumber text
      return (← directive.setWidth width, arguments, rest)

/-- Reads the precision, if there is one. A point alone means zero. -/
def readPrecision (directive : Directive) (arguments : Arguments) :
    List Char → Except TemplateFault (Directive × Arguments × List Char)
  | '.' :: '*' :: rest => do
      let (precision, arguments) ← takeInteger arguments
      return (← directive.setPrecisionArgument precision, arguments, rest)
  | '.' :: text => do
      let (precision, rest) := splitNumber text
      return (← directive.setPrecision (precision.getD 0), arguments, rest)
  | text => .ok (directive, arguments, text)

def dropSizeMark : List Char → List Char
  | [] => []
  | c :: rest => if "hlL".toList.contains c then rest else c :: rest

def readKey (arguments : Arguments) : List Char → Except TemplateFault (Arguments × List Char)
  | '(' :: rest =>
      if arguments.mapping.isNone then .error .notMapping
      else
        match splitKey? 1 rest with
        | none => .error .incompleteKey
        | some (key, rest) => do
            let arguments ← arguments.select (String.ofList key)
            return (arguments, rest)
  | text => .ok (arguments, text)

def read (arguments : Arguments) (text : List Char) :
    Except TemplateFault (Directive × Arguments × List Char) := do
  let (arguments, text) ← readKey arguments text
  let flagged := (text.takeWhile isFlag).foldl setFlag { }
  let (wide, arguments, text) ← readWidth flagged arguments (text.dropWhile isFlag)
  let (precise, arguments, text) ← readPrecision wide arguments text
  match dropSizeMark text with
  | conversion :: rest => return ({ precise with conversion }, arguments, rest)
  | [] => throw .incomplete

end Directive

end PagedListing.Log
