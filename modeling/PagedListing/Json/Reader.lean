import PagedListing.Json.Writer

set_option autoImplicit false

/-!
# Reading JSON

Accepts any JSON text, however it is spaced or escaped. A number with a point or an
exponent is kept as a decimal fraction, and the two infinities are read by name. A name
that is repeated in an object keeps its first place and its last value.
-/

namespace PagedListing.Json

open PagedListing.Text

def skipBlanks (text : List Char) : List Char :=
  text.dropWhile fun c => c = ' ' ∨ c = '\t' ∨ c = '\n' ∨ c = '\r'

def hexUnit? (a b c d : Char) : Option Nat := do
  return (((← hexValue? a) * 16 + (← hexValue? b)) * 16 + (← hexValue? c)) * 16 + (← hexValue? d)

def escapeUnit? (c : Char) : Option Nat :=
  if c = '"' ∨ c = '\\' ∨ c = '/' then some c.toNat
  else if c = 'n' then some 0x0A
  else if c = 'r' then some 0x0D
  else if c = 't' then some 0x09
  else if c = 'b' then some 0x08
  else if c = 'f' then some 0x0C
  else none

def consUnit (unit : Option Nat) (tail : Option (List Nat × List Char)) :
    Option (List Nat × List Char) :=
  match unit, tail with
  | some unit, some (units, rest) => some (unit :: units, rest)
  | _, _ => none

/-- The units of a text up to its closing quote, and what follows the quote. A plain
character is one unit, its code point. -/
def readUnits : List Char → Option (List Nat × List Char)
  | [] => none
  | '"' :: rest => some ([], rest)
  | '\\' :: 'u' :: a :: b :: c :: d :: rest => consUnit (hexUnit? a b c d) (readUnits rest)
  | '\\' :: c :: rest => consUnit (escapeUnit? c) (readUnits rest)
  | c :: rest => consUnit (some c.toNat) (readUnits rest)

/-- Joins surrogate pairs into characters; a surrogate that is alone is refused. -/
def joinUnits? : List Nat → Option (List Char)
  | [] => some []
  | high :: rest =>
      if 0xD800 ≤ high ∧ high < 0xDC00 then
        match rest with
        | low :: rest =>
            if 0xDC00 ≤ low ∧ low < 0xE000 then
              (joinUnits? rest).map
                (Char.ofNat (0x10000 + (high - 0xD800) * 0x400 + (low - 0xDC00)) :: ·)
            else none
        | [] => none
      else if 0xDC00 ≤ high ∧ high < 0xE000 then none
      else (joinUnits? rest).map (Char.ofNat high :: ·)

def readText? (text : List Char) : Option (List Char × List Char) :=
  match readUnits text with
  | some (units, rest) => (joinUnits? units).map (·, rest)
  | none => none

def asciiDigit (c : Char) : Nat := c.toNat - 0x30

def spanDigits (text : List Char) : List Char × List Char :=
  (text.takeWhile Char.isDigit, text.dropWhile Char.isDigit)

def digitsValue (digits : List Char) : Nat :=
  digits.foldl (fun number c => number * 10 + asciiDigit c) 0

/-- An optional exponent: its value, or `none` when there is no mark. -/
def readExponent (text : List Char) : Option (Int × List Char) :=
  match text with
  | mark :: rest =>
      if mark = 'e' ∨ mark = 'E' then
        let (negative, rest) := match rest with
          | '-' :: rest => (true, rest)
          | '+' :: rest => (false, rest)
          | rest => (false, rest)
        let (digits, rest) := spanDigits rest
        if digits.isEmpty then none
        else some (if negative then -(digitsValue digits : Int) else digitsValue digits, rest)
      else none
  | [] => none

def readNumber? (text : List Char) : Option (Value × List Char) :=
  let (negative, unsigned) := match text with
    | '-' :: rest => (true, rest)
    | rest => (false, rest)
  let (whole, afterWhole) := spanDigits unsigned
  if whole.isEmpty then none
  else
    let (fraction, afterFraction) := match afterWhole with
      | '.' :: rest => spanDigits rest
      | rest => ([], rest)
    let digits := digitsValue (whole ++ fraction)
    match readExponent afterFraction with
    | some (exponent, rest) =>
        some (.decimal ⟨negative, digits, exponent - fraction.length⟩, rest)
    | none =>
        if fraction.isEmpty then
          some (.int (if negative then -(digits : Int) else digits), afterFraction)
        else some (.decimal ⟨negative, digits, -(fraction.length : Int)⟩, afterFraction)

/-- Sets a field of a record, in its old place if it has one. -/
def putField (fields : Record) (name : String) (value : Value) : Record :=
  if fields.any (·.1 == name) then
    fields.map fun field => if field.1 == name then (name, value) else field
  else fields ++ [(name, value)]

mutual

/-- A value and what follows it. Each unit of fuel admits one more token. -/
def readValue : Nat → List Char → Option (Value × List Char)
  | 0, _ => none
  | fuel + 1, text =>
      match skipBlanks text with
      | 'n' :: 'u' :: 'l' :: 'l' :: rest => some (.null, rest)
      | 't' :: 'r' :: 'u' :: 'e' :: rest => some (.bool true, rest)
      | 'f' :: 'a' :: 'l' :: 's' :: 'e' :: rest => some (.bool false, rest)
      | 'I' :: 'n' :: 'f' :: 'i' :: 'n' :: 'i' :: 't' :: 'y' :: rest =>
          some (.decimal (Number.Decimal.infinite false), rest)
      | '-' :: 'I' :: 'n' :: 'f' :: 'i' :: 'n' :: 'i' :: 't' :: 'y' :: rest =>
          some (.decimal (Number.Decimal.infinite true), rest)
      | '"' :: rest =>
          (readText? rest).map fun (chars, rest) => (.text (String.ofList chars), rest)
      | '[' :: rest =>
          match skipBlanks rest with
          | ']' :: rest => some (.list [], rest)
          | rest => (readItems fuel rest).map fun (items, rest) => (.list items, rest)
      | '\x7b' :: rest =>
          match skipBlanks rest with
          | '\x7d' :: rest => some (.record [], rest)
          | rest =>
              (readFields fuel rest []).map fun (fields, rest) => (.record fields, rest)
      | rest => readNumber? rest

/-- The items of a list that has at least one, up to its closing bracket. -/
def readItems : Nat → List Char → Option (List Value × List Char)
  | 0, _ => none
  | fuel + 1, text =>
      match readValue fuel text with
      | none => none
      | some (item, rest) =>
          match skipBlanks rest with
          | ',' :: rest =>
              (readItems fuel rest).map fun (items, rest) => (item :: items, rest)
          | ']' :: rest => some ([item], rest)
          | _ => none

/-- The fields of a record that has at least one, up to its closing brace, added to
those read before. -/
def readFields : Nat → List Char → Record → Option (Record × List Char)
  | 0, _, _ => none
  | fuel + 1, text, before =>
      match skipBlanks text with
      | '"' :: rest =>
          match readText? rest with
          | none => none
          | some (name, rest) =>
              match skipBlanks rest with
              | ':' :: rest =>
                  match readValue fuel rest with
                  | none => none
                  | some (value, rest) =>
                      let fields := putField before (String.ofList name) value
                      match skipBlanks rest with
                      | ',' :: rest => readFields fuel rest fields
                      | '\x7d' :: rest => some (fields, rest)
                      | _ => none
              | _ => none
      | _ => none

end

def read? (text : String) : Option Value :=
  match readValue (text.length + 1) text.toList with
  | some (value, rest) => if (skipBlanks rest).isEmpty then some value else none
  | none => none

end PagedListing.Json
