import PagedListing.Text.CodePoint
import PagedListing.Value

set_option autoImplicit false

/-!
# Writing JSON

One line of visible ASCII: every other character of a text is escaped, those beyond
U+FFFF as a pair of surrogates. A space follows each comma and each colon.
-/

namespace PagedListing.Json

open PagedListing.Text

/-- The 16-bit units of a character: one, or a surrogate pair beyond U+FFFF. -/
def units16 (c : Char) : List Nat :=
  if c.toNat < 0x10000 then [c.toNat]
  else
    let offset := c.toNat - 0x10000
    [0xD800 + offset / 0x400, 0xDC00 + offset % 0x400]

def escape (c : Char) : List Char :=
  if c = '"' then ['\\', '"']
  else if c = '\\' then ['\\', '\\']
  else if 0x20 ≤ c.toNat ∧ c.toNat ≤ 0x7E then [c]
  else if c = '\n' then ['\\', 'n']
  else if c = '\r' then ['\\', 'r']
  else if c = '\t' then ['\\', 't']
  else if c = '\x08' then ['\\', 'b']
  else if c = '\x0c' then ['\\', 'f']
  else (units16 c).flatMap fun unit => '\\' :: 'u' :: hexFixed 4 unit

def writeText (text : List Char) : List Char :=
  '"' :: text.flatMap escape ++ ['"']

/-- A code point inside a JSON text. A surrogate that is no part of a pair is escaped by
itself. -/
def escapeCodePoint (code : CodePoint) : List Char :=
  if code.isValidChar then escape (Char.ofNat code) else '\\' :: 'u' :: hexFixed 4 code

def writeCodePoints (codes : List CodePoint) : List Char :=
  '"' :: codes.flatMap escapeCodePoint ++ ['"']

def writeObject (fields : List (String × List Char)) : List Char :=
  '\x7b' :: [',', ' '].intercalate
    (fields.map fun field => writeText field.1.toList ++ ':' :: ' ' :: field.2) ++ ['\x7d']

/-- A decimal fraction, always with an exponent; one that is too large for a double is
written as infinity. -/
def writeDecimal (value : Number.Decimal) : List Char :=
  (if value.negative then ['-'] else []) ++
    if value.isInfinite then "Infinity".toList
    else value.digits.repr.toList ++ 'e' :: (Number.numeral value.exponent).toList

mutual

def write : Value → List Char
  | .null => "null".toList
  | .bool true => "true".toList
  | .bool false => "false".toList
  | .int value => (Number.numeral value).toList
  | .decimal value => writeDecimal value
  | .text value => writeText value.toList
  | .list items => '[' :: [',', ' '].intercalate (writeItems items) ++ [']']
  | .record fields => '\x7b' :: [',', ' '].intercalate (writeFields fields) ++ ['\x7d']

def writeItems : List Value → List (List Char)
  | [] => []
  | item :: rest => write item :: writeItems rest

def writeFields : List (String × Value) → List (List Char)
  | [] => []
  | (name, value) :: rest =>
      (writeText name.toList ++ ':' :: ' ' :: write value) :: writeFields rest

end

def render (value : Value) : String := String.ofList (write value)

theorem writeFields_eq_map (fields : Record) :
    writeFields fields =
      fields.map fun field => writeText field.1.toList ++ ':' :: ' ' :: write field.2 := by
  induction fields with
  | nil => rfl
  | cons field rest ih => rw [writeFields, ih, List.map_cons]

theorem write_record (fields : Record) :
    write (.record fields) = writeObject (fields.map fun field => (field.1, write field.2)) := by
  rw [write, writeFields_eq_map, writeObject, List.map_map]
  rfl

theorem escapeCodePoint_toNat (c : Char) : escapeCodePoint c.toNat = escape c := by
  have valid : c.toNat.isValidChar := c.valid
  rw [escapeCodePoint, if_pos valid, Char.ofNat_toNat]

/-- The code points of a text are written as the text is. -/
theorem writeCodePoints_codePoints (text : List Char) :
    writeCodePoints (codePoints text) = writeText text := by
  simp [writeCodePoints, codePoints, writeText, List.flatMap_map, escapeCodePoint_toNat]

end PagedListing.Json
