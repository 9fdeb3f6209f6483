import PagedListing.Number.Decimal
import PagedListing.Number.Numeral
import PagedListing.Number.Shortest
import PagedListing.Text.Quoted

set_option autoImplicit false

/-!
# Values

The values that are bound to statements, held by the cells of rows and sent in bodies.
A value also has a text: a text value is its own text, every other value is written as
a literal in which nested texts are quoted.
-/

namespace PagedListing

/-- A value of a statement argument, a row cell or a body. -/
inductive Value where
  | null
  | bool (value : Bool)
  | int (value : Int)
  | decimal (value : Number.Decimal)
  | text (value : String)
  | list (items : List Value)
  | record (fields : List (String × Value))
deriving Repr, Inhabited

abbrev Record := List (String × Value)

namespace Value

def get? (value : Value) (name : String) : Option Value :=
  match value with
  | .record fields => fields.lookup name
  | _ => none

/-- Whether a value counts as something: nulls, false, zeros and empty values do not. -/
def isPresent : Value → Bool
  | .null => false
  | .bool value => value
  | .int value => value != 0
  | .decimal value => !value.isZero
  | .text value => value != ""
  | .list items => !items.isEmpty
  | .record fields => !fields.isEmpty

def kindName : Value → String
  | .null => "NoneType"
  | .bool _ => "bool"
  | .int _ => "int"
  | .decimal _ => "float"
  | .text _ => "str"
  | .list _ => "list"
  | .record _ => "dict"

/-- The text of a decimal fraction is that of the nearest double. -/
def decimalText (value : Number.Decimal) : List Char :=
  match value.toDouble? with
  | some double => double.text
  | none => if value.negative then "-inf".toList else "inf".toList

mutual

/-- The literal of a value, unless it holds an integer that is too long to write. -/
def literal? : Value → Option (List Char)
  | .null => some "None".toList
  | .bool true => some "True".toList
  | .bool false => some "False".toList
  | .int value => (Number.numeral? value).map String.toList
  | .decimal value => some (decimalText value)
  | .text value => some (Text.quoted value.toList)
  | .list items =>
      (literals? items).map fun texts =>
        '[' :: [',', ' '].intercalate texts ++ [']']
  | .record fields =>
      (fieldLiterals? fields).map fun texts =>
        '\x7b' :: [',', ' '].intercalate texts ++ ['\x7d']

def literals? : List Value → Option (List (List Char))
  | [] => some []
  | item :: rest =>
      match literal? item, literals? rest with
      | some shown, some others => some (shown :: others)
      | _, _ => none

/-- The literals of the fields of a record, each after its quoted name. -/
def fieldLiterals? : List (String × Value) → Option (List (List Char))
  | [] => some []
  | (name, value) :: rest =>
      match literal? value, fieldLiterals? rest with
      | some shown, some others =>
          some ((Text.quoted name.toList ++ ':' :: ' ' :: shown) :: others)
      | _, _ => none

end

/-- The text of a value, unless it holds an integer that is too long to write. -/
def display? : Value → Option String
  | .text value => some value
  | value => (literal? value).map String.ofList

mutual

/-- Whether every number in a value can be written: no integer is too long, and no decimal
fraction too large. -/
def isWritable : Value → Bool
  | .int value => Number.isWritable value
  | .decimal value => value.toDouble?.isSome
  | .list items => allWritable items
  | .record fields => fieldsWritable fields
  | _ => true

def allWritable : List Value → Bool
  | [] => true
  | item :: rest => isWritable item && allWritable rest

def fieldsWritable : List (String × Value) → Bool
  | [] => true
  | (_, value) :: rest => isWritable value && fieldsWritable rest

end

end Value

end PagedListing
