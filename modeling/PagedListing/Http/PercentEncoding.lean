import PagedListing.Text.Hex

set_option autoImplicit false

/-!
# Percent encoding

Characters that an address may not contain are written as their UTF-8 bytes, each a
percent sign and two hexadecimal digits.
-/

namespace PagedListing.Http

open PagedListing.Text

def encodeByte (byte : UInt8) : List Char :=
  '%' :: (hexFixed 2 byte.toNat).map Char.toUpper

def encodeChar (c : Char) : List Char := (String.utf8EncodeChar c).flatMap encodeByte

def isUnreserved (c : Char) : Bool := c.isAlphanum || "_.-~".toList.contains c

def isAddressChar (c : Char) : Bool :=
  isUnreserved c || ":/%#?=@[]!$&'()*+,;".toList.contains c

def encodeAddress (address : String) : String :=
  String.ofList <| address.toList.flatMap fun c =>
    if isAddressChar c then [c] else encodeChar c

/-- A path in which no character is taken for the start of a query or of a fragment. -/
def encodePath (path : String) : String :=
  String.ofList <| path.toList.flatMap fun c => if c = '?' ∨ c = '#' then encodeChar c else [c]

/-- A name or a value of a query, where a plus sign stands for a space. -/
def encodeComponent (text : String) : String :=
  String.ofList <| text.toList.flatMap fun c =>
    if isUnreserved c then [c] else if c = ' ' then ['+'] else encodeChar c

/-- The query of an address, with its question mark unless it is empty. -/
def encodeQuery (pairs : List (String × String)) : String :=
  if pairs.isEmpty then ""
  else "?" ++ "&".intercalate
    (pairs.map fun pair => encodeComponent pair.1 ++ "=" ++ encodeComponent pair.2)

end PagedListing.Http
