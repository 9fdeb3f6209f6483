import PagedListing.Settings
import PagedListing.Text.WordCharacter

set_option autoImplicit false

/-!
# Database addresses

The parts of an address that decide how its connections are pooled: the name in front,
which must be there, and the port, which must be a number where there is one.
-/

namespace PagedListing

open PagedListing.Text

inductive DatabaseUrlFault where
  | nameless
  | unreadablePort (text : String) (reason : Number.ReadError)
deriving DecidableEq, Repr

def DatabaseUrlFault.message : DatabaseUrlFault → String
  | .nameless => "Could not parse SQLAlchemy URL from given URL string"
  | .unreadablePort text reason => reason.message text

namespace DatabaseUrl

def isNameChar (c : Char) : Bool := isWordCharacter c || c == '+'

/-- The name in front of an address, and what follows `://`. -/
def splitName? (url : List Char) : Option (List Char × List Char) :=
  let name := url.takeWhile isNameChar
  match name, url.dropWhile isNameChar with
  | _ :: _, ':' :: '/' :: '/' :: rest => some (name, rest)
  | _, _ => none

def afterLast? (mark : Char) (text : List Char) : Option (List Char) :=
  if mark ∈ text then some (text.reverse.takeWhile (· ≠ mark)).reverse else none

/-- What follows the user and password, which end in an at sign. A password may hold
anything but that sign. -/
def dropUser (text : List Char) : List Char :=
  let isUserChar := fun c => c ≠ ':' ∧ c ≠ '/'
  let user := text.takeWhile isUserChar
  match text.dropWhile isUserChar with
  | ':' :: rest =>
      match rest.dropWhile (· ≠ '@') with
      | _ :: host => host
      | [] => (afterLast? '@' user).elim text (· ++ ':' :: rest)
  | rest => (afterLast? '@' user).elim text (· ++ rest)

/-- What follows the host. A host in brackets may hold colons. -/
def dropHost (text : List Char) : List Char :=
  let plain := text.dropWhile fun c => c ≠ '/' ∧ c ≠ ':' ∧ c ≠ '?'
  match text with
  | '[' :: rest =>
      let inner := rest.takeWhile fun c => c ≠ '/' ∧ c ≠ '?'
      let outer := rest.dropWhile fun c => c ≠ '/' ∧ c ≠ '?'
      match afterLast? ']' inner with
      | some after => if inner.head? = some ']' ∧ inner.count ']' = 1 then plain else after ++ outer
      | none => plain
  | _ => plain

/-- The text of the port behind a name, if a colon announces one. It may be empty. -/
def port? (text : List Char) : Option (List Char) :=
  match dropHost (dropUser text) with
  | ':' :: rest => some (rest.takeWhile fun c => c ≠ '/' ∧ c ≠ '?')
  | _ => none

def checkPort : Option (List Char) → Except DatabaseUrlFault Unit
  | none => .ok ()
  | some port =>
      match Number.readInt (String.ofList port) with
      | .ok _ => .ok ()
      | .error reason => .error (.unreadablePort (String.ofList port) reason)

/-- The kind of database that an address names: what comes before a plus sign. -/
def backend (url : String) : Except DatabaseUrlFault String :=
  match splitName? url.toList with
  | none => .error .nameless
  | some (name, rest) =>
      (checkPort (port? rest)).map fun _ => String.ofList (name.takeWhile (· ≠ '+'))

def unpooled : String := "sqlite"

def pool? (settings : Settings) (url : String) : Except DatabaseUrlFault (Option PoolSettings) :=
  (backend url).map fun name => if name = unpooled then none else some settings.pool

end DatabaseUrl

end PagedListing
