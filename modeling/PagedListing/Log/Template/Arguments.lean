import PagedListing.Log.Template.Fault

set_option autoImplicit false

/-!
# Arguments of message templates

The values that fill a template: one after the other, or by name where the only argument
is a record with fields.
-/

namespace PagedListing.Log

/-- The values still to come, and the record whose fields may be named, if there is one. -/
structure Arguments where
  mapping : Option Record := none
  pending : List Value
deriving Repr

namespace Arguments

def ofList : List Value → Arguments
  | [.record (field :: rest)] =>
      { mapping := some (field :: rest), pending := [.record (field :: rest)] }
  | values => { pending := values }

def next (arguments : Arguments) : Except TemplateFault (Value × Arguments) :=
  match arguments.pending with
  | value :: rest => .ok (value, { arguments with pending := rest })
  | [] => .error .tooFewArguments

/-- Makes the value of a field the only one still to come. -/
def select (arguments : Arguments) (key : String) : Except TemplateFault Arguments :=
  match arguments.mapping with
  | none => .error .notMapping
  | some fields =>
      match fields.lookup key with
      | some value => .ok { arguments with pending := [value] }
      | none => .error (.unknownKey key)

/-- Refuses values that are left over, unless they can be named. -/
def finish (arguments : Arguments) : Except TemplateFault Unit :=
  if arguments.mapping.isNone ∧ arguments.pending ≠ [] then .error .tooManyArguments else .ok ()

end Arguments

end PagedListing.Log
