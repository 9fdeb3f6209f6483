import PagedListing.Text.LetterCase
import PagedListing.Validation.Integer

set_option autoImplicit false

/-!
# Submitted booleans

Booleans may be submitted as such, as the numbers zero and one, and as one of a few words.
-/

namespace PagedListing.Validation

def trueWords : List String := ["1", "t", "y", "on", "yes", "true"]

def falseWords : List String := ["0", "f", "n", "no", "off", "false"]

/-- Reads the text of a boolean. The case of ASCII letters does not count. -/
def readBooleanText (text : String) : Except IssueKind Bool :=
  let word := String.ofList (text.toList.map Char.toLower)
  if word ∈ trueWords then .ok true
  else if word ∈ falseWords then .ok false
  else .error .unreadableBoolean

def readBooleanNumber (value : Int) : Except IssueKind Bool :=
  if value = 0 then .ok false
  else if value = 1 then .ok true
  else if isInt64 value then .error .unreadableBoolean
  else .error .notBoolean

def readBoolean : Value → Except IssueKind Bool
  | .bool value => .ok value
  | .text value => readBooleanText value
  | .int value => readBooleanNumber value
  | .decimal value =>
      match readInteger (.decimal value) with
      | .ok number => readBooleanNumber number
      | .error _ => .error .notBoolean
  | _ => .error .notBoolean

end PagedListing.Validation
