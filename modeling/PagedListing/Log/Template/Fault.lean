import PagedListing.Failure

set_option autoImplicit false

/-!
# Faults of message templates

Why a template cannot be filled with its arguments.
-/

namespace PagedListing.Log

inductive TemplateFault where
  | tooFewArguments
  | tooManyArguments
  | notMapping
  | unknownKey (key : String)
  | incompleteKey
  | incomplete
  | widthNotInteger
  | widthTooLarge
  | precisionTooLarge
  | widthArgumentTooLarge
  | precisionArgumentTooLarge
  | tooManyDigits
  | tooWide
  | integerRequired (conversion : Char) (argument : Value)
  | numberRequired (conversion : Char) (argument : Value)
  | fractionRequired (argument : Value)
  | characterRequired
  | characterOutOfRange
  | unknownConversion (conversion : Char) (position : Nat)
  | integerTooLong
  | integerTooLarge
  | infiniteInteger
deriving Repr

namespace TemplateFault

def shown (conversion : Char) : Char :=
  if 31 ≤ conversion.toNat ∧ conversion.toNat ≤ 126 then conversion else '?'

def message : TemplateFault → String
  | .tooFewArguments => "not enough arguments for format string"
  | .tooManyArguments => "not all arguments converted during string formatting"
  | .notMapping => "format requires a mapping"
  | .unknownKey key => String.ofList (Text.quoted key.toList)
  | .incompleteKey => "incomplete format key"
  | .incomplete => "incomplete format"
  | .widthNotInteger => "* wants int"
  | .widthTooLarge => "width too big"
  | .precisionTooLarge => "precision too big"
  | .widthArgumentTooLarge => "Python int too large to convert to C ssize_t"
  | .precisionArgumentTooLarge => "Python int too large to convert to C int"
  | .tooManyDigits => "precision too large"
  | .tooWide => ""
  | .integerRequired conversion argument =>
      "%" ++ String.singleton conversion ++ " format: an integer is required, not " ++
        argument.kindName
  | .numberRequired conversion argument =>
      "%" ++ String.singleton conversion ++ " format: a real number is required, not " ++
        argument.kindName
  | .fractionRequired argument => "must be real number, not " ++ argument.kindName
  | .characterRequired => "%c requires int or char"
  | .characterOutOfRange => "%c arg not in range(0x110000)"
  | .unknownConversion conversion position =>
      "unsupported format character '" ++ String.singleton (shown conversion) ++ "' (0x" ++
        String.ofList (Nat.toDigits 16 conversion.toNat) ++ ") at index " ++ position.repr
  | .integerTooLong => Number.tooLongToWrite
  | .integerTooLarge => "int too large to convert to float"
  | .infiniteInteger => "cannot convert float infinity to integer"

def kind : TemplateFault → FailureKind
  | .tooFewArguments | .tooManyArguments | .notMapping | .widthNotInteger
  | .integerRequired _ _ | .numberRequired _ _ | .fractionRequired _
  | .characterRequired => .invalidType
  | .unknownKey _ => .missingKey
  | .incompleteKey | .incomplete | .widthTooLarge | .precisionTooLarge
  | .unknownConversion _ _ | .integerTooLong => .invalidValue
  | .widthArgumentTooLarge | .precisionArgumentTooLarge | .tooManyDigits
  | .characterOutOfRange | .integerTooLarge | .infiniteInteger => .overflow
  | .tooWide => .memory

end TemplateFault

end PagedListing.Log
