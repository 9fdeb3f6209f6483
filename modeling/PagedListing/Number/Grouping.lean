set_option autoImplicit false

/-!
# Grouped digits

The digits of a number may be set in groups: a single underscore may stand between two
of them.
-/

namespace PagedListing.Number

def hasDoubleUnderscore : List Char → Bool
  | '_' :: '_' :: _ => true
  | _ :: rest => hasDoubleUnderscore rest
  | [] => false

/-- The digits without the underscores between them; `none` when an underscore stands at
an end or beside another. -/
def ungroup? (text : List Char) : Option (List Char) :=
  if text.head? = some '_' ∨ text.getLast? = some '_' ∨ hasDoubleUnderscore text = true then none
  else some (text.filter (· ≠ '_'))

/-- The number whose digits in a base are given, highest place first. -/
def ofDigits (base : Nat) (values : List Nat) : Nat :=
  values.foldl (fun number value => number * base + value) 0

theorem hasDoubleUnderscore_eq_false {text : List Char} (plain : '_' ∉ text) :
    hasDoubleUnderscore text = false := by
  induction text with
  | nil => rfl
  | cons c rest ih =>
      rw [List.mem_cons, not_or] at plain
      rw [hasDoubleUnderscore]
      · exact ih plain.2
      · rintro _ rfl
        exact absurd rfl plain.1

/-- Digits without underscores stay as they are. -/
theorem ungroup?_eq_some {text : List Char} (plain : '_' ∉ text) :
    ungroup? text = some text := by
  have first : text.head? ≠ some '_' := fun first => plain (List.mem_of_head? first)
  have last : text.getLast? ≠ some '_' := fun last => plain (List.mem_of_getLast? last)
  have others : ∀ c ∈ text, ¬c = '_' := fun c member equal => plain (equal ▸ member)
  simpa [ungroup?, first, last, hasDoubleUnderscore_eq_false plain] using others

end PagedListing.Number
