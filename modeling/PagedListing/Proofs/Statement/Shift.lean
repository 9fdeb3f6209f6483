import Mathlib.Data.List.TakeWhile
import PagedListing.Proofs.Number.Numeral
import PagedListing.Proofs.Statement.Marks

set_option autoImplicit false

/-!
# Raising the numbers of marks

Raising reads the digits behind a sign as far as they go and writes a higher number in their
place. Everything else in a text stays as it is, also where the new number has more digits than
the old one.
-/

namespace PagedListing

open PagedListing.Text

namespace Text

theorem dropWhile_isDigit_append (before : List Char) {after : List Char}
    (stop : Statement.startsWithDigit after = false) :
    (before ++ after).dropWhile isDigit = before.dropWhile isDigit ++ after := by
  induction before with
  | nil =>
      cases after with
      | nil => rfl
      | cons c rest =>
          have noDigit : isDigit c = false := stop
          simp [noDigit]
  | cons c rest ih =>
      cases digit : isDigit c <;> simp [digit, ih]

end Text

namespace Statement

/-- The number that decimal digits of any script stand for. -/
def numberOf (digits : List Char) : Nat := Number.ofDigits 10 (digits.filterMap digitValue?)

def raise (amount : Nat) : List Char → List Char
  | [] => []
  | c :: rest =>
      if c = '$' ∧ startsWithDigit rest = true then
        '$' :: (digits (numberOf (rest.takeWhile isDigit) + amount) ++
          raise amount (rest.dropWhile isDigit))
      else c :: raise amount rest
termination_by text => text.length
decreasing_by
  · exact Nat.lt_succ_of_le (List.dropWhile_sublist _).length_le
  · exact Nat.lt_succ_self _

variable {amount : Nat}

@[simp] theorem raise_nil : raise amount [] = [] := by rw [raise]

theorem raise_mark {rest : List Char} (digit : startsWithDigit rest = true) :
    raise amount ('$' :: rest) =
      '$' :: (digits (numberOf (rest.takeWhile isDigit) + amount) ++
        raise amount (rest.dropWhile isDigit)) := by
  rw [raise, if_pos ⟨rfl, digit⟩]

theorem raise_cons {c : Char} {rest : List Char}
    (noMark : ¬(c = '$' ∧ startsWithDigit rest = true)) :
    raise amount (c :: rest) = c :: raise amount rest := by
  rw [raise, if_neg noMark]

theorem numberOf_digits (number : Nat) : numberOf (digits number) = number := by
  have ascii : ∀ c ∈ digits number, c.isDigit = true := by
    rw [digits, Nat.toList_repr]
    exact fun c member => Nat.isDigit_of_mem_toDigits (by decide) (by decide) member
  rw [numberOf, Number.ofDigits_values ascii, digits, Nat.toList_repr]
  exact Nat.ofDigitChars_toDigits (by decide) (by decide)

/-- What starts with no digit is raised on its own. -/
theorem raise_append (before : List Char) {after : List Char}
    (stop : startsWithDigit after = false) :
    raise amount (before ++ after) = raise amount before ++ raise amount after := by
  have head (rest : List Char) : startsWithDigit (rest ++ after) = startsWithDigit rest := by
    cases rest with
    | nil => exact stop
    | cons => rfl
  fun_induction raise amount before with
  | case1 => rfl
  | case2 c rest mark ih =>
      obtain ⟨rfl, digit⟩ := mark
      rw [List.cons_append, raise_mark (by rw [head, digit]), takeWhile_isDigit_append rest stop,
        dropWhile_isDigit_append rest stop, ih]
      simp only [List.cons_append, List.append_assoc]
  | case3 c rest noMark ih =>
      rw [List.cons_append, raise_cons (by rwa [head]), ih]
      rfl

theorem raise_eq_self {text : List Char} (unmarked : Unmarked text) :
    raise amount text = text := by
  induction text with
  | nil => exact raise_nil
  | cons c rest ih =>
      have noMark : ¬(c = '$' ∧ startsWithDigit rest = true) := by
        rintro ⟨rfl, digit⟩
        cases rest with
        | nil => cases digit
        | cons d after =>
            have noDigit : isDigit d = false := unmarked [] d after rfl
            rw [startsWithDigit, noDigit] at digit
            cases digit
      rw [raise_cons noMark, ih (unmarked_tail unmarked)]

theorem raise_placeholder (number : Nat) :
    raise amount (placeholder number).toList = (placeholder (number + amount)).toList := by
  have shape (number : Nat) : (placeholder number).toList = '$' :: digits number := by
    simp [placeholder, digits]
  have whole : (digits number).takeWhile isDigit = digits number :=
    List.takeWhile_eq_self_iff.mpr fun _ member => isDigit_of_mem_digits member
  have none : (digits number).dropWhile isDigit = [] :=
    List.dropWhile_eq_nil_iff.mpr fun _ member => isDigit_of_mem_digits member
  rw [shape, raise_mark (startsWithDigit_digits number), whole, none, numberOf_digits, raise_nil,
    List.append_nil, shape]

theorem raise_append_of_not_mem {before : List Char} (absent : '$' ∉ before)
    (after : List Char) : raise amount (before ++ after) = before ++ raise amount after := by
  induction before with
  | nil => rfl
  | cons c rest ih =>
      simp only [List.mem_cons, not_or] at absent
      rw [List.cons_append, raise_cons fun mark => absent.1 mark.1.symm, ih absent.2]
      rfl

theorem raise_append_separator (before : List Char) {separator : List Char}
    (separates : Separates separator) (after : List Char) :
    raise amount (before ++ (separator ++ after)) =
      raise amount before ++ (separator ++ raise amount after) := by
  obtain ⟨nonempty, noSign, noDigit⟩ := separates
  have stop : startsWithDigit (separator ++ after) = false := by
    rw [startsWithDigit_append nonempty, noDigit]
  rw [raise_append before stop, raise_append_of_not_mem noSign]

theorem raise_intercalate {separator : List Char} (separates : Separates separator)
    (parts : List (List Char)) :
    raise amount (separator.intercalate parts) =
      separator.intercalate (parts.map (raise amount)) := by
  induction parts with
  | nil => exact raise_nil
  | cons part rest ih =>
      cases rest with
      | nil => simp
      | cons next later =>
          rw [List.intercalate_cons_cons, List.append_assoc, raise_append_separator _ separates,
            ih]
          simp only [List.map_cons, List.intercalate_cons_cons, List.append_assoc]

end Statement

end PagedListing
