import PagedListing.Query.Statement

set_option autoImplicit false

/-!
# Marks in statement texts

A mark is a sign with a run of digits right behind it. Reading the marks of a text puts
no trust in how the text was written: the runs are taken as long as the text lets them be.
-/

namespace PagedListing

open PagedListing.Text

namespace Text

theorem isDigit_of_isDigit {c : Char} (ascii : c.isDigit = true) : isDigit c = true := by
  have bounds : 0x30 ≤ c.toNat ∧ c.toNat < 0x30 + 10 := by
    simp only [Char.isDigit, Bool.and_eq_true, decide_eq_true_eq] at ascii
    exact ⟨UInt32.le_iff_toNat_le.mp ascii.1,
      Nat.lt_succ_of_le (UInt32.le_iff_toNat_le.mp ascii.2)⟩
  simp [isDigit, digitValue?, digitZeros, bounds]

theorem isDigit_of_mem_repr {number : Nat} {c : Char} (member : c ∈ number.repr.toList) :
    isDigit c = true := by
  rw [Nat.toList_repr] at member
  exact isDigit_of_isDigit (Nat.isDigit_of_mem_toDigits (by decide) (by decide) member)

theorem ne_of_mem_repr {number : Nat} {c other : Char} (member : c ∈ number.repr.toList)
    (noDigit : isDigit other = false) : c ≠ other := by
  rintro rfl
  rw [isDigit_of_mem_repr member] at noDigit
  cases noDigit

end Text

namespace Statement

/-- The digits of every mark of a text, from left to right. -/
def marks (sign : List Char) : List Char → List (List Char)
  | [] => []
  | c :: rest =>
      let behind := (c :: rest).drop sign.length
      if sign.isPrefixOf (c :: rest) ∧ startsWithDigit behind = true then
        behind.takeWhile isDigit :: marks sign rest
      else marks sign rest

def numberSign : List Char := ['$']

def nameSign : List Char := [':', 'p']

/-- The text has no dollar sign right in front of a digit. -/
def Unmarked (text : List Char) : Prop :=
  ∀ before digit after, text = before ++ '$' :: digit :: after → isDigit digit = false

@[simp] theorem marks_nil (sign : List Char) : marks sign [] = [] := rfl

theorem marks_number_cons (rest : List Char) :
    marks numberSign ('$' :: rest) =
      if startsWithDigit rest = true then rest.takeWhile isDigit :: marks numberSign rest
      else marks numberSign rest := by
  simp [marks, numberSign]

theorem marks_number_cons_of_ne {c : Char} (other : c ≠ '$') (rest : List Char) :
    marks numberSign (c :: rest) = marks numberSign rest := by
  simp [marks, numberSign, other.symm]

theorem marks_name_cons (rest : List Char) :
    marks nameSign (':' :: 'p' :: rest) =
      if startsWithDigit rest = true then rest.takeWhile isDigit :: marks nameSign rest
      else marks nameSign rest := by
  simp [marks, nameSign]

theorem marks_name_cons_of_ne {c : Char} (other : c ≠ ':') (rest : List Char) :
    marks nameSign (c :: rest) = marks nameSign rest := by
  simp [marks, nameSign, other.symm]

theorem unmarked_tail {c : Char} {rest : List Char} (unmarked : Unmarked (c :: rest)) :
    Unmarked rest := by
  intro before digit after split
  exact unmarked (c :: before) digit after (by rw [split]; rfl)

theorem marks_eq_nil_of_unmarked {text : List Char} (unmarked : Unmarked text) :
    marks numberSign text = [] := by
  induction text with
  | nil => rfl
  | cons c rest ih =>
      have later := ih (unmarked_tail unmarked)
      by_cases dollar : c = '$'
      · subst dollar
        have noDigit : startsWithDigit rest = false := by
          cases rest with
          | nil => rfl
          | cons digit after => exact unmarked [] digit after rfl
        rw [marks_number_cons, if_neg (by simp [noDigit]), later]
      · rw [marks_number_cons_of_ne dollar, later]

theorem unmarked_of_not_mem {text : List Char} (absent : '$' ∉ text) : Unmarked text := by
  rintro before digit after rfl
  exact absurd (by simp) absent

theorem marks_eq_nil_of_not_mem {text : List Char} (absent : '$' ∉ text) :
    marks numberSign text = [] :=
  marks_eq_nil_of_unmarked (unmarked_of_not_mem absent)

/-!
## Marks of joined texts

A text that starts with no digit neither completes a lone sign in front of it nor prolongs
a run of digits, so the marks of the two parts are all there are.
-/

theorem startsWithDigit_append {before : List Char} (nonempty : before ≠ [])
    (after : List Char) : startsWithDigit (before ++ after) = startsWithDigit before := by
  cases before with
  | nil => exact absurd rfl nonempty
  | cons c rest => rfl

theorem takeWhile_isDigit_append (before : List Char) {after : List Char}
    (stop : startsWithDigit after = false) :
    (before ++ after).takeWhile isDigit = before.takeWhile isDigit := by
  induction before with
  | nil =>
      cases after with
      | nil => rfl
      | cons c rest =>
          have noDigit : isDigit c = false := stop
          simp [noDigit]
  | cons c rest ih =>
      cases digit : isDigit c <;> simp [digit, ih]

theorem marks_append (before : List Char) {after : List Char}
    (stop : startsWithDigit after = false) :
    marks numberSign (before ++ after) = marks numberSign before ++ marks numberSign after := by
  induction before with
  | nil => rfl
  | cons c rest ih =>
      by_cases dollar : c = '$'
      · subst dollar
        have head : startsWithDigit (rest ++ after) = startsWithDigit rest := by
          cases rest with
          | nil => exact stop
          | cons => rfl
        rw [List.cons_append, marks_number_cons, marks_number_cons, head,
          takeWhile_isDigit_append rest stop, ih]
        split <;> rfl
      · rw [List.cons_append, marks_number_cons_of_ne dollar, marks_number_cons_of_ne dollar, ih]

theorem unmarked_iff {text : List Char} : Unmarked text ↔ marks numberSign text = [] := by
  constructor
  · exact marks_eq_nil_of_unmarked
  · rintro none before digit after rfl
    have sign : startsWithDigit ('$' :: digit :: after) = false := rfl
    rw [marks_append before sign, List.append_eq_nil_iff, marks_number_cons] at none
    cases value : isDigit digit with
    | false => rfl
    | true =>
        have digits : startsWithDigit (digit :: after) = true := value
        rw [if_pos digits] at none
        cases none.2

instance (text : List Char) : Decidable (Unmarked text) :=
  decidable_of_iff _ unmarked_iff.symm

theorem marks_append_of_not_mem {before : List Char} (absent : '$' ∉ before)
    (after : List Char) : marks numberSign (before ++ after) = marks numberSign after := by
  induction before with
  | nil => rfl
  | cons c rest ih =>
      simp only [List.mem_cons, not_or] at absent
      rw [List.cons_append, marks_number_cons_of_ne (Ne.symm absent.1), ih absent.2]

/-- A text that can stand between two others without touching their marks. -/
def Separates (text : List Char) : Prop :=
  text ≠ [] ∧ '$' ∉ text ∧ startsWithDigit text = false

instance (text : List Char) : Decidable (Separates text) :=
  inferInstanceAs (Decidable (text ≠ [] ∧ '$' ∉ text ∧ startsWithDigit text = false))

theorem marks_append_separator (before : List Char) {separator : List Char}
    (separates : Separates separator) (after : List Char) :
    marks numberSign (before ++ (separator ++ after)) =
      marks numberSign before ++ marks numberSign after := by
  obtain ⟨nonempty, noSign, noDigit⟩ := separates
  have stop : startsWithDigit (separator ++ after) = false := by
    rw [startsWithDigit_append nonempty, noDigit]
  rw [marks_append before stop, marks_append_of_not_mem noSign]

theorem marks_intercalate {separator : List Char} (separates : Separates separator)
    (parts : List (List Char)) :
    marks numberSign (separator.intercalate parts) = parts.flatMap (marks numberSign) := by
  induction parts with
  | nil => rfl
  | cons part rest ih =>
      cases rest with
      | nil => simp
      | cons next later =>
          rw [List.intercalate_cons_cons, List.append_assoc, marks_append_separator _ separates,
            ih]
          rfl

def digits (number : Nat) : List Char := number.repr.toList

theorem isDigit_of_mem_digits {number : Nat} {c : Char} (member : c ∈ digits number) :
    isDigit c = true := isDigit_of_mem_repr member

theorem startsWithDigit_digits (number : Nat) : startsWithDigit (digits number) = true := by
  cases split : digits number with
  | nil =>
      have nonempty : digits number ≠ [] := by simp [digits, Nat.toList_repr]
      exact absurd split nonempty
  | cons c rest =>
      have member : c ∈ digits number := by rw [split]; exact List.mem_cons_self
      exact isDigit_of_mem_digits member

theorem marks_placeholder (number : Nat) :
    marks numberSign (placeholder number).toList = [digits number] := by
  have shape : (placeholder number).toList = '$' :: digits number := by
    simp [placeholder, digits]
  have whole : (digits number ++ []).takeWhile isDigit = digits number ++ [].takeWhile isDigit :=
    List.takeWhile_append_of_pos fun _ member => isDigit_of_mem_digits member
  have noSign : '$' ∉ digits number := fun member =>
    ne_of_mem_repr member (by decide) rfl
  simp only [List.append_nil, List.takeWhile_nil] at whole
  rw [shape, marks_number_cons, if_pos (startsWithDigit_digits number), whole,
    marks_eq_nil_of_not_mem noSign]

def run (first count : Nat) : List (List Char) := (List.range' first count).map digits

theorem run_append (first before after : Nat) :
    run first before ++ run (first + before) after = run first (before + after) := by
  simp [run, ← List.map_append]

/-!
## Marks of bound texts
-/

@[simp] theorem startsWithDigit_nameMarks (text : List Char) :
    startsWithDigit (nameMarks text) = startsWithDigit text := by
  cases text with
  | nil => rfl
  | cons c rest =>
      by_cases mark : c = '$' ∧ startsWithDigit rest = true
      · obtain ⟨rfl, digit⟩ := mark
        rw [nameMarks, if_pos ⟨rfl, digit⟩]
        rfl
      · rw [nameMarks, if_neg mark]
        rfl

theorem takeWhile_isDigit_nameMarks (text : List Char) :
    (nameMarks text).takeWhile isDigit = text.takeWhile isDigit := by
  induction text with
  | nil => rfl
  | cons c rest ih =>
      by_cases mark : c = '$' ∧ startsWithDigit rest = true
      · obtain ⟨rfl, digit⟩ := mark
        have colon : isDigit ':' = false := by decide
        have dollar : isDigit '$' = false := by decide
        rw [nameMarks, if_pos ⟨rfl, digit⟩]
        simp [colon, dollar]
      · rw [nameMarks, if_neg mark]
        cases digit : isDigit c <;> simp [digit, ih]

/-- Naming turns the numbered marks of a text into named ones of the same digits, in a
text that has no named marks of its own. -/
theorem marks_nameMarks {text : List Char} (unnamed : ':' ∉ text) :
    marks nameSign (nameMarks text) = marks numberSign text := by
  induction text with
  | nil => rfl
  | cons c rest ih =>
      simp only [List.mem_cons, not_or] at unnamed
      have later := ih unnamed.2
      by_cases dollar : c = '$'
      · subst dollar
        rw [marks_number_cons]
        by_cases digit : startsWithDigit rest = true
        · rw [nameMarks, if_pos ⟨rfl, digit⟩, marks_name_cons, startsWithDigit_nameMarks,
            if_pos digit, if_pos digit, takeWhile_isDigit_nameMarks, later]
        · have noMark : ¬('$' = '$' ∧ startsWithDigit rest = true) := fun mark => digit mark.2
          rw [nameMarks, if_neg noMark, if_neg digit, marks_name_cons_of_ne (by decide), later]
      · have noMark : ¬(c = '$' ∧ startsWithDigit rest = true) := fun mark => dollar mark.1
        rw [nameMarks, if_neg noMark, marks_name_cons_of_ne (Ne.symm unnamed.1),
          marks_number_cons_of_ne dollar, later]

theorem nameMarks_append (before : List Char) {after : List Char}
    (stop : startsWithDigit after = false) :
    nameMarks (before ++ after) = nameMarks before ++ nameMarks after := by
  induction before with
  | nil => rfl
  | cons c rest ih =>
      have head : startsWithDigit (rest ++ after) = startsWithDigit rest := by
        cases rest with
        | nil => exact stop
        | cons => rfl
      rw [List.cons_append, nameMarks, nameMarks, head, ih]
      split <;> rfl

theorem nameMarks_eq_self {text : List Char} (unmarked : Unmarked text) :
    nameMarks text = text := by
  induction text with
  | nil => rfl
  | cons c rest ih =>
      have noMark : ¬(c = '$' ∧ startsWithDigit rest = true) := by
        rintro ⟨rfl, digit⟩
        cases rest with
        | nil => cases digit
        | cons d after =>
            have noDigit := unmarked [] d after rfl
            simp only [startsWithDigit, noDigit] at digit
            cases digit
      rw [nameMarks, if_neg noMark, ih (unmarked_tail unmarked)]

end Statement

end PagedListing
