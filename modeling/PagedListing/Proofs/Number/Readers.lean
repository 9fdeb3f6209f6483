import PagedListing.Environment
import PagedListing.Proofs.Number.Spelling

set_option autoImplicit false

/-!
# Readers of integers

An integer may be asked for in a text, in a text that may be absent, or in a variable. The checks
in front of the common reader turn away no text that it reads.
-/

namespace PagedListing.Number

open PagedListing.Text

/-- Without a digit there is no integer, and no numeral that is too long. -/
theorem readInt_of_no_digit {text : String} (plain : ∀ c ∈ text.toList, isDigit c = false) :
    readInt text = .error .malformed := by
  unfold readInt
  simp only
  split
  case h_1 => rfl
  case h_2 digits grouped =>
    have none : digits = [] := by
      rw [ungroup?_eq_some_filter grouped, List.filter_eq_nil_iff]
      intro c member
      have inBody := (List.takeWhile_sublist _).mem member
      have inText := mem_of_mem_trim ((splitSign_suffix _).mem inBody)
      have either := List.mem_takeWhile_imp member
      rw [isGroupedDigit, plain c inText, Bool.or_false, beq_iff_eq] at either
      simpa using either
    rw [none, List.length_nil, if_neg (Nat.not_lt_zero maxDigits), if_pos (.inl rfl)]

theorem readInt_of_blank {text : String} (blank : strip text.toList = []) :
    readInt text = .error .malformed := by
  refine readInt_of_no_digit fun c member => ?_
  by_contra digit
  have solid := not_isBlank_of_digit (eq_true_of_ne_false digit)
  rw [trim_eq_nil_iff.mp blank c member] at solid
  cases solid

theorem optionalInt_some (text : String) : optionalInt (some text) = readInt? text := by
  rw [optionalInt]
  split
  case isTrue blank =>
    rw [readInt?, readInt_of_blank (List.isEmpty_iff.mp blank)]
    rfl
  case isFalse => rfl

theorem intOr_eq_getD (text : Option String) (fallback : Int) :
    intOr text fallback = (optionalInt text).getD fallback := by
  cases text with
  | none => rfl
  | some text => rw [intOr, optionalInt_some]

end PagedListing.Number

namespace PagedListing.Environment

open PagedListing.Number

theorem int?_eq_optionalInt (environment : Environment) (name : String) :
    environment.int? name = optionalInt (environment.get? name) := by
  rw [int?]
  cases environment.get? name with
  | none => rfl
  | some text =>
      rw [optionalInt_some]
      by_cases empty : text = ""
      · rw [empty, readInt?, readInt_of_blank (by decide)]
        rfl
      · exact if_neg empty

end PagedListing.Environment

namespace PagedListing.Number

open PagedListing.Text

/-- The three readers find the same integer in every text. Asking for a text that is not blank,
or not empty, turns away no text that is read. -/
theorem readers_agree :
    (∀ text fallback, intOr text fallback = (optionalInt text).getD fallback) ∧
    (∀ (environment : Environment) name,
      environment.int? name = optionalInt (environment.get? name)) ∧
    ∀ text, (∀ value, readInt text = .ok value ↔ optionalInt (some text) = some value) ∧
      (strip text.toList = [] → readInt text = .error .malformed) := by
  refine ⟨intOr_eq_getD, Environment.int?_eq_optionalInt, fun text => ⟨fun value => ?_, ?_⟩⟩
  · rw [optionalInt_some, readInt?]
    cases readInt text <;> simp [Except.toOption]
  · exact readInt_of_blank

def mixedText : String := "\t\u3000+1_\u0663\u00a0"

theorem readers_agree_mixedText :
    intOr (some mixedText) 7 = 13 ∧ Environment.int? [("SIZE", mixedText)] "SIZE" = some 13 ∧
    strip "\u2003\x1c".toList = [] ∧ readInt "\u2003\x1c" = .error .malformed := by
  obtain ⟨inText, inVariable, inEither⟩ := readers_agree
  have blank : strip "\u2003\x1c".toList = [] := by decide +kernel
  have read : optionalInt (some mixedText) = some 13 := by decide +kernel
  refine ⟨?_, ?_, blank, (inEither "\u2003\x1c").2 blank⟩
  · rw [inText, read, Option.getD_some]
  · rw [inVariable]
    exact read

end PagedListing.Number
