import Mathlib.Data.List.Nodup
import PagedListing.Proofs.Statement.Shift

set_option autoImplicit false

/-!
# Named marks and the numbers behind them

Naming a text leaves no numbered mark in it. Where the text had no named marks of its own, these
can be numbered again, so naming loses nothing.
-/

namespace PagedListing

open PagedListing.Statement PagedListing.Text

namespace Statement

def Unnamed (text : List Char) : Prop :=
  ∀ before digit after, text = before ++ ':' :: 'p' :: digit :: after → isDigit digit = false

theorem unnamed_tail {c : Char} {rest : List Char} (unnamed : Unnamed (c :: rest)) :
    Unnamed rest := by
  intro before digit after split
  exact unnamed (c :: before) digit after (by rw [split]; rfl)

theorem unmarked_nameMarks (text : List Char) : Unmarked (nameMarks text) := by
  rw [unmarked_iff]
  induction text with
  | nil => rfl
  | cons c rest ih =>
      by_cases mark : c = '$' ∧ startsWithDigit rest = true
      · rw [nameMarks, if_pos mark, marks_number_cons_of_ne (by decide),
          marks_number_cons_of_ne (by decide), ih]
      · rw [nameMarks, if_neg mark]
        by_cases dollar : c = '$'
        · have noDigit : ¬startsWithDigit (nameMarks rest) = true := by
            rw [startsWithDigit_nameMarks]
            exact fun digit => mark ⟨dollar, digit⟩
          rw [dollar, marks_number_cons, if_neg noDigit, ih]
        · rw [marks_number_cons_of_ne dollar, ih]

/-- Turns each sign of a named parameter in front of digits into a dollar sign. The digits are
taken as far as they go and stay as they are. -/
def numberNames : List Char → List Char
  | [] => []
  | c :: rest =>
      if c = ':' ∧ rest.head? = some 'p' ∧ startsWithDigit rest.tail = true then
        '$' :: (rest.tail.takeWhile isDigit ++ numberNames (rest.tail.dropWhile isDigit))
      else c :: numberNames rest
termination_by text => text.length
decreasing_by
  · exact Nat.lt_succ_of_le
      ((List.dropWhile_sublist _).trans (List.tail_sublist _)).length_le
  · exact Nat.lt_succ_self _

theorem numberNames_cons {c : Char} {rest : List Char}
    (noName : ¬(c = ':' ∧ rest.head? = some 'p' ∧ startsWithDigit rest.tail = true)) :
    numberNames (c :: rest) = c :: numberNames rest := by
  rw [numberNames, if_neg noName]

theorem takeWhile_append_numberNames (text : List Char) :
    text.takeWhile isDigit ++ numberNames (text.dropWhile isDigit) = numberNames text := by
  induction text with
  | nil => rfl
  | cons c rest ih =>
      cases digit : isDigit c with
      | false => simp [digit]
      | true =>
          have noName : ¬(c = ':' ∧ rest.head? = some 'p' ∧ startsWithDigit rest.tail = true) := by
            rintro ⟨rfl, -⟩
            exact absurd digit (by decide)
          rw [List.takeWhile_cons_of_pos digit, List.dropWhile_cons_of_pos digit,
            numberNames_cons noName, List.cons_append, ih]

theorem numberNames_name {rest : List Char} (digit : startsWithDigit rest = true) :
    numberNames (':' :: 'p' :: rest) = '$' :: numberNames rest := by
  rw [numberNames, if_pos ⟨rfl, rfl, digit⟩, List.tail_cons, takeWhile_append_numberNames]

/-- Naming puts no named mark where there was none before, other than for a number. -/
theorem not_name_of_unnamed {c : Char} {rest : List Char} (unnamed : Unnamed (c :: rest)) :
    ¬(c = ':' ∧ (nameMarks rest).head? = some 'p' ∧
      startsWithDigit (nameMarks rest).tail = true) := by
  rintro ⟨rfl, first, digit⟩
  cases rest with
  | nil => cases first
  | cons d later =>
      by_cases mark : d = '$' ∧ startsWithDigit later = true
      · rw [nameMarks, if_pos mark] at first
        cases first
      · rw [nameMarks, if_neg mark] at first digit
        rw [List.tail_cons, startsWithDigit_nameMarks] at digit
        cases first
        cases later with
        | nil => cases digit
        | cons e after =>
            have noDigit := unnamed [] e after rfl
            rw [startsWithDigit, noDigit] at digit
            cases digit

theorem numberNames_nameMarks {text : List Char} (unnamed : Unnamed text) :
    numberNames (nameMarks text) = text := by
  induction text with
  | nil => rw [nameMarks, numberNames]
  | cons c rest ih =>
      have back := ih (unnamed_tail unnamed)
      by_cases mark : c = '$' ∧ startsWithDigit rest = true
      · have digit : startsWithDigit (nameMarks rest) = true := by
          rw [startsWithDigit_nameMarks, mark.2]
        rw [nameMarks, if_pos mark, numberNames_name digit, back, mark.1]
      · rw [nameMarks, if_neg mark, numberNames_cons (not_name_of_unnamed unnamed), back]

theorem marks_eq_nil_of_append {sign before after : List Char}
    (none : marks sign (before ++ after) = []) : marks sign after = [] := by
  induction before with
  | nil => exact none
  | cons c rest ih =>
      rw [List.cons_append, marks] at none
      split at none
      · cases none
      · exact ih none

theorem unnamed_iff {text : List Char} : Unnamed text ↔ marks nameSign text = [] := by
  constructor
  · intro unnamed
    induction text with
    | nil => rfl
    | cons c rest ih =>
        have later := ih (unnamed_tail unnamed)
        have noName : ¬(nameSign.isPrefixOf (c :: rest) = true ∧
            startsWithDigit ((c :: rest).drop nameSign.length) = true) := by
          rintro ⟨sign, digit⟩
          obtain ⟨behind, split⟩ := List.isPrefixOf_iff_prefix.mp sign
          rw [← split, List.drop_left] at digit
          cases behind with
          | nil => cases digit
          | cons d after =>
              have noDigit := unnamed [] d after split.symm
              rw [startsWithDigit, noDigit] at digit
              cases digit
        rw [marks]
        exact (if_neg noName).trans later
  · rintro none before digit after rfl
    have here := marks_eq_nil_of_append none
    rw [marks_name_cons] at here
    cases value : isDigit digit with
    | false => rfl
    | true =>
        have digits : startsWithDigit (digit :: after) = true := value
        rw [if_pos digits] at here
        cases here

instance (text : List Char) : Decidable (Unnamed text) := decidable_of_iff _ unnamed_iff.symm

end Statement

def named (text : String) : String := String.ofList (nameMarks text.toList)

def numbered (text : String) : String := String.ofList (numberNames text.toList)

def parameterRun (first count : Nat) : List String :=
  (List.range' first count).map parameterName

theorem named_append (before : String) {after : String}
    (stop : startsWithDigit after.toList = false) :
    named (before ++ after) = named before ++ named after := by
  rw [named, String.toList_append, nameMarks_append _ stop, String.ofList_append]
  rfl

theorem named_named (text : String) : named (named text) = named text := by
  rw [named, named, String.toList_ofList, nameMarks_eq_self (unmarked_nameMarks _)]

theorem numbered_named {text : String} (unnamed : Unnamed text.toList) :
    numbered (named text) = text := by
  rw [numbered, named, String.toList_ofList, numberNames_nameMarks unnamed, String.ofList_toList]

theorem nameArguments_eq_zip (first : Nat) (arguments : List Value) :
    nameArguments first arguments = (parameterRun first arguments.length).zip arguments := by
  induction arguments generalizing first with
  | nil => rfl
  | cons value rest ih =>
      rw [nameArguments, ih, List.length_cons, parameterRun, parameterRun, List.range'_succ]
      rfl

theorem names_nameArguments (first : Nat) (arguments : List Value) :
    (nameArguments first arguments).map Prod.fst = parameterRun first arguments.length := by
  rw [nameArguments_eq_zip, List.map_fst_zip]
  simp [parameterRun]

theorem parameterName_inj {number other : Nat} (same : parameterName number = parameterName other) :
    number = other := by
  rw [parameterName, parameterName, String.append_right_inj] at same
  have written : digits number = digits other := congrArg String.toList same
  rw [← numberOf_digits number, written, numberOf_digits]

theorem nodup_parameterRun (first count : Nat) : (parameterRun first count).Nodup :=
  List.Nodup.map (fun _ _ same => parameterName_inj same) List.nodup_range'

/-- Binding leaves no numbered mark in a text, so it changes a text only once. From a bound text
that had no named marks the text comes back, so no two of them are bound alike. The arguments
stand under consecutive names, and no two under one. -/
theorem Query.bind_lossless (query : Query) :
    Unmarked query.bind.sql.toList ∧
    (∀ arguments, (Query.bind ⟨query.bind.sql, arguments⟩).sql = query.bind.sql) ∧
    (Unnamed query.sql.toList → numbered query.bind.sql = query.sql) ∧
    (∀ other : Query, Unnamed query.sql.toList → Unnamed other.sql.toList →
      query.bind.sql = other.bind.sql → query.sql = other.sql) ∧
    query.bind.parameters =
      (parameterRun 1 query.arguments.length).zip query.arguments ∧
    (query.bind.parameters.map Prod.fst).Nodup := by
  have bound (query : Query) : query.bind.sql = named query.sql := rfl
  simp only [bound]
  refine ⟨?_, fun _ => named_named query.sql, numbered_named, ?_, ?_, ?_⟩
  · rw [named, String.toList_ofList]
    exact unmarked_nameMarks query.sql.toList
  · intro other unnamed otherUnnamed same
    rw [← numbered_named unnamed, same, numbered_named otherUnnamed]
  · exact nameArguments_eq_zip 1 query.arguments
  · have names : query.bind.parameters.map Prod.fst = parameterRun 1 query.arguments.length :=
      names_nameArguments 1 query.arguments
    rw [names]
    exact nodup_parameterRun 1 query.arguments.length

def crowdedQuery : Query :=
  ⟨"SELECT '::p', $$1, $10$1, $٣ FROM t WHERE x :p$2y", [.text "a", .null]⟩

theorem Query.bind_lossless_crowdedQuery :
    crowdedQuery.bind.sql = "SELECT '::p', $:p1, :p10:p1, :p٣ FROM t WHERE x :p:p2y" ∧
    named crowdedQuery.bind.sql = crowdedQuery.bind.sql ∧
    Unnamed crowdedQuery.sql.toList ∧
    numbered crowdedQuery.bind.sql = crowdedQuery.sql ∧
    (∀ other : Query, Unnamed other.sql.toList → crowdedQuery.bind.sql = other.bind.sql →
      crowdedQuery.sql = other.sql) ∧
    crowdedQuery.bind.parameters = [("p1", .text "a"), ("p2", .null)] := by
  have unnamed : Unnamed crowdedQuery.sql.toList := by decide +kernel
  obtain ⟨-, again, back, apart, parameters, -⟩ := Query.bind_lossless crowdedQuery
  exact ⟨by decide +kernel, again [], unnamed, back unnamed,
    fun other otherUnnamed => apart other unnamed otherUnnamed, parameters⟩

end PagedListing
