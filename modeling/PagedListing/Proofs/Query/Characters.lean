import PagedListing.Proofs.Query.Emission
import PagedListing.Proofs.Statement.Marks
import PagedListing.Proofs.Text.Joining

set_option autoImplicit false

/-!
# Characters of a query

A character that stands in no fixed word of a query, is no digit and stands in no column
stands nowhere in the query. The values cannot bring it in.
-/

namespace PagedListing

open PagedListing.Statement PagedListing.Text

def vocabulary : List Char :=
  " SELCTOUN(*)FRMWHADIKYB,.=$-".toList

/-- A character that only a projection or a field name can bring into a query. -/
def Foreign (c : Char) : Prop := isDigit c = false ∧ c ∉ vocabulary

instance (c : Char) : Decidable (Foreign c) :=
  inferInstanceAs (Decidable (isDigit c = false ∧ c ∉ vocabulary))

variable {c : Char}

theorem Foreign.not_mem (foreign : Foreign c) (word : String)
    (known : word.toList ⊆ vocabulary) : c ∉ word.toList :=
  fun member => foreign.2 (known member)

theorem Foreign.not_mem_repr (foreign : Foreign c) (number : Nat) : c ∉ number.repr.toList :=
  fun member => ne_of_mem_repr member foreign.1 rfl

theorem Foreign.not_mem_placeholder (foreign : Foreign c) (number : Nat) :
    c ∉ (placeholder number).toList := by
  rw [placeholder, String.toList_append, List.mem_append, not_or]
  exact ⟨foreign.not_mem "$" (by decide), foreign.not_mem_repr number⟩

theorem not_mem_append {before after : String} (first : c ∉ before.toList)
    (second : c ∉ after.toList) : c ∉ (before ++ after).toList := by
  rw [String.toList_append, List.mem_append, not_or]
  exact ⟨first, second⟩

theorem not_mem_intercalate {separator : String} {parts : List String}
    (outside : c ∉ separator.toList) (inside : ∀ part ∈ parts, c ∉ part.toList) :
    c ∉ (separator.intercalate parts).toList := by
  rw [String.toList_intercalate]
  intro member
  rcases mem_intercalate member with between | ⟨text, listed, inText⟩
  · exact outside between
  · obtain ⟨part, known, rfl⟩ := List.mem_map.mp listed
    exact inside part known inText

theorem not_mem_numeral (noDigit : isDigit c = false) (noMinus : c ≠ '-')
    (value : Int) : c ∉ (Number.numeral value).toList := by
  intro member
  unfold Number.numeral at member
  split at member
  · rw [String.toList_append, List.mem_append] at member
    rcases member with sign | inDigits
    · exact noMinus (by simpa using sign)
    · exact ne_of_mem_repr inDigits noDigit rfl
  · exact ne_of_mem_repr member noDigit rfl

namespace Condition

theorem not_mem_placeholders (foreign : Foreign c) (first count : Nat) :
    ∀ part ∈ placeholders first count, c ∉ part.toList := by
  induction count generalizing first with
  | zero => exact fun _ member => absurd member List.not_mem_nil
  | succ count ih =>
      intro part member
      rcases List.mem_cons.mp member with rfl | later
      · exact foreign.not_mem_placeholder first
      · exact ih (first + 1) part later

theorem not_mem_comparison (foreign : Foreign c) {column : String} (absent : c ∉ column.toList)
    (word : String) (known : word.toList ⊆ vocabulary) (number : Nat) :
    c ∉ (column ++ word ++ placeholder number).toList :=
  not_mem_append (not_mem_append absent (foreign.not_mem word known))
    (foreign.not_mem_placeholder number)

theorem not_mem_comparisons (foreign : Foreign c) (first : Nat) {columns : List String}
    (absent : ∀ column ∈ columns, c ∉ column.toList) :
    ∀ part ∈ comparisons first columns, c ∉ part.toList := by
  induction columns generalizing first with
  | nil => exact fun _ member => absurd member List.not_mem_nil
  | cons column rest ih =>
      intro part member
      rcases List.mem_cons.mp member with rfl | later
      · exact not_mem_comparison foreign (absent column List.mem_cons_self) _ (by decide) first
      · exact ih (first + 1) (fun other known => absent other (List.mem_cons_of_mem _ known)) part
          later

theorem not_mem_render (foreign : Foreign c) (first : Nat) {condition : Condition}
    (absent : ∀ column ∈ condition.columns, c ∉ column.toList) :
    c ∉ (condition.render first).toList := by
  cases condition with
  | equals column value =>
      exact not_mem_comparison foreign (absent column (List.mem_singleton_self _)) _ (by decide)
        first
  | contains column text =>
      exact not_mem_comparison foreign (absent column (List.mem_singleton_self _)) _ (by decide)
        first
  | oneOf column values =>
      have marks := not_mem_intercalate (foreign.not_mem ", " (by decide))
        (not_mem_placeholders foreign first values.length)
      exact not_mem_append (not_mem_append (not_mem_append
        (absent column (List.mem_singleton_self _)) (foreign.not_mem " IN (" (by decide))) marks)
        (foreign.not_mem ")" (by decide))
  | anyContains columns text =>
      have choices := not_mem_intercalate (foreign.not_mem " OR " (by decide))
        (not_mem_comparisons foreign first absent)
      exact not_mem_append (not_mem_append (foreign.not_mem "(" (by decide)) choices)
        (foreign.not_mem ")" (by decide))

theorem not_mem_renderFrom (foreign : Foreign c) (first : Nat) {conditions : List Condition}
    (absent : ∀ condition ∈ conditions, ∀ column ∈ condition.columns, c ∉ column.toList) :
    ∀ part ∈ renderFrom first conditions, c ∉ part.toList := by
  induction conditions generalizing first with
  | nil => exact fun _ member => absurd member List.not_mem_nil
  | cons condition rest ih =>
      intro part member
      rcases List.mem_cons.mp member with rfl | later
      · exact not_mem_render foreign first (absent condition List.mem_cons_self)
      · exact ih _ (fun other known => absent other (List.mem_cons_of_mem _ known)) part later

end Condition

namespace Builder

variable {builder : Builder}

theorem not_mem_whereClause (foreign : Foreign c)
    (mentions : Mentions (fun column => c ∉ column.toList) builder) :
    c ∉ builder.whereClause.toList := by
  unfold whereClause
  split
  · simp
  · exact not_mem_append (foreign.not_mem " WHERE " (by decide))
      (not_mem_intercalate (foreign.not_mem " AND " (by decide))
        (Condition.not_mem_renderFrom foreign 1 mentions.conditions))

theorem not_mem_orderClause (foreign : Foreign c)
    (mentions : Mentions (fun column => c ∉ column.toList) builder) :
    c ∉ builder.orderClause.toList := by
  unfold orderClause
  split
  · simp
  · refine not_mem_append (foreign.not_mem " ORDER BY " (by decide))
      (not_mem_intercalate (foreign.not_mem ", " (by decide)) fun term member => ?_)
    obtain ⟨sort, known, rfl⟩ := List.mem_map.mp member
    have direction : c ∉ sort.direction.toList := by
      unfold SortField.direction
      split
      · exact foreign.not_mem "DESC" (by decide)
      · exact foreign.not_mem "ASC" (by decide)
    exact not_mem_append (not_mem_append (mentions.sort sort known)
      (foreign.not_mem " " (by decide))) direction

theorem not_mem_window (noDigit : isDigit c = false) (noMinus : c ≠ '-')
    (noWord : c ∉ " LIMIT OFFSET ".toList) (page size : Int) : c ∉ (window page size).toList := by
  have limit := not_mem_numeral noDigit noMinus size
  have offset := not_mem_numeral noDigit noMinus ((page - 1) * size)
  simp only [window, String.toList_append, List.mem_append, not_or]
  simp_all

theorem not_mem_window_of_foreign (foreign : Foreign c) (page size : Int) :
    c ∉ (window page size).toList := by
  have noMinus : c ≠ '-' := by
    rintro rfl
    exact foreign.not_mem "-" (by decide) (by decide)
  exact not_mem_window foreign.1 noMinus (foreign.not_mem " LIMIT OFFSET " (by decide)) page size

end Builder

end PagedListing
