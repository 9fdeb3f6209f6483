import Mathlib.Data.List.Basic
import PagedListing.Proofs.Query.Emission

set_option autoImplicit false

/-!
# Reading a query back

The conditions and the ordering can be read back from the text of a query and its arguments.
The readers below expect the marks that writing gives out, so a reader of one condition needs
the number that it starts from.
-/

namespace PagedListing

def isNameCharacter (c : Char) : Bool := c.isAlphanum || c == '_' || c == '.'

/-- A text of such characters. -/
def Legible (text : String) : Prop := ∀ c ∈ text.toList, isNameCharacter c = true

instance (text : String) : Decidable (Legible text) :=
  List.decidableBAll (fun c => isNameCharacter c = true) text.toList

namespace Decoding

def expect (word : String) (text : List Char) : Option (List Char) :=
  text.dropPrefix? word.toList

def readColumn (text : List Char) : String × List Char :=
  (String.ofList (text.takeWhile isNameCharacter), text.dropWhile isNameCharacter)

@[simp] theorem expect_append (word : String) (rest : List Char) :
    expect word (word.toList ++ rest) = some rest :=
  List.dropPrefix?_append_of_beq rest (beq_self_eq_true _)

theorem readColumn_append {column word : String} (legible : Legible column)
    (blank : word.toList.head? = some ' ') (rest : List Char) :
    readColumn (column.toList ++ (word.toList ++ rest)) = (column, word.toList ++ rest) := by
  obtain ⟨tail, split⟩ := List.head?_eq_some_iff.mp blank
  have stops : ¬isNameCharacter ' ' = true := by decide
  rw [readColumn, split, List.cons_append, List.takeWhile_append_of_pos legible,
    List.dropWhile_append_of_pos legible, List.takeWhile_cons_of_neg stops,
    List.dropWhile_cons_of_neg stops, List.append_nil, String.ofList_toList]

def searched : Value → String
  | .text pattern => String.ofList pattern.toList.tail.dropLast
  | _ => ""

@[simp] theorem searched_pattern (text : String) : searched (Condition.pattern text) = text := by
  simp [searched, Condition.pattern, String.toList_append]

def readMark (first : Nat) (arguments : List Value) (text : List Char) :
    Option (Value × List Value × List Char) := do
  let (value, more) ← arguments.head?.map fun value => (value, arguments.tail)
  let rest ← expect (placeholder first) text
  return (value, more, rest)

/-- Reads the marks of a list up to its closing parenthesis, with a value for each. The number of
a mark is known, so that no digit behind it can be taken for a part of it. -/
def readMarks (first : Nat) :
    List Value → List Char → Option (List Value × List Value × List Char)
  | [], _ => none
  | value :: more, text => do
      let after ← expect (placeholder first) text
      match expect ")" after, expect ", " after with
      | some rest, _ => return ([value], more, rest)
      | none, some rest =>
          let (values, left) ← readMarks (first + 1) more rest
          return (value :: values, left)
      | none, none => none

def readComparison (first : Nat) (text : List Char) : Option (String × List Char) := do
  let (column, compared) := readColumn text
  let marked ← expect " ILIKE " compared
  let after ← expect (placeholder first) marked
  return (column, after)

/-- Reads the comparisons of a search up to its closing parenthesis: the columns, and the
pattern of the last of them. -/
def readComparisons (first : Nat) :
    List Value → List Char → Option (List String × Value × List Value × List Char)
  | [], _ => none
  | value :: more, text => do
      let (column, after) ← readComparison first text
      match expect ")" after, expect " OR " after with
      | some rest, _ => return ([column], value, more, rest)
      | none, some rest =>
          let (columns, left) ← readComparisons (first + 1) more rest
          return (column :: columns, left)
      | none, none => none

def readComparand (first : Nat) (arguments : List Value) (column : String) (text : List Char) :
    Option (Condition × List Value × List Char) :=
  match expect " = " text, expect " ILIKE " text, expect " IN (" text with
  | some rest, _, _ =>
      (readMark first arguments rest).map fun (value, left) => (.equals column value, left)
  | _, some rest, _ =>
      (readMark first arguments rest).map fun (value, left) =>
        (.contains column (searched value), left)
  | _, _, some rest =>
      (readMarks first arguments rest).map fun (values, left) => (.oneOf column values, left)
  | none, none, none => none

/-- Reads one condition with its values, and gives what is left of the values and of the
text. -/
def readCondition (first : Nat) (arguments : List Value) (text : List Char) :
    Option (Condition × List Value × List Char) :=
  match expect "(" text with
  | some searches =>
      (readComparisons first arguments searches).map fun (columns, value, left) =>
        (.anyContains columns (searched value), left)
  | none => readComparand first arguments (readColumn text).1 (readColumn text).2

theorem readMark_append (first : Nat) (value : Value) (more : List Value) (rest : List Char) :
    readMark first (value :: more) ((placeholder first).toList ++ rest) =
      some (value, more, rest) := by
  simp [readMark]

theorem readMarks_last (first : Nat) (value : Value) (more : List Value) (rest : List Char) :
    readMarks first (value :: more) ((placeholder first).toList ++ (")".toList ++ rest)) =
      some ([value], more, rest) := by
  rw [readMarks, expect_append, Option.bind_eq_bind, Option.bind_some, expect_append]
  rfl

theorem readMarks_next (first : Nat) (value : Value) (more : List Value) (rest : List Char) :
    readMarks first (value :: more) ((placeholder first).toList ++ (", ".toList ++ rest)) =
      (readMarks (first + 1) more rest).map fun (values, left) => (value :: values, left) := by
  have unclosed : expect ")" (", ".toList ++ rest) = none := rfl
  rw [readMarks, expect_append, Option.bind_eq_bind, Option.bind_some, expect_append, unclosed]
  dsimp only
  cases readMarks (first + 1) more rest <;> rfl

theorem readMarks_append (first : Nat) (value : Value) (values more : List Value)
    (rest : List Char) :
    readMarks first (value :: (values ++ more))
        ((", ".intercalate (Condition.placeholders first (values.length + 1))).toList ++
          (")".toList ++ rest)) =
      some (value :: values, more, rest) := by
  induction values generalizing first value with
  | nil =>
      simp only [Condition.placeholders]
      exact readMarks_last first value more rest
  | cons next values ih =>
      rw [List.length_cons, Condition.placeholders, Condition.placeholders,
        String.intercalate_cons_cons, ← Condition.placeholders]
      simp only [String.toList_append, List.append_assoc, List.cons_append]
      rw [readMarks_next, ih (first + 1) next]
      rfl

theorem readComparison_append {column : String} (legible : Legible column) (first : Nat)
    (rest : List Char) :
    readComparison first ((column ++ " ILIKE " ++ placeholder first).toList ++ rest) =
      some (column, rest) := by
  have word : " ILIKE ".toList.head? = some ' ' := rfl
  rw [readComparison, String.append_assoc, String.toList_append, String.toList_append,
    List.append_assoc, List.append_assoc, readColumn_append legible word]
  simp only [expect_append, Option.bind_eq_bind, Option.bind_some]
  rfl

theorem readComparisons_last {column : String} (legible : Legible column) (first : Nat)
    (value : Value) (more : List Value) (rest : List Char) :
    readComparisons first (value :: more)
        ((column ++ " ILIKE " ++ placeholder first).toList ++ (")".toList ++ rest)) =
      some ([column], value, more, rest) := by
  rw [readComparisons, readComparison_append legible, Option.bind_eq_bind, Option.bind_some]
  dsimp only
  rw [expect_append]
  rfl

theorem readComparisons_next {column : String} (legible : Legible column) (first : Nat)
    (value : Value) (more : List Value) (rest : List Char) :
    readComparisons first (value :: more)
        ((column ++ " ILIKE " ++ placeholder first).toList ++ (" OR ".toList ++ rest)) =
      (readComparisons (first + 1) more rest).map
        fun (columns, left) => (column :: columns, left) := by
  have unclosed : expect ")" (" OR ".toList ++ rest) = none := rfl
  rw [readComparisons, readComparison_append legible, Option.bind_eq_bind, Option.bind_some]
  dsimp only
  rw [expect_append, unclosed]
  dsimp only
  cases readComparisons (first + 1) more rest <;> rfl

theorem readComparisons_append {column : String} {columns : List String}
    (legible : ∀ name ∈ column :: columns, Legible name) (first : Nat) (value : Value)
    (more : List Value) (rest : List Char) :
    readComparisons first (value :: (columns.map (fun _ => value) ++ more))
        ((" OR ".intercalate (Condition.comparisons first (column :: columns))).toList ++
          (")".toList ++ rest)) =
      some (column :: columns, value, more, rest) := by
  obtain ⟨head, tail⟩ := List.forall_mem_cons.mp legible
  induction columns generalizing first column with
  | nil => exact readComparisons_last head first value more rest
  | cons next columns ih =>
      obtain ⟨nextLegible, later⟩ := List.forall_mem_cons.mp tail
      rw [Condition.comparisons, Condition.comparisons, String.intercalate_cons_cons,
        ← Condition.comparisons, List.map_cons, String.toList_append, String.toList_append,
        List.append_assoc, List.append_assoc, List.cons_append, readComparisons_next head,
        ih tail (first + 1) nextLegible later]
      rfl

structure Readable (condition : Condition) : Prop where
  legible : ∀ column ∈ condition.columns, Legible column
  bound : condition.arguments ≠ []

theorem expect_parenthesis {column word : String} (legible : Legible column)
    (blank : word.toList.head? = some ' ') (rest : List Char) :
    expect "(" (column.toList ++ (word.toList ++ rest)) = none := by
  obtain ⟨tail, split⟩ := List.head?_eq_some_iff.mp blank
  cases letters : column.toList with
  | nil =>
      rw [split]
      rfl
  | cons c others =>
      have name : isNameCharacter c = true := legible c (by simp [letters])
      have other : c ≠ '(' := by
        rintro rfl
        cases name
      simp [expect, List.dropPrefix?, other]

theorem readCondition_column {column word : String} (legible : Legible column)
    (blank : word.toList.head? = some ' ') (first : Nat) (arguments : List Value)
    (rest : List Char) :
    readCondition first arguments (column.toList ++ (word.toList ++ rest)) =
      readComparand first arguments column (word.toList ++ rest) := by
  rw [readCondition, expect_parenthesis legible blank, readColumn_append legible blank]

theorem readCondition_append {condition : Condition} (readable : Readable condition)
    (first : Nat) (more : List Value) (rest : List Char) :
    readCondition first (condition.arguments ++ more) ((condition.render first).toList ++ rest) =
      some (condition, more, rest) := by
  obtain ⟨legible, bound⟩ := readable
  cases condition with
  | equals column value =>
      have name : Legible column := legible column List.mem_cons_self
      have blank : " = ".toList.head? = some ' ' := rfl
      rw [Condition.render, String.append_assoc, String.toList_append, String.toList_append,
        List.append_assoc, List.append_assoc, readCondition_column name blank, readComparand,
        expect_append]
      simp only [Condition.arguments, List.cons_append, List.nil_append, readMark_append]
      rfl
  | contains column text =>
      have name : Legible column := legible column List.mem_cons_self
      have blank : " ILIKE ".toList.head? = some ' ' := rfl
      have other (after : List Char) : expect " = " (" ILIKE ".toList ++ after) = none := rfl
      rw [Condition.render, String.append_assoc, String.toList_append, String.toList_append,
        List.append_assoc, List.append_assoc, readCondition_column name blank, readComparand,
        expect_append, other]
      simp only [Condition.arguments, List.cons_append, List.nil_append, readMark_append,
        Option.map_some, searched_pattern]
  | oneOf column values =>
      have name : Legible column := legible column List.mem_cons_self
      have blank : " IN (".toList.head? = some ' ' := rfl
      have notEquals (after : List Char) : expect " = " (" IN (".toList ++ after) = none := rfl
      have notLike (after : List Char) : expect " ILIKE " (" IN (".toList ++ after) = none := rfl
      cases values with
      | nil => exact absurd rfl bound
      | cons value values =>
          simp only [Condition.render, String.toList_append, List.append_assoc]
          rw [readCondition_column name blank, readComparand, expect_append, notEquals, notLike]
          simp only [Condition.arguments, List.cons_append, List.length_cons, readMarks_append,
            Option.map_some]
  | anyContains columns text =>
      cases columns with
      | nil => exact absurd rfl bound
      | cons column columns =>
          simp only [Condition.render, String.toList_append, List.append_assoc]
          rw [readCondition, expect_append]
          simp only [Condition.arguments, List.map_cons, List.cons_append,
            readComparisons_append legible, Option.map_some, searched_pattern]

/-- Two texts that begin with conditions under the same marks begin with the same one, if
their values do. -/
theorem render_append_injective {condition condition' : Condition}
    (readable : Readable condition) (readable' : Readable condition') {first : Nat}
    {more more' : List Value} {rest rest' : List Char}
    (values : condition.arguments ++ more = condition'.arguments ++ more')
    (texts : (condition.render first).toList ++ rest =
      (condition'.render first).toList ++ rest') :
    condition = condition' ∧ more = more' ∧ rest = rest' := by
  have one := readCondition_append readable first more rest
  have other := readCondition_append readable' first more' rest'
  rw [values, texts] at one
  obtain ⟨same, left⟩ := Prod.mk.inj (Option.some.inj (one.symm.trans other))
  exact ⟨same, Prod.mk.inj left⟩

theorem argumentsOf_eq_nil_iff {conditions : List Condition}
    (readable : ∀ condition ∈ conditions, Readable condition) :
    Condition.argumentsOf conditions = [] ↔ conditions = [] := by
  constructor
  · intro none
    refine List.eq_nil_iff_forall_not_mem.mpr fun condition member => ?_
    exact (readable condition member).bound (List.flatMap_eq_nil_iff.mp none condition member)
  · rintro rfl
    rfl

theorem toList_trail_cons (first : Nat) (condition : Condition) (rest : List Condition) :
    (Builder.trail first (condition :: rest)).toList =
      " AND ".toList ++ (condition.render first ++
        Builder.trail (first + condition.arguments.length) rest).toList := by
  rw [← Builder.intercalate_renderFrom_cons, ← String.toList_append]
  rfl

/-- Conditions and what follows them can be told apart by the values and the texts. -/
theorem trail_injective {conditions conditions' : List Condition}
    (readable : ∀ condition ∈ conditions, Readable condition)
    (readable' : ∀ condition ∈ conditions', Readable condition) {first : Nat}
    {ending ending' : List Char}
    (values : Condition.argumentsOf conditions = Condition.argumentsOf conditions')
    (texts : (Builder.trail first conditions).toList ++ ending =
      (Builder.trail first conditions').toList ++ ending') :
    conditions = conditions' ∧ ending = ending' := by
  induction conditions generalizing conditions' first with
  | nil =>
      obtain rfl := (argumentsOf_eq_nil_iff readable').mp values.symm
      exact ⟨rfl, texts⟩
  | cons condition rest ih =>
      cases conditions' with
      | nil => cases (argumentsOf_eq_nil_iff readable).mp values
      | cons condition' rest' =>
          obtain ⟨one, others⟩ := List.forall_mem_cons.mp readable
          obtain ⟨one', others'⟩ := List.forall_mem_cons.mp readable'
          rw [toList_trail_cons, toList_trail_cons, List.append_assoc, List.append_assoc] at texts
          have clauses := List.append_cancel_left texts
          rw [String.toList_append, String.toList_append, List.append_assoc,
            List.append_assoc] at clauses
          obtain ⟨rfl, more, left⟩ := render_append_injective one one' values clauses
          obtain ⟨rfl, same⟩ := ih others others' more left
          exact ⟨rfl, same⟩

def readTerm (text : List Char) : Option ((String × Bool) × List Char) :=
  let (column, after) := readColumn text
  match expect " ASC" after, expect " DESC" after with
  | some rest, _ => some ((column, false), rest)
  | none, some rest => some ((column, true), rest)
  | none, none => none

def ordered (projection : Projection) (sort : SortField) : String × Bool :=
  (projection.column sort.field, sort.descending)

theorem readTerm_append {projection : Projection} {sort : SortField}
    (legible : Legible (projection.column sort.field)) (rest : List Char) :
    readTerm ((Builder.orderTerm projection sort).toList ++ rest) =
      some (ordered projection sort, rest) := by
  have ascending : " ASC".toList.head? = some ' ' := rfl
  have descending : " DESC".toList.head? = some ' ' := rfl
  have other : expect " ASC" (" DESC".toList ++ rest) = none := rfl
  obtain ⟨field, direction⟩ := sort
  cases direction with
  | false =>
      have written : Builder.orderTerm projection ⟨field, false⟩ =
          projection.column field ++ " ASC" := String.append_assoc
      rw [written, String.toList_append, List.append_assoc, readTerm,
        readColumn_append legible ascending]
      dsimp only
      rw [expect_append]
      rfl
  | true =>
      have written : Builder.orderTerm projection ⟨field, true⟩ =
          projection.column field ++ " DESC" := String.append_assoc
      rw [written, String.toList_append, List.append_assoc, readTerm,
        readColumn_append legible descending]
      dsimp only
      rw [expect_append, other]
      rfl

def furtherTerms (projection : Projection) (sorts : List SortField) : List Char :=
  sorts.flatMap fun sort => ", ".toList ++ (Builder.orderTerm projection sort).toList

theorem toList_terms_cons (projection : Projection) (sort : SortField)
    (rest : List SortField) :
    (", ".intercalate ((sort :: rest).map (Builder.orderTerm projection))).toList =
      (Builder.orderTerm projection sort).toList ++ furtherTerms projection rest := by
  induction rest generalizing sort with
  | nil => simp [furtherTerms]
  | cons next later ih =>
      rw [List.map_cons, List.map_cons, String.intercalate_cons_cons, ← List.map_cons,
        String.toList_append, String.toList_append, ih next, furtherTerms, furtherTerms,
        List.flatMap_cons, List.append_assoc, List.append_assoc]

theorem term_append_injective {projection : Projection} {sort sort' : SortField}
    (legible : Legible (projection.column sort.field))
    (legible' : Legible (projection.column sort'.field)) {rest rest' : List Char}
    (texts : (Builder.orderTerm projection sort).toList ++ rest =
      (Builder.orderTerm projection sort').toList ++ rest') :
    ordered projection sort = ordered projection sort' ∧ rest = rest' := by
  have one := readTerm_append legible rest
  have other := readTerm_append legible' rest'
  rw [texts] at one
  exact Prod.mk.inj (Option.some.inj (one.symm.trans other))

theorem furtherTerms_injective {projection : Projection} {sorts sorts' : List SortField}
    (legible : ∀ sort ∈ sorts, Legible (projection.column sort.field))
    (legible' : ∀ sort ∈ sorts', Legible (projection.column sort.field))
    (texts : furtherTerms projection sorts = furtherTerms projection sorts') :
    sorts.map (ordered projection) = sorts'.map (ordered projection) := by
  induction sorts generalizing sorts' with
  | nil =>
      cases sorts' with
      | nil => rfl
      | cons sort' rest' => cases texts
  | cons sort rest ih =>
      cases sorts' with
      | nil => cases texts
      | cons sort' rest' =>
          obtain ⟨one, others⟩ := List.forall_mem_cons.mp legible
          obtain ⟨one', others'⟩ := List.forall_mem_cons.mp legible'
          rw [furtherTerms, furtherTerms, List.flatMap_cons, List.flatMap_cons,
            List.append_assoc, List.append_assoc] at texts
          obtain ⟨same, left⟩ := term_append_injective one one' (List.append_cancel_left texts)
          rw [List.map_cons, List.map_cons, same, ih others others' left]

end Decoding

namespace Builder

open Decoding

theorem toList_orderClause (builder : Builder) :
    builder.orderClause.toList =
      match builder.sort with
      | [] => []
      | sort :: rest =>
          " ORDER BY ".toList ++ ((orderTerm builder.projection sort).toList ++
            furtherTerms builder.projection rest) := by
  rw [orderClause]
  cases builder.sort with
  | nil => rfl
  | cons sort rest =>
      rw [List.isEmpty_cons, if_neg (by decide), String.toList_append, toList_terms_cons]

theorem toList_whereClause (builder : Builder) :
    builder.whereClause.toList =
      match builder.conditions with
      | [] => []
      | condition :: rest =>
          " WHERE ".toList ++
            (condition.render 1 ++ trail (1 + condition.arguments.length) rest).toList := by
  rw [whereClause]
  cases builder.conditions with
  | nil => rfl
  | cons condition rest =>
      rw [List.isEmpty_cons, if_neg (by decide), String.toList_append, Condition.conjunction,
        intercalate_renderFrom_cons]

theorem orderClause_injective {builder builder' : Builder}
    (projection : builder.projection = builder'.projection)
    (mentions : Mentions Legible builder) (mentions' : Mentions Legible builder')
    (texts : builder.orderClause.toList = builder'.orderClause.toList) :
    builder.sort.map (ordered builder.projection) =
      builder'.sort.map (ordered builder.projection) := by
  have legible := mentions.sort
  have legible' := mentions'.sort
  rw [toList_orderClause, toList_orderClause, ← projection] at texts
  rw [← projection] at legible'
  cases sorts : builder.sort with
  | nil =>
      cases sorts' : builder'.sort with
      | nil => rfl
      | cons sort' rest' =>
          rw [sorts, sorts'] at texts
          cases texts
  | cons sort rest =>
      cases sorts' : builder'.sort with
      | nil =>
          rw [sorts, sorts'] at texts
          cases texts
      | cons sort' rest' =>
          rw [sorts, sorts'] at texts
          rw [sorts] at legible
          rw [sorts'] at legible'
          obtain ⟨one, others⟩ := List.forall_mem_cons.mp legible
          obtain ⟨one', others'⟩ := List.forall_mem_cons.mp legible'
          obtain ⟨same, left⟩ := term_append_injective one one' (List.append_cancel_left texts)
          rw [List.map_cons, List.map_cons, same, furtherTerms_injective others others' left]

theorem whereClause_injective {builder builder' : Builder}
    (readable : ∀ condition ∈ builder.conditions, Readable condition)
    (readable' : ∀ condition ∈ builder'.conditions, Readable condition)
    (values : builder.arguments = builder'.arguments) {ending ending' : List Char}
    (texts : builder.whereClause.toList ++ ending = builder'.whereClause.toList ++ ending') :
    builder.conditions = builder'.conditions ∧ ending = ending' := by
  rw [toList_whereClause, toList_whereClause] at texts
  rw [arguments, arguments] at values
  suffices trails : (trail 1 builder.conditions).toList ++ ending =
      (trail 1 builder'.conditions).toList ++ ending' from
    trail_injective readable readable' values trails
  cases gathered : builder.conditions with
  | nil =>
      rw [gathered] at values texts
      have none := (argumentsOf_eq_nil_iff readable').mp values.symm
      rw [none] at texts ⊢
      exact texts
  | cons condition rest =>
      cases gathered' : builder'.conditions with
      | nil =>
          rw [gathered'] at values
          have none := (argumentsOf_eq_nil_iff readable).mp values
          rw [gathered] at none
          cases none
      | cons condition' rest' =>
          rw [gathered, gathered'] at texts
          dsimp only at texts
          rw [List.append_assoc, List.append_assoc] at texts
          rw [toList_trail_cons, toList_trail_cons, List.append_assoc, List.append_assoc,
            List.append_cancel_left texts]

theorem arguments_ne_nil_of_condition? {projection : Projection} {call : Refinement}
    {condition : Condition} (added : condition? projection call = some condition) :
    condition.arguments ≠ [] := by
  unfold condition? at added
  split at added
  · cases added
  · cases added
    exact List.cons_ne_nil _ _
  · split at added
    · cases added
    · cases added
      exact List.cons_ne_nil _ _
  · split at added
    · cases added
    case isFalse some =>
        cases added
        exact fun none => some (List.isEmpty_iff.mpr none)
  · split at added
    · cases added
    case isFalse searched =>
        cases added
        exact fun none => searched (.inr (by simpa [Condition.arguments] using none))
  · cases added

theorem readable_refineAll {projection : Projection} {defaultSort : List SortField}
    {calls : List Refinement}
    (mentions : Mentions Legible ((fresh projection defaultSort).refineAll calls)) :
    ∀ condition ∈ ((fresh projection defaultSort).refineAll calls).conditions,
      Readable condition := by
  intro condition member
  refine ⟨mentions.conditions condition member, ?_⟩
  rw [conditions_refineAll] at member
  rcases List.mem_append.mp member with before | gathered
  · exact absurd before List.not_mem_nil
  · obtain ⟨call, -, added⟩ := List.mem_filterMap.mp gathered
    exact arguments_ne_nil_of_condition? added

theorem gathered_of_all {builder builder' : Builder}
    (projection : builder.projection = builder'.projection)
    (mentions : Mentions Legible builder) (mentions' : Mentions Legible builder')
    (readable : ∀ condition ∈ builder.conditions, Readable condition)
    (readable' : ∀ condition ∈ builder'.conditions, Readable condition)
    (same : builder.all = builder'.all) :
    builder.conditions = builder'.conditions ∧
      builder.sort.map (ordered builder.projection) =
        builder'.sort.map (ordered builder.projection) := by
  have values : builder.arguments = builder'.arguments := congrArg Query.arguments same
  have selections : builder.selection = builder'.selection := by
    rw [selection, selection, projection]
  have texts := congrArg Query.sql same
  rw [sql_all, sql_all, ← selections, ← String.toList_inj] at texts
  simp only [String.toList_append, List.append_assoc] at texts
  obtain ⟨conditions, ordering⟩ :=
    whereClause_injective readable readable' values (List.append_cancel_left texts)
  exact ⟨conditions, orderClause_injective projection mentions mentions' ordering⟩

/-- A query tells what was gathered: builders of one projection that write the same query
have gathered the same conditions and order by the same columns in the same directions. -/
theorem all_injective {projection : Projection} {defaultSort defaultSort' : List SortField}
    {calls calls' : List Refinement}
    (legible : ∀ field ∈ defaultSort.map SortField.field ++ calls.flatMap Refinement.fields,
      Legible (projection.column field))
    (legible' : ∀ field ∈ defaultSort'.map SortField.field ++ calls'.flatMap Refinement.fields,
      Legible (projection.column field))
    (same : ((fresh projection defaultSort).refineAll calls).all =
      ((fresh projection defaultSort').refineAll calls').all) :
    ((fresh projection defaultSort).refineAll calls).conditions =
        ((fresh projection defaultSort').refineAll calls').conditions ∧
      ((fresh projection defaultSort).refineAll calls).sort.map (ordered projection) =
        ((fresh projection defaultSort').refineAll calls').sort.map (ordered projection) := by
  have mentions := Mentions.of_fields legible
  have mentions' := Mentions.of_fields legible'
  have kept : ((fresh projection defaultSort).refineAll calls).projection = projection :=
    projection_refineAll _ _
  have kept' : ((fresh projection defaultSort').refineAll calls').projection = projection :=
    projection_refineAll _ _
  have gathered := gathered_of_all (kept.trans kept'.symm) mentions mentions'
    (readable_refineAll mentions) (readable_refineAll mentions') same
  rwa [kept] at gathered

def wordTable : Projection where
  schema := "public"
  tableName := "words"
  shortName := "w"
  columns := [("In", "ILIKE"), ("Name", "name")]

theorem all_injective_words :
    let one := (fresh wordTable [⟨"Name", true⟩]).refineAll
      [.whereSearch none ["Name"], .whereIn "In" [.text "OR", .null]]
    let other := (fresh wordTable []).refineAll
      [.orderBy "In" false, .whereIn "w.ILIKE" [.text "OR", .null], .orderBy "Name" true]
    one.all = other.all ∧ one.conditions = other.conditions ∧
      one.sort.map (ordered wordTable) = other.sort.map (ordered wordTable) := by
  refine ⟨rfl, all_injective ?_ ?_ rfl⟩
  · decide
  · decide

end Builder

end PagedListing
