import PagedListing.Proofs.Query.Characters

set_option autoImplicit false

/-!
# Numbering of placeholders

Whatever calls a builder has seen, the placeholders of a query written from it read
`$1`, `$2` and so on up to the number of its arguments, and each stands in the clause of the
call that binds its argument.
-/

namespace PagedListing

open PagedListing.Statement PagedListing.Text

def placeholdersIn (text : String) : List String :=
  (marks numberSign text.toList).map fun digits => String.ofList (numberSign ++ digits)

def placeholderRun (first count : Nat) : List String :=
  (List.range' first count).map placeholder

theorem placeholdersIn_eq_run {text : String} {first count : Nat}
    (read : marks numberSign text.toList = run first count) :
    placeholdersIn text = placeholderRun first count := by
  rw [placeholdersIn, read, run, placeholderRun, List.map_map]
  refine List.map_congr_left fun number _ => ?_
  rw [← String.toList_inj]
  simp [numberSign, digits, placeholder]

/-- A text without marks of its own, as a query may take it up. -/
def Plain (text : String) : Prop := marks numberSign text.toList = []

theorem plain_of_unmarked {text : String} (unmarked : Unmarked text.toList) : Plain text :=
  marks_eq_nil_of_unmarked unmarked

theorem marks_joined (before : String) {separator : String}
    (separates : Separates separator.toList) (after : String) :
    marks numberSign (before ++ separator ++ after).toList =
      marks numberSign before.toList ++ marks numberSign after.toList := by
  rw [String.toList_append, String.toList_append, List.append_assoc,
    marks_append_separator _ separates]

theorem plain_join (separator : String) {before after : String}
    (separates : Separates separator.toList) (first : Plain before) (second : Plain after) :
    Plain (before ++ separator ++ after) := by
  rw [Plain, marks_joined before separates, first, second]
  rfl

theorem plain_empty : Plain "" := by simp [Plain]

theorem plain_intercalate {separator : String} (separates : Separates separator.toList)
    {parts : List String} (plain : ∀ part ∈ parts, Plain part) :
    Plain (separator.intercalate parts) := by
  unfold Plain
  rw [String.toList_intercalate, marks_intercalate separates, List.flatMap_map]
  exact List.flatMap_eq_nil_iff.mpr plain

namespace Condition

theorem marks_placeholders (first count : Nat) :
    ((placeholders first count).map String.toList).flatMap (marks numberSign) =
      run first count := by
  induction count generalizing first with
  | zero => rfl
  | succ count ih =>
      simp only [placeholders, List.map_cons, List.flatMap_cons, marks_placeholder, ih]
      exact run_append first 1 count |>.trans (by rw [Nat.add_comm])

theorem marks_comparison {column : String} (plain : Plain column) (number : Nat) :
    marks numberSign (column ++ " ILIKE " ++ placeholder number).toList = [digits number] := by
  rw [marks_joined column (by decide), plain, marks_placeholder]
  rfl

theorem marks_comparisons (first : Nat) {columns : List String}
    (plain : ∀ column ∈ columns, Plain column) :
    ((comparisons first columns).map String.toList).flatMap (marks numberSign) =
      run first columns.length := by
  induction columns generalizing first with
  | nil => rfl
  | cons column rest ih =>
      have head := marks_comparison (plain column List.mem_cons_self) first
      have tail := ih (first + 1) fun other member => plain other (List.mem_cons_of_mem _ member)
      simp only [comparisons, List.map_cons, List.flatMap_cons, head, tail]
      exact run_append first 1 rest.length |>.trans (by rw [Nat.add_comm]; rfl)

/-- The marks of a condition are numbered on from the first number, one for each argument. -/
theorem marks_render (first : Nat) {condition : Condition}
    (plain : ∀ column ∈ condition.columns, Plain column) :
    marks numberSign (condition.render first).toList = run first condition.arguments.length := by
  cases condition with
  | equals column value =>
      have noMarks : Plain column := plain column (List.mem_singleton_self _)
      rw [render, marks_joined column (by decide), noMarks, marks_placeholder]
      rfl
  | contains column text => exact marks_comparison (plain column (List.mem_singleton_self _)) first
  | oneOf column values =>
      have noMarks : Plain column := plain column (List.mem_singleton_self _)
      simp only [render, String.toList_append, String.toList_intercalate, List.append_assoc]
      rw [marks_append_separator _ (by decide), noMarks, marks_append _ (by decide),
        marks_intercalate (by decide), marks_placeholders]
      simp [arguments, marks, numberSign]
  | anyContains columns text =>
      simp only [render, String.toList_append, String.toList_intercalate, List.append_assoc]
      rw [marks_append_of_not_mem (by decide), marks_append _ (by decide),
        marks_intercalate (by decide)]
      have read : ((comparisons first columns).map String.toList).flatMap (marks numberSign) =
          run first columns.length := marks_comparisons first plain
      rw [read]
      simp [arguments, marks, numberSign]

theorem marks_renderFrom (first : Nat) {conditions : List Condition}
    (plain : ∀ condition ∈ conditions, ∀ column ∈ condition.columns, Plain column) :
    ((renderFrom first conditions).map String.toList).flatMap (marks numberSign) =
      run first (argumentsOf conditions).length := by
  induction conditions generalizing first with
  | nil => rfl
  | cons condition rest ih =>
      have head := marks_render first (plain condition List.mem_cons_self)
      have tail := ih (first + condition.arguments.length) fun other member =>
        plain other (List.mem_cons_of_mem _ member)
      simp only [renderFrom, List.map_cons, List.flatMap_cons, head, tail, run_append]
      simp [argumentsOf]

theorem marks_conjunction {conditions : List Condition}
    (plain : ∀ condition ∈ conditions, ∀ column ∈ condition.columns, Plain column) :
    marks numberSign (conjunction conditions).toList =
      run 1 (argumentsOf conditions).length := by
  rw [conjunction, String.toList_intercalate, marks_intercalate (by decide),
    marks_renderFrom 1 plain]

end Condition

namespace Projection

variable {projection : Projection}

theorem plain_qualify {column : String} (short : Plain projection.shortName)
    (plain : Plain column) : Plain (projection.qualify column) :=
  plain_join "." (by decide) short plain

theorem plain_table (texts : ∀ text ∈ projection.texts, Plain text) :
    Plain projection.table := by
  simp only [Projection.texts, List.mem_cons, forall_eq_or_imp] at texts
  obtain ⟨schema, tableName, short, -⟩ := texts
  have qualified := plain_join "." (by decide) schema tableName
  exact plain_join " " (by decide) qualified short

theorem plain_column (texts : ∀ text ∈ projection.texts, Plain text) {field : String}
    (plain : Plain field) : Plain (projection.column field) := by
  simp only [Projection.texts, List.mem_cons, forall_eq_or_imp] at texts
  obtain ⟨-, -, short, columns⟩ := texts
  unfold Projection.column
  split
  case h_1 column found =>
      have registered := mem_columns_of_lookup found
      exact plain_qualify short (columns column (List.mem_map_of_mem registered))
  case h_2 => exact plain

theorem plain_selectList (texts : ∀ text ∈ projection.texts, Plain text) :
    Plain projection.selectList := by
  simp only [Projection.texts, List.mem_cons, forall_eq_or_imp] at texts
  obtain ⟨-, -, short, columns⟩ := texts
  refine plain_intercalate (by decide) fun part member => ?_
  obtain ⟨entry, registered, rfl⟩ := List.mem_map.mp member
  exact plain_qualify short (columns entry.2 (List.mem_map_of_mem registered))

end Projection

namespace Builder

variable {builder : Builder}

theorem marks_join (before : String) {after : String}
    (stop : startsWithDigit after.toList = false) :
    marks numberSign (before ++ after).toList =
      marks numberSign before.toList ++ marks numberSign after.toList := by
  rw [String.toList_append, marks_append before.toList stop]

theorem stop_empty : startsWithDigit "".toList = false := by simp [startsWithDigit]

theorem stop_whereClause (builder : Builder) :
    startsWithDigit builder.whereClause.toList = false := by
  unfold whereClause
  split
  · rfl
  · rw [String.toList_append]
    rfl

theorem stop_orderClause (builder : Builder) :
    startsWithDigit builder.orderClause.toList = false := by
  unfold orderClause
  split
  · rfl
  · rw [String.toList_append]
    rfl

theorem marks_whereClause (mentions : Mentions Plain builder) :
    marks numberSign builder.whereClause.toList = run 1 builder.arguments.length := by
  unfold whereClause
  split
  case isTrue none =>
      rw [List.isEmpty_iff] at none
      simp [arguments, none, Condition.argumentsOf, run]
  case isFalse =>
      rw [String.toList_append, marks_append_of_not_mem (by decide),
        Condition.marks_conjunction mentions.conditions, arguments]

theorem plain_orderClause (mentions : Mentions Plain builder) : Plain builder.orderClause := by
  unfold orderClause
  split
  · rfl
  · have terms : Plain (", ".intercalate (builder.sort.map (orderTerm builder.projection))) := by
      refine plain_intercalate (by decide) fun term member => ?_
      obtain ⟨sort, known, rfl⟩ := List.mem_map.mp member
      have direction : Plain sort.direction := by
        unfold SortField.direction
        split <;> rfl
      exact plain_join " " (by decide) (mentions.sort sort known) direction
    rw [Plain, String.toList_append, marks_append_of_not_mem (by decide)]
    exact terms

theorem plain_selection (texts : ∀ text ∈ builder.projection.texts, Plain text) :
    Plain builder.selection := by
  have list : Plain ("SELECT " ++ builder.projection.selectList) := by
    rw [Plain, String.toList_append, marks_append_of_not_mem (by decide)]
    exact Projection.plain_selectList texts
  exact plain_join " FROM " (by decide) list (Projection.plain_table texts)

/-- What stands around the conditions in a query that has them. -/
structure Frame (builder : Builder) (query : Query) (head tail : String) : Prop where
  sql : query.sql = head ++ builder.whereClause ++ tail
  arguments : query.arguments = builder.arguments
  plain_head : Plain head
  plain_tail : Plain tail
  stop_tail : startsWithDigit tail.toList = false

theorem plain_window (page size : Int) : Plain (window page size) :=
  marks_eq_nil_of_not_mem (not_mem_window (by decide) (by decide) (by decide) page size)

theorem stop_window (page size : Int) : startsWithDigit (window page size).toList = false := by
  rw [window, String.append_assoc, String.append_assoc, String.toList_append]
  rfl

theorem plain_append {before after : String} (stop : startsWithDigit after.toList = false)
    (first : Plain before) (second : Plain after) : Plain (before ++ after) := by
  rw [Plain, marks_join before stop, first, second]
  rfl

theorem emit?_of_gathers (texts : ∀ text ∈ builder.projection.texts, Plain text)
    (mentions : Mentions Plain builder) {emission : Emission} (gathers : emission.Gathers)
    (printable : emission.Printable) :
    ∃ query head tail, builder.emit? emission = some query ∧ Frame builder query head tail := by
  have selection := plain_selection texts
  have order := plain_orderClause mentions
  cases emission with
  | count =>
      have head : Plain ("SELECT COUNT(*) FROM " ++ builder.projection.table) := by
        rw [Plain, String.toList_append, marks_append_of_not_mem (by decide)]
        exact Projection.plain_table texts
      have whole : builder.count.sql =
          "SELECT COUNT(*) FROM " ++ builder.projection.table ++ builder.whereClause ++ "" :=
        String.append_empty.symm
      exact ⟨builder.count, _, "", rfl, whole, rfl, head, plain_empty, stop_empty⟩
  | all =>
      exact ⟨builder.all, builder.selection, builder.orderClause, rfl, rfl, rfl, selection, order,
        stop_orderClause builder⟩
  | page number size =>
      refine ⟨_, builder.selection, builder.orderClause ++ window number size,
        page?_of_printable builder printable, by simp [all, String.append_assoc], rfl, selection,
        plain_append (stop_window number size) order (plain_window number size), ?_⟩
      have stop := stop_orderClause builder
      rw [String.toList_append]
      cases clause : builder.orderClause.toList with
      | nil => exact stop_window number size
      | cons c rest =>
          rw [clause] at stop
          exact stop
  | single field value => exact gathers.elim

/-- A clause stands in a text where its turn is: the placeholders in front of it are those
of the arguments that the builder had, its own follow on, one for each value of the call. -/
def ClauseStands (builder : Builder) (call : Refinement) (sql : String) : Prop :=
  match builder.clause? call with
  | none => call.bound = []
  | some clause =>
      ∃ head tail, sql = head ++ clause ++ tail ∧
        placeholdersIn head = placeholderRun 1 builder.arguments.length ∧
        placeholdersIn clause =
          placeholderRun (builder.arguments.length + 1) call.bound.length

theorem marks_lead {before : List Condition}
    (plain : ∀ condition ∈ before, ∀ column ∈ condition.columns, Plain column) :
    marks numberSign (lead before).toList = run 1 (Condition.argumentsOf before).length := by
  unfold lead
  split
  case isTrue none =>
      rw [List.isEmpty_iff] at none
      subst none
      exact marks_eq_nil_of_not_mem (by decide)
  case isFalse =>
      rw [marks_join _ (by decide), String.toList_append, marks_append_of_not_mem (by decide),
        Condition.marks_conjunction plain, marks_eq_nil_of_not_mem (by decide), List.append_nil]

theorem stop_lead (before : List Condition) : startsWithDigit (lead before).toList = false := by
  unfold lead
  split
  · rfl
  · rw [String.append_assoc, String.toList_append]
    rfl

theorem clauseStands_of_frame {start : Builder} {before after : List Refinement}
    {call : Refinement} {query : Query} {head tail : String}
    (mentions : Mentions Plain (start.refineAll (before ++ call :: after)))
    (frame : Frame (start.refineAll (before ++ call :: after)) query head tail) :
    ClauseStands (start.refineAll before) call query.sql := by
  have binds := arguments_condition? start.projection call
  unfold ClauseStands clause?
  rw [projection_refineAll]
  cases added : condition? start.projection call with
  | none => simpa [added, Condition.argumentsOf] using binds.symm
  | some condition =>
      have gathered := conditions_refineAll_split before after added
      have values : condition.arguments = call.bound := by
        simpa [added, Condition.argumentsOf] using binds
      have known := mentions.conditions
      rw [gathered] at known
      have leading : marks numberSign (head ++ lead (start.refineAll before).conditions).toList =
          run 1 (start.refineAll before).arguments.length := by
        rw [marks_join head (stop_lead _), frame.plain_head, marks_lead fun other member =>
          known other (List.mem_append_left _ member)]
        rfl
      have own := Condition.marks_render ((start.refineAll before).arguments.length + 1)
        (known condition (List.mem_append_right _ List.mem_cons_self))
      rw [values] at own
      refine ⟨head ++ lead (start.refineAll before).conditions,
        trail ((start.refineAll before).arguments.length + 1 + condition.arguments.length)
          (after.filterMap (condition? start.projection)) ++ tail, ?_,
        placeholdersIn_eq_run leading, placeholdersIn_eq_run own⟩
      rw [frame.sql, whereClause_split gathered]
      simp only [String.append_assoc, arguments]

theorem marks_of_frame {query : Query} {head tail : String}
    (mentions : Mentions Plain builder) (frame : Frame builder query head tail) :
    marks numberSign query.sql.toList = run 1 query.arguments.length := by
  rw [frame.sql, frame.arguments, marks_join _ frame.stop_tail, frame.plain_tail,
    marks_join _ (stop_whereClause builder), frame.plain_head, marks_whereClause mentions]
  simp

theorem marks_emit? (texts : ∀ text ∈ builder.projection.texts, Plain text)
    (mentions : Mentions Plain builder) {emission : Emission} (gathers : emission.Gathers)
    (printable : emission.Printable) {query : Query}
    (emitted : builder.emit? emission = some query) :
    marks numberSign query.sql.toList = run 1 query.arguments.length := by
  obtain ⟨other, head, tail, written, frame⟩ :=
    emit?_of_gathers texts mentions gathers printable
  have same : other = query := Option.some.inj (written.symm.trans emitted)
  subst same
  exact marks_of_frame mentions frame

theorem placeholdersIn_single {field : String} (value : Value)
    (texts : ∀ text ∈ builder.projection.texts, Plain text) (plain : Plain field) :
    placeholdersIn (builder.single field value).sql = placeholderRun 1 1 := by
  apply placeholdersIn_eq_run
  have column := plain_join " WHERE " (by decide) (plain_selection texts)
    (Projection.plain_column texts plain)
  rw [single, marks_joined _ (by decide), column, marks_placeholder]
  rfl

/-- The placeholders of a query, read from left to right, are the first numbers in order,
one for each argument, and every number stands in the clause of the call that binds the
argument under it. -/
theorem emit?_numbered (projection : Projection) (defaultSort : List SortField)
    (calls : List Refinement) (emission : Emission)
    (unmarked : ∀ text ∈ involvedTexts projection defaultSort calls emission,
      Unmarked text.toList)
    (printable : emission.Printable) :
    ∃ query, ((fresh projection defaultSort).refineAll calls).emit? emission = some query ∧
      query.arguments = emission.bound calls ∧
      placeholdersIn query.sql = placeholderRun 1 query.arguments.length ∧
      (emission.Gathers → ∀ before call after, calls = before ++ call :: after →
        ClauseStands ((fresh projection defaultSort).refineAll before) call query.sql ∧
        ∀ index < call.bound.length,
          query.arguments[(before.flatMap Refinement.bound).length + index]? =
            call.bound[index]?) := by
  have plain : ∀ text ∈ involvedTexts projection defaultSort calls emission, Plain text :=
    fun text member => plain_of_unmarked (unmarked text member)
  simp only [involvedTexts, List.mem_append, or_imp, forall_and] at plain
  obtain ⟨⟨⟨texts, sorts⟩, fields⟩, given⟩ := plain
  have column {field : String} (plain : Plain field) : Plain (projection.column field) :=
    Projection.plain_column texts plain
  have mentions : Mentions Plain ((fresh projection defaultSort).refineAll calls) :=
    .of_fields fun field member => by
      rcases List.mem_append.mp member with inSort | inCalls
      · exact column (sorts field inSort)
      · exact column (fields field inCalls)
  have sameTexts : ∀ text ∈ ((fresh projection defaultSort).refineAll calls).projection.texts,
      Plain text := by simpa using texts
  by_cases gathers : emission.Gathers
  · obtain ⟨query, head, tail, emitted, frame⟩ :=
      emit?_of_gathers sameTexts mentions gathers printable
    have arguments : query.arguments = calls.flatMap Refinement.bound := by
      rw [frame.arguments, arguments_refineAll]
      rfl
    refine ⟨query, emitted, ?_, placeholdersIn_eq_run (marks_of_frame mentions frame), ?_⟩
    · cases emission with
      | single => exact gathers.elim
      | count | page | all => exact arguments
    · rintro - before call after rfl
      refine ⟨clauseStands_of_frame mentions frame, fun index inCall => ?_⟩
      simp [arguments, List.getElem?_append_right, List.getElem?_append_left, inCall]
  · cases emission with
    | single field value =>
        have read := placeholdersIn_single value sameTexts (given field (List.mem_singleton_self _))
        exact ⟨_, rfl, rfl, read, fun gathers => gathers.elim⟩
    | count | page | all => exact absurd trivial gathers

def costTable : Projection where
  schema := "public"
  tableName := "runs"
  shortName := "r"
  columns := [("Cost", "cost$"), ("Name", "name")]

def costCalls : List Refinement :=
  [.whereEquals "Cost" (.int 0), .whereContains "Name" none,
    .whereIn "1st" [.text "a", .null], .whereSearch (some "$9") ["Name", "Cost"]]

theorem emit?_numbered_page :
    ∃ query, ((fresh costTable [⟨"Name", true⟩]).refineAll costCalls).emit? (.page 0 10) =
        some query ∧
      placeholdersIn query.sql = ["$1", "$2", "$3", "$4", "$5"] ∧
      query.arguments = [.int 0, .text "a", .null, .text "%$9%", .text "%$9%"] := by
  obtain ⟨query, emitted, arguments, read, -⟩ := emit?_numbered costTable [⟨"Name", true⟩]
    costCalls (.page 0 10) (by decide) ⟨by decide +kernel, by decide +kernel⟩
  refine ⟨query, emitted, ?_, arguments⟩
  rw [read, arguments]
  rfl

end Builder

end PagedListing
