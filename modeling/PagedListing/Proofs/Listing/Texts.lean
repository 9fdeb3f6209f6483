import PagedListing.Proofs.Listing.Trace
import PagedListing.Proofs.Query.Numbering
import PagedListing.Proofs.Statement.Naming

set_option autoImplicit false

/-!
# The texts of a listing

Every name that a listing hands to its builder is a registered one, so its statements are
made of fixed words, registered columns and parameters. The text that selects the page is
the text that counts with another list of columns and an ordering and a window behind it.
-/

namespace PagedListing

open PagedListing.Statement PagedListing.Pagination PagedListing.Text

def parametersIn (text : String) : List String :=
  (marks nameSign text.toList).map fun digits => String.ofList ('p' :: digits)

theorem named_of_plain {text : String} (plain : Plain text) : named text = text := by
  rw [named, nameMarks_eq_self (unmarked_iff.mpr plain), String.ofList_toList]

/-- A statement whose text names exactly its parameters, each once and in order. -/
structure Numbered (statement : Statement) : Prop where
  listed : statement.parameters.map Prod.fst = parameterRun 1 statement.parameters.length
  named : parametersIn statement.sql = statement.parameters.map Prod.fst

theorem numbered_bind {query : Query} (unnamed : ':' ∉ query.sql.toList)
    (read : marks numberSign query.sql.toList = run 1 query.arguments.length) :
    Numbered query.bind := by
  have names : query.bind.parameters.map Prod.fst = parameterRun 1 query.arguments.length :=
    names_nameArguments 1 query.arguments
  have length : query.bind.parameters.length = query.arguments.length := by
    simpa [parameterRun] using congrArg List.length names
  refine ⟨by rw [names, length], ?_⟩
  rw [names, parametersIn, Query.bind, String.toList_ofList, marks_nameMarks unnamed, read, run,
    parameterRun, List.map_map]
  refine List.map_congr_left fun number _ => ?_
  rw [← String.toList_inj]
  simp [digits, parameterName]

theorem Projection.column_mem_columnList {projection : Projection} {name : String}
    (registered : name ∈ projection.names) : projection.column name ∈ projection.columnList := by
  obtain ⟨entry, member, rfl⟩ := List.mem_map.mp registered
  unfold Projection.column
  split
  case h_1 column found =>
      exact List.mem_map.mpr ⟨_, mem_columns_of_lookup found, rfl⟩
  case h_2 missing =>
      have absent := List.lookup_eq_none_iff.mp missing entry member
      simp at absent

namespace Resource

theorem plain_texts (resource : Resource) :
    ∀ text ∈ resource.projection.texts, Plain text := by
  have unmarked : ∀ text ∈ resource.projection.texts, Unmarked text.toList := by
    cases resource <;> decide +kernel
  exact fun text member => plain_of_unmarked (unmarked text member)

theorem no_colon (resource : Resource) :
    ∀ text ∈ resource.projection.table :: resource.projection.columnList,
      ':' ∉ text.toList := by
  cases resource <;> decide +kernel

theorem searchFields_registered (resource : Resource) :
    ∀ field ∈ resource.searchFields, field ∈ resource.projection.names := by
  cases resource <;> decide +kernel

theorem defaultSort_registered (resource : Resource) :
    ∀ sort ∈ resource.defaultSort, sort.field ∈ resource.projection.names := by
  cases resource <;> decide +kernel

theorem defaultSort_ne_nil (resource : Resource) : resource.defaultSort ≠ [] := by
  cases resource <;> decide +kernel

def criteriaFields : Resource → List String
  | .agents | .providers => ["Name"]
  | .documents => ["Name", "ContentType"]
  | .images => ["DocumentID", "Format", "PageNumber"]
  | .profiles => ["WorkflowName"]
  | .runs => ["WorkflowName", "Status"]

theorem criteriaFields_registered (resource : Resource) :
    ∀ field ∈ resource.criteriaFields, field ∈ resource.projection.names := by
  cases resource <;> decide +kernel

end Resource

theorem Filter.fields_refinements (filter : Filter) :
    filter.refinements.flatMap Refinement.fields = filter.resource.criteriaFields := by
  cases filter <;> rfl

namespace Builder.Mentions

theorem mono {property weaker : String → Prop} {builder : Builder}
    (mentions : Mentions property builder)
    (implied : ∀ column, property column → weaker column) : Mentions weaker builder where
  conditions := fun condition member column known =>
    implied column (mentions.conditions condition member column known)
  defaultSort := fun sort member => implied _ (mentions.defaultSort sort member)
  explicitSort := fun sort member => implied _ (mentions.explicitSort sort member)

end Builder.Mentions

namespace Listing

structure Prepared (resource : Resource) (request : Request) (filter : Option Filter) : Prop where
  own : ∀ criteria ∈ filter, criteria.resource = resource
  sorted : ∀ sort ∈ request.sort, sort.field ∈ resource.projection.names

variable {resource : Resource} {request : Request} {filter : Option Filter}

theorem Prepared.fields_registered (prepared : Prepared resource request filter) :
    ∀ field ∈ (refinements resource request filter).flatMap Refinement.fields,
      field ∈ resource.projection.names := by
  intro field member
  obtain ⟨call, inCalls, inFields⟩ := List.mem_flatMap.mp member
  rcases List.mem_cons.mp inCalls with rfl | later
  · exact resource.searchFields_registered field inFields
  · rcases List.mem_append.mp later with filtered | ordered
    · cases filter with
      | none => exact absurd filtered List.not_mem_nil
      | some criteria =>
          have compared : field ∈ criteria.refinements.flatMap Refinement.fields :=
            List.mem_flatMap.mpr ⟨call, filtered, inFields⟩
          rw [criteria.fields_refinements, prepared.own criteria rfl] at compared
          exact resource.criteriaFields_registered field compared
    · split at ordered
      · exact absurd ordered List.not_mem_nil
      · rw [List.mem_singleton.mp ordered] at inFields
        obtain ⟨sort, inSort, rfl⟩ := List.mem_map.mp inFields
        exact prepared.sorted sort inSort

theorem Prepared.mentions (prepared : Prepared resource request filter) :
    Builder.Mentions (· ∈ resource.projection.columnList) (builder resource request filter) := by
  have start : Builder.Mentions (· ∈ resource.projection.columnList)
      (Builder.fresh resource.projection resource.defaultSort) :=
    .fresh fun sort member =>
      Projection.column_mem_columnList (resource.defaultSort_registered sort member)
  exact start.refineAll fun field member =>
    Projection.column_mem_columnList (prepared.fields_registered field member)

theorem Prepared.mentions_plain (prepared : Prepared resource request filter) :
    Builder.Mentions Plain (builder resource request filter) :=
  prepared.mentions.mono fun column member => by
    obtain ⟨entry, registered, rfl⟩ := List.mem_map.mp member
    have texts := resource.plain_texts
    simp only [Projection.texts, List.mem_cons, forall_eq_or_imp] at texts
    obtain ⟨-, -, short, columns⟩ := texts
    exact Projection.plain_qualify short (columns entry.2 (List.mem_map_of_mem registered))

theorem Prepared.mentions_no_colon (prepared : Prepared resource request filter) :
    Builder.Mentions (fun column => ':' ∉ column.toList) (builder resource request filter) :=
  prepared.mentions.mono fun column member =>
    resource.no_colon column (List.mem_cons_of_mem _ member)

@[simp] theorem projection_builder (resource : Resource) (request : Request)
    (filter : Option Filter) : (builder resource request filter).projection = resource.projection :=
  Builder.projection_refineAll _ _

theorem sort_builder_ne_nil (resource : Resource) (request : Request) (filter : Option Filter) :
    (builder resource request filter).sort ≠ [] := by
  have kept : (builder resource request filter).defaultSort = resource.defaultSort :=
    Builder.defaultSort_refineAll _ _
  unfold Builder.sort
  split
  case isTrue => rw [kept]; exact resource.defaultSort_ne_nil
  case isFalse some => simpa using some

/-- A text that counts and one that selects a page of what is counted: the columns stand in
the place of the count, and an ordering and a window follow. -/
def PagePair (projection : Projection) (terms : List String) (number size : Int)
    (count page : String) : Prop :=
  ∃ rest, count = "SELECT COUNT(*)" ++ rest ∧
    page = "SELECT " ++ projection.selectList ++ rest ++ " ORDER BY " ++
      ", ".intercalate terms ++ Builder.window number size

/-- Both texts together tell what the page is ordered by. -/
theorem PagePair.terms_unique {projection : Projection} {terms terms' : List String}
    {number size : Int} {count page : String}
    (pair : PagePair projection terms number size count page)
    (pair' : PagePair projection terms' number size count page) :
    ", ".intercalate terms = ", ".intercalate terms' := by
  obtain ⟨rest, counts, pages⟩ := pair
  obtain ⟨rest', counts', pages'⟩ := pair'
  obtain rfl : rest = rest' := (String.append_right_inj _).mp (counts.symm.trans counts')
  rwa [pages, String.append_left_inj, String.append_right_inj] at pages'

def orderTerms (resource : Resource) (request : Request) (filter : Option Filter) :
    List String :=
  (builder resource request filter).sort.map (Builder.orderTerm resource.projection)

/-- A term that orders by a registered column, behind the short name of its table. -/
def OrdersColumn (projection : Projection) (term : String) : Prop :=
  ∃ entry ∈ projection.columns,
    term = projection.shortName ++ "." ++ entry.2 ++ " ASC" ∨
      term = projection.shortName ++ "." ++ entry.2 ++ " DESC"

theorem Prepared.orderTerms_registered
    (prepared : Prepared resource request filter) :
    ∀ term ∈ orderTerms resource request filter, OrdersColumn resource.projection term := by
  intro term member
  obtain ⟨sort, inSort, rfl⟩ := List.mem_map.mp member
  have registered := prepared.mentions.sort sort inSort
  rw [projection_builder] at registered
  obtain ⟨entry, inColumns, written⟩ := List.mem_map.mp registered
  refine ⟨entry, inColumns, ?_⟩
  rw [Builder.orderTerm, ← written, String.append_assoc]
  cases ordered : sort.descending with
  | false =>
      left
      rw [SortField.direction, ordered]
      rfl
  | true =>
      right
      rw [SortField.direction, ordered]
      rfl

theorem orderClause_builder (resource : Resource) (request : Request)
    (filter : Option Filter) :
    (builder resource request filter).orderClause =
      " ORDER BY " ++ ", ".intercalate (orderTerms resource request filter) := by
  have some := sort_builder_ne_nil resource request filter
  rw [Builder.orderClause, projection_builder, if_neg (by simpa using some)]
  rfl

theorem named_count (resource : Resource) (request : Request) (filter : Option Filter) :
    named (builder resource request filter).count.sql =
      "SELECT COUNT(*) FROM " ++ resource.projection.table ++
        named (builder resource request filter).whereClause := by
  have head : Plain ("SELECT COUNT(*) FROM " ++ resource.projection.table) := by
    rw [Plain, String.toList_append, marks_append_of_not_mem (by decide)]
    exact Projection.plain_table resource.plain_texts
  rw [Builder.sql_count, projection_builder, named_append _ (Builder.stop_whereClause _),
    named_of_plain head]

theorem plain_texts_builder (resource : Resource) (request : Request)
    (filter : Option Filter) :
    ∀ text ∈ (builder resource request filter).projection.texts, Plain text := by
  rw [projection_builder]
  exact resource.plain_texts

theorem Prepared.named_page (prepared : Prepared resource request filter) (number size : Int) :
    named ((builder resource request filter).all.sql ++ Builder.window number size) =
      (builder resource request filter).selection ++
        named (builder resource request filter).whereClause ++
        (builder resource request filter).orderClause ++ Builder.window number size := by
  rw [Builder.sql_all, named_append _ (Builder.stop_window number size),
    named_append _ (Builder.stop_orderClause _), named_append _ (Builder.stop_whereClause _),
    named_of_plain (Builder.plain_selection (plain_texts_builder resource request filter)),
    named_of_plain (Builder.plain_orderClause prepared.mentions_plain),
    named_of_plain (Builder.plain_window number size)]

theorem Prepared.pagePair (prepared : Prepared resource request filter) (number size : Int) :
    PagePair resource.projection (orderTerms resource request filter) number size
      (named (builder resource request filter).count.sql)
      (named ((builder resource request filter).all.sql ++ Builder.window number size)) := by
  refine ⟨" FROM " ++ resource.projection.table ++
    named (builder resource request filter).whereClause, ?_, ?_⟩
  · rw [named_count, ← String.toList_inj]
    simp [String.toList_append]
  · rw [prepared.named_page, Builder.selection, projection_builder, orderClause_builder]
    simp only [String.append_assoc]

theorem Prepared.numbered_count (prepared : Prepared resource request filter) :
    Numbered (builder resource request filter).count.bind := by
  have foreign : Foreign ':' := by decide
  have table : ':' ∉ resource.projection.table.toList :=
    resource.no_colon _ List.mem_cons_self
  apply numbered_bind
  · rw [Builder.sql_count, projection_builder]
    exact not_mem_append (not_mem_append (by decide) table)
      (Builder.not_mem_whereClause foreign prepared.mentions_no_colon)
  · have gathers : Builder.Emission.count.Gathers := trivial
    exact Builder.marks_emit? (plain_texts_builder resource request filter)
      prepared.mentions_plain gathers trivial rfl

theorem Prepared.numbered_page (prepared : Prepared resource request filter)
    {number size : Int} {page : Query}
    (written : (builder resource request filter).page? number size = some page) :
    Numbered page.bind := by
  have foreign : Foreign ':' := by decide
  have table : ':' ∉ resource.projection.table.toList :=
    resource.no_colon _ List.mem_cons_self
  have columns : ':' ∉ resource.projection.selectList.toList :=
    not_mem_intercalate (by decide) fun column member =>
      resource.no_colon column (List.mem_cons_of_mem _ member)
  have printable := Builder.printable_of_page? written
  apply numbered_bind
  · rw [Builder.page?_of_printable _ printable] at written
    cases written
    rw [Builder.sql_all, Builder.selection, projection_builder]
    refine not_mem_append (not_mem_append (not_mem_append ?_ ?_) ?_) ?_
    · exact not_mem_append (not_mem_append (not_mem_append (by decide) columns) (by decide)) table
    · exact Builder.not_mem_whereClause foreign prepared.mentions_no_colon
    · exact Builder.not_mem_orderClause foreign prepared.mentions_no_colon
    · exact Builder.not_mem_window_of_foreign foreign number size
  · have gathers : (Builder.Emission.page number size).Gathers := trivial
    exact Builder.marks_emit? (plain_texts_builder resource request filter)
      prepared.mentions_plain gathers printable written

end Listing

end PagedListing
