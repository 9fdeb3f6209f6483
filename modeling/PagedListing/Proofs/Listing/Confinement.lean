import PagedListing.Proofs.Listing.Course
import PagedListing.Proofs.Query.Outline

set_option autoImplicit false

/-!
# What of a request stays out of the texts

Two requests that ask the same of a resource, except for the values they compare with and
the spelling of the names they order by, execute the same texts.
-/

namespace PagedListing

open PagedListing.Pagination

namespace Filter

/-- Two filters of one kind that have the same criteria and the same number of statuses. -/
inductive SameCriteria : Filter → Filter → Prop where
  | agents {name name' : Option String} :
      present name = present name' → SameCriteria (.agents name) (.agents name')
  | providers {name name' : Option String} :
      present name = present name' → SameCriteria (.providers name) (.providers name')
  | documents {name name' contentType contentType' : Option String} :
      present name = present name' → present contentType = present contentType' →
      SameCriteria (.documents name contentType) (.documents name' contentType')
  | images {documentId documentId' : Option Uuid} {format format' : Option ImageFormat}
      {pageNumber pageNumber' : Option Int} :
      documentId.isSome = documentId'.isSome → format.isSome = format'.isSome →
      pageNumber.isSome = pageNumber'.isSome →
      SameCriteria (.images documentId format pageNumber) (.images documentId' format' pageNumber')
  | profiles {workflowName workflowName' : Option String} :
      workflowName.isSome = workflowName'.isSome →
      SameCriteria (.profiles workflowName) (.profiles workflowName')
  | runs {workflowName workflowName' : Option String} {statuses statuses' : List String} :
      workflowName.isSome = workflowName'.isSome → statuses.length = statuses'.length →
      SameCriteria (.runs workflowName statuses) (.runs workflowName' statuses')

theorem textValue_eq_null_iff {text : Option String} :
    textValue text = .null ↔ text.isSome = false := by
  cases text <;> simp [textValue]

theorem sameShape_textValue {text text' : Option String} (same : text.isSome = text'.isSome)
    (field : String) :
    Refinement.SameShape (.whereEquals field (textValue text))
      (.whereEquals field (textValue text')) := by
  refine .whereEquals ?_
  rw [textValue_eq_null_iff, textValue_eq_null_iff, same]

theorem SameCriteria.sameShape {filter filter' : Filter} (same : SameCriteria filter filter') :
    List.Forall₂ Refinement.SameShape filter.refinements filter'.refinements := by
  cases same with
  | agents name => exact .cons (.whereContains name) .nil
  | providers name => exact .cons (.whereContains name) .nil
  | documents name contentType =>
      exact .cons (.whereContains name) (.cons (.whereContains contentType) .nil)
  | @images documentId documentId' format format' pageNumber pageNumber' id kind number =>
      refine .cons (sameShape_textValue ?_ _) (.cons (sameShape_textValue ?_ _)
        (.cons (.whereEquals ?_) .nil))
      · rw [Option.isSome_map, Option.isSome_map, id]
      · rw [Option.isSome_map, Option.isSome_map, kind]
      · cases pageNumber <;> cases pageNumber' <;> simp at number ⊢
  | profiles workflowName => exact .cons (sameShape_textValue workflowName _) .nil
  | runs workflowName statuses =>
      refine .cons (sameShape_textValue workflowName _) (.cons (.whereIn ?_) .nil)
      rw [List.length_map, List.length_map, statuses]

end Filter

namespace Listing

variable {resource : Resource}

theorem sameShape_refinements {request request' : Request} {filter filter' : Option Filter}
    (search : present request.search = present request'.search)
    (sort : request.sort = request'.sort)
    (criteria : Option.Rel Filter.SameCriteria filter filter') :
    List.Forall₂ Refinement.SameShape (refinements resource request filter)
      (refinements resource request' filter') := by
  refine .cons (.whereSearch search) (List.rel_append ?_ ?_)
  · cases criteria with
    | none => exact .nil
    | some same => exact same.sameShape
  · rw [sort]
    split
    · exact .nil
    · exact .cons .orderByFields .nil

theorem sameOutline_builder {request request' : Request} {filter filter' : Option Filter}
    (search : present request.search = present request'.search)
    (sort : request.sort = request'.sort)
    (criteria : Option.Rel Filter.SameCriteria filter filter') :
    Builder.SameOutline (builder resource request filter) (builder resource request' filter') :=
  Builder.SameOutline.refineAll ⟨rfl, rfl, rfl, rfl⟩ (sameShape_refinements search sort criteria)

theorem sql_statements_eq {builder builder' : Builder}
    (same : Builder.SameOutline builder builder') (number size : Int) (script : List Reply) :
    (statements builder number size script).map Statement.sql =
      (statements builder' number size script).map Statement.sql := by
  have bound (query : Query) : query.bind.sql = named query.sql := rfl
  have texts (page : Option Query) :
      (page.map Query.bind).toList.map Statement.sql =
        ((page.map Query.sql).map named).toList := by
    cases page <;> rfl
  unfold statements
  rw [List.map_cons, List.map_cons, bound, bound, same.sql_count_eq]
  cases Reply.outcome script.head? with
  | error failure => rfl
  | ok rows => simp only [texts, same.sql_page?_eq]

/-- Two listings of a resource that ask for the same page in the same order, narrowed by the
same criteria to possibly different values. -/
structure Alike (first second : Inquiry resource) : Prop where
  search : present first.request.search = present second.request.search
  criteria : Option.Rel Filter.SameCriteria first.filter second.filter
  ordering : (SortField.resolve resource.projection first.request.sort).toOption =
    (SortField.resolve resource.projection second.request.sort).toOption
  number : first.number = second.number
  size : first.size = second.size

theorem Alike.sql_run_eq {first second : Inquiry resource} (alike : Alike first second)
    (script : List Reply) :
    (first.run script).2.map Statement.sql = (second.run script).2.map Statement.sql := by
  have ordering := alike.ordering
  cases resolved : SortField.resolve resource.projection first.request.sort with
  | error fields =>
      cases resolved' : SortField.resolve resource.projection second.request.sort with
      | error fields' =>
          rw [first.run_of_unresolved resolved, second.run_of_unresolved resolved']
      | ok sort => rw [resolved, resolved'] at ordering; cases ordering
  | ok sort =>
      cases resolved' : SortField.resolve resource.projection second.request.sort with
      | error fields => rw [resolved, resolved'] at ordering; cases ordering
      | ok sort' =>
          rw [resolved, resolved'] at ordering
          cases ordering
          have same : Builder.SameOutline (builder resource (first.prepared sort) first.filter)
              (builder resource (second.prepared sort) second.filter) :=
            sameOutline_builder alike.search rfl alike.criteria
          rw [first.run_of_resolved resolved, second.run_of_resolved resolved', alike.number,
            alike.size]
          exact sql_statements_eq same second.number second.size script

theorem sql_of_two_statements {builder : Builder} {number size : Int} {script : List Reply}
    {count page : String}
    (executed : (statements builder number size script).map Statement.sql = [count, page]) :
    count = named builder.count.sql ∧
      page = named (builder.all.sql ++ Builder.window number size) := by
  unfold statements at executed
  obtain ⟨counted, selected⟩ := List.cons.inj executed
  refine ⟨counted.symm, ?_⟩
  cases replied : Reply.outcome script.head? with
  | error failure => simp [replied] at selected
  | ok rows =>
      rw [replied] at selected
      by_cases printable : (Builder.Emission.page number size).Printable
      · rw [Builder.page?_of_printable builder printable] at selected
        exact (List.cons.inj selected).1.symm
      · rw [Builder.page?_eq_none_of_not_printable builder printable] at selected
        cases selected

theorem Inquiry.ordersColumns_of_run (inquiry : Inquiry resource) {script : List Reply}
    {count page : String}
    (executed : (inquiry.run script).2.map Statement.sql = [count, page]) :
    ∃ terms, PagePair resource.projection terms inquiry.number inquiry.size count page ∧
      ∀ term ∈ terms, OrdersColumn resource.projection term := by
  cases resolved : SortField.resolve resource.projection inquiry.request.sort with
  | error fields =>
      rw [inquiry.run_of_unresolved resolved] at executed
      cases executed
  | ok sort =>
      have prepared := inquiry.prepared_of_resolved resolved
      rw [inquiry.run_of_resolved resolved] at executed
      obtain ⟨rfl, rfl⟩ := sql_of_two_statements executed
      exact ⟨_, prepared.pagePair inquiry.number inquiry.size, prepared.orderTerms_registered⟩

/-- The texts that a listing executes do not depend on the text it searches, on the values
it compares with or on the spelling of the names it orders by. Its page is ordered by
registered columns alone. -/
theorem sql_run_confined {first second : Inquiry resource} (alike : Alike first second)
    (script : List Reply) :
    (first.run script).2.map Statement.sql = (second.run script).2.map Statement.sql ∧
      ∀ count page, (first.run script).2.map Statement.sql = [count, page] →
        ∃ terms, PagePair resource.projection terms first.number first.size count page ∧
          ∀ term ∈ terms, OrdersColumn resource.projection term :=
  ⟨alike.sql_run_eq script, fun _ _ executed => first.ordersColumns_of_run executed⟩

def documentsInquiry (search name spelling : String) : Inquiry .documents where
  pagination := some ⟨20, 100⟩
  environment := []
  config := ⟨20, 100⟩
  request := { search := some search, sort := [⟨spelling, false⟩] }
  filter := some (.documents (some name) none)
  configured := rfl
  own := fun _ member => Option.some.inj member ▸ rfl

theorem sql_run_confined_documents :
    Alike (documentsInquiry "a" "b" "created_at")
        (documentsInquiry "' OR $1 --" "; DROP TABLE" "CREATEDAT") ∧
      ((documentsInquiry "a" "b" "created_at").run []).2.map Statement.sql =
        ((documentsInquiry "' OR $1 --" "; DROP TABLE" "CREATEDAT").run []).2.map
          Statement.sql := by
  have alike : Alike (documentsInquiry "a" "b" "created_at")
      (documentsInquiry "' OR $1 --" "; DROP TABLE" "CREATEDAT") :=
    ⟨by decide, .some (.documents (by decide) rfl), by decide, rfl, rfl⟩
  exact ⟨alike, (sql_run_confined alike []).1⟩

end Listing

end PagedListing
