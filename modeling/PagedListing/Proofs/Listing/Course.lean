import PagedListing.Proofs.Listing.Texts
import PagedListing.Proofs.Pagination.Bounds
import PagedListing.Proofs.SortField.Resolution

set_option autoImplicit false

/-!
# What a listing executes and answers

Page number and size are settled before the first statement. The count, the page and the
envelope agree on them and on the parameters, wherever the session fails.
-/

namespace PagedListing

open PagedListing.Pagination

namespace Listing

/-- A listing that is asked for: the page sizes that a service keeps or takes from its
surroundings, the request, and a filter of the kind of the resource. -/
structure Inquiry (resource : Resource) where
  pagination : Option Config
  environment : Environment
  config : Config
  request : Request
  filter : Option Filter
  configured : Service.config ⟨resource, pagination⟩ environment = .ok config
  own : ∀ criteria ∈ filter, criteria.resource = resource

namespace Inquiry

variable {resource : Resource}

def number (inquiry : Inquiry resource) : Int := (inquiry.request.normalize inquiry.config).page

def size (inquiry : Inquiry resource) : Int := (inquiry.request.normalize inquiry.config).size

def run (inquiry : Inquiry resource) (script : List Reply) :
    Except Failure Service.Answer × List Statement :=
  Session.run script <| Service.answer ⟨resource, inquiry.pagination⟩ inquiry.environment
    (.list inquiry.request inquiry.filter)

def prepared (inquiry : Inquiry resource) (sort : List SortField) : Request :=
  { inquiry.request.normalize inquiry.config with sort }

theorem run_of_unresolved (inquiry : Inquiry resource) {fields : UnknownFields}
    (unresolved : SortField.resolve resource.projection inquiry.request.sort = .error fields)
    (script : List Reply) : inquiry.run script = (.error (.unknownFields fields), []) := by
  rw [run, Service.run_answer_list inquiry.configured, run_list_of_unresolved unresolved]
  rfl

theorem run_of_resolved (inquiry : Inquiry resource) {sort : List SortField}
    (resolved : SortField.resolve resource.projection inquiry.request.sort = .ok sort)
    (script : List Reply) :
    inquiry.run script =
      ((outcome resource (inquiry.prepared sort) inquiry.filter script).map .page,
        statements (builder resource (inquiry.prepared sort) inquiry.filter) inquiry.number
          inquiry.size script) := by
  rw [run, Service.run_answer_list inquiry.configured, run_list_of_resolved resolved, run_fetch]
  simp only [prepared, number, size]

theorem prepared_of_resolved (inquiry : Inquiry resource) {sort : List SortField}
    (resolved : SortField.resolve resource.projection inquiry.request.sort = .ok sort) :
    Prepared resource (inquiry.prepared sort) inquiry.filter where
  own := inquiry.own
  sorted := SortField.mem_names_of_resolve resolved

end Inquiry

/-- What a listing leaves in the session when it asks for a page of a number and a size. -/
inductive Executed (projection : Projection) (script : List Reply) (number size : Int) :
    List Statement → Prop where
  | counted {count : Statement} :
      Numbered count → (∃ rest, count.sql = "SELECT COUNT(*)" ++ rest) →
      ((∃ failure, script.head? = some (.failure failure)) ∨
        ¬(Builder.Emission.page number size).Printable) →
      Executed projection script number size [count]
  | paged {count page : Statement} {terms : List String} :
      (∀ failure, script.head? ≠ some (.failure failure)) →
      Numbered count → Numbered page → count.parameters = page.parameters →
      terms ≠ [] → (∀ term ∈ terms, OrdersColumn projection term) →
      PagePair projection terms number size count.sql page.sql →
      Executed projection script number size [count, page]

theorem Prepared.executed {resource : Resource} {request : Request} {filter : Option Filter}
    (prepared : Prepared resource request filter) (number size : Int) (script : List Reply) :
    Executed resource.projection script number size
      (statements (builder resource request filter) number size script) := by
  have text : ∃ rest, (builder resource request filter).count.bind.sql =
      "SELECT COUNT(*)" ++ rest := by
    obtain ⟨rest, counts, -⟩ := prepared.pagePair number size
    exact ⟨rest, counts⟩
  unfold statements
  cases replied : Reply.outcome script.head? with
  | error failure =>
      refine .counted prepared.numbered_count text (.inl ⟨failure, ?_⟩)
      exact Reply.outcome_eq_error_iff.mp replied
  | ok rows =>
      have answered : ∀ failure, script.head? ≠ some (.failure failure) := by
        intro failure raised
        rw [Reply.outcome_eq_error_iff.mpr raised] at replied
        cases replied
      by_cases printable : (Builder.Emission.page number size).Printable
      · have written := Builder.page?_of_printable (builder resource request filter) printable
        rw [written]
        refine .paged answered prepared.numbered_count (prepared.numbered_page written) rfl ?_
          prepared.orderTerms_registered (prepared.pagePair number size)
        simpa [orderTerms] using sort_builder_ne_nil resource request filter
      · rw [Builder.page?_eq_none_of_not_printable _ printable]
        exact .counted prepared.numbered_count text (.inr printable)

/-- A listing whose ordering cannot be resolved reports so and executes nothing. Any other
counts, and selects the page that it answers with unless counting fails: both statements
have the same numbered parameters and the page has the text of the count, an ordering and a
window. -/
theorem inquiry_course {resource : Resource} (inquiry : Inquiry resource) (script : List Reply)
    (positive : 1 ≤ inquiry.config.defaultSize)
    (ordered : inquiry.config.defaultSize ≤ inquiry.config.maxSize) :
    ((∃ sort ∈ inquiry.request.sort,
        SortField.registered? resource.projection.names sort.field = none) →
      ∃ fields, inquiry.run script = (.error (.unknownFields fields), [])) ∧
    ((∀ sort ∈ inquiry.request.sort,
        SortField.registered? resource.projection.names sort.field ≠ none) →
      Executed resource.projection script inquiry.number inquiry.size (inquiry.run script).2 ∧
      1 ≤ inquiry.number ∧ 1 ≤ inquiry.size ∧ inquiry.size ≤ inquiry.config.maxSize ∧
      0 ≤ (inquiry.number - 1) * inquiry.size ∧
      ∀ answer, (inquiry.run script).1 = .ok answer →
        ∃ result, answer = .page result ∧ result.page = inquiry.number ∧
          result.size = inquiry.size) := by
  constructor
  · intro unknown
    exact ⟨_, inquiry.run_of_unresolved (SortField.resolve_of_unknown unknown) script⟩
  · intro known
    have resolved := SortField.resolve_of_known known
    have first : 1 ≤ inquiry.number := Request.one_le_page_normalize _ _
    have least : 1 ≤ inquiry.size := one_le_clampSize positive ordered _
    have most : inquiry.size ≤ inquiry.config.maxSize := Request.clampSize_le _ _
    have offset : 0 ≤ (inquiry.number - 1) * inquiry.size :=
      Int.mul_nonneg (by omega) (by omega)
    rw [inquiry.run_of_resolved resolved]
    refine ⟨(inquiry.prepared_of_resolved resolved).executed _ _ script, first, least, most,
      offset, ?_⟩
    intro answer answered
    obtain ⟨result, counted, rfl⟩ := ok_of_map answered
    obtain ⟨page, size⟩ := page_size_of_outcome counted
    exact ⟨result, rfl, page.trans rfl, size.trans rfl⟩

def latestRuns : Inquiry .runs where
  pagination := some ⟨20, 100⟩
  environment := []
  config := ⟨20, 100⟩
  request := { page := 3, sort := [⟨"started_at", true⟩] }
  filter := some (.runs none ["running", "failed"])
  configured := rfl
  own := fun _ member => Option.some.inj member ▸ rfl

theorem inquiry_course_latestRuns :
    latestRuns.number = 3 ∧ latestRuns.size = 20 ∧
      ∃ count page terms,
        (latestRuns.run []).2 = [count, page] ∧
          count.parameters = page.parameters ∧
          (∀ term ∈ terms, OrdersColumn Resource.runs.projection term) ∧
          ", ".intercalate terms = "r.started_at DESC" ∧
          PagePair Resource.runs.projection terms 3 20 count.sql page.sql := by
  have known : ∀ sort ∈ latestRuns.request.sort,
      SortField.registered? Resource.runs.projection.names sort.field ≠ none := by decide
  have printable : (Builder.Emission.page latestRuns.number latestRuns.size).Printable :=
    ⟨by decide +kernel, by decide +kernel⟩
  have resolved := SortField.resolve_of_known known
  have ordering : orderTerms .runs (latestRuns.prepared
      (latestRuns.request.sort.filterMap (SortField.resolveField? Resource.runs.projection)))
      latestRuns.filter = ["r.started_at DESC"] := by decide +kernel
  have written : ∃ count page, (latestRuns.run []).2 = [count, page] ∧
      PagePair Resource.runs.projection ["r.started_at DESC"] 3 20 count.sql page.sql := by
    rw [latestRuns.run_of_resolved resolved, statements,
      Builder.page?_of_printable _ printable, ← ordering]
    exact ⟨_, _, rfl, (latestRuns.prepared_of_resolved resolved).pagePair _ _⟩
  obtain ⟨-, course⟩ := inquiry_course latestRuns [] (by decide) (by decide)
  obtain ⟨executed, -⟩ := course known
  obtain ⟨count, page, two, ordered⟩ := written
  rw [two] at executed
  refine ⟨rfl, rfl, count, page, ?_⟩
  cases executed with
  | paged _ _ _ same _ registered pair =>
      have third : PagePair Resource.runs.projection _ 3 20 count.sql page.sql := pair
      exact ⟨_, two, same, registered, third.terms_unique ordered, third⟩

end Listing

end PagedListing
