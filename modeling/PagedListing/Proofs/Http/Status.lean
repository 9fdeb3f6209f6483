import PagedListing.Http.Exchange
import PagedListing.Proofs.Http.Content
import PagedListing.Proofs.Listing.Trace
import PagedListing.Proofs.Pagination.Bounds
import PagedListing.Proofs.Pagination.Windows
import PagedListing.Proofs.SortField.Resolution

set_option autoImplicit false

/-!
# The status of a listing

A listing over HTTP is refused when its ordering is unknown. Otherwise it is answered, unless
the offset of the page is too long to write or a value of the page cannot be sent.
-/

namespace PagedListing.Http

open PagedListing.Number PagedListing.Pagination

def Route.listPath : Resource → String
  | .runs => "/api/workflows/runs"
  | resource => "/api/" ++ resource.name

theorem Route.ofPath?_listPath (resource : Resource) :
    ofPath? (listPath resource) = some (.list resource) := by
  cases resource <;> decide +kernel

/-- Where page sizes settle, a listing is sent as it is found under them. -/
theorem run_list {resource : Resource} {environment : Environment} {config : Config}
    (configured : Config.ofSettings { } environment = .ok config) (query : Params)
    (script : List Reply) :
    Session.run script (list resource environment query) =
      ((Session.run script (Listing.list resource config (.ofParams query config)
          (some (.ofParams resource query)))).1.map pageContent?,
        (Session.run script (Listing.list resource config (.ofParams query config)
          (some (.ofParams resource query)))).2) := by
  have usable : (Config.ofSettings { } environment).mapError Failure.unusablePageSizes =
      .ok config := by
    rw [configured]
    rfl
  simp only [list, Session.run_eq_steps, Session.steps_bind, Session.steps_lift, usable,
    Session.steps_map]

theorem answer_listPath {resource : Resource} {environment : Environment} {config : Config}
    (configured : Config.ofSettings { } environment = .ok config) (origin : String)
    (query : Params) (script : List Reply) :
    answer environment script { origin, path := Route.listPath resource, query } =
      (Response.ofOutcome ((Session.run script (Listing.list resource config
          (.ofParams query config) (some (.ofParams resource query)))).1.map pageContent?),
        (Session.run script (Listing.list resource config (.ofParams query config)
          (some (.ofParams resource query)))).2) := by
  simp only [answer, Route.ofPath?_listPath, if_pos, follow, run_list configured]

/-- A listing that is asked for where page sizes settle, from a session that counts the rows
and then gives some of them. -/
structure Browse (resource : Resource) where
  origin : String
  query : Params
  environment : Environment
  config : Config
  total : Int
  rows : List (List Value)
  further : List Reply
  configured : Config.ofSettings { } environment = .ok config
  nonneg : 0 ≤ total
  exact : total ≤ 2 ^ 53
  wide : ∀ row ∈ rows, row.length = resource.projection.size

namespace Browse

variable {resource : Resource}

def script (browse : Browse resource) : List Reply :=
  .rows [[.int browse.total]] :: .rows browse.rows :: browse.further

def answer (browse : Browse resource) : Response × List Statement :=
  Http.answer browse.environment browse.script
    { origin := browse.origin, path := Route.listPath resource, query := browse.query }

def asked (browse : Browse resource) : Pagination.Request :=
  .ofParams browse.query browse.config

/-- A name in the ordering stands for no field. -/
def Unknown (browse : Browse resource) : Prop :=
  ∃ sort ∈ browse.asked.sort,
    SortField.registered? resource.projection.names sort.field = none

def RowsSendable (browse : Browse resource) : Prop :=
  ∀ row ∈ browse.rows, ∀ cell ∈ row, Sendable cell

instance (browse : Browse resource) : Decidable browse.Unknown :=
  inferInstanceAs (Decidable (∃ sort ∈ browse.asked.sort,
    SortField.registered? resource.projection.names sort.field = none))

instance (browse : Browse resource) : Decidable browse.RowsSendable :=
  inferInstanceAs (Decidable (∀ row ∈ browse.rows, ∀ cell ∈ row, Sendable cell))

theorem answer_eq (browse : Browse resource) :
    browse.answer =
      (Response.ofOutcome ((Session.run browse.script (Listing.list resource browse.config
          browse.asked (some (.ofParams resource browse.query)))).1.map pageContent?),
        (Session.run browse.script (Listing.list resource browse.config browse.asked
          (some (.ofParams resource browse.query)))).2) :=
  answer_listPath browse.configured browse.origin browse.query browse.script

theorem usable (browse : Browse resource) : browse.config.Usable :=
  Config.usable_of_ofSettings browse.configured

theorem within (browse : Browse resource) : Request.Within browse.config browse.asked :=
  Request.within_ofParams browse.usable browse.query

theorem answer_of_unknown {browse : Browse resource} (unknown : browse.Unknown) :
    browse.answer.1.status = 400 ∧ browse.answer.2 = [] := by
  rw [answer_eq, Listing.run_list_of_unresolved (SortField.resolve_of_unknown unknown)]
  exact ⟨rfl, rfl⟩

def prepared (browse : Browse resource) (sort : List SortField) : Pagination.Request :=
  { browse.asked with sort }

def builder (browse : Browse resource) (sort : List SortField) : Builder :=
  Listing.builder resource (browse.prepared sort) (some (.ofParams resource browse.query))

theorem answer_of_resolved (browse : Browse resource) {sort : List SortField}
    (resolved : SortField.resolve resource.projection browse.asked.sort = .ok sort) :
    browse.answer =
      (Response.ofOutcome ((Listing.outcome resource (browse.prepared sort)
          (some (.ofParams resource browse.query)) browse.script).map pageContent?),
        (browse.builder sort).count.bind ::
          (((browse.builder sort).page? browse.asked.page browse.asked.size).map
            Query.bind).toList) := by
  have counted : Reply.outcome browse.script.head? = .ok [[.int browse.total]] := rfl
  rw [answer_eq, Listing.run_list_of_resolved resolved, browse.within.normalize,
    Listing.run_fetch, Listing.statements, counted]
  simp only [builder, prepared]

theorem countOf_int (total : Int) : Listing.countOf (.int total) = .int total := by
  by_cases none : total = 0
  · subst none
    rfl
  · rw [Listing.countOf, if_pos]
    simpa [Value.isPresent] using none

def result (browse : Browse resource) : Result where
  data := (browse.rows.map resource.projection.names.zip).map .record
  total := browse.total
  page := browse.asked.page
  size := browse.asked.size
  pages := max 1 ((browse.total + (browse.asked.size - 1)) / browse.asked.size)

theorem assemble_eq (browse : Browse resource) (sort : List SortField) :
    Listing.assemble resource (browse.prepared sort) (.int browse.total) browse.rows =
      .ok browse.result := by
  have positive : 0 < browse.asked.size := browse.within.least
  rw [Listing.assemble, Projection.mapM_scan_of_wide browse.wide, countOf_int]
  exact build_int _ _ positive (pages?_eq browse.nonneg browse.exact positive)

theorem outcome_eq (browse : Browse resource) (sort : List SortField) :
    Listing.outcome resource (browse.prepared sort) (some (.ofParams resource browse.query))
        browse.script =
      match (browse.builder sort).page? browse.asked.page browse.asked.size with
      | none => .error .numeralTooLong
      | some _ => .ok browse.result := by
  have page : (Listing.builder resource (browse.prepared sort)
      (some (.ofParams resource browse.query))).page? (browse.prepared sort).page
        (browse.prepared sort).size =
      (browse.builder sort).page? browse.asked.page browse.asked.size := rfl
  simp only [Listing.outcome, page]
  cases (browse.builder sort).page? browse.asked.page browse.asked.size with
  | none => rfl
  | some query => exact browse.assemble_eq sort

theorem isWritable_of_le_double {value : Int} (nonneg : 0 ≤ value) (exact : value ≤ 2 ^ 53) :
    isWritable value = true :=
  isWritable_of_lt_two_pow nonneg (by omega)

theorem tellable_result (browse : Browse resource) : Tellable browse.result where
  total := isWritable_of_le_double browse.nonneg browse.exact
  page := Request.isWritable_page_ofParams browse.query browse.config
  size := Request.isWritable_size_ofParams browse.usable browse.query
  pages := by
    have positive : 0 < browse.asked.size := browse.within.least
    have counted := pageCount_ceil browse.nonneg positive
    have few := Int.le_trans (counted.le_total browse.nonneg positive)
      (max_le (by decide) browse.exact)
    exact isWritable_of_le_double (Int.le_trans (by decide) counted.least) few

theorem rowsSendable_iff (browse : Browse resource) :
    browse.RowsSendable ↔
      ∀ row ∈ browse.rows.map resource.projection.names.zip, ∀ field ∈ row, Sendable field.2 := by
  constructor
  · intro sendable named member field inNamed
    obtain ⟨row, inRows, rfl⟩ := List.mem_map.mp member
    exact sendable row inRows field.2 (List.of_mem_zip inNamed).2
  · intro sendable row member cell inRow
    have whole : (resource.projection.names.zip row).map Prod.snd = row :=
      List.map_snd_zip (by rw [browse.wide row member, Projection.length_names])
    rw [← whole] at inRow
    obtain ⟨field, inNamed, rfl⟩ := List.mem_map.mp inRow
    exact sendable _ (List.mem_map_of_mem member) field inNamed

theorem isSome_pageContent?_result (browse : Browse resource) :
    (pageContent? browse.result).isSome = true ↔ browse.RowsSendable := by
  rw [rowsSendable_iff]
  exact isSome_pageContent?_iff browse.tellable_result rfl

theorem status_ok_of_isSome {content : Option Value} (sent : content.isSome = true) :
    (Response.ok content).status = 200 := by
  obtain ⟨value, rfl⟩ := Option.isSome_iff_exists.mp sent
  rfl

theorem status_ok_of_not_isSome {content : Option Value} (unsent : ¬content.isSome = true) :
    (Response.ok content).status = 500 := by
  rw [Option.not_isSome_iff_eq_none] at unsent
  rw [unsent]
  rfl

/-- When the offset can be written, both statements are executed and the page is put together. -/
theorem answer_of_written (browse : Browse resource) {sort : List SortField}
    (resolved : SortField.resolve resource.projection browse.asked.sort = .ok sort)
    (short : isWritable browse.asked.offset = true) :
    ∃ page, (browse.builder sort).page? browse.asked.page browse.asked.size = some page ∧
      browse.answer = (Response.ok (pageContent? browse.result),
        [(browse.builder sort).count.bind, page.bind]) := by
  have printable : (Builder.Emission.page browse.asked.page browse.asked.size).Printable :=
    ⟨Request.isWritable_size_ofParams browse.usable browse.query, short⟩
  have written := Builder.page?_of_printable (browse.builder sort) printable
  refine ⟨_, written, ?_⟩
  rw [browse.answer_of_resolved resolved, outcome_eq, written]
  rfl

theorem answer_of_unwritten (browse : Browse resource) {sort : List SortField}
    (resolved : SortField.resolve resource.projection browse.asked.sort = .ok sort)
    (long : ¬isWritable browse.asked.offset = true) :
    browse.answer = (Response.internalError, [(browse.builder sort).count.bind]) := by
  have unprintable :
      ¬(Builder.Emission.page browse.asked.page browse.asked.size).Printable :=
    fun printable => long printable.2
  have unwritten := Builder.page?_eq_none_of_not_printable (browse.builder sort) unprintable
  rw [browse.answer_of_resolved resolved, outcome_eq, unwritten]
  rfl

theorem resolved_of_not_unknown {browse : Browse resource} (known : ¬browse.Unknown) :
    ∃ sort, SortField.resolve resource.projection browse.asked.sort = .ok sort := by
  refine ⟨_, SortField.resolve_of_known fun field member missing => ?_⟩
  exact known ⟨field, member, missing⟩

/-- A listing is refused without a statement exactly when its ordering is unknown. Any other is
answered if its offset can be written and its rows can be sent, and is an internal error if not;
it then has executed its count, and its page unless the offset cannot be written. -/
theorem answer_status (browse : Browse resource) :
    (browse.Unknown → browse.answer.1.status = 400 ∧ browse.answer.2 = []) ∧
    (¬browse.Unknown → isWritable browse.asked.offset = true →
      (∃ count page, browse.answer.2 = [count, page]) ∧
      (browse.RowsSendable → browse.answer.1.status = 200) ∧
      (¬browse.RowsSendable → browse.answer.1.status = 500)) ∧
    (¬browse.Unknown → ¬isWritable browse.asked.offset = true →
      (∃ count, browse.answer.2 = [count]) ∧ browse.answer.1.status = 500) := by
  refine ⟨answer_of_unknown, ?_, ?_⟩
  · intro known short
    obtain ⟨sort, resolved⟩ := resolved_of_not_unknown known
    obtain ⟨page, -, answered⟩ := browse.answer_of_written resolved short
    rw [answered, ← isSome_pageContent?_result]
    exact ⟨⟨_, _, rfl⟩, status_ok_of_isSome, status_ok_of_not_isSome⟩
  · intro known long
    obtain ⟨sort, resolved⟩ := resolved_of_not_unknown known
    rw [browse.answer_of_unwritten resolved long]
    exact ⟨⟨_, rfl⟩, rfl⟩

def mendedAgents : Browse .agents where
  origin := "http://localhost"
  query := [("page", "two"), ("page_size", "-5"), ("sort", "-Name")]
  environment := []
  config := ⟨20, 100⟩
  total := 1
  rows := [[.text "a1", .text "writer", .null, .text "2024-01-01", .text "2024-01-01"]]
  further := []
  configured := rfl
  nonneg := by decide
  exact := by decide
  wide := by decide

theorem answer_status_mendedAgents :
    ¬mendedAgents.Unknown ∧ isWritable mendedAgents.asked.offset = true ∧
      mendedAgents.RowsSendable ∧ mendedAgents.answer.1.status = 200 := by
  have known : ¬mendedAgents.Unknown := by decide +kernel
  have short : isWritable mendedAgents.asked.offset = true := by decide +kernel
  have sendable : mendedAgents.RowsSendable := by decide +kernel
  obtain ⟨-, answered, -⟩ := answer_status mendedAgents
  exact ⟨known, short, sendable, (answered known short).2.1 sendable⟩

def farthest : Int := 10 ^ (maxDigits - 1)

def farAgents : Browse .agents where
  origin := "http://localhost"
  query := [("page", numeral farthest)]
  environment := []
  config := ⟨20, 100⟩
  total := 1
  rows := []
  further := []
  configured := rfl
  nonneg := by decide
  exact := by decide
  wide := by decide

theorem ten_mul_farthest : 10 * farthest = 10 ^ maxDigits := by
  have step := pow_succ' (10 : Int) (maxDigits - 1)
  rw [Nat.sub_add_cancel (by decide)] at step
  exact step.symm

theorem ten_le_pow {digits : Nat} (several : 1 ≤ digits) : (10 : Int) ≤ 10 ^ digits := by
  obtain ⟨fewer, rfl⟩ := Nat.exists_eq_add_of_le' several
  have least : (0 : Int) < 10 ^ fewer := Int.pow_pos (by decide)
  rw [pow_succ]
  omega

theorem ten_le_farthest : 10 ≤ farthest :=
  ten_le_pow (by decide)

theorem isWritable_farthest : isWritable farthest = true := by
  have least := ten_le_farthest
  rw [isWritable_iff_lt (by omega), ← ten_mul_farthest]
  omega

theorem asked_farAgents : farAgents.asked = { page := farthest, size := 20 } := by
  have least := ten_le_farthest
  have read : intOr (some (numeral farthest)) 1 = farthest := by
    rw [intOr, readInt?_numeral isWritable_farthest]
    rfl
  have ofParams : farAgents.asked =
      Request.normalize ⟨20, 100⟩ { page := intOr (some (numeral farthest)) 1, size := 20 } := rfl
  rw [ofParams, read, Request.normalize]
  simp only [if_neg (show ¬farthest < 1 by omega)]
  rfl

theorem long_farAgents : ¬isWritable farAgents.asked.offset = true := by
  have least := ten_le_farthest
  have offset : farAgents.asked.offset = (farthest - 1) * 20 := by rw [asked_farAgents]; rfl
  rw [offset, isWritable_iff_lt (by omega), ← ten_mul_farthest]
  omega

/-- A page number that can be read need not be answered. -/
theorem status_farAgents :
    ¬farAgents.Unknown ∧ farAgents.RowsSendable ∧ farAgents.answer.1.status = 500 := by
  have known : ¬farAgents.Unknown := by
    rintro ⟨field, member, -⟩
    rw [asked_farAgents] at member
    cases member
  obtain ⟨sort, resolved⟩ := resolved_of_not_unknown known
  refine ⟨known, by decide, ?_⟩
  rw [farAgents.answer_of_unwritten resolved long_farAgents]
  rfl

end Browse

end PagedListing.Http
