import PagedListing.Proofs.Query.History
import PagedListing.Proofs.Query.Outline

set_option autoImplicit false

/-!
# Where bound values come from

The values of a history stay out of the texts that a builder writes. Each bound value has one
source, a value of one call, and which source stands where does not depend on the values.
-/

namespace PagedListing

/-- Outcomes that look alike are either both missing or both there. -/
theorem rel_of_map_eq {α β : Type} {look : α → β} {related : α → α → Prop}
    {first second : Option α} (alike : first.map look = second.map look)
    (each : ∀ one other, first = some one → second = some other → look one = look other →
      related one other) :
    Option.Rel related first second := by
  cases first with
  | none =>
      cases second with
      | none => exact .none
      | some => cases alike
  | some one =>
      cases second with
      | none => cases alike
      | some other => exact .some (each one other rfl rfl (Option.some.inj alike))

namespace Refinement

def values : Refinement → List Value
  | .whereEquals _ value => [value]
  | .whereIn _ values => values
  | _ => []

def text? : Refinement → Option String
  | .whereContains _ text | .whereSearch text _ => text
  | _ => none

end Refinement

namespace Builder

/-- Where a bound value comes from. Calls are counted from zero. -/
inductive Source where
  /-- One of the values that a call compares with. -/
  | value (call index : Nat)
  /-- The text that a call looks for, between percent signs. -/
  | pattern (call : Nat)
  /-- The value of a lookup. -/
  | lookup

def Emission.value? : Emission → Option Value
  | .single _ value => some value
  | _ => none

def Source.read (calls : List Refinement) (emission : Emission) : Source → Option Value
  | .value call index => calls[call]?.bind fun call => call.values[index]?
  | .pattern call =>
      (calls[call]?.bind Refinement.text?).map fun text => .text ("%" ++ text ++ "%")
  | .lookup => emission.value?

/-- The sources of what a call binds that comes in a place of its history. -/
def sourcesOf (place : Nat) : Refinement → List Source
  | .whereEquals _ .null => []
  | .whereEquals _ _ => [.value place 0]
  | .whereContains _ text => if present text then [.pattern place] else []
  | .whereIn _ values => (List.range values.length).map (.value place)
  | .whereSearch text fields =>
      if present text then fields.map fun _ => .pattern place else []
  | .orderBy _ _ | .orderByFields _ => []

def sourcesFrom (place : Nat) : List Refinement → List Source
  | [] => []
  | call :: rest => sourcesOf place call ++ sourcesFrom (place + 1) rest

def Emission.sources (calls : List Refinement) : Emission → List Source
  | .single _ _ => [.lookup]
  | _ => sourcesFrom 0 calls

theorem read_sourcesOf {calls : List Refinement} {place : Nat} {call : Refinement}
    (placed : calls[place]? = some call) (emission : Emission) :
    (sourcesOf place call).map (Source.read calls emission) = call.bound.map some := by
  cases call with
  | whereEquals field value =>
      cases value <;> simp [sourcesOf, Refinement.bound, Source.read, placed, Refinement.values]
  | whereContains field text =>
      cases text with
      | none => rfl
      | some text =>
          by_cases empty : text = "" <;>
            simp [sourcesOf, Refinement.bound, Source.read, placed, Refinement.text?, present,
              empty]
  | whereIn field values =>
      simp only [sourcesOf, Refinement.bound, List.map_map]
      refine List.ext_getElem? fun index => ?_
      by_cases inside : index < values.length
      · simp [Source.read, placed, Refinement.values, inside]
      · simp [inside]
  | whereSearch text fields =>
      cases text with
      | none => rfl
      | some text =>
          by_cases empty : text = "" <;>
            simp [sourcesOf, Refinement.bound, Source.read, placed, Refinement.text?, present,
              empty]
  | orderBy | orderByFields => rfl

/-- The calls are gone through one by one; those that came before give the place of the next. -/
theorem read_sourcesFrom (before calls : List Refinement) (emission : Emission) :
    (sourcesFrom before.length calls).map (Source.read (before ++ calls) emission) =
      (calls.flatMap Refinement.bound).map some := by
  induction calls generalizing before with
  | nil => rfl
  | cons call rest ih =>
      have placed : (before ++ call :: rest)[before.length]? = some call := by simp
      have later := ih (before ++ [call])
      rw [List.length_append, List.length_singleton, List.append_assoc,
        List.singleton_append] at later
      rw [sourcesFrom, List.map_append, read_sourcesOf placed, later, List.flatMap_cons,
        List.map_append]

theorem read_sources (calls : List Refinement) (emission : Emission) :
    (emission.sources calls).map (Source.read calls emission) =
      (emission.bound calls).map some := by
  cases emission with
  | single field value => rfl
  | count | page | all => exact read_sourcesFrom [] calls _

theorem sourcesOf_eq {call other : Refinement} (same : call.SameShape other) (place : Nat) :
    sourcesOf place call = sourcesOf place other := by
  cases same with
  | @whereEquals field value other absent =>
      cases value with
      | null => rw [absent.mp rfl]
      | bool | int | decimal | text | list | record =>
          cases other with
          | null => cases absent.mpr rfl
          | bool | int | decimal | text | list | record => rfl
  | whereContains given | whereSearch given => rw [sourcesOf, sourcesOf, given]
  | whereIn lengths => rw [sourcesOf, sourcesOf, lengths]
  | orderBy | orderByFields => rfl

theorem sourcesFrom_eq {calls others : List Refinement}
    (same : List.Forall₂ Refinement.SameShape calls others) (place : Nat) :
    sourcesFrom place calls = sourcesFrom place others := by
  induction same generalizing place with
  | nil => rfl
  | cons shape _ ih => rw [sourcesFrom, sourcesFrom, sourcesOf_eq shape, ih]

inductive Emission.SameShape : Emission → Emission → Prop where
  | count : SameShape .count .count
  | page {number size : Int} : SameShape (.page number size) (.page number size)
  | all : SameShape .all .all
  | single {field : String} {value other : Value} :
      SameShape (.single field value) (.single field other)

theorem sources_eq {calls others : List Refinement} {emission emission' : Emission}
    (same : List.Forall₂ Refinement.SameShape calls others)
    (shape : emission.SameShape emission') :
    emission.sources calls = emission'.sources others := by
  cases shape with
  | single => rfl
  | count | page | all => exact sourcesFrom_eq same 0

theorem SameOutline.sql_emit?_eq {builder other : Builder} (same : SameOutline builder other)
    {emission emission' : Emission} (shape : emission.SameShape emission') :
    (builder.emit? emission).map Query.sql = (other.emit? emission').map Query.sql := by
  cases shape with
  | count => exact congrArg some same.sql_count_eq
  | page => exact same.sql_page?_eq _ _
  | all => exact congrArg some same.sql_all_eq
  | single =>
      simp only [emit?, single, selection, same.projection, Option.map_some]

theorem arguments_of_emit? {projection : Projection} {defaultSort : List SortField}
    {calls : List Refinement} {emission : Emission} {query : Query}
    (written : ((fresh projection defaultSort).refineAll calls).emit? emission = some query) :
    query.arguments = emission.bound calls := by
  have gathered : ((fresh projection defaultSort).refineAll calls).arguments =
      calls.flatMap Refinement.bound := arguments_refineAll _ calls
  cases emission with
  | count | all =>
      rw [← Option.some.inj written]
      exact gathered
  | single field value =>
      rw [← Option.some.inj written]
      rfl
  | page number size =>
      have page := (page?_of_printable _ (printable_of_page? written)).symm.trans written
      rw [← Option.some.inj page]
      exact gathered

/-- Two queries with one text whose values have the same sources in two histories. -/
structure SameButValues (sources : List Source) (read read' : Source → Option Value)
    (query query' : Query) : Prop where
  sql : query.sql = query'.sql
  length : query.arguments.length = query'.arguments.length
  values : query.arguments.map some = sources.map read
  values' : query'.arguments.map some = sources.map read'

/-- Histories that differ in values alone, neither in whether these are present nor in how many
there are, make a builder write the same texts. What is bound in each place comes from one value
of the history, in both of them from the same. -/
theorem emit?_confined {projection : Projection} {defaultSort : List SortField}
    {history history' : List Turn} {emission emission' : Emission}
    (same : List.Forall₂ Refinement.SameShape (callsOf history) (callsOf history'))
    (shape : emission.SameShape emission') :
    emission.sources (callsOf history) = emission'.sources (callsOf history') ∧
      Option.Rel
        (SameButValues (emission.sources (callsOf history))
          (Source.read (callsOf history) emission) (Source.read (callsOf history') emission'))
        (((fresh projection defaultSort).after history).emit? emission)
        (((fresh projection defaultSort).after history').emit? emission') := by
  have sources := sources_eq same shape
  refine ⟨sources, ?_⟩
  have outline : SameOutline ((fresh projection defaultSort).refineAll (callsOf history))
      ((fresh projection defaultSort).refineAll (callsOf history')) :=
    SameOutline.refineAll ⟨rfl, rfl, rfl, rfl⟩ same
  rw [after_eq_refineAll, after_eq_refineAll]
  refine rel_of_map_eq (outline.sql_emit?_eq shape) fun query query' written written' text => ?_
  have values : query.arguments.map some =
      (emission.sources (callsOf history)).map (Source.read (callsOf history) emission) := by
    rw [arguments_of_emit? written, read_sources]
  have values' : query'.arguments.map some =
      (emission.sources (callsOf history)).map (Source.read (callsOf history') emission') := by
    rw [arguments_of_emit? written', sources, read_sources]
  have length := congrArg List.length values
  have length' := congrArg List.length values'
  simp only [List.length_map] at length length'
  exact ⟨text, length.trans length'.symm, values, values'⟩

def hostileHistory : List Turn :=
  [.refine (.whereEquals "Status" (.text "' OR $3 --")), .emit .count,
    .refine (.whereContains "Result" none),
    .refine (.whereIn "ID" [.text "$9", .text "); DROP TABLE runs"])]

def plainHistory : List Turn :=
  [.refine (.whereEquals "Status" (.int 0)), .refine (.whereContains "Result" (some "")),
    .refine (.whereIn "ID" [.text "one", .text "two"])]

theorem emit?_confined_hostileHistory :
    List.Forall₂ Refinement.SameShape (callsOf hostileHistory) (callsOf plainHistory) ∧
      Emission.SameShape .all .all ∧
      Option.Rel
        (SameButValues [.value 0 0, .value 2 0, .value 2 1]
          (Source.read (callsOf hostileHistory) .all) (Source.read (callsOf plainHistory) .all))
        (((fresh Resource.runs.projection Resource.runs.defaultSort).after
          hostileHistory).emit? .all)
        (((fresh Resource.runs.projection Resource.runs.defaultSort).after
          plainHistory).emit? .all) := by
  have same : List.Forall₂ Refinement.SameShape (callsOf hostileHistory)
      (callsOf plainHistory) :=
    .cons (.whereEquals (by simp)) (.cons (.whereContains rfl) (.cons (.whereIn rfl) .nil))
  exact ⟨same, .all, (emit?_confined same Emission.SameShape.all).2⟩

end Builder

end PagedListing
