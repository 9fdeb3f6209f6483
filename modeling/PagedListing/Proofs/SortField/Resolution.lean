import Mathlib.Data.List.Forall2
import PagedListing.SortField.Resolution

set_option autoImplicit false

/-!
# Outcomes of sort resolution

Resolution succeeds when every name stands for a registered one, and then leaves registered
names only. Of the registered names that a spelling may stand for it takes the last.
-/

namespace PagedListing.SortField

variable {projection : Projection} {fields : List SortField}

theorem unknownNames_eq_nil_iff :
    unknownNames projection fields = [] ↔
      ∀ sort ∈ fields, registered? projection.names sort.field ≠ none := by
  simp [unknownNames, List.filter_eq_nil_iff]

theorem resolve_of_known
    (known : ∀ sort ∈ fields, registered? projection.names sort.field ≠ none) :
    resolve projection fields = .ok (fields.filterMap (resolveField? projection)) := by
  rw [resolve, unknownNames_eq_nil_iff.mpr known]

theorem resolve_of_unknown
    (unknown : ∃ sort ∈ fields, registered? projection.names sort.field = none) :
    resolve projection fields =
      .error ⟨unknownNames projection fields, projection.names⟩ := by
  cases names : unknownNames projection fields with
  | nil =>
      obtain ⟨sort, member, missing⟩ := unknown
      exact absurd missing (unknownNames_eq_nil_iff.mp names sort member)
  | cons name rest => rw [resolve, names]

theorem mem_names_of_resolve {sort : List SortField}
    (resolved : resolve projection fields = .ok sort) :
    ∀ field ∈ sort, field.field ∈ projection.names := by
  unfold resolve at resolved
  split at resolved
  · cases resolved
    intro field member
    obtain ⟨asked, -, found⟩ := List.mem_filterMap.mp member
    obtain ⟨name, registered, rfl⟩ := Option.map_eq_some_iff.mp found
    exact mem_of_registered? registered
  · cases resolved

def IsUnknown (projection : Projection) (sort : SortField) : Prop :=
  ∀ name ∈ projection.names, fold name ≠ fold sort.field

instance (projection : Projection) (sort : SortField) : Decidable (sort.IsUnknown projection) :=
  inferInstanceAs (Decidable (∀ name ∈ projection.names, _ ≠ _))

theorem not_isUnknown_iff {sort : SortField} :
    ¬sort.IsUnknown projection ↔ ∃ name ∈ projection.names, fold name = fold sort.field := by
  simp [IsUnknown]

def unknownIn (projection : Projection) (fields : List SortField) : List String :=
  (fields.filter fun sort => sort.IsUnknown projection).map field

theorem registered?_eq_none_iff {sort : SortField} :
    registered? projection.names sort.field = none ↔ sort.IsUnknown projection := by
  simp [registered?, IsUnknown]

theorem unknownNames_eq (projection : Projection) (fields : List SortField) :
    unknownNames projection fields = unknownIn projection fields := by
  have same (sort : SortField) : (registered? projection.names sort.field).isNone =
      decide (sort.IsUnknown projection) := by
    rw [Bool.eq_iff_iff, Option.isNone_iff_eq_none, registered?_eq_none_iff, decide_eq_true_eq]
  simp only [unknownNames, unknownIn, same]

/-- The field that a requested one is replaced by. Its name is the last registered one with the
fold of the name that was requested. -/
structure StandsFor (projection : Projection) (asked resolved : SortField) : Prop where
  direction : resolved.descending = asked.descending
  sameFold : fold resolved.field = fold asked.field
  last : ∃ before after, projection.names = before ++ resolved.field :: after ∧
    ∀ name ∈ after, fold name ≠ fold asked.field

theorem StandsFor.settled {asked resolved : SortField}
    (stands : StandsFor projection asked resolved) : StandsFor projection resolved resolved where
  direction := rfl
  sameFold := rfl
  last := by
    rw [stands.sameFold]
    exact stands.last

theorem forall₂_settled {sort : List SortField}
    (stands : List.Forall₂ (StandsFor projection) fields sort) :
    List.Forall₂ (StandsFor projection) sort sort := by
  induction stands with
  | nil => exact .nil
  | cons first _ ih => exact .cons first.settled ih

theorem registered?_eq_some_iff {names : List String} {spelling name : String} :
    registered? names spelling = some name ↔
      fold name = fold spelling ∧ ∃ before after, names = before ++ name :: after ∧
        ∀ other ∈ after, fold other ≠ fold spelling := by
  rw [registered?, List.find?_eq_some_iff_append, decide_eq_true_iff]
  refine and_congr_right fun _ => ⟨?_, ?_⟩
  · rintro ⟨after, before, backwards, others⟩
    refine ⟨before.reverse, after.reverse, ?_, fun other member => ?_⟩
    · rw [← List.reverse_reverse names, backwards]
      simp
    · simpa using others other (List.mem_reverse.mp member)
  · rintro ⟨before, after, rfl, others⟩
    refine ⟨after.reverse, before.reverse, by simp, fun other member => ?_⟩
    simpa using others other (List.mem_reverse.mp member)

theorem resolveField?_eq_some_iff {asked resolved : SortField} :
    resolveField? projection asked = some resolved ↔ StandsFor projection asked resolved := by
  rw [resolveField?, Option.map_eq_some_iff]
  constructor
  · rintro ⟨name, found, rfl⟩
    obtain ⟨same, last⟩ := registered?_eq_some_iff.mp found
    exact ⟨rfl, same, last⟩
  · rintro ⟨direction, same, last⟩
    refine ⟨resolved.field, registered?_eq_some_iff.mpr ⟨same, last⟩, ?_⟩
    rw [← direction]

theorem forall₂_filterMap_iff {α β : Type} {read : α → Option β} {items : List α}
    {results : List β} :
    List.Forall₂ (fun item result => read item = some result) items results ↔
      (∀ item ∈ items, read item ≠ none) ∧ items.filterMap read = results := by
  induction items generalizing results with
  | nil => simp [eq_comm]
  | cons item rest ih =>
      cases found : read item with
      | none => simp [found, List.forall₂_cons_left_iff]
      | some value =>
          rw [List.forall₂_cons_left_iff, List.filterMap_cons_some found]
          simp only [found, ih, List.forall_mem_cons, Option.some.injEq, ne_eq, reduceCtorEq,
            not_false_eq_true, true_and]
          constructor
          · rintro ⟨result, others, rfl, ⟨known, rfl⟩, rfl⟩
            exact ⟨known, rfl⟩
          · rintro ⟨known, rfl⟩
            exact ⟨value, _, rfl, ⟨known, rfl⟩, rfl⟩

theorem exists_resolve_iff :
    (∃ sort, resolve projection fields = .ok sort) ↔
      ∀ asked ∈ fields, ¬asked.IsUnknown projection := by
  constructor
  · rintro ⟨sort, resolved⟩ asked member unknown
    rw [resolve_of_unknown ⟨asked, member, registered?_eq_none_iff.mpr unknown⟩] at resolved
    cases resolved
  · intro known
    exact ⟨_, resolve_of_known fun asked member missing =>
      known asked member (registered?_eq_none_iff.mp missing)⟩

theorem resolve_eq_ok_iff {sort : List SortField} :
    resolve projection fields = .ok sort ↔ List.Forall₂ (StandsFor projection) fields sort := by
  have fieldwise : List.Forall₂ (StandsFor projection) fields sort ↔
      (∀ asked ∈ fields, resolveField? projection asked ≠ none) ∧
        fields.filterMap (resolveField? projection) = sort := by
    rw [← forall₂_filterMap_iff]
    simp only [resolveField?_eq_some_iff]
  have found (asked : SortField) : resolveField? projection asked ≠ none ↔
      registered? projection.names asked.field ≠ none := by
    rw [resolveField?, ne_eq, Option.map_eq_none_iff]
  simp only [fieldwise, found]
  by_cases known : ∀ asked ∈ fields, registered? projection.names asked.field ≠ none
  · rw [resolve_of_known known, Except.ok.injEq]
    exact (and_iff_right known).symm
  · refine ⟨fun resolved => ?_, fun both => absurd both.1 known⟩
    simp only [not_forall, not_not] at known
    obtain ⟨asked, member, missing⟩ := known
    rw [resolve_of_unknown ⟨asked, member, missing⟩] at resolved
    cases resolved

theorem report_of_resolve {failure : UnknownFields}
    (failed : resolve projection fields = .error failure) :
    failure = ⟨unknownIn projection fields, projection.names⟩ := by
  rw [← unknownNames_eq]
  unfold resolve at failed
  split at failed
  · cases failed
  · exact (Except.error.inj failed).symm

/-- Resolution succeeds exactly when every name has the fold of a registered one. It then puts
the last registered name with that fold in place of each, and changes nothing when it is repeated.
Otherwise it reports every unknown name as it was requested, and all that are registered. -/
theorem resolve_course (projection : Projection) (fields : List SortField) :
    ((∃ sort, resolve projection fields = .ok sort) ↔
      ∀ asked ∈ fields, ∃ name ∈ projection.names, fold name = fold asked.field) ∧
    (∀ sort, resolve projection fields = .ok sort ↔
      List.Forall₂ (StandsFor projection) fields sort) ∧
    (∀ sort, resolve projection fields = .ok sort →
      (∀ resolved ∈ sort, resolved.field ∈ projection.names) ∧
        resolve projection sort = .ok sort) ∧
    ∀ failure, resolve projection fields = .error failure →
      failure.unknown = unknownIn projection fields ∧ failure.allowed = projection.names ∧
        failure.message = "Unknown sort field(s): " ++ ", ".intercalate failure.unknown ++
          ". Allowed: " ++ ", ".intercalate failure.allowed ++ "." := by
  refine ⟨?_, fun sort => resolve_eq_ok_iff, ?_, ?_⟩
  · simp only [exists_resolve_iff, not_isUnknown_iff]
  · intro sort resolved
    have stands := resolve_eq_ok_iff.mp resolved
    exact ⟨mem_names_of_resolve resolved, resolve_eq_ok_iff.mpr (forall₂_settled stands)⟩
  · intro failure failed
    rw [report_of_resolve failed]
    exact ⟨rfl, rfl, rfl⟩

def lookalikes : Projection :=
  .ofColumns "public" "notes" "n"
    [("made", "created_at"), ("saved", "CreatedAt"), ("title", "Title")]

theorem resolve_course_lookalikes :
    resolve lookalikes [⟨"CREATED_AT", true⟩, ⟨"title", false⟩] =
      .ok [⟨"CreatedAt", true⟩, ⟨"Title", false⟩] ∧
    StandsFor lookalikes ⟨"CREATED_AT", true⟩ ⟨"CreatedAt", true⟩ ∧
    resolve lookalikes [⟨"CreatedAt", true⟩, ⟨"Title", false⟩] =
      .ok [⟨"CreatedAt", true⟩, ⟨"Title", false⟩] ∧
    ∃ failure, resolve lookalikes [⟨"body", true⟩, ⟨"title", false⟩, ⟨"body", false⟩] =
        .error failure ∧
      failure.message =
        "Unknown sort field(s): body, body. Allowed: created_at, CreatedAt, Title." := by
  have found : resolve lookalikes [⟨"CREATED_AT", true⟩, ⟨"title", false⟩] =
      .ok [⟨"CreatedAt", true⟩, ⟨"Title", false⟩] := by decide +kernel
  have lost : resolve lookalikes [⟨"body", true⟩, ⟨"title", false⟩, ⟨"body", false⟩] =
      .error ⟨["body", "body"], ["created_at", "CreatedAt", "Title"]⟩ := by decide +kernel
  obtain ⟨-, fieldwise, settled, -⟩ := resolve_course lookalikes
    [⟨"CREATED_AT", true⟩, ⟨"title", false⟩]
  obtain ⟨-, -, -, report⟩ := resolve_course lookalikes
    [⟨"body", true⟩, ⟨"title", false⟩, ⟨"body", false⟩]
  obtain ⟨-, -, told⟩ := report _ lost
  refine ⟨found, ?_, (settled _ found).2, _, lost, told.trans (by decide +kernel)⟩
  cases (fieldwise _).mp found with
  | cons first _ => exact first

end PagedListing.SortField
