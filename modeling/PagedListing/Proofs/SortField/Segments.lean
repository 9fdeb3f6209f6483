import PagedListing.Proofs.SortField.Rendering

set_option autoImplicit false

/-!
# Segments of sort texts

A sort text is read segment by segment. What a segment contributes does not depend on those
around it, and the segments that contribute nothing are those without a name.
-/

namespace PagedListing.SortField

open PagedListing.Text

/-- A segment without a name: nothing but blanks, or a hyphen with nothing but blanks around. -/
inductive Vacant : List Char → Prop where
  | blank {text} : (∀ c ∈ text, isBlank c = true) → Vacant text
  | hyphen {before after} : (∀ c ∈ before, isBlank c = true) → (∀ c ∈ after, isBlank c = true) →
      Vacant (before ++ '-' :: after)

theorem comma_not_mem_of_blank {text : List Char} (blanks : ∀ c ∈ text, isBlank c = true) :
    ',' ∉ text :=
  fun member => absurd (blanks ',' member) (by decide)

theorem Vacant.comma_not_mem {segment : List Char} (vacant : Vacant segment) : ',' ∉ segment := by
  cases vacant with
  | blank blanks => exact comma_not_mem_of_blank blanks
  | hyphen front back =>
      rw [List.mem_append, List.mem_cons, not_or, not_or]
      exact ⟨comma_not_mem_of_blank front, by decide, comma_not_mem_of_blank back⟩

theorem Vacant.ofSegment?_eq {segment : List Char} (vacant : Vacant segment) :
    ofSegment? segment = none := by
  cases vacant with
  | blank blanks => rw [ofSegment?, strip, trim_eq_nil_iff.mpr blanks]
  | @hyphen before after front back =>
      have stripped : strip (before ++ '-' :: after) = ['-'] :=
        trim_surrounded front (List.forall_mem_singleton.mpr (by decide)) back
      rw [ofSegment?, stripped]
      rfl

theorem vacant_of_ofSegment? {segment : List Char} (read : ofSegment? segment = none) :
    Vacant segment := by
  unfold ofSegment? at read
  split at read
  case h_1 empty => exact .blank (trim_eq_nil_iff.mp empty)
  case h_2 rest stripped =>
    split at read
    case h_1 empty =>
      have blanks := trim_eq_nil_iff.mp empty
      obtain ⟨before, after, whole, front, back⟩ := exists_trim_split isBlank segment
      rw [strip] at stripped
      rw [stripped, List.cons_append] at whole
      rw [whole]
      refine .hyphen front fun c member => ?_
      rcases List.mem_append.mp member with inside | behind
      · exact blanks c inside
      · exact back c behind
    case h_2 => cases read
  case h_3 => cases read

theorem ofSegment?_eq_none_iff {segment : List Char} :
    ofSegment? segment = none ↔ Vacant segment :=
  ⟨vacant_of_ofSegment?, Vacant.ofSegment?_eq⟩

theorem parse_eq_nil_iff {segment : String} (single : ',' ∉ segment.toList) :
    parse segment = [] ↔ Vacant segment.toList := by
  rw [parse_of_single single, ← ofSegment?_eq_none_iff]
  cases ofSegment? segment.toList <;> simp

/-- Sort texts that are joined with commas are read one after the other. A segment can be left
out of every sort text exactly if it has no name. -/
theorem parse_segments :
    (∀ first second, parse (first ++ "," ++ second) = parse first ++ parse second) ∧
    (∀ segments : List String, parse (",".intercalate segments) = segments.flatMap parse) ∧
    ∀ segment : String, Vacant segment.toList ↔ ',' ∉ segment.toList ∧
      ∀ before after, parse (",".intercalate (before ++ segment :: after)) =
        parse (",".intercalate (before ++ after)) := by
  refine ⟨parse_append_comma, parse_intercalate, fun segment => ⟨fun vacant => ?_, ?_⟩⟩
  · have nothing := (parse_eq_nil_iff vacant.comma_not_mem).mpr vacant
    refine ⟨vacant.comma_not_mem, fun before after => ?_⟩
    rw [parse_intercalate, parse_intercalate, List.flatMap_append, List.flatMap_append,
      List.flatMap_cons, nothing, List.nil_append]
  · rintro ⟨single, unchanged⟩
    have alone := unchanged [] []
    simp only [List.nil_append, String.intercalate_singleton] at alone
    exact (parse_eq_nil_iff single).mp alone

end PagedListing.SortField
