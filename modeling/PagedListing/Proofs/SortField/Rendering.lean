import PagedListing.Pagination.Submission
import PagedListing.Proofs.Text.Joining
import PagedListing.Proofs.Text.Trimming

set_option autoImplicit false

/-!
# Sort texts written and read

A sort text reads back as the fields it was written from. The fields that can be written so are
those that are read from some text.
-/

namespace PagedListing

open PagedListing.Text

namespace SortField

/-- The name of a field can stand in a sort text: it is there and has no comma in it and no
blanks around it, and it begins with a hyphen only behind the one for descending order. -/
structure Writable (sort : SortField) : Prop where
  named : sort.field ≠ ""
  single : ',' ∉ sort.field.toList
  bare : strip sort.field.toList = sort.field.toList
  signed : sort.field.toList.head? = some '-' → sort.descending = true

instance (sort : SortField) : Decidable (Writable sort) :=
  decidable_of_iff
    (sort.field ≠ "" ∧ ',' ∉ sort.field.toList ∧ strip sort.field.toList = sort.field.toList ∧
      (sort.field.toList.head? = some '-' → sort.descending = true))
    ⟨fun ⟨named, single, bare, signed⟩ => ⟨named, single, bare, signed⟩,
      fun ⟨named, single, bare, signed⟩ => ⟨named, single, bare, signed⟩⟩

theorem writable_of_strip {name : List Char} {descending : Bool} (nonempty : strip name ≠ [])
    (single : ',' ∉ name) (signed : (strip name).head? = some '-' → descending = true) :
    Writable ⟨String.ofList (strip name), descending⟩ where
  named := fun empty => nonempty (String.ofList_eq_empty_iff.mp empty)
  single := by
    rw [String.toList_ofList]
    exact fun member => single (mem_of_mem_trim member)
  bare := by
    rw [String.toList_ofList]
    exact trim_trim name
  signed := by rwa [String.toList_ofList]

theorem writable_of_ofSegment? {segment : List Char} {sort : SortField} (single : ',' ∉ segment)
    (read : ofSegment? segment = some sort) : Writable sort := by
  unfold ofSegment? at read
  split at read
  case h_1 => cases read
  case h_2 rest stripped =>
    have behind : ',' ∉ rest := fun member => single <| mem_of_mem_trim <| by
      rw [← strip, stripped]
      exact List.mem_cons_of_mem '-' member
    split at read
    case h_1 => cases read
    case h_2 nonempty =>
      cases read
      exact writable_of_strip nonempty behind fun _ => rfl
  case h_3 nonempty unsigned =>
    cases read
    refine writable_of_strip nonempty single fun hyphen => ?_
    obtain ⟨rest, split⟩ := List.head?_eq_some_iff.mp hyphen
    exact absurd split (unsigned rest)

theorem writable_of_mem_parse {spec : String} {sort : SortField} (member : sort ∈ parse spec) :
    Writable sort := by
  obtain ⟨segment, part, read⟩ := List.mem_filterMap.mp member
  exact writable_of_ofSegment? (not_mem_of_mem_splitOn part) read

namespace Writable

variable {sort : SortField}

theorem toList_ne_nil (writable : Writable sort) : sort.field.toList ≠ [] :=
  fun empty => writable.named (String.toList_eq_nil_iff.mp empty)

theorem comma_not_mem_toSegment (writable : Writable sort) : ',' ∉ sort.toSegment.toList := by
  unfold toSegment
  split
  · rw [String.toList_append, List.mem_append, not_or]
    exact ⟨by decide, writable.single⟩
  · exact writable.single

theorem ofSegment?_toSegment (writable : Writable sort) :
    ofSegment? sort.toSegment.toList = some sort := by
  cases direction : sort.descending with
  | false =>
      have unsigned (rest : List Char) : sort.field.toList ≠ '-' :: rest := fun hyphen => by
        have descending := writable.signed (List.head?_eq_some_iff.mpr ⟨rest, hyphen⟩)
        rw [direction] at descending
        cases descending
      rw [toSegment, direction, if_neg (by decide), ofSegment?, writable.bare]
      split
      case h_1 empty => exact absurd empty writable.toList_ne_nil
      case h_2 rest hyphen => exact absurd hyphen (unsigned rest)
      case h_3 => rw [String.ofList_toList, ← direction]
  | true =>
      have segment : ("-" ++ sort.field).toList = '-' :: sort.field.toList :=
        String.toList_append
      have stripped : strip ('-' :: sort.field.toList) = '-' :: sort.field.toList :=
        trim_cons_of_trimmed (by decide) writable.bare
      rw [toSegment, direction, if_pos rfl, segment, ofSegment?, stripped]
      simp only [writable.bare]
      split
      case h_1 empty => exact absurd empty writable.toList_ne_nil
      case h_2 => rw [String.ofList_toList, ← direction]

end Writable

theorem parse_intercalate (segments : List String) :
    parse (",".intercalate segments) = segments.flatMap parse := by
  induction segments with
  | nil => rfl
  | cons segment rest ih =>
      cases rest with
      | nil => rw [String.intercalate_singleton, List.flatMap_singleton]
      | cons next others =>
          rw [String.intercalate_cons_cons, parse_append_comma, ih, ← List.flatMap_cons]

theorem parse_of_single {segment : String} (single : ',' ∉ segment.toList) :
    parse segment = (ofSegment? segment.toList).toList := by
  rw [parse, List.splitOn_eq_singleton single]
  cases read : ofSegment? segment.toList <;> simp [read]

theorem parse_toSegment {sort : SortField} (writable : Writable sort) :
    parse sort.toSegment = [sort] := by
  rw [parse_of_single writable.comma_not_mem_toSegment, writable.ofSegment?_toSegment]
  rfl

theorem parse_render_of_writable {fields : List SortField}
    (writable : ∀ sort ∈ fields, Writable sort) : parse (render fields) = fields := by
  have single (sort : SortField) (member : sort ∈ fields) : parse sort.toSegment = [sort] :=
    parse_toSegment (writable sort member)
  rw [render, parse_intercalate, List.flatMap_map, List.flatMap_congr single,
    List.flatMap_singleton']

def submitted (sort : SortField) : Value :=
  .record [("field", .text sort.field), ("descending", .bool sort.descending)]

end SortField

namespace Validation.Reading

theorem all_map_ok {α : Type} (values : List α) : all (values.map .ok) = .ok values := by
  induction values with
  | nil => rfl
  | cons value rest ih => rw [List.map_cons, all, ih]; rfl

end Validation.Reading

namespace Pagination.Request

open PagedListing.SortField PagedListing.Validation

theorem readSort_text (text : String) (others : Record) :
    readSort (("sort", .text text) :: others) = .ok (SortField.parse text) := rfl

theorem readSort_submitted (fields : List SortField) (others : Record) :
    readSort (("sort", .list (fields.map submitted)) :: others) = .ok fields := by
  have items : ((fields.map submitted).mapIdx fun index item =>
      readSortField [.field "sort", .item index] item) = fields.map .ok := by
    refine List.ext_getElem (by simp) fun index _ _ => ?_
    rw [List.getElem_mapIdx, List.getElem_map, List.getElem_map]
    rfl
  exact (congrArg Reading.all items).trans (Reading.all_map_ok fields)

/-- A submission with an ordering is the one without it, which then takes the ordering. -/
theorem ofFields_sort {others : Record} (absent : others.lookup "sort" = none) {form : Value}
    {fields : List SortField} (read : readSort (("sort", form) :: others) = .ok fields) :
    ofFields (("sort", form) :: others) =
      (ofFields others).map fun request => { request with sort := fields } := by
  have unsorted : readSort others = .ok [] := by rw [readSort, absent]
  have page : readNumber (("sort", form) :: others) "page" 1 = readNumber others "page" 1 := rfl
  have size : readNumber (("sort", form) :: others) "page_size" 0 =
      readNumber others "page_size" 0 := rfl
  have search : readSearch (("sort", form) :: others) = readSearch others := rfl
  rw [ofFields, ofFields, page, size, search, read, unsorted]
  cases readNumber others "page" 1 <;> cases readNumber others "page_size" 0 <;>
    cases readSearch others <;> rfl

end Pagination.Request

namespace SortField

open PagedListing.Pagination

/-- What a sort text is read as can be written, and fields that can be written come back from
the text that they are written to. A request takes the same ordering from this text as from the
fields in records, whatever else is submitted with it. -/
theorem parse_render :
    (∀ spec, ∀ sort ∈ parse spec, Writable sort) ∧
    (∀ fields, (∀ sort ∈ fields, Writable sort) →
      parse (render fields) = fields ∧
      ∀ form ∈ [.text (render fields), .list (fields.map submitted)],
        Request.ofFields [("sort", form)] = .ok { sort := fields } ∧
        ∀ others : Record, others.lookup "sort" = none →
          Request.ofFields (("sort", form) :: others) =
            (Request.ofFields others).map fun request => { request with sort := fields }) ∧
    ∀ spec, parse (render (parse spec)) = parse spec := by
  refine ⟨fun spec sort member => writable_of_mem_parse member, ?_, fun spec => ?_⟩
  · intro fields writable
    have back := parse_render_of_writable writable
    have read (form : Value)
        (known : form ∈ [Value.text (render fields), .list (fields.map submitted)])
        (others : Record) : Request.readSort (("sort", form) :: others) = .ok fields := by
      simp only [List.mem_cons, List.not_mem_nil, or_false] at known
      rcases known with rfl | rfl
      · rw [Request.readSort_text, back]
      · exact Request.readSort_submitted fields others
    refine ⟨back, fun form known => ⟨?_, fun others absent => ?_⟩⟩
    · exact Request.ofFields_sort rfl (read form known [])
    · exact Request.ofFields_sort absent (read form known others)
  · exact parse_render_of_writable fun sort member => writable_of_mem_parse member

def hyphenated : List SortField := [⟨"name", false⟩, ⟨"-\u2003é", true⟩, ⟨"-", true⟩]

theorem parse_render_hyphenated :
    (∀ sort ∈ hyphenated, Writable sort) ∧ parse "name,--\u2003é,--" = hyphenated ∧
    Writable ⟨"-", true⟩ ∧
    Request.ofFields [("sort", .text "name,--\u2003é,--"), ("page", .int 3)] =
      .ok { page := 3, sort := hyphenated } ∧
    Request.ofFields [("sort", .list (hyphenated.map submitted)), ("page", .int 3)] =
      .ok { page := 3, sort := hyphenated } := by
  have written : render hyphenated = "name,--\u2003é,--" := by decide +kernel
  have writable : ∀ sort ∈ hyphenated, Writable sort := by decide +kernel
  obtain ⟨image, restored, -⟩ := parse_render
  obtain ⟨back, forms⟩ := restored hyphenated writable
  rw [written] at back forms
  have beside (form : Value)
      (known : form ∈ [Value.text "name,--\u2003é,--", .list (hyphenated.map submitted)]) :
      Request.ofFields [("sort", form), ("page", .int 3)] =
        .ok { page := 3, sort := hyphenated } := (forms form known).2 _ (by decide)
  refine ⟨writable, back, image "- - , name" ⟨"-", true⟩ (by decide +kernel), ?_, ?_⟩
  · exact beside _ List.mem_cons_self
  · exact beside _ (List.mem_cons_of_mem _ List.mem_cons_self)

end SortField

end PagedListing
