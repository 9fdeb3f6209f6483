import PagedListing.Pagination.Submission
import PagedListing.Proofs.Number.Spelling

set_option autoImplicit false

/-!
# Requests in typed fields

A request that is read from query parameters is the one with the same values in typed fields,
clamped. It does not matter how the numbers are spelled.
-/

namespace PagedListing.Pagination.Request

open PagedListing.Number

/-- A request in typed fields, where what is absent is null. -/
def typed (page size : Int) (search sort : Option String) : Record :=
  [("page", .int page), ("page_size", .int size), ("search", search.elim .null .text),
    ("sort", sort.elim .null .text)]

theorem ofFields_typed (page size : Int) (search sort : Option String) :
    ofFields (typed page size search sort) =
      .ok { page, size, search := presentSearch search, sort := sortOf sort } := by
  cases search <;> cases sort <;> rfl

def typedParams (params : Params) (config : Config) : Record :=
  typed (intOr (params.get? "page") 1) (intOr (params.get? "page_size") config.defaultSize)
    (params.get? "search") (params.get? "sort")

theorem exists_ofFields_typedParams (params : Params) (config : Config) :
    ∃ request, ofFields (typedParams params config) = .ok request ∧
      ofParams params config = request.normalize config :=
  ⟨_, ofFields_typed _ _ _ _, rfl⟩

/-- Parameters whose numbers are spelled out say the same as typed fields, in whichever spelling.
The numeral is one. -/
theorem ofParams_spelled :
    (∀ value : Int, Spelling value (numeral value).toList) ∧
    ∀ (config : Config) (params : Params) (page size : Int) (pageText sizeText : String),
      isWritable page = true → isWritable size = true →
      params.get? "page" = some pageText → Spelling page pageText.toList →
      params.get? "page_size" = some sizeText → Spelling size sizeText.toList →
      ∃ request,
        ofFields (typed page size (params.get? "search") (params.get? "sort")) = .ok request ∧
        ofParams params config = request.normalize config := by
  refine ⟨spelling_numeral, ?_⟩
  intro config params page size pageText sizeText pageWritable sizeWritable pageGiven pageSpelled
    sizeGiven sizeSpelled
  obtain ⟨request, read, clamped⟩ := exists_ofFields_typedParams params config
  refine ⟨request, ?_, clamped⟩
  rw [← read, typedParams, pageGiven, sizeGiven, intOr_of_spelling pageWritable pageSpelled,
    intOr_of_spelling sizeWritable sizeSpelled]

def ornate : Params :=
  [("page", "7"), ("sort", "-Name"), ("page", "\t +1_2\r\n"), ("page_size", "-1_0_05 ")]

theorem ofParams_spelled_ornate :
    Spelling 12 "\t +1_2\r\n".toList ∧ Spelling (-1005) "-1_0_05 ".toList ∧
    ofFields (typed 12 (-1005) none (some "-Name")) = .ok ⟨12, -1005, none, [⟨"Name", true⟩]⟩ ∧
    ofParams ornate ⟨20, 50⟩ = ⟨12, 20, none, [⟨"Name", true⟩]⟩ := by
  have page : Spelling 12 "\t +1_2\r\n".toList := by
    have digits : (12 : Int).natAbs.repr.toList = ['1', '2'] := by decide +kernel
    have grouped : Grouped (12 : Int).natAbs.repr.toList ['1', '_', '2'] := digits ▸ .gap .last
    have parts : "\t +1_2\r\n".toList =
        ['\t', ' '] ++ (['+'] ++ ['1', '_', '2'] ++ ['\r', '\n']) := by decide +kernel
    rw [parts]
    exact .mk (List.all_eq_true.mp rfl) (List.all_eq_true.mp rfl) (.plus (by decide)) grouped
  have size : Spelling (-1005) "-1_0_05 ".toList := by
    have digits : (-1005 : Int).natAbs.repr.toList = ['1', '0', '0', '5'] := by decide +kernel
    have grouped : Grouped (-1005 : Int).natAbs.repr.toList ['1', '_', '0', '_', '0', '5'] :=
      digits ▸ .gap (.gap (.next .last))
    have parts : "-1_0_05 ".toList = [] ++ (['-'] ++ ['1', '_', '0', '_', '0', '5'] ++ [' ']) := by
      decide +kernel
    rw [parts]
    exact .mk (List.all_eq_true.mp rfl) (List.all_eq_true.mp rfl) (.minus (by decide)) grouped
  have pageWritable : isWritable 12 = true := isWritable_iff_length.mpr (by decide +kernel)
  have sizeWritable : isWritable (-1005) = true := isWritable_iff_length.mpr (by decide +kernel)
  obtain ⟨-, reads⟩ := ofParams_spelled
  obtain ⟨request, read, clamped⟩ :=
    reads ⟨20, 50⟩ ornate 12 (-1005) _ _ pageWritable sizeWritable rfl page rfl size
  have submitted : ofFields (typed 12 (-1005) none (some "-Name")) =
      .ok ⟨12, -1005, none, [⟨"Name", true⟩]⟩ := rfl
  have same : request = ⟨12, -1005, none, [⟨"Name", true⟩]⟩ :=
    Except.ok.inj (read.symm.trans submitted)
  rw [same] at clamped
  exact ⟨page, size, submitted, clamped⟩

end PagedListing.Pagination.Request
