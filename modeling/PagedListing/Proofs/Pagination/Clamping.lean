import PagedListing.Listing
import PagedListing.Proofs.Pagination.Bounds
import PagedListing.Proofs.Pagination.Typed

set_option autoImplicit false

/-!
# Clamped requests

Whatever the parameters, the request that is read from them asks for a page within bounds.
Clamping leaves sizes behind that it does not change again, so a listing takes a request that was
read under its page sizes as it stands.
-/

namespace PagedListing.Pagination

namespace Request

variable {config : Config}

/-- A size that clamping leaves alone: an admissible one, or a default that cannot be used and
stands for itself. -/
inductive AtRest (config : Config) : Int → Prop where
  | admissible {size} : 1 ≤ size → size ≤ config.maxSize → AtRest config size
  | unusable : config.defaultSize < 1 → AtRest config config.defaultSize

theorem atRest_clampSize (positive : 1 ≤ config.maxSize) (size : Int) :
    AtRest config (clampSize config size) := by
  have most : clampSize config size ≤ config.maxSize := clampSize_le config size
  by_cases usable : 1 ≤ clampSize config size
  · exact .admissible usable most
  · have same : clampSize config size = config.defaultSize := by
      revert usable
      unfold clampSize
      dsimp only
      split <;> split <;> omega
    rw [same] at usable ⊢
    exact .unusable (by omega)

theorem AtRest.clampSize_eq (positive : 1 ≤ config.maxSize) {size : Int}
    (rest : AtRest config size) : clampSize config size = size := by
  cases rest with
  | admissible least most =>
      unfold clampSize
      dsimp only
      rw [if_neg (by omega), if_neg (by omega)]
  | unusable unusable =>
      unfold clampSize
      dsimp only
      rw [if_pos unusable, if_neg (by omega)]

theorem normalize_eq_self (positive : 1 ≤ config.maxSize) {request : Request}
    (first : 1 ≤ request.page) (rest : AtRest config request.size) :
    request.normalize config = request := by
  unfold normalize
  rw [if_neg (by omega), rest.clampSize_eq positive]

theorem normalize_normalize (positive : 1 ≤ config.maxSize) (request : Request) :
    (request.normalize config).normalize config = request.normalize config :=
  normalize_eq_self positive (one_le_page_normalize config request)
    (atRest_clampSize positive request.size)

theorem Within.offset_nonneg {request : Request} (within : Within config request) :
    0 ≤ request.offset := by
  obtain ⟨first, least, -⟩ := within
  exact Int.mul_nonneg (by omega) (by omega)

theorem presentSearch_ne_empty (search : Option String) : presentSearch search ≠ some "" := by
  intro empty
  obtain ⟨-, nonempty⟩ := Option.filter_eq_some_iff.mp empty
  simp at nonempty

theorem sortOf_eq_parse (sort : Option String) : sortOf sort = SortField.parse (sort.getD "") := by
  cases sort with
  | none => rfl
  | some text => rfl

structure Clamped (config : Config) (params : Params) (request : Request) : Prop
    extends Within config request where
  offset : 0 ≤ request.offset
  search : request.search ≠ some ""
  sort : request.sort = SortField.parse ((params.get? "sort").getD "")

theorem clamped_ofParams (positive : 1 ≤ config.defaultSize)
    (ordered : config.defaultSize ≤ config.maxSize) (params : Params) :
    Clamped config params (ofParams params config) where
  toWithin := within_normalize positive ordered _
  offset := (within_normalize positive ordered _).offset_nonneg
  search := presentSearch_ne_empty _
  sort := sortOf_eq_parse _

/-- A listing resolves the ordering of a request that was read under its page sizes, and takes
everything else as it stands. -/
theorem prepare_ofParams (positive : 1 ≤ config.maxSize) (resource : Resource) (params : Params) :
    Listing.prepare resource config (ofParams params config) =
      ((SortField.resolve resource.projection (ofParams params config).sort).mapError
        Failure.unknownFields).map fun sort => { ofParams params config with sort } := by
  have settled : (ofParams params config).normalize config = ofParams params config :=
    normalize_normalize positive _
  unfold Listing.prepare
  rw [settled]
  cases SortField.resolve resource.projection (ofParams params config).sort <;> rfl

/-- Whatever the parameters, they make an admissible request under usable page sizes. Clamping
changes nothing that is clamped or admissible already, and neither does a listing. -/
theorem ofParams_clamped :
    (∀ (config : Config) (params : Params), 1 ≤ config.defaultSize →
      config.defaultSize ≤ config.maxSize →
      ∃ request, ofFields (typedParams params config) = .ok request ∧
        ofParams params config = request.normalize config ∧
        Clamped config params (ofParams params config)) ∧
    ∀ config : Config, 1 ≤ config.maxSize →
      (∀ request : Request,
        (request.normalize config).normalize config = request.normalize config) ∧
      (∀ request : Request, Within config request → request.normalize config = request) ∧
      ∀ (resource : Resource) (params : Params),
        Listing.prepare resource config (ofParams params config) =
          ((SortField.resolve resource.projection (ofParams params config).sort).mapError
            Failure.unknownFields).map fun sort => { ofParams params config with sort } := by
  constructor
  · intro config params positive ordered
    obtain ⟨request, read, clamped⟩ := exists_ofFields_typedParams params config
    exact ⟨request, read, clamped, clamped_ofParams positive ordered params⟩
  · intro config positive
    exact ⟨normalize_normalize positive, fun _ within => within.normalize,
      prepare_ofParams positive⟩

def oversized : Params :=
  [("page", "-3"), ("page_size", " 5_00 "), ("search", ""), ("sort", "-Name,")]

/-- Under a default size that is not usable, a request that names none keeps it. -/
theorem ofParams_clamped_oversized :
    Clamped ⟨20, 100⟩ oversized ⟨1, 100, none, [⟨"Name", true⟩]⟩ ∧
    Within ⟨-7, 30⟩ ⟨4, 30, none, []⟩ ∧
    normalize ⟨-7, 30⟩ ⟨4, 30, none, []⟩ = ⟨4, 30, none, []⟩ ∧
    normalize ⟨-7, 30⟩ ⟨4, -7, none, []⟩ = ⟨4, -7, none, []⟩ ∧
    Listing.prepare .agents ⟨-7, 30⟩ (ofParams oversized ⟨-7, 30⟩) =
      .ok ⟨1, 30, none, [⟨"Name", true⟩]⟩ := by
  obtain ⟨reads, clamps⟩ := ofParams_clamped
  obtain ⟨idempotent, admissible, taken⟩ := clamps ⟨-7, 30⟩ (by decide)
  have read : ofParams oversized ⟨20, 100⟩ = ⟨1, 100, none, [⟨"Name", true⟩]⟩ := by decide +kernel
  have kept : normalize ⟨-7, 30⟩ ⟨4, 0, none, []⟩ = ⟨4, -7, none, []⟩ := by decide
  obtain ⟨-, -, -, clamped⟩ := reads ⟨20, 100⟩ oversized (by decide) (by decide)
  rw [read] at clamped
  have within : Within ⟨-7, 30⟩ ⟨4, 30, none, []⟩ := ⟨by decide, by decide, by decide⟩
  have again := idempotent ⟨4, 0, none, []⟩
  rw [kept] at again
  refine ⟨clamped, within, admissible _ within, again, ?_⟩
  rw [taken]
  rfl

end Request

end PagedListing.Pagination
