import PagedListing.Pagination.Request
import PagedListing.Proofs.Number.Numeral

set_option autoImplicit false

/-!
# Bounds of page requests

Page sizes that settle are positive and ordered, and a request that is read under them asks for
a page of an admissible size. None of these numbers is too long to write.
-/

namespace PagedListing

open PagedListing.Number

theorem Environment.isWritable_of_int? {environment : Environment} {name : String} {value : Int}
    (found : environment.int? name = some value) : isWritable value = true := by
  unfold Environment.int? at found
  split at found
  · split at found
    · cases found
    · exact isWritable_of_readInt? found
  · cases found

namespace Pagination

structure Config.Usable (config : Config) : Prop where
  positive : 1 ≤ config.defaultSize
  ordered : config.defaultSize ≤ config.maxSize
  writable : isWritable config.maxSize = true

theorem Config.isWritable_maxSize_settle (names : Variables) (environment : Environment)
    {config : Config} (writable : isWritable (choose config.maxSize builtInMax) = true) :
    isWritable (config.settle names environment).maxSize = true := by
  unfold Config.settle
  cases found : environment.int? names.maxSize with
  | none => exact writable
  | some size => exact Environment.isWritable_of_int? found

theorem Config.usable_of_ofSettings {environment : Environment} {config : Config}
    (configured : Config.ofSettings { } environment = .ok config) : config.Usable := by
  unfold Config.ofSettings Config.finalize at configured
  simp only at configured
  split at configured
  case h_1 => cases configured
  case h_2 sound =>
    cases configured
    obtain ⟨positive, ordered⟩ := Config.problem?_eq_none_iff.mp sound
    refine ⟨positive, ordered, Config.isWritable_maxSize_settle _ _ ?_⟩
    exact isWritable_of_lt_two_pow (by decide) (by decide)

theorem one_le_clampSize {config : Config} (positive : 1 ≤ config.defaultSize)
    (ordered : config.defaultSize ≤ config.maxSize) (size : Int) :
    1 ≤ Request.clampSize config size := by
  unfold Request.clampSize
  dsimp only
  split <;> split <;> omega

namespace Request

structure Within (config : Config) (request : Request) : Prop where
  first : 1 ≤ request.page
  least : 1 ≤ request.size
  most : request.size ≤ config.maxSize

theorem Within.normalize {config : Config} {request : Request} (within : Within config request) :
    request.normalize config = request := by
  obtain ⟨first, least, most⟩ := within
  unfold Request.normalize clampSize
  dsimp only
  rw [if_neg (by omega), if_neg (by omega), if_neg (by omega)]

theorem within_normalize {config : Config} (positive : 1 ≤ config.defaultSize)
    (ordered : config.defaultSize ≤ config.maxSize) (request : Request) :
    Within config (request.normalize config) where
  first := one_le_page_normalize config request
  least := one_le_clampSize positive ordered request.size
  most := clampSize_le config request.size

theorem within_ofParams {config : Config} (usable : config.Usable) (params : Params) :
    Within config (ofParams params config) :=
  within_normalize usable.positive usable.ordered _

theorem isWritable_intOr {text : Option String} {fallback : Int}
    (writable : isWritable fallback = true) : isWritable (intOr text fallback) = true := by
  cases text with
  | none => exact writable
  | some text =>
      rw [intOr]
      cases read : readInt? text with
      | none => exact writable
      | some value => exact isWritable_of_readInt? read

theorem isWritable_page_ofParams (params : Params) (config : Config) :
    isWritable (ofParams params config).page = true := by
  have one : isWritable 1 = true := isWritable_of_lt_two_pow (by decide) (by decide)
  unfold ofParams Request.normalize
  dsimp only
  split
  · exact one
  · exact isWritable_intOr one

theorem isWritable_size_ofParams {config : Config} (usable : config.Usable) (params : Params) :
    isWritable (ofParams params config).size = true := by
  have within := within_ofParams usable params
  exact isWritable_of_le (Int.le_trans (by decide) within.least) within.most usable.writable

end Request

end Pagination

end PagedListing
