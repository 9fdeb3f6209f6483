import PagedListing.Environment

set_option autoImplicit false

/-!
# Page sizes

The page size of requests that name none, and the largest page size. A size comes from
the environment, else from the settings, else it is a built-in one.
-/

namespace PagedListing.Pagination

/-- The page size of a request that names none, and the largest one. In a configuration
that is not settled yet, zero leaves the choice open. -/
structure Config where
  defaultSize : Int := 0
  maxSize : Int := 0
deriving DecidableEq, Repr

structure Variables where
  defaultSize : String := "PAGINATION_DEFAULT_PAGE_SIZE"
  maxSize : String := "PAGINATION_MAX_PAGE_SIZE"
deriving DecidableEq, Repr

inductive Problem where
  | defaultNotPositive
  | maxNotPositive
  | defaultAboveMax
deriving DecidableEq, Repr

namespace Problem

def message : Problem → String
  | .defaultNotPositive => "default_page_size must be positive"
  | .maxNotPositive => "max_page_size must be positive"
  | .defaultAboveMax => "default_page_size cannot exceed max_page_size"

end Problem

namespace Config

def builtInDefault : Int := 20

def builtInMax : Int := 100

/-- A chosen size that is not positive leaves the choice to the built-in one. -/
def choose (size builtIn : Int) : Int := if size ≤ 0 then builtIn else size

/-- The sizes in effect: those of the environment, else those of the configuration, else
the built-in ones. -/
def settle (names : Variables) (environment : Environment) (config : Config) : Config where
  defaultSize :=
    (environment.int? names.defaultSize).getD (choose config.defaultSize builtInDefault)
  maxSize := (environment.int? names.maxSize).getD (choose config.maxSize builtInMax)

def problem? (config : Config) : Option Problem :=
  if config.defaultSize < 1 then some .defaultNotPositive
  else if config.maxSize < 1 then some .maxNotPositive
  else if config.maxSize < config.defaultSize then some .defaultAboveMax
  else none

def finalize (names : Variables) (environment : Environment) (config : Config) :
    Except Problem Config :=
  let settled := config.settle names environment
  match settled.problem? with
  | some problem => .error problem
  | none => .ok settled

/-- A size that an overlay gives replaces the one below it. -/
def overlay (size above : Int) : Int := if above = 0 then size else above

def merge (config above : Config) : Config where
  defaultSize := overlay config.defaultSize above.defaultSize
  maxSize := overlay config.maxSize above.maxSize

def ofSettings (settings : Config) (environment : Environment) : Except Problem Config :=
  (({ } : Config).merge settings).finalize { } environment

theorem problem?_eq_none_iff {config : Config} :
    config.problem? = none ↔
      1 ≤ config.defaultSize ∧ config.defaultSize ≤ config.maxSize := by
  unfold problem?
  split
  · simp; omega
  · split
    · simp; omega
    · split <;> simp <;> omega

end Config

end PagedListing.Pagination
