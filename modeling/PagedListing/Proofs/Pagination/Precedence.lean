import PagedListing.Pagination.Config

set_option autoImplicit false

/-!
# The precedence of page sizes

A page size comes from the environment, else it is the last one that the configuration or an
overlay gives, else it is a built-in one. Finalizing leaves these sizes behind whether it
succeeds or not, so it comes to the same again.
-/

namespace PagedListing

/-- A variable is set to a text that is read as an integer. -/
def Environment.Overrides (environment : Environment) (name : String) (value : Int) : Prop :=
  ∃ text, environment.get? name = some text ∧ Number.readInt? text = some value

theorem Environment.int?_eq_some_iff {environment : Environment} {name : String} {value : Int} :
    environment.int? name = some value ↔ environment.Overrides name value := by
  unfold Environment.int? Environment.Overrides
  cases found : environment.get? name with
  | none => simp
  | some text =>
      by_cases empty : text = ""
      · have unread : Number.readInt? "" = none := rfl
        simp [empty, unread]
      · simp [empty]

theorem Environment.int?_eq_none_iff {environment : Environment} {name : String} :
    environment.int? name = none ↔ ∀ value, ¬environment.Overrides name value := by
  rw [Option.eq_none_iff_forall_ne_some]
  exact forall_congr' fun _ => not_congr int?_eq_some_iff

namespace Pagination

/-- The last size of some that is given. Zero gives none. -/
inductive LastGiven : List Int → Int → Prop where
  | here {size rest} : size ≠ 0 → (∀ later ∈ rest, later = 0) → LastGiven (size :: rest) size
  | later {first rest size} : LastGiven rest size → LastGiven (first :: rest) size

/-- The size that prevails: that of the environment, else the last one given if it is positive,
else the built-in one. -/
inductive Prevails (environment : Environment) (name : String) (builtIn : Int)
    (given : List Int) : Int → Prop where
  | override {size} :
      environment.Overrides name size → Prevails environment name builtIn given size
  | given {size} :
      (∀ other, ¬environment.Overrides name other) → LastGiven given size → 0 < size →
      Prevails environment name builtIn given size
  | builtIn :
      (∀ other, ¬environment.Overrides name other) →
      (∀ size, LastGiven given size → size ≤ 0) →
      Prevails environment name builtIn given builtIn

theorem lastGiven_cons_iff {first size : Int} {rest : List Int} :
    LastGiven (first :: rest) size ↔
      (first = size ∧ size ≠ 0 ∧ ∀ later ∈ rest, later = 0) ∨ LastGiven rest size := by
  constructor
  · intro last
    cases last with
    | here nonzero zeros => exact .inl ⟨rfl, nonzero, zeros⟩
    | later last => exact .inr last
  · rintro (⟨rfl, nonzero, zeros⟩ | last)
    · exact .here nonzero zeros
    · exact .later last

/-- An overlay decides between its own size and the one below it. -/
theorem lastGiven_overlay_iff {initial above size : Int} {rest : List Int} :
    LastGiven (initial :: above :: rest) size ↔
      LastGiven (Config.overlay initial above :: rest) size := by
  unfold Config.overlay
  by_cases zero : above = 0
  · rw [if_pos zero, lastGiven_cons_iff, lastGiven_cons_iff, lastGiven_cons_iff]
    simp only [List.forall_mem_cons, zero, true_and]
    constructor
    · rintro (kept | ⟨rfl, nonzero, -⟩ | last)
      · exact .inl kept
      · exact absurd rfl nonzero
      · exact .inr last
    · rintro (kept | last)
      · exact .inl kept
      · exact .inr (.inr last)
  · rw [if_neg zero, lastGiven_cons_iff]
    constructor
    · rintro (⟨-, -, zeros⟩ | last)
      · exact absurd (zeros above List.mem_cons_self) zero
      · exact last
    · exact .inr

/-- Sizes that are overlaid one after the other leave the last one given. -/
theorem lastGiven_iff_foldl {initial size : Int} {overlays : List Int} :
    LastGiven (initial :: overlays) size ↔
      size ≠ 0 ∧ overlays.foldl Config.overlay initial = size := by
  induction overlays generalizing initial with
  | nil =>
      constructor
      · intro last
        cases last with
        | here nonzero _ => exact ⟨nonzero, rfl⟩
        | later last => cases last
      · rintro ⟨nonzero, rfl⟩
        exact .here nonzero (by simp)
  | cons above rest ih => rw [lastGiven_overlay_iff, ih, List.foldl_cons]

section

variable {environment : Environment} {name : String} {builtIn initial size : Int}
  {overlays : List Int}

theorem prevails_iff_of_override {value : Int} (found : environment.int? name = some value) :
    Prevails environment name builtIn (initial :: overlays) size ↔ value = size := by
  have overrides := Environment.int?_eq_some_iff.mp found
  constructor
  · intro prevails
    cases prevails with
    | override other =>
        exact Option.some.inj (found.symm.trans (Environment.int?_eq_some_iff.mpr other))
    | given free _ _ => exact absurd overrides (free value)
    | builtIn free _ => exact absurd overrides (free value)
  · rintro rfl
    exact .override overrides

theorem prevails_iff_of_free (found : environment.int? name = none) :
    Prevails environment name builtIn (initial :: overlays) size ↔
      Config.choose (overlays.foldl Config.overlay initial) builtIn = size := by
  have free := Environment.int?_eq_none_iff.mp found
  rw [Config.choose]
  constructor
  · intro prevails
    cases prevails with
    | override other => exact absurd other (free size)
    | given _ last positive =>
        obtain ⟨-, rfl⟩ := lastGiven_iff_foldl.mp last
        exact if_neg (by omega)
    | builtIn _ small =>
        refine if_pos ?_
        by_cases zero : overlays.foldl Config.overlay initial = 0
        · omega
        · exact small _ (lastGiven_iff_foldl.mpr ⟨zero, rfl⟩)
  · intro chosen
    split at chosen
    case isTrue small =>
      subst chosen
      refine .builtIn free fun size last => ?_
      obtain ⟨-, rfl⟩ := lastGiven_iff_foldl.mp last
      exact small
    case isFalse positive =>
      subst chosen
      exact .given free (lastGiven_iff_foldl.mpr ⟨by omega, rfl⟩) (by omega)

theorem prevails_iff :
    Prevails environment name builtIn (initial :: overlays) size ↔
      (environment.int? name).getD
        (Config.choose (overlays.foldl Config.overlay initial) builtIn) = size := by
  cases found : environment.int? name with
  | some value => exact prevails_iff_of_override found
  | none => exact prevails_iff_of_free found

end

namespace Config

variable {names : Variables} {environment : Environment}

theorem foldl_merge (config : Config) (overlays : List Config) :
    overlays.foldl merge config =
      ⟨(overlays.map defaultSize).foldl overlay config.defaultSize,
        (overlays.map maxSize).foldl overlay config.maxSize⟩ := by
  induction overlays generalizing config with
  | nil => rfl
  | cons above rest ih => exact ih (config.merge above)

theorem choose_choose {size builtIn : Int} (positive : 0 < builtIn) :
    choose (choose size builtIn) builtIn = choose size builtIn := by
  unfold choose
  by_cases small : size ≤ 0
  · rw [if_pos small, if_neg (by omega)]
  · rw [if_neg small, if_neg small]

/-- A size that is settled prevails again: an override returns, and without one the size is
positive. -/
theorem settle_settle (config : Config) :
    (config.settle names environment).settle names environment =
      config.settle names environment := by
  have again (override : Option Int) (size : Int) {builtIn : Int} (positive : 0 < builtIn) :
      override.getD (choose (override.getD (choose size builtIn)) builtIn) =
        override.getD (choose size builtIn) := by
    cases override with
    | none => exact choose_choose positive
    | some value => rfl
  have least := again (environment.int? names.defaultSize) config.defaultSize
    (by decide : 0 < builtInDefault)
  have most := again (environment.int? names.maxSize) config.maxSize (by decide : 0 < builtInMax)
  simp only [settle, least, most]

theorem finalize_eq_ok_iff {config sizes : Config} :
    config.finalize names environment = .ok sizes ↔
      config.settle names environment = sizes ∧
        1 ≤ (config.settle names environment).defaultSize ∧
        (config.settle names environment).defaultSize ≤
          (config.settle names environment).maxSize := by
  have usable : (config.settle names environment).problem? = none ↔ _ := problem?_eq_none_iff
  unfold finalize
  dsimp only
  cases found : (config.settle names environment).problem? with
  | some problem =>
      constructor
      · intro impossible
        cases impossible
      · rintro ⟨rfl, sound⟩
        rw [usable.mpr sound] at found
        cases found
  | none =>
      constructor
      · intro same
        cases same
        exact ⟨rfl, usable.mp found⟩
      · rintro ⟨rfl, -⟩
        rfl

theorem finalize_settle (config : Config) :
    (config.settle names environment).finalize names environment =
      config.finalize names environment := by
  unfold finalize
  rw [settle_settle]

/-- Finalizing leaves the sizes that prevail, succeeds if they are usable, and comes to the same
when it is done again. -/
theorem finalize_precedence (names : Variables) (environment : Environment) (initial : Config)
    (overlays : List Config) :
    let merged := overlays.foldl merge initial
    let left := merged.settle names environment
    (∀ size, left.defaultSize = size ↔
      Prevails environment names.defaultSize builtInDefault
        ((initial :: overlays).map defaultSize) size) ∧
    (∀ size, left.maxSize = size ↔
      Prevails environment names.maxSize builtInMax ((initial :: overlays).map maxSize) size) ∧
    (∀ sizes, merged.finalize names environment = .ok sizes ↔
      left = sizes ∧ 1 ≤ left.defaultSize ∧ left.defaultSize ≤ left.maxSize) ∧
    left.settle names environment = left ∧
    left.finalize names environment = merged.finalize names environment := by
  intro merged left
  have sizes : merged = ⟨(overlays.map defaultSize).foldl overlay initial.defaultSize,
      (overlays.map maxSize).foldl overlay initial.maxSize⟩ := foldl_merge initial overlays
  refine ⟨fun size => ?_, fun size => ?_, fun _ => finalize_eq_ok_iff, settle_settle merged,
    finalize_settle merged⟩
  · rw [List.map_cons, prevails_iff]
    simp only [left, sizes, settle]
  · rw [List.map_cons, prevails_iff]
    simp only [left, sizes, settle]

/-- A negative size counts as given, so that the size below it is not taken up again. -/
example :
    ([⟨0, 50⟩, ⟨-3, 0⟩].foldl merge ⟨5, 0⟩).finalize { } [("PAGINATION_MAX_PAGE_SIZE", " +3_0 ")] =
      .ok ⟨20, 30⟩ := rfl

end Config

end Pagination

end PagedListing
