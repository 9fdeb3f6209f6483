import Mathlib.Order.Bounds.Basic
import PagedListing.Proofs.Number.Rounding
import PagedListing.Proofs.Pagination.Windows

set_option autoImplicit false

/-!
# When the number of pages is right

A result tells the least number of pages that holds every row, unless rounding the quotient
loses it. A quotient that no double is near is the only one for which there is no result.
-/

namespace PagedListing.Pagination

open PagedListing.Number

variable {total size : Int}

def Suffices (total size pages : Int) : Prop :=
  1 ≤ pages ∧ total ≤ pages * size

theorem isLeast_ceil (nonneg : 0 ≤ total) (positive : 0 < size) :
    IsLeast {pages | Suffices total size pages} (max 1 ((total + (size - 1)) / size)) := by
  have counted := pageCount_ceil nonneg positive
  refine ⟨⟨counted.least, counted.enough⟩, ?_⟩
  rintro pages ⟨several, enough⟩
  apply max_le several
  apply Int.le_of_lt_add_one
  rw [Int.ediv_lt_iff_lt_mul positive, Int.add_mul]
  omega

theorem isLeast_iff (nonneg : 0 ≤ total) (positive : 0 < size) {pages : Int} :
    IsLeast {pages | Suffices total size pages} pages ↔
      pages = max 1 ((total + (size - 1)) / size) := by
  have least := isLeast_ceil nonneg positive
  constructor
  · intro least'
    exact least'.unique least
  · rintro rfl
    exact least

theorem build_none (data : List Value) (page : Int) (positive : 0 < size)
    (far : Result.pages? total size = none) :
    Result.build data (.int total) page size = .error .quotientTooLarge := by
  have settled : ¬size ≤ 0 := by omega
  rw [Result.build, Result.pageCount, if_neg settled]
  simp only [far]
  rfl

theorem pages?_natCast {dividend divisor : Nat} (positive : 0 < divisor) :
    Result.pages? dividend divisor = (ceilQuotient? dividend divisor).map (max 1) := by
  rw [Result.pages?, if_pos (by omega), Int.toNat_natCast]

theorem ceil_natCast {dividend divisor : Nat} (positive : 0 < divisor) :
    ((dividend : Int) + ((divisor : Int) - 1)) / divisor =
      (((dividend + (divisor - 1)) / divisor : Nat) : Int) := by
  rw [Int.natCast_ediv, Int.natCast_add, Int.natCast_sub positive, Int.natCast_one]

theorem far_natCast {dividend divisor : Nat} (top : Nat) :
    (2 ^ 54 - 1) * ((divisor : Int) * 2 ^ top) ≤ dividend ↔
      (2 ^ 54 - 1) * (divisor * 2 ^ top) ≤ dividend := by
  have unit : (divisor : Int) * 2 ^ top = ((divisor * 2 ^ top : Nat) : Int) := by push_cast; rfl
  rw [unit]
  omega

/-- There is a result unless the total is as far as half a step behind the greatest double,
counted in pages. The result tells the least number of pages that holds every row just if
that number survives the rounding. Below `2 ^ 53` pages it is the last page that is missing
otherwise. -/
theorem build_pages (data : List Value) (page : Int) (nonneg : 0 ≤ total) (positive : 1 ≤ size) :
    (Result.build data (.int total) page size = .error .quotientTooLarge ↔
      (2 ^ 54 - 1) * (size * 2 ^ 970) ≤ total) ∧
    (total < (2 ^ 54 - 1) * (size * 2 ^ 970) →
      ∃ result, Result.build data (.int total) page size = .ok result ∧
        (IsLeast {pages | Suffices total size pages} result.pages ↔
          Survives total.toNat size.toNat) ∧
        (total / size < 2 ^ 53 → ¬Survives total.toNat size.toNat →
          result.pages = total / size)) := by
  obtain ⟨dividend, rfl⟩ := Int.eq_ofNat_of_zero_le nonneg
  obtain ⟨divisor, rfl⟩ := Int.eq_ofNat_of_zero_le (Int.le_trans (by decide) positive)
  have proper : 0 < divisor := by omega
  have far := (@ceilQuotient?_eq_none_iff dividend _ proper).trans
    (far_natCast 970).symm
  have told := @pages?_natCast dividend _ proper
  rw [Int.toNat_natCast, Int.toNat_natCast, ← Int.not_le, ← far]
  cases rounded : ceilQuotient? dividend divisor with
  | none =>
      rw [rounded] at told
      exact ⟨iff_of_true (build_none data page positive told) rfl, fun near => absurd rfl near⟩
  | some whole =>
      rw [rounded] at told
      have built := build_int data page positive told
      refine ⟨iff_of_false (by simp [built]) (by simp), fun _ => ⟨_, built, ?_, ?_⟩⟩
      · rw [isLeast_iff nonneg positive, ceil_natCast proper, ← max_ceilQuotient?_eq_iff proper,
          rounded, Option.map_some, Option.some_inj]
      · intro fine lost
        obtain ⟨several, dropped⟩ := ceilQuotient?_of_lost proper (by omega) lost
        have same := Option.some.inj (rounded.symm.trans dropped)
        dsimp only
        rw [same, ← Int.natCast_ediv]
        omega

theorem build_pages_thirds :
    (0 : Int) ≤ 2 ^ 53 + 2 ∧ (1 : Int) ≤ 3 ∧
      ((2 : Int) ^ 53 + 2 < (2 ^ 54 - 1) * (3 * 2 ^ 970)) ∧
      ∃ result, Result.build [] (.int (2 ^ 53 + 2)) 1 3 = .ok result ∧
        IsLeast {pages | Suffices (2 ^ 53 + 2) 3 pages} result.pages := by
  have nonneg : (0 : Int) ≤ 2 ^ 53 + 2 := by decide
  have positive : (1 : Int) ≤ 3 := by decide
  have near : (2 : Int) ^ 53 + 2 < (2 ^ 54 - 1) * (3 * 2 ^ 970) := by decide +kernel
  obtain ⟨result, built, least, -⟩ := (build_pages [] 1 nonneg positive).2 near
  have survives : Survives (2 ^ 53 + 2) 3 :=
    ⟨isDouble_of_le (by decide), fun _ _ _ => .inl (by decide)⟩
  exact ⟨nonneg, positive, near, result, built, least.mpr survives⟩

/-- A last page of one row is dropped, and no result is given for a longer listing. -/
theorem build_pages_farTotals :
    (∃ result, Result.build [] (.int (2 ^ 53 + 1)) 1 1 = .ok result ∧ result.pages = 2 ^ 53 ∧
      ¬IsLeast {pages | Suffices (2 ^ 53 + 1) 1 pages} result.pages) ∧
    Result.build [] (.int (2 ^ 1024)) 1 1 = .error .quotientTooLarge := by
  have told : Result.pages? (2 ^ 53 + 1) 1 = some (2 ^ 53) := by decide
  have far : Result.pages? (2 ^ 1024) 1 = none := by decide +kernel
  refine ⟨⟨_, build_int [] 1 (by decide) told, rfl, ?_⟩, build_none [] 1 (by decide) far⟩
  intro least
  exact absurd least.1.2 (by decide)

end PagedListing.Pagination
