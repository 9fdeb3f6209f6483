import PagedListing.Pagination.Result
import PagedListing.Proofs.Number.Numeral
import PagedListing.Proofs.Number.Quotient
import PagedListing.Proofs.Query.Characters

set_option autoImplicit false

/-!
# Pages and their windows

The number of pages that a result tells and the windows that the page queries end in belong
together: over the pages from the first to the last one, the windows take in every row once.
-/

namespace PagedListing.Pagination

open PagedListing.Number

structure EndsInWindow (sql : String) (limit offset : Int) : Prop where
  limitWritable : isWritable limit = true
  offsetWritable : isWritable offset = true
  text : ∃ head, sql = head ++ " LIMIT " ++ numeral limit ++ " OFFSET " ++ numeral offset

theorem append_last_inj {c : Char} {before before' after after' : List Char}
    (absent : c ∉ after) (absent' : c ∉ after')
    (same : before ++ c :: after = before' ++ c :: after') :
    before = before' ∧ after = after' := by
  rcases List.append_eq_append_iff.mp same with ⟨middle, rfl, rest⟩ | ⟨middle, rfl, rest⟩
  · cases middle with
    | nil => simpa using rest
    | cons d later =>
        obtain ⟨-, rfl⟩ := List.cons.inj rest
        exact absurd (List.mem_append_right later List.mem_cons_self) absent
  · cases middle with
    | nil => simpa [eq_comm] using rest
    | cons d later =>
        obtain ⟨-, rfl⟩ := List.cons.inj rest
        exact absurd (List.mem_append_right later List.mem_cons_self) absent'

theorem no_space_numeral (value : Int) : ' ' ∉ (numeral value).toList :=
  not_mem_numeral (by decide) (by decide) value

/-- The bounds at the end of a text can be told from the text alone. -/
theorem EndsInWindow.unique {sql : String} {limit offset limit' offset' : Int}
    (window : EndsInWindow sql limit offset) (window' : EndsInWindow sql limit' offset') :
    limit = limit' ∧ offset = offset' := by
  have spaced {limit offset : Int} (window : EndsInWindow sql limit offset) :
      ∃ head, sql.toList = head ++ ' ' :: (numeral limit).toList ++ " OFFSET".toList ++
        ' ' :: (numeral offset).toList := by
    obtain ⟨head, text⟩ := window.text
    exact ⟨head.toList ++ " LIMIT".toList, by simp [text, String.toList_append]⟩
  obtain ⟨head, text⟩ := spaced window
  obtain ⟨head', text'⟩ := spaced window'
  obtain ⟨front, offsets⟩ := append_last_inj (no_space_numeral offset) (no_space_numeral offset')
    (text.symm.trans text')
  obtain ⟨-, limits⟩ := append_last_inj (no_space_numeral limit) (no_space_numeral limit')
    (List.append_cancel_right front)
  exact ⟨numeral_inj window.limitWritable window'.limitWritable (String.toList_inj.mp limits),
    numeral_inj window.offsetWritable window'.offsetWritable
      (String.toList_inj.mp offsets)⟩

theorem endsInWindow_of_page? {builder : Builder} {page size : Int} {query : Query}
    (written : builder.page? page size = some query) :
    EndsInWindow query.sql size ((page - 1) * size) := by
  obtain ⟨limit, offset⟩ := Builder.printable_of_page? written
  rw [Builder.page?_of_printable builder ⟨limit, offset⟩] at written
  refine ⟨limit, offset, builder.all.sql, ?_⟩
  rw [← Option.some.inj written]
  simp [Builder.window, String.append_assoc]

/-- The query for a page is written and the window at its end takes in a row of a given index,
counted from zero. -/
def Covers (builder : Builder) (page size index : Int) : Prop :=
  ∃ query limit offset, builder.page? page size = some query ∧
    EndsInWindow query.sql limit offset ∧ offset ≤ index ∧ index < offset + limit

theorem covers_iff {builder : Builder} {page size index : Int} {query : Query}
    (positive : 0 < size) (written : builder.page? page size = some query) :
    Covers builder page size index ↔ index / size = page - 1 := by
  rw [Int.ediv_eq_iff_of_pos positive]
  constructor
  · rintro ⟨other, limit, offset, written', window, least, less⟩
    obtain rfl : query = other := Option.some.inj (written.symm.trans written')
    obtain ⟨rfl, rfl⟩ := window.unique (endsInWindow_of_page? written)
    exact ⟨least, less⟩
  · rintro ⟨least, less⟩
    exact ⟨query, size, (page - 1) * size, written, endsInWindow_of_page? written, least, less⟩

/-- The pages from the first to a last one tile the rows of a listing: the windows of their
queries take in every row once and are never empty, and the page behind them has no row. -/
structure Tiles (builder : Builder) (total size pages : Int) : Prop where
  written : ∀ page, 1 ≤ page → page ≤ pages + 1 →
    ∃ query limit offset, builder.page? page size = some query ∧
      EndsInWindow query.sql limit offset
  once : ∀ index, 0 ≤ index → index < total →
    ∃! page, (1 ≤ page ∧ page ≤ pages) ∧ Covers builder page size index
  nonempty : 0 < total → ∀ page, 1 ≤ page → page ≤ pages →
    ∃ index, (0 ≤ index ∧ index < total) ∧ Covers builder page size index
  exhausted : ∀ index, Covers builder (pages + 1) size index → total ≤ index
  single : total = 0 → pages = 1

theorem pages?_eq {total size : Int} (nonneg : 0 ≤ total) (exact : total ≤ 2 ^ 53)
    (positive : 0 < size) :
    Result.pages? total size = some (max 1 ((total + (size - 1)) / size)) := by
  obtain ⟨dividend, rfl⟩ := Int.eq_ofNat_of_zero_le nonneg
  obtain ⟨divisor, rfl⟩ := Int.eq_ofNat_of_zero_le positive.le
  have rounded : (ceilQuotient? dividend divisor).map (max 1) =
      some (max 1 (((dividend + (divisor - 1)) / divisor : Nat) : Int)) :=
    max_ceilQuotient? (by omega) (by omega)
  have quotient : (((dividend + (divisor - 1)) / divisor : Nat) : Int) =
      ((dividend : Int) + ((divisor : Int) - 1)) / divisor := by
    rw [Int.natCast_ediv, Int.natCast_add, Int.natCast_sub (by omega), Int.natCast_one]
  rw [Result.pages?, if_pos positive, Int.toNat_natCast, rounded, quotient]

structure PageCount (total size pages : Int) : Prop where
  least : 1 ≤ pages
  enough : total ≤ pages * size
  needed : 0 < total → (pages - 1) * size < total
  single : total = 0 → pages = 1

theorem pageCount_ceil {total size : Int} (nonneg : 0 ≤ total) (positive : 0 < size) :
    PageCount total size (max 1 ((total + (size - 1)) / size)) := by
  rcases Int.lt_or_eq_of_le nonneg with proper | rfl
  · have least : 1 ≤ (total + (size - 1)) / size := by
      rw [Int.le_ediv_iff_mul_le positive]
      omega
    have floor := Int.ediv_mul_le (total + (size - 1)) positive.ne'
    have next := Int.lt_ediv_add_one_mul_self (total + (size - 1)) positive
    rw [max_eq_right least]
    generalize (total + (size - 1)) / size = pages at *
    rw [Int.add_mul] at next
    refine ⟨least, by omega, fun _ => ?_, by omega⟩
    rw [Int.sub_mul]
    omega
  · have none : (0 + (size - 1)) / size = 0 := Int.ediv_eq_zero_of_lt (by omega) (by omega)
    rw [none]
    exact ⟨by decide, by rw [max_eq_left (by decide)]; omega, by omega, fun _ => rfl⟩

variable {builder : Builder} {total size pages : Int}

theorem PageCount.le_total (counted : PageCount total size pages) (nonneg : 0 ≤ total)
    (positive : 0 < size) : pages ≤ max 1 total := by
  rcases Int.lt_or_eq_of_le nonneg with proper | none
  · have before : pages - 1 ≤ (pages - 1) * size := by
      have least := counted.least
      calc pages - 1 = (pages - 1) * 1 := (Int.mul_one _).symm
        _ ≤ (pages - 1) * size := Int.mul_le_mul_of_nonneg_left positive (by omega)
    have bound := counted.needed proper
    omega
  · rw [counted.single none.symm]
    exact le_max_left 1 total

/-- The windows of all pages, and of the one behind them, are short enough to be written. -/
theorem PageCount.printable (counted : PageCount total size pages) (nonneg : 0 ≤ total)
    (exact : total ≤ 2 ^ 53) (positive : 0 < size) (writable : isWritable size = true)
    {page : Int} (first : 1 ≤ page) (last : page ≤ pages + 1) :
    (Builder.Emission.page page size).Printable := by
  refine ⟨writable, ?_⟩
  have start : 0 ≤ (page - 1) * size := Int.mul_nonneg (by omega) positive.le
  have most : (page - 1) * size ≤ pages * size :=
    Int.mul_le_mul_of_nonneg_right (by omega) positive.le
  rcases Int.lt_or_eq_of_le counted.least with several | rfl
  · have proper : 0 < total := by
      rcases Int.lt_or_eq_of_le nonneg with proper | none
      · exact proper
      · have := counted.single none.symm
        omega
    have before : size ≤ (pages - 1) * size := by
      calc size = 1 * size := (Int.one_mul size).symm
        _ ≤ (pages - 1) * size := Int.mul_le_mul_of_nonneg_right (by omega) positive.le
    have bound := counted.needed proper
    have product : pages * size = (pages - 1) * size + size := by rw [Int.sub_mul]; omega
    exact isWritable_of_lt_two_pow start (by omega)
  · exact isWritable_of_le start (by omega) writable

theorem PageCount.tiles (counted : PageCount total size pages) (nonneg : 0 ≤ total)
    (exact : total ≤ 2 ^ 53) (positive : 0 < size) (writable : isWritable size = true) :
    Tiles builder total size pages := by
  have written {page : Int} (first : 1 ≤ page) (last : page ≤ pages + 1) :=
    Builder.page?_of_printable builder
      (counted.printable nonneg exact positive writable first last)
  have covers {page index : Int} (first : 1 ≤ page) (last : page ≤ pages + 1) :
      Covers builder page size index ↔ index / size = page - 1 :=
    covers_iff positive (written first last)
  have least := counted.least
  refine ⟨?_, ?_, ?_, ?_, counted.single⟩
  · intro page first last
    exact ⟨_, size, (page - 1) * size, written first last,
      endsInWindow_of_page? (written first last)⟩
  · intro index inside below
    have start : 0 ≤ index / size := Int.ediv_nonneg inside positive.le
    have stop : index / size < pages := by
      rw [Int.ediv_lt_iff_lt_mul positive]
      exact Int.lt_of_lt_of_le below counted.enough
    refine ⟨index / size + 1, ⟨⟨by omega, by omega⟩, ?_⟩, ?_⟩
    · rw [covers (by omega) (by omega)]
      omega
    · rintro page ⟨⟨first, last⟩, covered⟩
      rw [covers first (by omega)] at covered
      omega
  · intro proper page first last
    refine ⟨(page - 1) * size, ⟨Int.mul_nonneg (by omega) positive.le, ?_⟩, ?_⟩
    · calc (page - 1) * size ≤ (pages - 1) * size :=
            Int.mul_le_mul_of_nonneg_right (by omega) positive.le
        _ < total := counted.needed proper
    · rw [covers first (by omega), Int.mul_ediv_cancel _ positive.ne']
  · intro index covered
    rw [covers (by omega) (Int.le_refl _)] at covered
    have behind : pages * size ≤ index := by
      rw [← Int.le_ediv_iff_mul_le positive]
      omega
    exact Int.le_trans counted.enough behind

theorem build_int {total size : Int} (data : List Value) (page : Int) (positive : 0 < size)
    (told : Result.pages? total size = some pages) :
    Result.build data (.int total) page size = .ok { data, total, page, size, pages } := by
  have settled : ¬size ≤ 0 := by omega
  rw [Result.build, Result.pageCount, if_neg settled]
  simp only [told]
  rfl

/-- A result tells as many pages as it takes to show every row once, however its total is
rounded on the way, as long as the total is a double. -/
theorem build_tiles (builder : Builder) (data : List Value) (page : Int) {total size : Int}
    (nonneg : 0 ≤ total) (exact : total ≤ 2 ^ 53) (positive : 1 ≤ size)
    (short : size < 10 ^ maxDigits) :
    ∃ result, Result.build data (.int total) page size = .ok result ∧
      Tiles builder total size result.pages := by
  have writable : isWritable size = true := (isWritable_iff_lt (by omega)).mpr short
  exact ⟨_, build_int data page positive (pages?_eq nonneg exact positive),
    (pageCount_ceil nonneg positive).tiles nonneg exact positive writable⟩

theorem build_tiles_boundary :
    ∃ result, Result.build [] (.int (2 ^ 53)) 1 (2 ^ 53 - 1) = .ok result ∧ result.pages = 2 ∧
      Tiles (Builder.fresh Resource.runs.projection Resource.runs.defaultSort) (2 ^ 53)
        (2 ^ 53 - 1) result.pages := by
  have nonneg : (0 : Int) ≤ 2 ^ 53 := by decide
  have positive : (1 : Int) ≤ 2 ^ 53 - 1 := by decide
  have short : (2 ^ 53 - 1 : Int) < 10 ^ maxDigits :=
    (isWritable_iff_lt (by decide)).mp (isWritable_of_lt_two_pow (by decide) (by decide))
  obtain ⟨result, built, tiles⟩ :=
    build_tiles (Builder.fresh Resource.runs.projection Resource.runs.defaultSort) [] 1
      nonneg (Int.le_refl _) positive short
  have told : Result.pages? (2 ^ 53) (2 ^ 53 - 1) = some 2 := by decide
  have same := Except.ok.inj (built.symm.trans (build_int [] 1 (by decide) told))
  exact ⟨result, built, by rw [same], tiles⟩

end PagedListing.Pagination
