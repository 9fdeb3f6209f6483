import Mathlib.Algebra.Group.Int.Defs
import Mathlib.Algebra.Group.Nat.Defs
import PagedListing.Number.Optional
import PagedListing.Proofs.Statement.Marks
import PagedListing.Proofs.Text.Trimming

set_option autoImplicit false

/-!
# The spellings of integers

An integer may be written with blanks on either side, with a plus sign unless it is negative, and
with single underscores between its digits. Every such text is read as the integer, its numeral
among them.
-/

namespace PagedListing.Number

open PagedListing.Text

theorem digit_bounds {c : Char} (digit : c.isDigit = true) : 0x30 ≤ c.toNat ∧ c.toNat ≤ 0x39 := by
  simp only [Char.isDigit, Bool.and_eq_true, decide_eq_true_eq] at digit
  exact ⟨UInt32.le_iff_toNat_le.mp digit.1, UInt32.le_iff_toNat_le.mp digit.2⟩

theorem digitValue?_of_isDigit {c : Char} (digit : c.isDigit = true) :
    digitValue? c = some (c.toNat - 0x30) := by
  obtain ⟨least, most⟩ := digit_bounds digit
  have inside : 0x30 ≤ c.toNat ∧ c.toNat < 0x30 + 10 := ⟨least, by omega⟩
  simp [digitValue?, digitZeros, inside]

/-- No script has a blank among its digits. -/
theorem not_isBlank_of_digit {c : Char} (digit : isDigit c = true) : isBlank c = false := by
  obtain ⟨value, read⟩ := Option.isSome_iff_exists.mp digit
  obtain ⟨start, member, found⟩ := List.exists_of_findSome?_eq_some read
  have clear : ∀ start ∈ digitZeros, (0x20 < start ∧ start + 10 ≤ 0x85) ∨
      (0xA0 < start ∧ start + 10 ≤ 0x1680) ∨ (0x1680 < start ∧ start + 10 ≤ 0x2000) ∨
      0x3000 < start := by decide
  have place := clear start member
  split at found
  case isTrue inside =>
    simp only [isBlank]
    simp
    omega
  case isFalse => cases found

theorem isBlank_of_isDigit {c : Char} (digit : c.isDigit = true) : isBlank c = false := by
  apply not_isBlank_of_digit
  rw [isDigit, digitValue?_of_isDigit digit]
  rfl

theorem isNumeralBlank_of_isDigit {c : Char} (digit : c.isDigit = true) :
    isNumeralBlank c = false := by
  rw [isNumeralBlank, isBlank_of_isDigit digit, Bool.false_and]

theorem isDigit_of_mem_repr {magnitude : Nat} {c : Char} (member : c ∈ magnitude.repr.toList) :
    c.isDigit = true := by
  rw [Nat.toList_repr] at member
  exact Nat.isDigit_of_mem_toDigits (by decide) (by decide) member

theorem ofDigits_values {digits : List Char} (ascii : ∀ c ∈ digits, c.isDigit = true) :
    ofDigits 10 (digits.filterMap digitValue?) = Nat.ofDigitChars 10 digits 0 := by
  have folded (start : Nat) :
      (digits.filterMap digitValue?).foldl (fun number value => number * 10 + value) start =
        Nat.ofDigitChars 10 digits start := by
    induction digits generalizing start with
    | nil => rfl
    | cons c rest ih =>
        have later := ih fun d member => ascii d (List.mem_cons_of_mem c member)
        rw [List.filterMap_cons_some (digitValue?_of_isDigit (ascii c List.mem_cons_self)),
          List.foldl_cons, later, Nat.mul_comm start 10]
        rfl
  exact folded 0

/-- Digits in order, with at most one underscore between any two of them. -/
inductive Grouped : List Char → List Char → Prop where
  | last {c} : Grouped [c] [c]
  | next {c digits text} : Grouped digits text → Grouped (c :: digits) (c :: text)
  | gap {c digits text} : Grouped digits text → Grouped (c :: digits) (c :: '_' :: text)

inductive Sign (value : Int) : List Char → Prop where
  | none : 0 ≤ value → Sign value []
  | plus : 0 ≤ value → Sign value ['+']
  | minus : value < 0 → Sign value ['-']

def isAsciiBlank (c : Char) : Bool := (0x09 ≤ c.toNat && c.toNat ≤ 0x0D) || c.toNat == 0x20

/-- A text that has the digits of an integer in groups, behind a sign and with blanks around. -/
inductive Spelling (value : Int) : List Char → Prop where
  | mk {before sign body after : List Char} :
      (∀ c ∈ before, isAsciiBlank c = true) → (∀ c ∈ after, isAsciiBlank c = true) →
      Sign value sign → Grouped value.natAbs.repr.toList body →
      Spelling value (before ++ (sign ++ body ++ after))

theorem isNumeralBlank_of_isAsciiBlank {c : Char} (blank : isAsciiBlank c = true) :
    isNumeralBlank c = true := by
  simp only [isAsciiBlank, Bool.or_eq_true, Bool.and_eq_true, decide_eq_true_eq, beq_iff_eq]
    at blank
  simp only [isNumeralBlank, isBlank]
  simp
  omega

namespace Grouped

variable {digits text : List Char}

theorem refl (nonempty : digits ≠ []) : Grouped digits digits := by
  induction digits with
  | nil => exact absurd rfl nonempty
  | cons c rest ih =>
      cases rest with
      | nil => exact .last
      | cons d others => exact .next (ih (List.cons_ne_nil d others))

theorem ne_nil (grouped : Grouped digits text) : digits ≠ [] := by
  cases grouped <;> exact List.cons_ne_nil _ _

theorem mem_or_eq (grouped : Grouped digits text) : ∀ c ∈ text, c ∈ digits ∨ c = '_' := by
  induction grouped with
  | last => exact fun _ member => .inl member
  | next _ ih =>
      refine List.forall_mem_cons.mpr ⟨.inl List.mem_cons_self, fun c member => ?_⟩
      exact (ih c member).imp_left (List.mem_cons_of_mem _)
  | gap _ ih =>
      refine List.forall_mem_cons.mpr ⟨.inl List.mem_cons_self, ?_⟩
      refine List.forall_mem_cons.mpr ⟨.inr rfl, fun c member => ?_⟩
      exact (ih c member).imp_left (List.mem_cons_of_mem _)

theorem head?_eq (grouped : Grouped digits text) : text.head? = digits.head? := by
  cases grouped <;> rfl

theorem getLast?_eq (grouped : Grouped digits text) : text.getLast? = digits.getLast? := by
  induction grouped with
  | last => rfl
  | next _ ih => rw [List.getLast?_cons, List.getLast?_cons, ih]
  | gap inner ih =>
      obtain ⟨d, found⟩ : ∃ d, List.getLast? _ = some d :=
        ⟨_, List.getLast?_eq_some_getLast inner.ne_nil⟩
      rw [List.getLast?_cons, List.getLast?_cons, List.getLast?_cons, ih, found]
      rfl

/-- An underscore in a group stands between digits. -/
theorem hasDoubleUnderscore_eq (grouped : Grouped digits text) (plain : '_' ∉ digits) :
    hasDoubleUnderscore text = false := by
  have skip {c : Char} {rest : List Char} (single : c = '_' → rest.head? ≠ some '_') :
      hasDoubleUnderscore (c :: rest) = hasDoubleUnderscore rest := by
    rw [hasDoubleUnderscore]
    rintro others rfl rfl
    exact single rfl rfl
  induction grouped with
  | last => exact skip fun _ => by simp
  | next _ ih =>
      rw [List.mem_cons, not_or] at plain
      rw [skip fun same => absurd same.symm plain.1]
      exact ih plain.2
  | gap inner ih =>
      rw [List.mem_cons, not_or] at plain
      have next := inner.head?_eq
      rw [skip fun same => absurd same.symm plain.1, skip fun _ first => ?_]
      · exact ih plain.2
      · exact plain.2 (List.mem_of_head? (next.symm.trans first))

theorem filter_eq (grouped : Grouped digits text) (plain : '_' ∉ digits) :
    text.filter (· ≠ '_') = digits := by
  have kept {c : Char} (rest : List Char) (other : '_' ≠ c) :
      (c :: rest).filter (· ≠ '_') = c :: rest.filter (· ≠ '_') :=
    List.filter_cons_of_pos (decide_eq_true other.symm)
  induction grouped with
  | last => exact kept [] (List.ne_of_not_mem_cons plain)
  | next _ ih =>
      rw [List.mem_cons, not_or] at plain
      rw [kept _ plain.1, ih plain.2]
  | gap _ ih =>
      rw [List.mem_cons, not_or] at plain
      rw [kept _ plain.1, List.filter_cons_of_neg (by decide), ih plain.2]

theorem ungroup?_eq (grouped : Grouped digits text) (plain : '_' ∉ digits) :
    ungroup? text = some digits := by
  have first : text.head? ≠ some '_' := fun first =>
    plain (List.mem_of_head? (grouped.head?_eq.symm.trans first))
  have last : text.getLast? ≠ some '_' := fun last =>
    plain (List.mem_of_getLast? (grouped.getLast?_eq.symm.trans last))
  rw [ungroup?, if_neg, grouped.filter_eq plain]
  simp [first, last, grouped.hasDoubleUnderscore_eq plain]

end Grouped

theorem ungroup?_eq_some_filter {text digits : List Char} (grouped : ungroup? text = some digits) :
    digits = text.filter (· ≠ '_') := by
  rw [ungroup?] at grouped
  split at grouped
  · cases grouped
  · exact (Option.some.inj grouped).symm

theorem length_ungroup?_le {text digits : List Char} (grouped : ungroup? text = some digits) :
    digits.length ≤ text.length := by
  rw [ungroup?_eq_some_filter grouped]
  exact List.length_filter_le _ text

/-- A run of ASCII digits in groups that is not too long is read as its number. -/
theorem readInt_of_grouped {text : String} {negative : Bool} {digits body : List Char}
    (split : splitSign (trim isNumeralBlank text.toList) = (negative, body))
    (grouped : Grouped digits body) (ascii : ∀ c ∈ digits, c.isDigit = true)
    (short : digits.length ≤ maxDigits) :
    readInt text = .ok (if negative then -(Nat.ofDigitChars 10 digits 0 : Int)
      else Nat.ofDigitChars 10 digits 0) := by
  have plain : '_' ∉ digits := fun member => absurd (ascii '_' member) (by decide)
  have inBody : ∀ c ∈ body, isGroupedDigit c = true := by
    intro c member
    rcases grouped.mem_or_eq c member with digit | rfl
    · rw [isGroupedDigit, isDigit_of_isDigit (ascii c digit), Bool.or_true]
    · rfl
  have run : body.takeWhile isGroupedDigit = body := by
    have whole : (body ++ []).takeWhile isGroupedDigit =
        body ++ ([] : List Char).takeWhile isGroupedDigit :=
      List.takeWhile_append_of_pos inBody
    rwa [List.takeWhile_nil, List.append_nil] at whole
  have clean : ¬(digits.isEmpty = true ∨ (body.any fun c => !isGroupedDigit c) = true) := by
    rintro (none | stray)
    · exact grouped.ne_nil (List.isEmpty_iff.mp none)
    · obtain ⟨c, member, odd⟩ := List.any_eq_true.mp stray
      rw [inBody c member] at odd
      cases odd
  rw [readInt, split]
  simp only [run, grouped.ungroup?_eq plain]
  rw [if_neg (by omega), if_neg clean, ofDigits_values ascii]

theorem splitSign_suffix (text : List Char) : (splitSign text).2 <:+ text := by
  unfold splitSign
  split
  · exact List.suffix_cons _ _
  · exact List.suffix_cons _ _
  · exact List.suffix_refl _

theorem splitSign_of_head {text : List Char} (digit : ∀ c ∈ text.head?, c.isDigit = true) :
    splitSign text = (false, text) := by
  unfold splitSign
  split
  case h_1 => exact absurd (digit '-' rfl) (by decide)
  case h_2 => exact absurd (digit '+' rfl) (by decide)
  case h_3 => rfl

namespace Sign

variable {value : Int} {sign body : List Char}

theorem splitSign_append (signed : Sign value sign)
    (digit : ∀ c ∈ body.head?, c.isDigit = true) :
    splitSign (sign ++ body) = (decide (value < 0), body) := by
  cases signed with
  | none nonneg =>
      rw [decide_eq_false (Int.not_lt.mpr nonneg)]
      exact splitSign_of_head digit
  | plus nonneg =>
      rw [decide_eq_false (Int.not_lt.mpr nonneg)]
      rfl
  | minus negative =>
      rw [decide_eq_true negative]
      rfl

theorem isNumeralBlank_of_mem (signed : Sign value sign) :
    ∀ c ∈ sign, isNumeralBlank c = false := by
  cases signed with
  | none _ => exact List.forall_mem_nil _
  | plus _ | minus _ => exact List.forall_mem_singleton.mpr rfl

end Sign

/-- Every spelling of an integer is read as the integer, if it can be written at all. -/
theorem readInt?_of_spelling {value : Int} {text : String} (writable : isWritable value = true)
    (spelling : Spelling value text.toList) : readInt? text = some value := by
  generalize spelled : text.toList = characters at spelling
  cases spelling with
  | @mk before sign body after front back signed grouped =>
      have ascii : ∀ c ∈ value.natAbs.repr.toList, c.isDigit = true :=
        fun _ => isDigit_of_mem_repr
      have first : ∀ c ∈ body.head?, c.isDigit = true := fun c first =>
        ascii c (List.mem_of_head? (grouped.head?_eq.symm.trans first))
      have kept : ∀ c ∈ sign ++ body, isNumeralBlank c = false := by
        intro c member
        rcases List.mem_append.mp member with inSign | inBody
        · exact signed.isNumeralBlank_of_mem c inSign
        · rcases grouped.mem_or_eq c inBody with digit | rfl
          · exact isNumeralBlank_of_isDigit (ascii c digit)
          · decide
      have split : splitSign (trim isNumeralBlank text.toList) = (decide (value < 0), body) := by
        have ahead : ∀ c ∈ before, isNumeralBlank c = true :=
          fun c member => isNumeralBlank_of_isAsciiBlank (front c member)
        have behind : ∀ c ∈ after, isNumeralBlank c = true :=
          fun c member => isNumeralBlank_of_isAsciiBlank (back c member)
        rw [spelled, trim_surrounded ahead kept behind]
        exact signed.splitSign_append first
      have short : value.natAbs.repr.toList.length ≤ maxDigits := by
        rw [String.length_toList]
        exact isWritable_iff_length.mp writable
      have number : Nat.ofDigitChars 10 value.natAbs.repr.toList 0 = value.natAbs := by
        rw [Nat.toList_repr]
        exact Nat.ofDigitChars_toDigits (by decide) (by decide)
      rw [readInt?, readInt_of_grouped split grouped ascii short, number, Except.toOption]
      by_cases negative : value < 0
      · rw [decide_eq_true negative, if_pos rfl, Int.ofNat_natAbs_of_nonpos (Int.le_of_lt negative),
          Int.neg_neg]
      · rw [decide_eq_false negative, if_neg (by decide), Int.natAbs_of_nonneg (by omega)]

theorem intOr_of_spelling {value : Int} {text : String} (writable : isWritable value = true)
    (spelling : Spelling value text.toList) (fallback : Int) :
    intOr (some text) fallback = value := by
  rw [intOr, readInt?_of_spelling writable spelling, Option.getD_some]

theorem Spelling.exists_isDigit {value : Int} {text : List Char}
    (spelling : Spelling value text) : ∃ c ∈ text, c.isDigit = true := by
  cases spelling with
  | @mk before sign body after _ _ _ grouped =>
      obtain ⟨c, first⟩ := Option.isSome_iff_exists.mp (List.isSome_head?.mpr grouped.ne_nil)
      have inBody : c ∈ body := List.mem_of_head? (grouped.head?_eq.trans first)
      exact ⟨c, by simp [inBody], isDigit_of_mem_repr (List.mem_of_head? first)⟩

theorem optionalInt_of_spelling {value : Int} {text : String} (writable : isWritable value = true)
    (spelling : Spelling value text.toList) : optionalInt (some text) = some value := by
  obtain ⟨c, member, digit⟩ := spelling.exists_isDigit
  have kept : (strip text.toList).isEmpty = false :=
    List.isEmpty_eq_false_iff_exists_mem.mpr
      ⟨c, mem_trim_of_kept member (isBlank_of_isDigit digit)⟩
  rw [optionalInt, kept, if_neg Bool.false_ne_true, readInt?_of_spelling writable spelling]

/-- The numeral of an integer is one of its spellings. -/
theorem spelling_numeral (value : Int) : Spelling value (numeral value).toList := by
  have digits : Grouped value.natAbs.repr.toList value.natAbs.repr.toList :=
    .refl (by simp [Nat.toList_repr])
  have plain {sign : List Char} (signed : Sign value sign) :
      Spelling value (sign ++ value.natAbs.repr.toList) := by
    have bare : Spelling value ([] ++ (sign ++ value.natAbs.repr.toList ++ [])) :=
      .mk (by simp) (by simp) signed digits
    rwa [List.nil_append, List.append_nil] at bare
  unfold numeral
  split
  case isTrue negative =>
    rw [String.toList_append]
    exact plain (.minus negative)
  case isFalse nonneg => exact plain (.none (Int.not_lt.mp nonneg))

end PagedListing.Number
