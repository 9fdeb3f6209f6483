import PagedListing.Proofs.Number.Numeral

set_option autoImplicit false

/-!
# Hexadecimal numerals read

ASCII digits of either case are read as the number they are the digits of. No text is read as a
number with more places than the text has characters.
-/

namespace PagedListing.Number

open PagedListing.Text

def isHexDigit (c : Char) : Bool := (hexValue? c).isSome

theorem isHexDigit_iff {c : Char} : isHexDigit c = true ↔
    (0x30 ≤ c.toNat ∧ c.toNat ≤ 0x39) ∨ (0x61 ≤ c.toNat ∧ c.toNat ≤ 0x66) ∨
      (0x41 ≤ c.toNat ∧ c.toNat ≤ 0x46) := by
  grind [isHexDigit, hexValue?]

theorem isNumeralBlank_of_isHexDigit {c : Char} (digit : isHexDigit c = true) :
    isNumeralBlank c = false := by
  have bounds := isHexDigit_iff.mp digit
  simp only [isNumeralBlank, isBlank]
  simp
  omega

/-- Digits of other scripts lie above the ASCII letters. -/
theorem digitValue?_of_letter {c : Char} (least : 0x3A ≤ c.toNat) (most : c.toNat < 0x660) :
    digitValue? c = none := by
  have zeros : ∀ start ∈ digitZeros, start = 0x30 ∨ 0x660 ≤ start := by decide
  refine List.findSome?_eq_none_iff.mpr fun start member => ?_
  have place := zeros start member
  rw [if_neg (by omega)]

theorem hexDigitValue?_of_isHexDigit {c : Char} (digit : isHexDigit c = true) :
    hexDigitValue? c = hexValue? c := by
  by_cases decimal : c.toNat ≤ 0x39
  · have bounds := isHexDigit_iff.mp digit
    have inside : 0x30 ≤ c.toNat ∧ c.toNat ≤ 0x39 := by omega
    have ascii : c.isDigit = true := by
      simp only [Char.isDigit, Bool.and_eq_true, decide_eq_true_eq]
      exact ⟨UInt32.le_iff_toNat_le.mpr inside.1, UInt32.le_iff_toNat_le.mpr inside.2⟩
    rw [hexDigitValue?, digitValue?_of_isDigit ascii, hexValue?]
    simp [inside]
  · have bounds := isHexDigit_iff.mp digit
    rw [hexDigitValue?, digitValue?_of_letter (by omega) (by omega), Option.none_or]

theorem dropHexMark_of_isHexDigit {text : List Char} (digits : ∀ c ∈ text, isHexDigit c = true) :
    dropHexMark text = text := by
  unfold dropHexMark
  split
  case h_1 nought mark rest =>
    have digit := digits mark (List.mem_cons_of_mem nought List.mem_cons_self)
    have noMark : ¬(digitValue? nought = some 0 ∧ (mark = 'x' ∨ mark = 'X')) := by
      rintro ⟨-, rfl | rfl⟩ <;> exact absurd digit (by decide)
    rw [if_neg noMark]
  case h_2 => rfl

theorem splitSign_of_isHexDigit {text : List Char} (digits : ∀ c ∈ text, isHexDigit c = true) :
    splitSign text = (false, text) := by
  unfold splitSign
  split
  case h_1 => exact absurd (digits '-' List.mem_cons_self) (by decide)
  case h_2 => exact absurd (digits '+' List.mem_cons_self) (by decide)
  case h_3 => rfl

theorem readHex?_of_isHexDigit {text : List Char} (nonempty : text ≠ [])
    (digits : ∀ c ∈ text, isHexDigit c = true) :
    readHex? text = some (ofDigits 16 (text.filterMap hexValue?)) := by
  have trimmed : trim isNumeralBlank text = text :=
    trim_eq_self fun c member => isNumeralBlank_of_isHexDigit (digits c member)
  have plain : '_' ∉ text := fun member => absurd (digits '_' member) (by decide)
  have values : text.filterMap hexDigitValue? = text.filterMap hexValue? :=
    List.filterMap_congr fun c member => hexDigitValue?_of_isHexDigit (digits c member)
  have clean : ¬(text.isEmpty = true ∨
      (text.any fun c => (hexDigitValue? c).isNone) = true) := by
    rintro (none | stray)
    · exact nonempty (List.isEmpty_iff.mp none)
    · obtain ⟨c, member, odd⟩ := List.any_eq_true.mp stray
      have digit := digits c member
      rw [hexDigitValue?_of_isHexDigit digit, Option.isNone_iff_eq_none] at odd
      rw [isHexDigit, odd] at digit
      cases digit
  rw [readHex?, trimmed, splitSign_of_isHexDigit digits]
  simp only [dropHexMark_of_isHexDigit digits, ungroup?_eq_some plain]
  rw [if_neg clean, values]

theorem ofDigits_concat (base : Nat) (values : List Nat) (value : Nat) :
    ofDigits base (values ++ [value]) = ofDigits base values * base + value := by
  rw [ofDigits, List.foldl_append]
  rfl

theorem ofDigits_hexFixed (width value : Nat) :
    ofDigits 16 ((hexFixed width value).filterMap hexValue?) = value % 16 ^ width := by
  induction width generalizing value with
  | zero => rw [Nat.pow_zero, Nat.mod_one]; rfl
  | succ width ih =>
      have last : hexValue? (hexDigit (value % 16)) = some (value % 16) :=
        hexValue?_hexDigit _ (Nat.mod_lt value (by decide))
      rw [hexFixed, List.filterMap_append, List.filterMap_cons_some last, List.filterMap_nil,
        ofDigits_concat, ih, Nat.pow_succ', Nat.mod_mul, Nat.mul_comm, Nat.add_comm]

theorem hexValue?_lt {c : Char} {value : Nat} (digit : hexValue? c = some value) : value < 16 := by
  grind [hexValue?]

theorem hexDigitValue?_lt {c : Char} {value : Nat} (digit : hexDigitValue? c = some value) :
    value < 16 := by
  rcases Option.or_eq_some_iff.mp digit with decimal | ⟨-, letter⟩
  · exact Nat.lt_of_lt_of_le (digitValue?_lt decimal) (by decide)
  · exact hexValue?_lt letter

theorem length_dropHexMark_le (text : List Char) : (dropHexMark text).length ≤ text.length := by
  unfold dropHexMark
  split
  · split
    · split <;> simp only [List.length_cons] <;> omega
    · rfl
  · rfl

/-- A number that is read has no more places than its text has characters. -/
theorem readHex?_lt {text : List Char} {value : Nat} (read : readHex? text = some value) :
    value < 16 ^ text.length := by
  unfold readHex? at read
  split at read
  case h_1 => cases read
  case h_2 body split =>
    split at read
    case h_1 => cases read
    case h_2 digits grouped =>
      split at read
      case isTrue => cases read
      case isFalse =>
        have small : ∀ value ∈ digits.filterMap hexDigitValue?, value < 16 := by
          intro value member
          obtain ⟨c, -, digit⟩ := List.mem_filterMap.mp member
          exact hexDigitValue?_lt digit
        have unsigned : body.length ≤ text.length := by
          have shorter := (splitSign_suffix (trim isNumeralBlank text)).length_le
          rw [split] at shorter
          exact Nat.le_trans shorter (sublist_trim text).length_le
        have places : (digits.filterMap hexDigitValue?).length ≤ text.length := by
          calc (digits.filterMap hexDigitValue?).length ≤ digits.length :=
                List.length_filterMap_le _ _
            _ ≤ (dropHexMark body).length := length_ungroup?_le grouped
            _ ≤ body.length := length_dropHexMark_le body
            _ ≤ text.length := unsigned
        rw [← Option.some.inj read]
        exact Nat.lt_of_lt_of_le (ofDigits_lt small) (Nat.pow_le_pow_right (by decide) places)

end PagedListing.Number
