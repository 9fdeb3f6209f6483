import PagedListing.Proofs.Number.Hexadecimal
import PagedListing.Proofs.Uuid.Canonical

set_option autoImplicit false

/-!
# The spellings of UUIDs

The digits of a UUID may be written in either case with hyphens anywhere, the whole within braces
and behind the names of schemes. Every such spelling is read as the UUID whose digits it has, its
canonical spelling among them.
-/

namespace PagedListing

open PagedListing.Number PagedListing.Text

namespace Text

theorem hexValue?_toUpper : ∀ value < 16, hexValue? (hexDigit value).toUpper = some value := by
  decide

end Text

namespace Uuid

/-- A text in which digits stand in order, each in either case, with hyphens anywhere. -/
inductive Written : List Char → List Char → Prop where
  | nil : Written [] []
  | hyphen {digits text} : Written digits text → Written digits ('-' :: text)
  | lower {c digits text} : Written digits text → Written (c :: digits) (c :: text)
  | upper {c digits text} : Written digits text → Written (c :: digits) (c.toUpper :: text)

def schemes : List String := ["", "urn:", "uuid:", "urn:uuid:"]

/-- A text that has the digits of a UUID, with any number of braces on either side of them and
the names of schemes in front. -/
inductive Spelling (uuid : Uuid) : List Char → Prop where
  | mk {scheme : String} {before body after : List Char} :
      scheme ∈ schemes → (∀ c ∈ before, isBrace c = true) → (∀ c ∈ after, isBrace c = true) →
      Written (hexFixed digitCount uuid.value) body →
      Spelling uuid (scheme.toList ++ (before ++ (body ++ after)))

namespace Written

variable {digits text : List Char}

theorem refl (digits : List Char) : Written digits digits := by
  induction digits with
  | nil => exact .nil
  | cons c rest ih => exact .lower ih

theorem append {others more : List Char} (front : Written digits text)
    (back : Written others more) : Written (digits ++ others) (text ++ more) := by
  induction front with
  | nil => exact back
  | hyphen _ ih => exact .hyphen ih
  | lower _ ih => exact .lower ih
  | upper _ ih => exact .upper ih

theorem upperCase (digits : List Char) : Written digits (digits.map Char.toUpper) := by
  induction digits with
  | nil => exact .nil
  | cons c rest ih => exact .upper ih

theorem intercalate (groups : List (List Char)) :
    Written groups.flatten (['-'].intercalate groups) := by
  induction groups with
  | nil => exact .nil
  | cons group rest ih =>
      cases rest with
      | nil => simpa using refl group
      | cons next others =>
          rw [List.intercalate_cons_cons, List.append_assoc, List.flatten_cons]
          exact (refl group).append (.hyphen ih)

variable (hex : ∀ c ∈ digits, ∃ value < 16, c = hexDigit value)

include hex

theorem isHexDigit_of_mem (written : Written digits text) :
    ∀ c ∈ text, c = '-' ∨ isHexDigit c = true := by
  induction written with
  | nil => exact fun _ member => absurd member List.not_mem_nil
  | hyphen _ ih => exact List.forall_mem_cons.mpr ⟨.inl rfl, ih hex⟩
  | lower _ ih =>
      obtain ⟨⟨value, small, rfl⟩, others⟩ := List.forall_mem_cons.mp hex
      have digit : isHexDigit (hexDigit value) = true := by
        rw [isHexDigit, hexValue?_hexDigit value small]
        rfl
      exact List.forall_mem_cons.mpr ⟨.inr digit, ih others⟩
  | upper _ ih =>
      obtain ⟨⟨value, small, rfl⟩, others⟩ := List.forall_mem_cons.mp hex
      have digit : isHexDigit (hexDigit value).toUpper = true := by
        rw [isHexDigit, hexValue?_toUpper value small]
        rfl
      exact List.forall_mem_cons.mpr ⟨.inr digit, ih others⟩

theorem map_hexValue? (written : Written digits text) :
    (text.filter (· ≠ '-')).map hexValue? = digits.map hexValue? := by
  have kept {c : Char} {value : Nat} (read : hexValue? c = some value) (rest : List Char) :
      (c :: rest).filter (· ≠ '-') = c :: rest.filter (· ≠ '-') := by
    refine List.filter_cons_of_pos (decide_eq_true ?_)
    rintro rfl
    cases read
  induction written with
  | nil => rfl
  | hyphen _ ih => exact ih hex
  | lower _ ih =>
      obtain ⟨⟨value, small, rfl⟩, others⟩ := List.forall_mem_cons.mp hex
      have read := hexValue?_hexDigit value small
      rw [kept read, List.map_cons, List.map_cons, ih others]
  | upper _ ih =>
      obtain ⟨⟨value, small, rfl⟩, others⟩ := List.forall_mem_cons.mp hex
      have read := hexValue?_toUpper value small
      rw [kept read, List.map_cons, List.map_cons, ih others, read,
        hexValue?_hexDigit value small]

end Written

theorem length_of_written {value : Nat} {body : List Char}
    (written : Written (hexFixed digitCount value) body) :
    (body.filter (· ≠ '-')).length = digitCount := by
  have values := congrArg List.length (written.map_hexValue? fun _ => exists_of_mem_hexFixed)
  rwa [List.length_map, List.length_map, length_hexFixed] at values

theorem readHex?_of_written {value : Nat} {body : List Char}
    (written : Written (hexFixed digitCount value) body) :
    readHex? (body.filter (· ≠ '-')) = some (value % 16 ^ digitCount) := by
  have hex : ∀ c ∈ hexFixed digitCount value, ∃ place < 16, c = hexDigit place :=
    fun _ => exists_of_mem_hexFixed
  have nonempty : body.filter (· ≠ '-') ≠ [] :=
    List.ne_nil_of_length_pos (by rw [length_of_written written]; decide)
  have digits : ∀ c ∈ body.filter (· ≠ '-'), isHexDigit c = true := by
    intro c member
    obtain ⟨inBody, other⟩ := List.mem_filter.mp member
    exact (written.isHexDigit_of_mem hex c inBody).resolve_left (of_decide_eq_true other)
  have values : (body.filter (· ≠ '-')).filterMap hexValue? =
      (hexFixed digitCount value).filterMap hexValue? := by
    have same := congrArg (List.filterMap id) (written.map_hexValue? hex)
    simpa only [List.filterMap_map, Function.id_comp] using same
  rw [readHex?_of_isHexDigit nonempty digits, values, ofDigits_hexFixed]

/-!
## What stands around the digits
-/

theorem eraseWord_pending (word : List Char) (pending : Nat) (text : List Char) :
    eraseWord word pending text = eraseWord word 0 (text.drop pending) := by
  induction text generalizing pending with
  | nil => cases pending <;> rfl
  | cons c rest ih =>
      cases pending with
      | zero => rfl
      | succ pending => rw [eraseWord, ih, List.drop_succ_cons]

theorem eraseWord_of_not_mem {word text : List Char} {c : Char} (inWord : c ∈ word)
    (absent : c ∉ text) : eraseWord word 0 text = text := by
  induction text with
  | nil => rfl
  | cons d rest ih =>
      have other : ¬word.isPrefixOf (d :: rest) = true := fun front =>
        absent ((List.isPrefixOf_iff_prefix.mp front).subset inWord)
      rw [eraseWord, if_neg other, ih fun member => absent (List.mem_cons_of_mem d member)]

theorem eraseWord_append {word : List Char} (nonempty : word ≠ []) (text : List Char) :
    eraseWord word 0 (word ++ text) = eraseWord word 0 text := by
  cases word with
  | nil => exact absurd rfl nonempty
  | cons c rest =>
      have front : (c :: rest).isPrefixOf (c :: (rest ++ text)) = true :=
        List.isPrefixOf_iff_prefix.mpr (List.prefix_append (c :: rest) text)
      rw [List.cons_append, eraseWord, if_pos front, eraseWord_pending, List.length_cons,
        Nat.add_sub_cancel, List.drop_left]

/-- At no place of the one name does the other begin, whatever text is behind. -/
theorem eraseWord_urn_uuid (text : List Char) :
    eraseWord "urn:".toList 0 ("uuid:".toList ++ text) =
      "uuid:".toList ++ eraseWord "urn:".toList 0 text := by
  have urn : "urn:".toList = ['u', 'r', 'n', ':'] := by decide +kernel
  have uuid : "uuid:".toList = ['u', 'u', 'i', 'd', ':'] := by decide +kernel
  rw [urn, uuid]
  simp [eraseWord, List.isPrefixOf]

/-- The names of schemes go, and nothing behind them does. -/
theorem eraseWord_scheme {scheme : String} (known : scheme ∈ schemes) {text : List Char}
    (absent : ':' ∉ text) :
    eraseWord "uuid:".toList 0 (eraseWord "urn:".toList 0 (scheme.toList ++ text)) = text := by
  have urn : eraseWord "urn:".toList 0 text = text :=
    eraseWord_of_not_mem (by decide +kernel) absent
  have uuid : eraseWord "uuid:".toList 0 text = text :=
    eraseWord_of_not_mem (by decide +kernel) absent
  simp only [schemes, List.mem_cons, List.not_mem_nil, or_false] at known
  rcases known with rfl | rfl | rfl | rfl
  · rw [String.toList_empty, List.nil_append, urn, uuid]
  · rw [eraseWord_append (by decide +kernel), urn, uuid]
  · rw [eraseWord_urn_uuid, urn, eraseWord_append (by decide +kernel), uuid]
  · have parts : "urn:uuid:".toList = "urn:".toList ++ "uuid:".toList := by decide +kernel
    rw [parts, List.append_assoc, eraseWord_append (by decide +kernel), eraseWord_urn_uuid, urn,
      eraseWord_append (by decide +kernel), uuid]

theorem significant_of_written {scheme : String} {before body after : List Char} {value : Nat}
    (known : scheme ∈ schemes) (opening : ∀ c ∈ before, isBrace c = true)
    (closing : ∀ c ∈ after, isBrace c = true)
    (written : Written (hexFixed digitCount value) body) :
    significant (scheme.toList ++ (before ++ (body ++ after))) = body.filter (· ≠ '-') := by
  have inBody : ∀ c ∈ body, c = '-' ∨ isHexDigit c = true :=
    written.isHexDigit_of_mem fun _ => exists_of_mem_hexFixed
  have unbraced : ∀ c ∈ body, isBrace c = false := by
    intro c member
    refine Bool.eq_false_iff.mpr fun brace => ?_
    simp only [isBrace, Bool.or_eq_true, beq_iff_eq] at brace
    rcases inBody c member with rfl | digit
    · exact absurd brace (by decide)
    · rcases brace with rfl | rfl <;> exact absurd digit (by decide)
  have absent : ':' ∉ before ++ (body ++ after) := by
    simp only [List.mem_append, not_or]
    refine ⟨fun member => ?_, fun member => ?_, fun member => ?_⟩
    · exact absurd (opening ':' member) (by decide)
    · exact absurd (inBody ':' member) (by decide)
    · exact absurd (closing ':' member) (by decide)
  rw [significant, eraseWord_scheme known absent, trim_surrounded opening unbraced closing]

/-- Thirty-two characters never carry too large a number. -/
theorem lt_of_readHex? {digits : List Char} {value : Nat} (enough : digits.length = digitCount)
    (read : readHex? digits = some value) : value < Nat.pow 2 128 := by
  have below := readHex?_lt read
  rwa [enough] at below

theorem parse?_eq_some_iff {text : String} {uuid : Uuid} :
    parse? text = some uuid ↔ (significant text.toList).length = digitCount ∧
      readHex? (significant text.toList) = some uuid.value := by
  obtain ⟨number, numberSmall⟩ := uuid
  simp only [parse?]
  by_cases enough : (significant text.toList).length = digitCount
  · rw [if_pos enough, and_iff_right enough]
    cases read : readHex? (significant text.toList) with
    | none => simp
    | some value =>
        simp only [dif_pos (lt_of_readHex? enough read), Option.some.injEq, Uuid.mk.injEq]
  · rw [if_neg enough]
    simp [enough]

theorem exists_parse?_iff {text : String} {value : Nat} :
    (∃ uuid, parse? text = some uuid ∧ uuid.value = value) ↔
      (significant text.toList).length = digitCount ∧
        readHex? (significant text.toList) = some value := by
  constructor
  · rintro ⟨uuid, parsed, rfl⟩
    exact parse?_eq_some_iff.mp parsed
  · rintro ⟨enough, read⟩
    exact ⟨⟨value, lt_of_readHex? enough read⟩, parse?_eq_some_iff.mpr ⟨enough, read⟩, rfl⟩

theorem parse?_of_spelling {uuid : Uuid} {text : String} (spelling : uuid.Spelling text.toList) :
    parse? text = some uuid := by
  obtain ⟨value, small⟩ := uuid
  generalize spelled : text.toList = characters at spelling
  cases spelling with
  | mk known opening closing written =>
      rw [parse?_eq_some_iff, spelled, significant_of_written known opening closing written,
        length_of_written written, readHex?_of_written written]
      exact ⟨rfl, congrArg some (Nat.mod_eq_of_lt small)⟩

theorem flatten_grouped (digits : List Char) : (grouped digits).flatten = digits := by
  have next (start count : Nat) :
      (digits.drop start).take count ++ digits.drop (start + count) = digits.drop start := by
    rw [← List.drop_drop, List.take_append_drop]
  simp only [grouped, List.flatten_cons, List.flatten_nil, List.append_nil]
  rw [next 16 4, next 12 4, next 8 4, List.take_append_drop]

theorem spelling_canonical (uuid : Uuid) : uuid.Spelling uuid.canonical.toList := by
  have written := Written.intercalate (grouped (hexFixed digitCount uuid.value))
  rw [flatten_grouped] at written
  have plain : uuid.Spelling ("".toList ++ ([] ++ (_ ++ []))) :=
    .mk (by decide) (by simp) (by simp) written
  rwa [String.toList_empty, List.nil_append, List.nil_append, List.append_nil,
    ← String.toList_ofList (l := List.intercalate _ _), ← canonical_eq] at plain

theorem parse?_canonical (uuid : Uuid) : parse? uuid.canonical = some uuid :=
  parse?_of_spelling (spelling_canonical uuid)

end Uuid

end PagedListing
