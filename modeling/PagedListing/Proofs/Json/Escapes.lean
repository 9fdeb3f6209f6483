import Mathlib.Tactic.SplitIfs
import PagedListing.Json.Reader
import PagedListing.Proofs.Uuid.Canonical

set_option autoImplicit false

/-!
# Escaped texts

A character of a text is written as itself, as a letter behind a backslash, or as its 16-bit units
in hexadecimal. Each form is visible ASCII and is read as the units of the character, which are
joined to it again.
-/

namespace PagedListing.Json

open PagedListing.Text

/-- The space and the visible characters of ASCII. -/
def Visible (c : Char) : Prop := 0x20 ≤ c.toNat ∧ c.toNat ≤ 0x7E

instance (c : Char) : Decidable (Visible c) := inferInstanceAs (Decidable (_ ∧ _))

/-- The ways to write a character inside a text: as itself, as a letter behind a backslash, or as
its units. -/
inductive Form (c : Char) : List Char → Prop where
  | plain : Visible c → c ≠ '"' → c ≠ '\\' → Form c [c]
  | letter {mark} : escapeUnit? mark = some c.toNat → c.toNat < 0x10000 → Visible mark →
      Form c ['\\', mark]
  | units : Form c ((units16 c).flatMap fun unit => '\\' :: 'u' :: hexFixed 4 unit)

theorem form_escape (c : Char) : Form c (escape c) := by
  have letter (told mark : Char) (same : c = told) (small : told.toNat < 0x10000)
      (read : escapeUnit? mark = some told.toNat) (visible : Visible mark) :
      Form c ['\\', mark] := by
    rw [← same] at small read
    exact .letter read small visible
  unfold escape
  split_ifs with quote slash visible newline carriage tab back feed
  · exact letter '"' '"' quote (by decide) rfl (by decide)
  · exact letter '\\' '\\' slash (by decide) rfl (by decide)
  · exact .plain visible quote slash
  · exact letter '\n' 'n' newline (by decide) rfl (by decide)
  · exact letter '\r' 'r' carriage (by decide) rfl (by decide)
  · exact letter '\t' 't' tab (by decide) rfl (by decide)
  · exact letter '\x08' 'b' back (by decide) rfl (by decide)
  · exact letter '\x0c' 'f' feed (by decide) rfl (by decide)
  · exact .units

/-! ## Visible characters -/

theorem visible_hexDigit : ∀ value < 16, Visible (hexDigit value) := by
  decide

theorem visible_of_mem_hexFixed {width value : Nat} {c : Char} (member : c ∈ hexFixed width value) :
    Visible c := by
  obtain ⟨place, small, rfl⟩ := exists_of_mem_hexFixed member
  exact visible_hexDigit place small

theorem visible_hexEscape {value : Nat} {c : Char}
    (member : c ∈ '\\' :: 'u' :: hexFixed 4 value) : Visible c := by
  rcases List.mem_cons.mp member with rfl | member
  · decide
  · rcases List.mem_cons.mp member with rfl | member
    · decide
    · exact visible_of_mem_hexFixed member

theorem Form.visible {c mark : Char} {text : List Char} (form : Form c text)
    (member : mark ∈ text) : Visible mark := by
  cases form with
  | plain visible _ _ => rwa [List.mem_singleton.mp member]
  | letter _ _ visible =>
      rcases List.mem_cons.mp member with rfl | member
      · decide
      · rwa [List.mem_singleton.mp member]
  | units =>
      obtain ⟨unit, -, inside⟩ := List.mem_flatMap.mp member
      exact visible_hexEscape inside

theorem visible_escapeCodePoint {code : CodePoint} {c : Char}
    (member : c ∈ escapeCodePoint code) : Visible c := by
  unfold escapeCodePoint at member
  split at member
  · exact (form_escape _).visible member
  · exact visible_hexEscape member

theorem visible_writeCodePoints {codes : List CodePoint} {c : Char}
    (member : c ∈ writeCodePoints codes) : Visible c := by
  rw [writeCodePoints, List.cons_append, List.mem_cons, List.mem_append, List.mem_singleton]
    at member
  rcases member with rfl | inside | rfl
  · decide
  · obtain ⟨code, -, written⟩ := List.mem_flatMap.mp inside
    exact visible_escapeCodePoint written
  · decide

theorem visible_writeText {text : List Char} {c : Char} (member : c ∈ writeText text) :
    Visible c := by
  rw [← writeCodePoints_codePoints] at member
  exact visible_writeCodePoints member

/-! ## Reading units -/

theorem hexUnit?_hexDigits {a b c d : Nat} (first : a < 16) (second : b < 16) (third : c < 16)
    (fourth : d < 16) :
    hexUnit? (hexDigit a) (hexDigit b) (hexDigit c) (hexDigit d) =
      some (((a * 16 + b) * 16 + c) * 16 + d) := by
  rw [hexUnit?, hexValue?_hexDigit a first, hexValue?_hexDigit b second,
    hexValue?_hexDigit c third, hexValue?_hexDigit d fourth]
  rfl

def pushUnits (units : List Nat) (tail : Option (List Nat × List Char)) :
    Option (List Nat × List Char) :=
  tail.map fun read => (units ++ read.1, read.2)

theorem consUnit_some (unit : Nat) (tail : Option (List Nat × List Char)) :
    consUnit (some unit) tail = pushUnits [unit] tail := by
  cases tail <;> rfl

theorem pushUnits_nil (tail : Option (List Nat × List Char)) : pushUnits [] tail = tail := by
  cases tail <;> rfl

theorem pushUnits_append (front back : List Nat) (tail : Option (List Nat × List Char)) :
    pushUnits (front ++ back) tail = pushUnits front (pushUnits back tail) := by
  cases tail <;> simp [pushUnits]

theorem readUnits_plain {c : Char} (rest : List Char) (noQuote : c ≠ '"') (noSlash : c ≠ '\\') :
    readUnits (c :: rest) = pushUnits [c.toNat] (readUnits rest) := by
  rw [readUnits, consUnit_some]
  · exact noQuote
  · rintro a b c d rest rfl
    exact absurd rfl noSlash
  · rintro d rest rfl
    exact absurd rfl noSlash

theorem readUnits_letter {mark : Char} {unit : Nat} (rest : List Char)
    (told : escapeUnit? mark = some unit) :
    readUnits ('\\' :: mark :: rest) = pushUnits [unit] (readUnits rest) := by
  rw [readUnits, told, consUnit_some]
  rintro a b c d rest rfl
  cases told

theorem readUnits_hexFixed {unit : Nat} (rest : List Char) (small : unit < 0x10000) :
    readUnits ('\\' :: 'u' :: hexFixed 4 unit ++ rest) = pushUnits [unit] (readUnits rest) := by
  have digits : hexFixed 4 unit = [hexDigit (unit / 16 / 16 / 16 % 16),
      hexDigit (unit / 16 / 16 % 16), hexDigit (unit / 16 % 16), hexDigit (unit % 16)] := rfl
  have value : hexUnit? (hexDigit (unit / 16 / 16 / 16 % 16)) (hexDigit (unit / 16 / 16 % 16))
      (hexDigit (unit / 16 % 16)) (hexDigit (unit % 16)) = some unit := by
    rw [hexUnit?_hexDigits (by omega) (by omega) (by omega) (by omega), Option.some_inj]
    omega
  simp only [digits, List.cons_append, List.nil_append]
  rw [readUnits, value, consUnit_some]

theorem readUnits_hexEscapes {units : List Nat} (small : ∀ unit ∈ units, unit < 0x10000)
    (rest : List Char) :
    readUnits ((units.flatMap fun unit => '\\' :: 'u' :: hexFixed 4 unit) ++ rest) =
      pushUnits units (readUnits rest) := by
  induction units with
  | nil => exact (pushUnits_nil _).symm
  | cons unit others ih =>
      have first := small unit List.mem_cons_self
      have later := ih fun other member => small other (List.mem_cons_of_mem unit member)
      rw [List.flatMap_cons, List.append_assoc, readUnits_hexFixed _ first, later,
        ← pushUnits_append]
      rfl

theorem toNat_bounds (c : Char) : c.toNat < 0xD800 ∨ 0xDFFF < c.toNat ∧ c.toNat < 0x110000 :=
  c.valid

theorem units16_of_lt {c : Char} (small : c.toNat < 0x10000) : units16 c = [c.toNat] :=
  if_pos small

theorem unit_lt {c : Char} {unit : Nat} (member : unit ∈ units16 c) : unit < 0x10000 := by
  have bounds := toNat_bounds c
  unfold units16 at member
  split at member
  case isTrue small =>
    rw [List.mem_singleton.mp member]
    exact small
  case isFalse =>
    simp only [List.mem_cons, List.not_mem_nil, or_false] at member
    omega

theorem Form.readUnits_append {c : Char} {text : List Char} (form : Form c text)
    (rest : List Char) : readUnits (text ++ rest) = pushUnits (units16 c) (readUnits rest) := by
  cases form with
  | plain visible noQuote noSlash =>
      have small : c.toNat < 0x10000 := Nat.lt_of_le_of_lt visible.2 (by decide)
      rw [units16_of_lt small]
      exact readUnits_plain rest noQuote noSlash
  | letter told small _ =>
      rw [units16_of_lt small]
      exact readUnits_letter rest told
  | units => exact readUnits_hexEscapes (fun _ => unit_lt) rest

theorem readUnits_escaped (text rest : List Char) :
    readUnits (text.flatMap escape ++ '"' :: rest) = some (text.flatMap units16, rest) := by
  induction text with
  | nil => rw [List.flatMap_nil, List.nil_append, readUnits]; rfl
  | cons c others ih =>
      rw [List.flatMap_cons, List.append_assoc, (form_escape c).readUnits_append, ih,
        List.flatMap_cons]
      rfl

/-! ## Joining units -/

theorem joinUnits?_single {unit : Nat} (single : unit < 0xD800 ∨ 0xDFFF < unit)
    (units : List Nat) :
    joinUnits? (unit :: units) = (joinUnits? units).map (Char.ofNat unit :: ·) := by
  rw [joinUnits?.eq_def]
  simp only
  rw [if_neg (by omega), if_neg (by omega)]

theorem joinUnits?_pair {high low : Nat} (leads : 0xD800 ≤ high ∧ high < 0xDC00)
    (trails : 0xDC00 ≤ low ∧ low < 0xE000) (units : List Nat) :
    joinUnits? (high :: low :: units) = (joinUnits? units).map
      (Char.ofNat (0x10000 + (high - 0xD800) * 0x400 + (low - 0xDC00)) :: ·) := by
  rw [joinUnits?.eq_def]
  simp only
  rw [if_pos leads, if_pos trails]

/-- Surrogates are joined again: each of them holds ten of the twenty bits. -/
theorem joinUnits?_units16 (c : Char) (units : List Nat) :
    joinUnits? (units16 c ++ units) = (joinUnits? units).map (c :: ·) := by
  have bounds := toNat_bounds c
  unfold units16
  split
  case isTrue small =>
    rw [List.singleton_append, joinUnits?_single (by omega), Char.ofNat_toNat]
  case isFalse large =>
    generalize offset : c.toNat - 0x10000 = bits
    have whole : 0x10000 + (0xD800 + bits / 0x400 - 0xD800) * 0x400 +
        (0xDC00 + bits % 0x400 - 0xDC00) = c.toNat := by omega
    simp only [List.cons_append, List.nil_append]
    rw [joinUnits?_pair (by omega) (by omega), whole, Char.ofNat_toNat]

theorem joinUnits?_flatMap (text : List Char) : joinUnits? (text.flatMap units16) = some text := by
  induction text with
  | nil => rw [List.flatMap_nil, joinUnits?]
  | cons c others ih => rw [List.flatMap_cons, joinUnits?_units16, ih, Option.map_some]

theorem readText?_escaped (text rest : List Char) :
    readText? (text.flatMap escape ++ '"' :: rest) = some (text, rest) := by
  rw [readText?, readUnits_escaped]
  simp only [joinUnits?_flatMap, Option.map_some]

end PagedListing.Json
