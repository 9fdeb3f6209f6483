import PagedListing.Uuid

set_option autoImplicit false

/-!
# The canonical spelling of UUIDs

UUIDs are printed as thirty-two lower-case hexadecimal digits in five groups with hyphens in
between.
-/

namespace PagedListing

open PagedListing.Text

namespace Text

def isLowerHex (c : Char) : Bool := ('0' ≤ c && c ≤ '9') || ('a' ≤ c && c ≤ 'f')

theorem isLowerHex_hexDigit : ∀ value < 16, isLowerHex (hexDigit value) = true := by
  decide

theorem exists_of_mem_hexFixed {width value : Nat} {c : Char} (member : c ∈ hexFixed width value) :
    ∃ place < 16, c = hexDigit place := by
  induction width generalizing value with
  | zero => cases member
  | succ width ih =>
      rw [hexFixed, List.mem_append, List.mem_singleton] at member
      rcases member with before | last
      · exact ih before
      · exact ⟨value % 16, Nat.mod_lt value (by decide), last⟩

theorem isLowerHex_of_mem_hexFixed {width value : Nat} {c : Char}
    (member : c ∈ hexFixed width value) : isLowerHex c = true := by
  obtain ⟨place, small, rfl⟩ := exists_of_mem_hexFixed member
  exact isLowerHex_hexDigit place small

end Text

namespace Uuid

/-- A text of 36 characters: groups of 8, 4, 4, 4 and 12 lower-case hexadecimal digits with
hyphens in between. -/
structure IsCanonical (text : String) : Prop where
  length : text.length = 36
  groups : ∃ groups : List (List Char), text.toList = ['-'].intercalate groups ∧
    groups.map List.length = [8, 4, 4, 4, 12] ∧
    ∀ group ∈ groups, ∀ c ∈ group, isLowerHex c = true

/-- A character of a text with a hyphen in it stands before the hyphen, is it, or stands behind
it. -/
theorem getElem?_around_hyphen {front back : List Char} {position : Nat} {c : Char}
    (stands : (front ++ '-' :: back)[position]? = some c) :
    (position < front.length ∧ c ∈ front) ∨ (position = front.length ∧ c = '-') ∨
      ∃ behind, position = front.length + 1 + behind ∧ back[behind]? = some c := by
  rcases Nat.lt_trichotomy position front.length with before | rfl | after
  · rw [List.getElem?_append_left before] at stands
    exact .inl ⟨before, List.mem_of_getElem? stands⟩
  · rw [List.getElem?_append_right (Nat.le_refl _), Nat.sub_self, List.getElem?_cons_zero]
      at stands
    exact .inr (.inl ⟨rfl, (Option.some.inj stands).symm⟩)
  · obtain ⟨behind, rfl⟩ := Nat.exists_eq_add_of_le (Nat.succ_le_of_lt after)
    have place : front.length.succ + behind - front.length = behind + 1 := by omega
    rw [List.getElem?_append_right (by omega), place, List.getElem?_cons_succ] at stands
    exact .inr (.inr ⟨behind, rfl, stands⟩)

def hyphenPlaces : List Nat → List Nat
  | length :: next :: lengths =>
      length :: (hyphenPlaces (next :: lengths)).map (length + 1 + ·)
  | _ => []

theorem character_of_groups {groups : List (List Char)} {position : Nat} {c : Char}
    (stands : (['-'].intercalate groups)[position]? = some c) :
    (position ∈ hyphenPlaces (groups.map List.length) ∧ c = '-') ∨
      (position ∉ hyphenPlaces (groups.map List.length) ∧ ∃ group ∈ groups, c ∈ group) := by
  induction groups generalizing position with
  | nil => simp at stands
  | cons group rest ih =>
      cases rest with
      | nil =>
          rw [List.intercalate_singleton] at stands
          exact .inr ⟨List.not_mem_nil, group, List.mem_cons_self, List.mem_of_getElem? stands⟩
      | cons next others =>
          rw [List.intercalate_cons_cons, List.append_assoc] at stands
          simp only [List.map_cons, hyphenPlaces, List.mem_cons, List.mem_map] at ih ⊢
          rcases getElem?_around_hyphen stands with ⟨before, inGroup⟩ | ⟨here, hyphen⟩ |
            ⟨behind, rfl, later⟩
          · refine .inr ⟨?_, group, .inl rfl, inGroup⟩
            rintro (here | ⟨place, -, there⟩) <;> omega
          · exact .inl ⟨.inl here, hyphen⟩
          · rcases ih later with ⟨inside, hyphen⟩ | ⟨outside, other, member, inOther⟩
            · exact .inl ⟨.inr ⟨behind, inside, rfl⟩, hyphen⟩
            · refine .inr ⟨?_, other, .inr member, inOther⟩
              rintro (here | ⟨place, inside, there⟩)
              · omega
              · exact outside (Nat.add_left_cancel there ▸ inside)

theorem IsCanonical.character_at {text : String} (canonical : IsCanonical text) {position : Nat}
    {c : Char} (stands : text.toList[position]? = some c) :
    if position ∈ [8, 13, 18, 23] then c = '-' else isLowerHex c = true := by
  obtain ⟨groups, split, lengths, digits⟩ := canonical.groups
  have places : hyphenPlaces (groups.map List.length) = [8, 13, 18, 23] := by
    rw [lengths]
    rfl
  rw [split] at stands
  rcases character_of_groups stands with ⟨here, hyphen⟩ | ⟨elsewhere, group, member, inGroup⟩
  · rwa [if_pos (places ▸ here)]
  · rw [if_neg (places ▸ elsewhere)]
    exact digits group member c inGroup

def grouped (digits : List Char) : List (List Char) :=
  [digits.take 8, (digits.drop 8).take 4, (digits.drop 12).take 4, (digits.drop 16).take 4,
    digits.drop 20]

theorem mem_of_mem_grouped {digits group : List Char} {c : Char} (member : group ∈ grouped digits)
    (inGroup : c ∈ group) : c ∈ digits := by
  simp only [grouped, List.mem_cons, List.not_mem_nil, or_false] at member
  rcases member with rfl | rfl | rfl | rfl | rfl
  · exact List.mem_of_mem_take inGroup
  · exact List.mem_of_mem_drop (List.mem_of_mem_take inGroup)
  · exact List.mem_of_mem_drop (List.mem_of_mem_take inGroup)
  · exact List.mem_of_mem_drop (List.mem_of_mem_take inGroup)
  · exact List.mem_of_mem_drop inGroup

theorem lengths_grouped {digits : List Char} (all : digits.length = digitCount) :
    (grouped digits).map List.length = [8, 4, 4, 4, 12] := by
  simp [grouped, all, digitCount]

theorem canonical_eq (uuid : Uuid) :
    uuid.canonical =
      String.ofList (['-'].intercalate (grouped (hexFixed digitCount uuid.value))) := rfl

theorem length_canonical (uuid : Uuid) : uuid.canonical.length = 36 := by
  have all := length_hexFixed digitCount uuid.value
  rw [canonical_eq, String.length_ofList]
  generalize hexFixed digitCount uuid.value = digits at all
  simp [grouped, List.intercalate, List.intersperse, all, digitCount]

theorem canonical_ne_empty (uuid : Uuid) : uuid.canonical ≠ "" := by
  intro empty
  have length := length_canonical uuid
  rw [empty] at length
  cases length

/-- UUIDs are printed in the canonical spelling. -/
theorem isCanonical (uuid : Uuid) : IsCanonical uuid.canonical where
  length := length_canonical uuid
  groups := by
    refine ⟨grouped (hexFixed digitCount uuid.value), ?_, ?_, ?_⟩
    · rw [canonical_eq, String.toList_ofList]
    · exact lengths_grouped (length_hexFixed digitCount uuid.value)
    · intro group member c inGroup
      exact isLowerHex_of_mem_hexFixed (mem_of_mem_grouped member inGroup)

end Uuid

end PagedListing
