import PagedListing.Value

set_option autoImplicit false

/-!
# Values that can be written

Lists and records can be written when everything in them can, and what can be written has a
literal.
-/

namespace PagedListing.Value

theorem fieldsWritable_iff {fields : Record} :
    fieldsWritable fields = true ↔ ∀ field ∈ fields, field.2.isWritable = true := by
  induction fields with
  | nil => simp [fieldsWritable]
  | cons field rest ih => simp [fieldsWritable, ih]

theorem allWritable_iff {items : List Value} :
    allWritable items = true ↔ ∀ item ∈ items, item.isWritable = true := by
  induction items with
  | nil => simp [allWritable]
  | cons item rest ih => simp [allWritable, ih]

mutual

theorem isSome_literal? (value : Value) (writable : value.isWritable = true) :
    value.literal?.isSome = true := by
  cases value with
  | null => rfl
  | bool value => cases value <;> rfl
  | int value =>
      rw [isWritable] at writable
      rw [literal?, Number.numeral?, if_pos writable]
      rfl
  | decimal value => rfl
  | text value => rfl
  | list items =>
      rw [isWritable] at writable
      rw [literal?, Option.isSome_map]
      exact isSome_literals? items writable
  | record fields =>
      rw [isWritable] at writable
      rw [literal?, Option.isSome_map]
      exact isSome_fieldLiterals? fields writable

theorem isSome_literals? (items : List Value) (writable : allWritable items = true) :
    (literals? items).isSome = true := by
  cases items with
  | nil => rfl
  | cons item rest =>
      obtain ⟨first, later⟩ := Bool.and_eq_true_iff.mp writable
      obtain ⟨shown, literal⟩ := Option.isSome_iff_exists.mp (isSome_literal? item first)
      obtain ⟨others, literals⟩ := Option.isSome_iff_exists.mp (isSome_literals? rest later)
      rw [literals?, literal, literals]
      rfl

theorem isSome_fieldLiterals? (fields : Record) (writable : fieldsWritable fields = true) :
    (fieldLiterals? fields).isSome = true := by
  cases fields with
  | nil => rfl
  | cons field rest =>
      obtain ⟨name, value⟩ := field
      obtain ⟨first, later⟩ := Bool.and_eq_true_iff.mp writable
      obtain ⟨shown, literal⟩ := Option.isSome_iff_exists.mp (isSome_literal? value first)
      obtain ⟨others, literals⟩ := Option.isSome_iff_exists.mp (isSome_fieldLiterals? rest later)
      rw [fieldLiterals?, literal, literals]
      rfl

end

theorem isSome_display? {value : Value} (writable : value.isWritable = true) :
    value.display?.isSome = true := by
  cases value with
  | text value => rfl
  | null | bool _ | int _ | decimal _ | list _ | record _ =>
      simp only [display?, Option.isSome_map]
      exact isSome_literal? _ writable

end PagedListing.Value
