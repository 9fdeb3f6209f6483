set_option autoImplicit false

/-!
# Joined and split texts

Joining brings in no characters but those of the parts and of the separator, and splitting leaves
the separator in no part.
-/

namespace PagedListing.Text

theorem mem_intercalate {separator : List Char} {parts : List (List Char)} {c : Char}
    (member : c ∈ separator.intercalate parts) : c ∈ separator ∨ ∃ part ∈ parts, c ∈ part := by
  induction parts with
  | nil => simp at member
  | cons part others ih =>
      cases others with
      | nil =>
          rw [List.intercalate_singleton] at member
          exact .inr ⟨part, List.mem_cons_self, member⟩
      | cons next further =>
          rw [List.intercalate_cons_cons, List.mem_append, List.mem_append] at member
          rcases member with (inFirst | between) | behind
          · exact .inr ⟨part, List.mem_cons_self, inFirst⟩
          · exact .inl between
          · rcases ih behind with between | ⟨other, listed, inside⟩
            · exact .inl between
            · exact .inr ⟨other, List.mem_cons_of_mem part listed, inside⟩

theorem not_mem_of_mem_splitOn {separator : Char} {text part : List Char}
    (member : part ∈ text.splitOn separator) : separator ∉ part := by
  induction text generalizing part with
  | nil =>
      rw [List.splitOn_nil, List.mem_singleton] at member
      rw [member]
      exact List.not_mem_nil
  | cons c rest ih =>
      obtain ⟨head, tail, split⟩ := List.exists_cons_of_ne_nil
        (List.splitOn_ne_nil separator rest)
      rw [List.splitOn_cons_eq_if_modifyHead, split] at member
      rw [split] at ih
      by_cases here : c = separator
      · rw [if_pos (beq_iff_eq.mpr here)] at member
        rcases List.mem_cons.mp member with rfl | later
        · exact List.not_mem_nil
        · exact ih later
      · rw [if_neg (by simpa using here), List.modifyHead_cons] at member
        rcases List.mem_cons.mp member with rfl | later
        · rintro (_ | ⟨_, inside⟩)
          · exact here rfl
          · exact ih List.mem_cons_self inside
        · exact ih (List.mem_cons_of_mem head later)

end PagedListing.Text
