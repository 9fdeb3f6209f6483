import Mathlib.Data.List.DropRight
import PagedListing.Text.Blank

set_option autoImplicit false

/-!
# Trimmed texts

Trimming takes what may go from both ends and nothing else, so a text that has been trimmed
stays as it is.
-/

namespace PagedListing.Text

variable {drop : Char → Bool}

theorem trim_eq_rdropWhile (text : List Char) :
    trim drop text = (text.dropWhile drop).rdropWhile drop := rfl

theorem sublist_trim (text : List Char) : (trim drop text).Sublist text := by
  rw [trim_eq_rdropWhile]
  exact (List.rdropWhile_prefix drop _).sublist.trans (List.dropWhile_sublist drop)

theorem mem_of_mem_trim {text : List Char} {c : Char} (member : c ∈ trim drop text) : c ∈ text :=
  (sublist_trim text).mem member

/-- A character that must stay is still there. -/
theorem mem_trim_of_kept {text : List Char} {c : Char} (member : c ∈ text)
    (kept : drop c = false) : c ∈ trim drop text := by
  have survives {text : List Char} (member : c ∈ text) : c ∈ text.dropWhile drop := by
    rw [← List.takeWhile_append_dropWhile (p := drop) (l := text)] at member
    refine (List.mem_append.mp member).resolve_left fun taken => ?_
    rw [List.mem_takeWhile_imp taken] at kept
    cases kept
  exact List.mem_reverse.mpr (survives (List.mem_reverse.mpr (survives member)))

/-- Runs that may go are taken from both ends of a text that must stay. -/
theorem trim_surrounded {before body after : List Char} (front : ∀ c ∈ before, drop c = true)
    (kept : ∀ c ∈ body, drop c = false) (back : ∀ c ∈ after, drop c = true) :
    trim drop (before ++ (body ++ after)) = body := by
  rw [trim, List.dropWhile_append_of_pos front]
  cases body with
  | nil => rw [List.nil_append, List.dropWhile_eq_nil_iff.mpr back]; rfl
  | cons c rest =>
      have first : ¬drop c = true := by simp [kept c List.mem_cons_self]
      have last : (c :: rest).reverse.dropWhile drop = (c :: rest).reverse := by
        refine List.dropWhile_eq_self_iff.mpr fun nonempty dropped => ?_
        have inside := kept _ (List.mem_reverse.mp (List.getElem_mem nonempty))
        rw [inside] at dropped
        cases dropped
      have behind : ∀ d ∈ after.reverse, drop d = true := fun d member =>
        back d (List.mem_reverse.mp member)
      rw [List.cons_append, List.dropWhile_cons_of_neg first, ← List.cons_append,
        List.reverse_append, List.dropWhile_append_of_pos behind, last, List.reverse_reverse]

theorem trim_eq_nil_iff {text : List Char} : trim drop text = [] ↔ ∀ c ∈ text, drop c = true := by
  constructor
  · intro empty c member
    by_contra kept
    have stays := mem_trim_of_kept member (Bool.eq_false_iff.mpr kept)
    rw [empty] at stays
    exact List.not_mem_nil stays
  · intro all
    have gone : trim drop (text ++ ([] ++ [])) = [] := trim_surrounded all (by simp) (by simp)
    rwa [List.append_nil, List.append_nil] at gone

/-- Around what is left of a trimmed text stood only what may go. -/
theorem exists_trim_split (drop : Char → Bool) (text : List Char) :
    ∃ before after, text = before ++ (trim drop text ++ after) ∧
      (∀ c ∈ before, drop c = true) ∧ ∀ c ∈ after, drop c = true := by
  refine ⟨text.takeWhile drop, (text.dropWhile drop).rtakeWhile drop, ?_, ?_, ?_⟩
  · rw [trim_eq_rdropWhile, List.rdropWhile_append_rtakeWhile, List.takeWhile_append_dropWhile]
  · exact fun c member => List.mem_takeWhile_imp member
  · exact fun c member => List.mem_rtakeWhile_imp member

theorem trim_eq_self {text : List Char} (kept : ∀ c ∈ text, drop c = false) :
    trim drop text = text := by
  have alone : trim drop ([] ++ (text ++ [])) = text := trim_surrounded (by simp) kept (by simp)
  rwa [List.nil_append, List.append_nil] at alone

theorem dropWhile_trim (text : List Char) :
    (trim drop text).dropWhile drop = trim drop text := by
  obtain ⟨rest, whole⟩ := List.rdropWhile_prefix drop (text.dropWhile drop)
  rw [← trim_eq_rdropWhile] at whole
  cases trimmed : trim drop text with
  | nil => rfl
  | cons c others =>
      have first := List.dropWhile_eq_self_iff.mp (List.dropWhile_idempotent drop text)
      simp only [← whole, trimmed, List.cons_append, List.length_cons, List.getElem_cons_zero]
        at first
      exact List.dropWhile_cons_of_neg (first (Nat.succ_pos _))

theorem trim_trim (text : List Char) : trim drop (trim drop text) = trim drop text := by
  rw [trim_eq_rdropWhile (trim drop text), dropWhile_trim, trim_eq_rdropWhile,
    List.rdropWhile_idempotent]

/-- A character that must stay holds its place in front of a trimmed text. -/
theorem trim_cons_of_trimmed {c : Char} {text : List Char} (kept : drop c = false)
    (trimmed : trim drop text = text) : trim drop (c :: text) = c :: text := by
  have back : text.rdropWhile drop = text := by
    rw [← trimmed, trim_eq_rdropWhile, List.rdropWhile_idempotent]
  have last : (c :: text).rdropWhile drop = c :: text := by
    refine List.rdropWhile_eq_self_iff.mpr fun nonempty => ?_
    cases text with
    | nil => simp [kept]
    | cons d rest =>
        rw [List.getLast_cons_cons]
        exact List.rdropWhile_eq_self_iff.mp back (List.cons_ne_nil d rest)
  rw [trim_eq_rdropWhile, List.dropWhile_cons_of_neg (by simp [kept]), last]

end PagedListing.Text
