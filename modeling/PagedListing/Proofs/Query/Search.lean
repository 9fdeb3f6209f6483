import Mathlib.Data.List.Infix
import PagedListing.Proofs.Query.Emission
import PagedListing.Resource

set_option autoImplicit false

/-!
# What a search finds

A search binds its text between two percent signs and leaves the comparison to the
database. The database reads more than the outer percent signs as marks, so a search finds
the values that contain its text exactly when no mark stands in the text.
-/

namespace PagedListing

/-- A character that a pattern does not take for itself. -/
def IsMark (character : Char) : Prop :=
  character = '%' ∨ character = '_' ∨ character = '\\'

instance (character : Char) : Decidable (IsMark character) :=
  inferInstanceAs (Decidable (_ ∨ _ ∨ _))

theorem not_isMark_iff {character : Char} :
    ¬IsMark character ↔ character ≠ '%' ∧ character ≠ '_' ∧ character ≠ '\\' := by
  rw [IsMark, not_or, not_or]

/-- A comparison of characters up to case, under which no mark equals another character. -/
structure CaseFolding where
  fold : Char → Char
  mark_eq : ∀ {mark other : Char}, IsMark mark → fold mark = fold other → mark = other

theorem toLower_eq_or (character : Char) :
    character.toLower = character ∨
      97 ≤ character.toLower.toNat ∧ character.toLower.toNat ≤ 122 := by
  unfold Char.toLower
  split
  case isTrue upper =>
    have low : 65 ≤ character.val.toNat := UInt32.le_iff_toNat_le.mp upper.1
    have high : character.val.toNat ≤ 90 := UInt32.le_iff_toNat_le.mp upper.2
    have moved : (character.val + 32).toNat = character.val.toNat + 32 := by
      have small : character.val.toNat + 32 < 2 ^ 32 := by omega
      exact (UInt32.toNat_add _ _).trans (Nat.mod_eq_of_lt small)
    right
    change 97 ≤ (character.val + 32).toNat ∧ (character.val + 32).toNat ≤ 122
    omega
  case isFalse => exact .inl rfl

namespace CaseFolding

variable {folding : CaseFolding}

inductive Matches (folding : CaseFolding) : List Char → List Char → Prop where
  | done : Matches folding [] []
  | skip {pattern value : List Char} :
      Matches folding pattern value → Matches folding ('%' :: pattern) value
  | take {pattern value : List Char} {character : Char} :
      Matches folding ('%' :: pattern) value →
      Matches folding ('%' :: pattern) (character :: value)
  | any {pattern value : List Char} {character : Char} :
      Matches folding pattern value → Matches folding ('_' :: pattern) (character :: value)
  | escaped {pattern value : List Char} {literal character : Char} :
      folding.fold literal = folding.fold character → Matches folding pattern value →
      Matches folding ('\\' :: literal :: pattern) (character :: value)
  | plain {pattern value : List Char} {literal character : Char} :
      ¬IsMark literal → folding.fold literal = folding.fold character →
      Matches folding pattern value → Matches folding (literal :: pattern) (character :: value)

def Contains (folding : CaseFolding) (value text : List Char) : Prop :=
  text.map folding.fold <:+: value.map folding.fold

instance (value text : List Char) : Decidable (folding.Contains value text) :=
  inferInstanceAs (Decidable (_ <:+: _))

namespace Matches

theorem of_suffix {pattern value suffix : List Char} (ends : suffix <:+ value)
    (rest : folding.Matches pattern suffix) : folding.Matches ('%' :: pattern) value := by
  obtain ⟨before, rfl⟩ := ends
  induction before with
  | nil => exact .skip rest
  | cons character before ih => exact .take ih

theorem exists_suffix {pattern value : List Char}
    (found : folding.Matches ('%' :: pattern) value) :
    ∃ suffix, suffix <:+ value ∧ folding.Matches pattern suffix := by
  induction value with
  | nil =>
      cases found with
      | skip rest => exact ⟨[], List.suffix_rfl, rest⟩
  | cons character value ih =>
      cases found with
      | skip rest => exact ⟨character :: value, List.suffix_rfl, rest⟩
      | take rest =>
          obtain ⟨suffix, ends, remaining⟩ := ih rest
          exact ⟨suffix, ends.trans (List.suffix_cons character value), remaining⟩
      | plain unmarked => exact absurd (.inl rfl) unmarked

theorem anything (folding : CaseFolding) (value : List Char) : folding.Matches ['%'] value :=
  of_suffix (List.nil_suffix (l := value)) .done

/-- A text without backslashes matches itself: even a mark finds its own character. -/
theorem append {text within pattern after : List Char} (unescaped : '\\' ∉ text)
    (same : text.map folding.fold = within.map folding.fold)
    (rest : folding.Matches pattern after) :
    folding.Matches (text ++ pattern) (within ++ after) := by
  induction text generalizing within with
  | nil =>
      have empty : within = [] := List.map_eq_nil_iff.mp same.symm
      subst empty
      exact rest
  | cons literal text ih =>
      obtain ⟨character, within, rfl, equal, remaining⟩ := List.map_eq_cons_iff.mp same.symm
      rw [List.mem_cons, not_or] at unescaped
      have tail := ih unescaped.2 remaining.symm
      by_cases marked : IsMark literal
      · obtain rfl := folding.mark_eq marked equal.symm
        rcases marked with rfl | rfl | rfl
        · exact .take (.skip tail)
        · exact .any tail
        · exact absurd rfl unescaped.1
      · exact .plain marked equal.symm tail

theorem exists_cons {literal : Char} {pattern value : List Char} (unmarked : ¬IsMark literal)
    (found : folding.Matches (literal :: pattern) value) :
    ∃ character rest, value = character :: rest ∧
      folding.fold literal = folding.fold character ∧ folding.Matches pattern rest := by
  cases found with
  | skip | take => exact absurd (.inl rfl) unmarked
  | any => exact absurd (.inr (.inl rfl)) unmarked
  | escaped => exact absurd (.inr (.inr rfl)) unmarked
  | plain _ equal rest => exact ⟨_, _, rfl, equal, rest⟩

/-- A text without marks matches nothing but itself. -/
theorem exists_append {text pattern value : List Char}
    (unmarked : ∀ character ∈ text, ¬IsMark character)
    (found : folding.Matches (text ++ pattern) value) :
    ∃ within after, value = within ++ after ∧
      text.map folding.fold = within.map folding.fold ∧ folding.Matches pattern after := by
  induction text generalizing value with
  | nil => exact ⟨[], value, rfl, rfl, found⟩
  | cons literal text ih =>
      rw [List.forall_mem_cons] at unmarked
      obtain ⟨character, value, rfl, equal, rest⟩ := exists_cons unmarked.1 found
      obtain ⟨within, after, rfl, same, remaining⟩ := ih unmarked.2 rest
      refine ⟨character :: within, after, rfl, ?_, remaining⟩
      rw [List.map_cons, List.map_cons, equal, same]

end Matches

theorem contains_iff {value text : List Char} :
    folding.Contains value text ↔
      ∃ before within after, value = before ++ (within ++ after) ∧
        text.map folding.fold = within.map folding.fold := by
  constructor
  · rintro ⟨before, after, split⟩
    obtain ⟨front, rear, rfl, front_eq, -⟩ := List.map_eq_append_iff.mp split.symm
    obtain ⟨before, within, rfl, -, within_eq⟩ := List.map_eq_append_iff.mp front_eq
    exact ⟨before, within, rear, List.append_assoc .., within_eq.symm⟩
  · rintro ⟨before, within, after, rfl, same⟩
    refine ⟨before.map folding.fold, after.map folding.fold, ?_⟩
    rw [same, List.map_append, List.map_append, List.append_assoc]

/-- A search misses no value that contains its text, unless the text has a backslash. -/
theorem Contains.matches {value text : List Char} (occurs : folding.Contains value text)
    (unescaped : '\\' ∉ text) : folding.Matches ('%' :: (text ++ ['%'])) value := by
  obtain ⟨before, within, after, rfl, same⟩ := contains_iff.mp occurs
  exact .of_suffix (List.suffix_append before _)
    (.append unescaped same (.anything folding after))

theorem contains_of_matches {value text : List Char}
    (unmarked : ∀ character ∈ text, ¬IsMark character)
    (found : folding.Matches ('%' :: (text ++ ['%'])) value) : folding.Contains value text := by
  obtain ⟨suffix, ⟨before, rfl⟩, rest⟩ := found.exists_suffix
  obtain ⟨within, after, rfl, same, -⟩ := rest.exists_append unmarked
  exact contains_iff.mpr ⟨before, within, after, rfl, same⟩

/-- A value that the search for a text finds, with nothing in it that is not needed. -/
def shortest : List Char → List Char
  | [] => []
  | '%' :: text => shortest text
  | '_' :: text => 'x' :: shortest text
  | '\\' :: text =>
      match text with
      | [] => ['%']
      | literal :: text => literal :: shortest text
  | literal :: text => literal :: shortest text

theorem shortest_cons {literal : Char} (unmarked : ¬IsMark literal) (text : List Char) :
    shortest (literal :: text) = literal :: shortest text := by
  obtain ⟨percent, underscore, backslash⟩ := not_isMark_iff.mp unmarked
  exact shortest.eq_6 literal text percent underscore backslash

theorem matches_shortest (folding : CaseFolding) (text : List Char) :
    folding.Matches (text ++ ['%']) (shortest text) := by
  induction text using shortest.induct with
  | case1 => exact .anything folding []
  | case2 text ih => exact .skip ih
  | case3 text ih => exact .any ih
  | case4 => exact .escaped rfl .done
  | case5 literal text ih => exact .escaped rfl ih
  | case6 literal text percent underscore backslash ih =>
      have unmarked := not_isMark_iff.mpr ⟨percent, underscore, backslash⟩
      rw [shortest_cons unmarked]
      exact .plain unmarked rfl ih

theorem length_shortest (text : List Char) : (shortest text).length ≤ text.length := by
  induction text using shortest.induct with
  | case1 | case4 => exact Nat.le_refl _
  | case2 text ih => exact Nat.le_succ_of_le ih
  | case3 text ih => exact Nat.succ_le_succ ih
  | case5 literal text ih => exact Nat.succ_le_succ (Nat.le_succ_of_le ih)
  | case6 literal text percent underscore backslash ih =>
      rw [shortest_cons (not_isMark_iff.mpr ⟨percent, underscore, backslash⟩)]
      exact Nat.succ_le_succ ih

/-- A mark of the text leaves out a character of the value, or stands for another one. -/
theorem unmarked_of_shortest {text : List Char}
    (same : text.map folding.fold = (shortest text).map folding.fold) :
    ∀ character ∈ text, ¬IsMark character := by
  have lengths := congrArg List.length same
  rw [List.length_map, List.length_map] at lengths
  induction text using shortest.induct with
  | case1 => exact List.forall_mem_nil _
  | case2 text ih =>
      have shorter : (shortest text).length ≤ text.length := length_shortest text
      rw [shortest, List.length_cons] at lengths
      omega
  | case3 text ih =>
      have equal := (List.cons_eq_cons.mp same).1
      exact absurd (folding.mark_eq (.inr (.inl rfl)) equal) (by decide)
  | case4 =>
      have equal := (List.cons_eq_cons.mp same).1
      exact absurd (folding.mark_eq (.inr (.inr rfl)) equal) (by decide)
  | case5 literal text ih =>
      have shorter : (shortest text).length ≤ text.length := length_shortest text
      rw [shortest, List.length_cons, List.length_cons, List.length_cons] at lengths
      omega
  | case6 literal text percent underscore backslash ih =>
      have unmarked := not_isMark_iff.mpr ⟨percent, underscore, backslash⟩
      rw [shortest_cons unmarked] at same lengths
      have rest := (List.cons_eq_cons.mp same).2
      exact List.forall_mem_cons.mpr ⟨unmarked, ih rest (Nat.succ.inj lengths)⟩

theorem unmarked_of_matches_iff {text : List Char}
    (exact_search : ∀ value,
      folding.Matches ('%' :: (text ++ ['%'])) value ↔ folding.Contains value text) :
    ∀ character ∈ text, ¬IsMark character := by
  have occurs := (exact_search (shortest text)).mp (.skip (matches_shortest folding text))
  refine unmarked_of_shortest (List.IsInfix.eq_of_length_le occurs ?_)
  rw [List.length_map, List.length_map]
  exact length_shortest text

/-- A search finds the values that contain its text, no more and no fewer, exactly when the
text has no mark. -/
theorem matches_iff_contains_iff (folding : CaseFolding) {text : List Char} :
    (∀ value, folding.Matches ('%' :: (text ++ ['%'])) value ↔ folding.Contains value text) ↔
      ∀ character ∈ text, ¬IsMark character := by
  constructor
  · exact unmarked_of_matches_iff
  · intro unmarked value
    have unescaped : '\\' ∉ text := fun stands => unmarked _ stands (.inr (.inr rfl))
    exact ⟨contains_of_matches unmarked, fun occurs => occurs.matches unescaped⟩

def ascii : CaseFolding where
  fold := Char.toLower
  mark_eq := by
    intro mark other marked same
    have fixed : mark.toLower = mark := by rcases marked with rfl | rfl | rfl <;> decide
    rw [fixed] at same
    rcases toLower_eq_or other with kept | ⟨low, high⟩
    · exact same.trans kept
    · rw [← same] at low high
      rcases marked with rfl | rfl | rfl <;> simp at low high

end CaseFolding

namespace Builder

open CaseFolding

variable {folding : CaseFolding}

/-- A call that looks for a text binds one pattern, once for each field. The rows that the
database finds with it are those that contain the text, whatever they hold, exactly when no
mark stands in the text. A row that contains the text is still found when the only marks in
it are percent signs and underscores. -/
theorem search_finds (folding : CaseFolding) {text : String} (given : text ≠ "") :
    ∃ pattern : String,
      (∀ (builder : Builder) (field : String),
        (builder.refine (.whereContains field (some text))).arguments =
          builder.arguments ++ [.text pattern]) ∧
      (∀ (builder : Builder) (fields : List String),
        (builder.refine (.whereSearch (some text) fields)).arguments =
          builder.arguments ++ fields.map fun _ => .text pattern) ∧
      ((∀ value : String, folding.Matches pattern.toList value.toList ↔
          folding.Contains value.toList text.toList) ↔
        ∀ character ∈ text.toList, ¬IsMark character) ∧
      ('\\' ∉ text.toList → ∀ value : String, folding.Contains value.toList text.toList →
        folding.Matches pattern.toList value.toList) := by
  have marked : ("%" ++ text ++ "%").toList = '%' :: (text.toList ++ ['%']) := by
    rw [String.toList_append, String.toList_append]
    rfl
  refine ⟨"%" ++ text ++ "%", ?_, ?_, ?_, ?_⟩
  · intro builder field
    rw [arguments_refine, Refinement.bound, if_neg given]
  · intro builder fields
    rw [arguments_refine, Refinement.bound, if_neg given]
  · rw [marked, ← matches_iff_contains_iff folding]
    constructor
    · intro exact_search value
      have found := exact_search (String.ofList value)
      rwa [String.toList_ofList] at found
    · intro exact_search value
      exact exact_search value.toList
  · intro unescaped value occurs
    rw [marked]
    exact occurs.matches unescaped

theorem search_finds_report :
    "report" ≠ "" ∧ ∃ pattern : String,
      ((fresh Resource.documents.projection []).refine
        (.whereContains "Name" (some "report"))).arguments = [.text pattern] ∧
      CaseFolding.ascii.Matches pattern.toList "Annual REPORT 2024".toList ∧
      ¬CaseFolding.ascii.Matches pattern.toList "Annual Repo".toList := by
  have given : "report" ≠ "" := by decide
  obtain ⟨pattern, contains, -, exact_search, -⟩ := search_finds CaseFolding.ascii given
  have unmarked : "report".toList.all (fun character => !decide (IsMark character)) = true := by
    decide +kernel
  have finds := exact_search.mpr (by simpa only [List.all_eq_true, Bool.not_eq_true',
    decide_eq_false_iff_not] using unmarked)
  refine ⟨given, pattern, contains _ "Name", ?_, ?_⟩
  · exact (finds "Annual REPORT 2024").mpr (by decide +kernel)
  · intro found
    exact absurd ((finds "Annual Repo").mp found) (by decide +kernel)

/-- A percent sign in the text finds a value without it, and a backslash misses a value
with it. -/
theorem search_misreads_marks :
    ((fresh Resource.documents.projection []).refine
        (.whereContains "Name" (some "50%"))).arguments = [.text "%50%%"] ∧
      CaseFolding.ascii.Matches "%50%%".toList "500".toList ∧
      ¬CaseFolding.ascii.Contains "500".toList "50%".toList ∧
    ((fresh Resource.documents.projection []).refine
        (.whereSearch (some "a\\b") ["Name"])).arguments = [.text "%a\\b%"] ∧
      CaseFolding.ascii.Contains "a\\b".toList "a\\b".toList ∧
      ¬CaseFolding.ascii.Matches "%a\\b%".toList "a\\b".toList := by
  refine ⟨rfl, ?_, by decide +kernel, rfl, by decide +kernel, ?_⟩
  · exact .skip (.plain (by decide) rfl (.plain (by decide) rfl (.take (.skip (.skip .done)))))
  · change ¬CaseFolding.ascii.Matches ['%', 'a', '\\', 'b', '%'] ['a', '\\', 'b']
    intro found
    obtain ⟨suffix, ends, rest⟩ := found.exists_suffix
    obtain ⟨first, rest, rfl, first_eq, remaining⟩ := rest.exists_cons (by decide)
    cases remaining with
    | plain unmarked => exact absurd (.inr (.inr rfl)) unmarked
    | escaped second_eq =>
        simp only [List.suffix_cons_iff, List.cons.injEq, List.suffix_nil, reduceCtorEq,
          and_false, or_false] at ends
        rcases ends with ⟨-, rfl, -⟩ | ⟨rfl, -⟩
        · exact absurd second_eq (by decide)
        · exact absurd first_eq (by decide)

end Builder

end PagedListing
