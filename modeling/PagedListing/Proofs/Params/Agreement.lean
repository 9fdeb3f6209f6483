import Mathlib.Logic.Relation
import PagedListing.Params

set_option autoImplicit false

/-!
# Parameters that say the same

Two lists of parameters say the same under some names when the last value under each of them is
the same, where an empty text is as good as no value. Sending pairs in another order, again, in
vain or without a text makes no difference to what is said.
-/

namespace PagedListing.Params

def Silent (params : Params) (name : String) : Prop :=
  params.get? name = none ∨ params.get? name = some ""

def AgreeOn (names : List String) (first second : Params) : Prop :=
  ∀ name ∈ names, first.get? name = second.get? name ∨ first.Silent name ∧ second.Silent name

instance (params : Params) (name : String) : Decidable (params.Silent name) :=
  inferInstanceAs (Decidable (_ ∨ _))

instance (names : List String) (first second : Params) :
    Decidable (AgreeOn names first second) :=
  inferInstanceAs (Decidable (∀ name ∈ names, _ ∨ _))

/-- One change to a list of parameters that says nothing new under the given names. -/
inductive Resent (names : List String) : Params → Params → Prop where
  | swapped {front back : Params} {first second : String × String} :
      first.1 ≠ second.1 →
      Resent names (front ++ first :: second :: back) (front ++ second :: first :: back)
  | repeated {front back : Params} {name earlier later : String} :
      (name, later) ∈ back → Resent names (front ++ (name, earlier) :: back) (front ++ back)
  | unrecognised {front back : Params} {name value : String} :
      name ∉ names → Resent names (front ++ (name, value) :: back) (front ++ back)
  | emptied {front back : Params} {name : String} :
      (∀ pair ∈ front ++ back, pair.1 ≠ name) →
      Resent names (front ++ (name, "") :: back) (front ++ back)

variable {names : List String} {first second : Params} {name : String}

theorem text?_eq_filter (params : Params) (name : String) :
    params.text? name = (params.get? name).filter (· ≠ "") := by
  unfold text?
  cases params.get? name with
  | none => rfl
  | some text => by_cases empty : text = "" <;> simp [Option.filter, empty]

theorem text?_ne_empty (params : Params) (name : String) : params.text? name ≠ some "" := by
  rw [text?_eq_filter, Ne, Option.filter_eq_some_iff]
  exact fun given => of_decide_eq_true given.2 rfl

theorem text?_of_get? {params : Params} {name : String} {text : Option String}
    (given : params.get? name = text) (nonempty : text ≠ some "") : params.text? name = text := by
  rw [text?_eq_filter, given]
  cases text with
  | none => rfl
  | some text =>
      have kept : text ≠ "" := fun empty => nonempty (congrArg some empty)
      exact Option.filter_some_pos (decide_eq_true kept)

theorem text?_eq_none_iff {params : Params} : params.text? name = none ↔ params.Silent name := by
  rw [text?_eq_filter, Silent]
  cases params.get? name with
  | none => simp
  | some text => simp

/-- What is said under a name is the text under it. -/
theorem text?_eq_iff :
    first.text? name = second.text? name ↔
      first.get? name = second.get? name ∨ first.Silent name ∧ second.Silent name := by
  constructor
  · intro same
    cases said : first.text? name with
    | none => exact .inr ⟨text?_eq_none_iff.mp said, text?_eq_none_iff.mp (same ▸ said)⟩
    | some text =>
        have saidToo : second.text? name = some text := same ▸ said
        rw [text?_eq_filter, Option.filter_eq_some_iff] at said saidToo
        exact .inl (said.1.trans saidToo.1.symm)
  · rintro (same | ⟨silent, silentToo⟩)
    · rw [text?_eq_filter, text?_eq_filter, same]
    · rw [text?_eq_none_iff.mpr silent, text?_eq_none_iff.mpr silentToo]

theorem agreeOn_iff :
    AgreeOn names first second ↔ ∀ name ∈ names, first.text? name = second.text? name :=
  forall₂_congr fun _ _ => text?_eq_iff.symm

/-- What is read the same from an empty text as from none is read from what is said. -/
theorem read_congr {α : Type} (read : Option String → α) (blind : read (some "") = read none)
    (same : first.text? name = second.text? name) :
    read (first.get? name) = read (second.get? name) := by
  have said (params : Params) : read (params.get? name) = read (params.text? name) := by
    rw [text?_eq_filter]
    cases params.get? name with
    | none => rfl
    | some text =>
        by_cases empty : text = ""
        · rw [empty, blind]
          rfl
        · simp [Option.filter, empty]
  rw [said, said, same]

theorem agreeOn_equivalence (names : List String) : Equivalence (AgreeOn names) where
  refl _ _ _ := .inl rfl
  symm agree := by
    rw [agreeOn_iff] at agree ⊢
    exact fun name member => (agree name member).symm
  trans one two := by
    rw [agreeOn_iff] at one two ⊢
    exact fun name member => (one name member).trans (two name member)

theorem get?_append (front back : Params) (name : String) :
    get? (front ++ back) name = (get? back name).or (get? front name) := by
  rw [get?, List.reverse_append, List.lookup_append]
  rfl

theorem get?_singleton (pair : String × String) (name : String) :
    get? [pair] name = if name = pair.1 then some pair.2 else none := by
  rw [get?, List.reverse_singleton, List.lookup_cons]
  by_cases same : name = pair.1
  · simp [same]
  · rw [beq_eq_false_iff_ne.mpr same, if_neg same]
    rfl

theorem get?_cons (pair : String × String) (back : Params) (name : String) :
    get? (pair :: back) name = (get? back name).or (if name = pair.1 then some pair.2 else none) := by
  rw [← List.singleton_append, get?_append, get?_singleton]

theorem get?_eq_none_iff {params : Params} :
    params.get? name = none ↔ ∀ pair ∈ params, pair.1 ≠ name := by
  rw [get?, List.lookup_eq_none_iff]
  simp only [List.mem_reverse, bne_iff_ne]
  exact forall₂_congr fun _ _ => ne_comm

theorem isSome_get?_of_mem {params : Params} {value : String} (member : (name, value) ∈ params) :
    (params.get? name).isSome = true := by
  cases found : params.get? name with
  | some text => rfl
  | none => exact absurd rfl (get?_eq_none_iff.mp found _ member)

theorem Resent.agreeOn (resent : Resent names first second) : AgreeOn names first second := by
  intro name member
  cases resent with
  | @swapped front back one two distinct =>
      left
      simp only [get?_append, get?_cons]
      by_cases same : name = one.1
      · have other : ¬name = two.1 := fun equal => distinct (same.symm.trans equal)
        simp [same, distinct]
      · simp [same]
  | @repeated front back key earlier later again =>
      left
      rw [get?_append, get?_append, get?_cons]
      by_cases same : name = key
      · obtain ⟨text, found⟩ := Option.isSome_iff_exists.mp (isSome_get?_of_mem again)
        rw [same, found]
        rfl
      · simp [same]
  | @unrecognised front back key value stranger =>
      left
      have other : ¬name = key := fun equal => stranger (equal ▸ member)
      rw [get?_append, get?_append, get?_cons, if_neg other, Option.or_none]
  | @emptied front back key absent =>
      by_cases same : name = key
      · have none : get? (front ++ back) name = none := by
          rw [get?_eq_none_iff, same]
          exact absent
        have ends := none
        rw [get?_append, Option.or_eq_none_iff] at ends
        refine .inr ⟨.inr ?_, .inl none⟩
        rw [get?_append, get?_cons, if_pos same, ends.1]
        rfl
      · left
        rw [get?_append, get?_append, get?_cons, if_neg same, Option.or_none]

/-- However often parameters are resent, and back again, they say the same. -/
theorem agreeOn_of_resent (resent : Relation.EqvGen (Resent names) first second) :
    AgreeOn names first second := by
  induction resent with
  | rel _ _ resent => exact resent.agreeOn
  | refl params => exact (agreeOn_equivalence names).refl params
  | symm _ _ _ ih => exact (agreeOn_equivalence names).symm ih
  | trans _ _ _ _ _ ih ih' => exact (agreeOn_equivalence names).trans ih ih'

end PagedListing.Params
