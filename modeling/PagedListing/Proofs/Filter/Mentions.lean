import Mathlib.Data.List.Induction
import PagedListing.Proofs.Filter.Statuses

set_option autoImplicit false

/-!
# The order of run states

Reading a list finds each state that some segment names, once and in the order in which they
are named first.
-/

namespace PagedListing.RunStatus

open PagedListing.Text

/-- A segment names a state by the state's name, in any letter case and with blanks around. -/
def Names (segment : List Char) (status : RunStatus) : Prop :=
  lower (strip segment) = status.name.toList

instance (segment : List Char) (status : RunStatus) : Decidable (Names segment status) :=
  inferInstanceAs (Decidable (_ = _))

theorem ofName?_name (status : RunStatus) : ofName? status.name.toList = some status := by
  cases status <;> decide +kernel

theorem ofSegment?_eq_some_iff {segment : List Char} {status : RunStatus} :
    ofSegment? segment = some status ↔ Names segment status := by
  constructor
  · intro read
    have named := List.find?_some read
    exact (of_decide_eq_true named).symm
  · intro named
    rw [ofSegment?, named, ofName?_name]

theorem Names.iff_eq {segment : List Char} {status : RunStatus} (named : Names segment status)
    {other : RunStatus} : Names segment other ↔ other = status := by
  rw [← ofSegment?_eq_some_iff, ofSegment?_eq_some_iff.mpr named, Option.some_inj, eq_comm]

/-- The place of the first segment that names a state; behind them all if none does. -/
def firstPlace (segments : List (List Char)) (status : RunStatus) : Nat :=
  segments.findIdx fun segment => decide (Names segment status)

structure Lists (segments : List (List Char)) (found : List RunStatus) : Prop where
  distinct : found.Nodup
  mem_iff : ∀ status, status ∈ found ↔ ∃ segment ∈ segments, Names segment status
  ordered : found.Pairwise fun earlier later =>
    firstPlace segments earlier < firstPlace segments later

section

variable {segments : List (List Char)} {found : List RunStatus} {segment : List Char}
  {status : RunStatus}

theorem firstPlace_lt_iff :
    firstPlace segments status < segments.length ↔ ∃ segment ∈ segments, Names segment status := by
  simp [firstPlace, List.findIdx_lt_length]

theorem firstPlace_concat_of_named (named : ∃ segment ∈ segments, Names segment status)
    (segment : List Char) :
    firstPlace (segments ++ [segment]) status = firstPlace segments status := by
  have inside := firstPlace_lt_iff.mpr named
  rw [firstPlace] at inside ⊢
  rw [List.findIdx_append, if_pos inside]
  rfl

theorem firstPlace_concat_of_fresh (fresh : ¬∃ segment ∈ segments, Names segment status)
    (named : Names segment status) :
    firstPlace (segments ++ [segment]) status = segments.length := by
  have outside := mt firstPlace_lt_iff.mp fresh
  rw [firstPlace] at outside ⊢
  rw [List.findIdx_append, if_neg outside, List.findIdx_cons, decide_eq_true named]
  exact Nat.zero_add _

namespace Lists

theorem nil : Lists [] [] where
  distinct := List.nodup_nil
  mem_iff := by simp
  ordered := .nil

theorem ordered_concat (lists : Lists segments found) (segment : List Char) :
    found.Pairwise fun earlier later =>
      firstPlace (segments ++ [segment]) earlier < firstPlace (segments ++ [segment]) later := by
  refine lists.ordered.imp_of_mem fun first second before => ?_
  rw [firstPlace_concat_of_named ((lists.mem_iff _).mp first),
    firstPlace_concat_of_named ((lists.mem_iff _).mp second)]
  exact before

theorem skip (lists : Lists segments found)
    (known : ∀ status, Names segment status → status ∈ found) :
    Lists (segments ++ [segment]) found where
  distinct := lists.distinct
  mem_iff status := by
    simp only [List.mem_append, List.mem_singleton, or_and_right, exists_or, exists_eq_left]
    rw [← lists.mem_iff]
    exact ⟨.inl, fun either => either.elim id (known status)⟩
  ordered := lists.ordered_concat segment

theorem add (lists : Lists segments found) (named : Names segment status)
    (fresh : status ∉ found) :
    Lists (segments ++ [segment]) (found ++ [status]) where
  distinct := by
    have added := nodup_addOnce lists.distinct status
    rwa [addOnce, if_neg fresh] at added
  mem_iff other := by
    simp only [List.mem_append, List.mem_singleton, or_and_right, exists_or, exists_eq_left]
    rw [lists.mem_iff, named.iff_eq]
  ordered := by
    rw [List.pairwise_append]
    refine ⟨lists.ordered_concat segment, List.pairwise_singleton _ _, ?_⟩
    intro earlier member later same
    have known := (lists.mem_iff earlier).mp member
    rw [List.mem_singleton.mp same, firstPlace_concat_of_named known,
      firstPlace_concat_of_fresh (mt (lists.mem_iff status).mpr fresh) named]
    exact firstPlace_lt_iff.mpr known

/-- What one more segment keeps. -/
theorem next (lists : Lists segments found) (segment : List Char) :
    Lists (segments ++ [segment]) ((ofSegment? segment).elim found (addOnce found)) := by
  cases read : ofSegment? segment with
  | none =>
      refine lists.skip fun status named => ?_
      rw [ofSegment?_eq_some_iff.mpr named] at read
      cases read
  | some status =>
      have named := ofSegment?_eq_some_iff.mp read
      rw [Option.elim_some, addOnce]
      by_cases known : status ∈ found
      · rw [if_pos known]
        exact lists.skip fun other same => named.iff_eq.mp same ▸ known
      · rw [if_neg known]
        exact lists.add named known

end Lists

end

/-- What every segment keeps holds at the end. -/
theorem lists_foldl (segments : List (List Char)) :
    Lists segments ((segments.filterMap ofSegment?).foldl addOnce []) := by
  induction segments using List.reverseRecOn with
  | nil => exact .nil
  | append_singleton before segment ih =>
      have next := ih.next segment
      rw [List.filterMap_append, List.foldl_append]
      cases read : ofSegment? segment <;> simpa [read] using next

theorem lists_parse (text : String) : Lists (text.toList.splitOn ',') (parse text) :=
  lists_foldl _

theorem foldl_addOnce (found statuses : List RunStatus) :
    statuses.foldl addOnce found =
      found ++ (statuses.foldl addOnce []).filter fun status => status ∉ found := by
  induction statuses using List.reverseRecOn with
  | nil => simp
  | append_singleton before status ih =>
      simp only [List.foldl_append, List.foldl_cons, List.foldl_nil, ih]
      by_cases known : status ∈ found
      · by_cases again : status ∈ before.foldl addOnce [] <;> simp [addOnce, known, again]
      · by_cases again : status ∈ before.foldl addOnce [] <;> simp [addOnce, known, again]

theorem parse_append (first second : String) :
    parse (first ++ "," ++ second) =
      parse first ++ (parse second).filter fun status => status ∉ parse first := by
  have joined : (first ++ "," ++ second).toList = first.toList ++ ',' :: second.toList := by
    simp [String.toList_append]
  rw [parse, joined, List.splitOn_append_cons_self, List.filterMap_append, List.foldl_append,
    foldl_addOnce]
  rfl

/-- A list of states holds those that its segments name, each once and in the order of their
first segments. The states of a second list come behind those of the first, less those that are
known already. -/
theorem parse_listed :
    (∀ text, (parse text).Nodup ∧
      (∀ status, status ∈ parse text ↔
        ∃ segment ∈ text.toList.splitOn ',', lower (strip segment) = status.name.toList) ∧
      (parse text).Pairwise fun earlier later =>
        firstPlace (text.toList.splitOn ',') earlier < firstPlace (text.toList.splitOn ',') later) ∧
    ∀ first second, parse (first ++ "," ++ second) =
      parse first ++ (parse second).filter fun status => status ∉ parse first := by
  refine ⟨fun text => ?_, parse_append⟩
  have lists := lists_parse text
  exact ⟨lists.distinct, lists.mem_iff, lists.ordered⟩

example : parse "Failed,done, PENDING\t,failed" = [.failed, .pending] := by decide +kernel

end PagedListing.RunStatus
