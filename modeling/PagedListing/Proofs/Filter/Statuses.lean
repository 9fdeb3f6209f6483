import Mathlib.Data.List.Nodup
import PagedListing.Filter.RunStatus

set_option autoImplicit false

/-!
# Lists of run states

Reading a list of states finds each of them once, and different states that are joined with
commas are read back as they are.
-/

namespace PagedListing.RunStatus

theorem nodup_addOnce {found : List RunStatus} (distinct : found.Nodup) (status : RunStatus) :
    (addOnce found status).Nodup := by
  unfold addOnce
  by_cases known : status ∈ found
  · rw [if_pos known]
    exact distinct
  · rw [if_neg known, List.nodup_append]
    refine ⟨distinct, List.nodup_singleton status, ?_⟩
    intro other member added same equal
    rw [equal, List.mem_singleton.mp same] at member
    exact known member

theorem nodup_foldl_addOnce {found : List RunStatus} (distinct : found.Nodup)
    (statuses : List RunStatus) : (statuses.foldl addOnce found).Nodup := by
  induction statuses generalizing found with
  | nil => exact distinct
  | cons status rest ih => exact ih (nodup_addOnce distinct status)

theorem nodup_parse (text : String) : (parse text).Nodup :=
  nodup_foldl_addOnce List.nodup_nil _

/-- States that are all different are added one behind the other. -/
theorem foldl_addOnce_of_nodup {found statuses : List RunStatus}
    (distinct : (found ++ statuses).Nodup) :
    statuses.foldl addOnce found = found ++ statuses := by
  induction statuses generalizing found with
  | nil => rw [List.append_nil, List.foldl_nil]
  | cons status rest ih =>
      have fresh : status ∉ found := by
        intro known
        rw [List.nodup_append] at distinct
        exact distinct.2.2 status known status List.mem_cons_self rfl
      rw [List.append_cons] at distinct ⊢
      rw [List.foldl_cons, addOnce, if_neg fresh, ih distinct]

theorem ofSegment?_name (status : RunStatus) : ofSegment? status.name.toList = some status := by
  cases status <;> decide +kernel

theorem comma_not_mem_name (status : RunStatus) : ',' ∉ status.name.toList := by
  cases status <;> decide +kernel

def joined (statuses : List RunStatus) : String := ",".intercalate (statuses.map name)

theorem splitOn_joined {statuses : List RunStatus} (nonempty : statuses ≠ []) :
    (joined statuses).toList.splitOn ',' = statuses.map fun status => status.name.toList := by
  have comma : ",".toList = [','] := by decide +kernel
  rw [joined, String.toList_intercalate, comma, List.map_map]
  refine List.splitOn_intercalate ',' ?_ ?_
  · intro segment member
    obtain ⟨status, -, rfl⟩ := List.mem_map.mp member
    exact comma_not_mem_name status
  · exact fun empty => nonempty (List.map_eq_nil_iff.mp empty)

theorem parse_joined {statuses : List RunStatus} (distinct : statuses.Nodup)
    (nonempty : statuses ≠ []) : parse (joined statuses) = statuses := by
  have named : (statuses.map fun status => status.name.toList).filterMap ofSegment? = statuses := by
    have read : (ofSegment? ∘ fun status : RunStatus => status.name.toList) = some :=
      funext ofSegment?_name
    rw [List.filterMap_map, read, List.filterMap_some]
  have added : statuses.foldl addOnce [] = [] ++ statuses :=
    foldl_addOnce_of_nodup (by rwa [List.nil_append])
  rw [parse, splitOn_joined nonempty, named, added, List.nil_append]

theorem joined_ne_empty {statuses : List RunStatus} (distinct : statuses.Nodup)
    (nonempty : statuses ≠ []) : joined statuses ≠ "" := by
  intro empty
  have back := parse_joined distinct nonempty
  rw [empty] at back
  exact nonempty back.symm

end PagedListing.RunStatus
