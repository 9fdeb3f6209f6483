import PagedListing.Proofs.Lookup.Course
import PagedListing.Proofs.Uuid.Spelling

set_option autoImplicit false

/-!
# Lookups by any spelling of an identifier

A lookup looks at the text of an identifier only to read it. Whatever spelling of a UUID it is
given, it executes the same statements with the same values and answers alike.
-/

namespace PagedListing.Lookup.Kind

open PagedListing.Text

variable (kind : Kind) (pagination : Option Pagination.Config) (environment : Environment)
  {id other : String} {uuid : Uuid}

theorem run_congr (parsed : Uuid.parse? id = some uuid)
    (otherParsed : Uuid.parse? other = some uuid) (script : List Reply) :
    kind.run pagination environment id script = kind.run pagination environment other script := by
  simp only [run, answer_call, find, parsed, otherParsed]

theorem head?_run (parsed : Uuid.parse? id = some uuid) (script : List Reply) :
    (kind.run pagination environment id script).2.head? = some (kind.first uuid) := by
  cases reply : found kind.resource script with
  | error failure =>
      rw [run_of_not_found kind pagination environment parsed reply]
      rfl
  | ok row =>
      rw [run_of_found kind pagination environment parsed reply]
      cases kind.table? with
      | none => rfl
      | some table => cases (idOf row).display? <;> rfl

/-- A text is an identifier exactly when thirty-two of its characters carry a number, which always
has at most 128 bits. The identifier is printed with hyphens at four places among lower-case
digits, and read back from that. Lookups by any of its spellings are one and the same. -/
theorem run_of_spelling :
    (∀ (text : String) (value : Nat),
      (∃ uuid, Uuid.parse? text = some uuid ∧ uuid.value = value) ↔
        (Uuid.significant text.toList).length = Uuid.digitCount ∧
          Number.readHex? (Uuid.significant text.toList) = some value) ∧
    (∀ (text : String) (uuid : Uuid), Uuid.parse? text = some uuid →
      uuid.value < 2 ^ 128 ∧ uuid.canonical.length = 36 ∧
        (∀ position c, uuid.canonical.toList[position]? = some c →
          if position ∈ [8, 13, 18, 23] then c = '-' else isLowerHex c = true) ∧
        Uuid.parse? uuid.canonical = some uuid) ∧
    ∀ (uuid : Uuid) (text : String), uuid.Spelling text.toList →
      Uuid.parse? text = some uuid ∧
      ∀ (kind : Kind) (pagination : Option Pagination.Config) (environment : Environment)
        (script : List Reply),
        kind.run pagination environment text script =
          kind.run pagination environment uuid.canonical script ∧
        ∃ first : Statement,
          (kind.run pagination environment text script).2.head? = some first ∧
          first.SelectsBy kind.resource.projection (kind.resource.shortName ++ ".id")
            (.text uuid.canonical) "" := by
  refine ⟨fun _ _ => Uuid.exists_parse?_iff, fun text uuid _ => ?_, fun uuid text spelling => ?_⟩
  · exact ⟨uuid.value_lt, uuid.length_canonical, fun _ _ => uuid.isCanonical.character_at,
      Uuid.parse?_of_spelling uuid.spelling_canonical⟩
  · have parsed := Uuid.parse?_of_spelling spelling
    have canonical := Uuid.parse?_of_spelling uuid.spelling_canonical
    refine ⟨parsed, fun kind pagination environment script => ⟨?_, kind.first uuid, ?_, ?_⟩⟩
    · exact kind.run_congr pagination environment parsed canonical script
    · exact kind.head?_run pagination environment parsed script
    · exact selectsBy_query kind.resource uuid

def ornateUuid : Uuid := ⟨0x9f8e7d6c5b4a39281706f5e4d3c2b1a0, by decide⟩

def ornateId : String := "urn:uuid:\x7b\x7b-9f8e7d6c5b4a3928-1706F5E4D3C2B1A0\x7d"

def ornateBody : List Char :=
  '-' :: ("9f8e7d6c5b4a3928".toList ++ '-' :: "1706f5e4d3c2b1a0".toList.map Char.toUpper)

theorem spelling_ornateId : ornateUuid.Spelling ornateId.toList := by
  have halves : hexFixed Uuid.digitCount ornateUuid.value =
      "9f8e7d6c5b4a3928".toList ++ "1706f5e4d3c2b1a0".toList := by decide +kernel
  have written : Uuid.Written (hexFixed Uuid.digitCount ornateUuid.value) ornateBody := by
    rw [halves]
    exact .hyphen ((Uuid.Written.refl _).append (.hyphen (.upperCase _)))
  have spelled : ornateId.toList =
      "urn:uuid:".toList ++ (['\x7b', '\x7b'] ++ (ornateBody ++ ['\x7d'])) := by decide +kernel
  rw [spelled]
  exact .mk (by decide) (by simp [Uuid.isBrace]) (by simp [Uuid.isBrace]) written

theorem run_of_spelling_ornateId :
    Uuid.parse? ornateId = some ornateUuid ∧
    Uuid.parse? "9f8e7d6c-5b4a-3928-1706-f5e4d3c2b1a0" = some ornateUuid ∧
    (run (.detail .agents) none [] ornateId []) =
      run (.detail .agents) none [] "9f8e7d6c-5b4a-3928-1706-f5e4d3c2b1a0" [] ∧
    ∃ first : Statement,
      (run (.detail .agents) none [] ornateId []).2.head? = some first ∧
      first.SelectsBy Resource.agents.projection "a.id"
        (.text "9f8e7d6c-5b4a-3928-1706-f5e4d3c2b1a0") "" := by
  have canonical : ornateUuid.canonical = "9f8e7d6c-5b4a-3928-1706-f5e4d3c2b1a0" := by
    decide +kernel
  obtain ⟨-, printed, spelled⟩ := run_of_spelling
  obtain ⟨parsed, alike⟩ := spelled ornateUuid ornateId spelling_ornateId
  obtain ⟨-, -, -, back⟩ := printed ornateId ornateUuid parsed
  obtain ⟨same, selected⟩ := alike (.detail .agents) none [] []
  rw [canonical] at back same selected
  exact ⟨parsed, back, same, selected⟩

end PagedListing.Lookup.Kind
