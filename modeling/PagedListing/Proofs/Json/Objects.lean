import Mathlib.Data.List.Forall2
import PagedListing.Proofs.Json.Escapes
import PagedListing.Proofs.Text.Joining

set_option autoImplicit false

/-!
# Written objects

An object whose fields are written one by one is a line of visible ASCII, and it is read as the
record of the values that the fields are read as.
-/

namespace PagedListing.Json

open PagedListing.Text

theorem skipBlanks_space (rest : List Char) : skipBlanks (' ' :: rest) = skipBlanks rest :=
  List.dropWhile_cons_of_pos (by decide)

theorem readValue_space (fuel : Nat) (rest : List Char) :
    readValue fuel (' ' :: rest) = readValue fuel rest := by
  cases fuel with
  | zero => rfl
  | succ fuel => rw [readValue, readValue, skipBlanks_space]

theorem skipBlanks_solid {c : Char} {rest : List Char}
    (solid : c ≠ ' ' ∧ c ≠ '\t' ∧ c ≠ '\n' ∧ c ≠ '\r') : skipBlanks (c :: rest) = c :: rest :=
  List.dropWhile_cons_of_neg (by simpa [not_or] using solid)

/-- A text is read as a value wherever it stands. -/
def Reads (text : List Char) (value : Value) : Prop :=
  ∀ fuel rest, text.length ≤ fuel → readValue fuel (text ++ rest) = some (value, rest)

theorem writeText_append (text rest : List Char) :
    writeText text ++ rest = '"' :: (text.flatMap escape ++ '"' :: rest) := by
  simp [writeText]

theorem reads_writeText (text : String) : Reads (writeText text.toList) (.text text) := by
  intro fuel rest enough
  rw [writeText_append]
  cases fuel with
  | zero => simp [writeText] at enough
  | succ fuel =>
      rw [readValue, skipBlanks_solid (by decide)]
      simp only [readText?_escaped, Option.map_some, String.ofList_toList]

theorem putField_of_new {before : Record} {name : String} (new : name ∉ before.map Prod.fst)
    (value : Value) : putField before name value = before ++ [(name, value)] := by
  rw [putField, if_neg]
  intro known
  obtain ⟨field, member, same⟩ := List.any_eq_true.mp known
  exact new (List.mem_map.mpr ⟨field, member, beq_iff_eq.mp same⟩)

/-! ## Objects -/

def fieldText (field : String × List Char) : List Char :=
  writeText field.1.toList ++ ':' :: ' ' :: field.2

theorem length_lt_fieldText (name : String) (text : List Char) :
    text.length < (fieldText (name, text)).length := by
  change text.length < (writeText name.toList ++ ':' :: ' ' :: text).length
  rw [List.length_append, List.length_cons, List.length_cons]
  omega

theorem writeObject_eq (fields : List (String × List Char)) :
    writeObject fields =
      '\x7b' :: ([',', ' '].intercalate (fields.map fieldText) ++ ['\x7d']) := rfl

/-! ## Visible characters -/

section

variable {c : Char}

theorem visible_fieldText {field : String × List Char} (visible : ∀ mark ∈ field.2, Visible mark)
    (member : c ∈ fieldText field) : Visible c := by
  rw [fieldText, List.mem_append, List.mem_cons, List.mem_cons] at member
  rcases member with inName | rfl | rfl | inText
  · exact visible_writeText inName
  · decide
  · decide
  · exact visible c inText

theorem visible_writeObject {fields : List (String × List Char)}
    (visible : ∀ field ∈ fields, ∀ mark ∈ field.2, Visible mark)
    (member : c ∈ writeObject fields) : Visible c := by
  rw [writeObject_eq, List.mem_cons, List.mem_append, List.mem_singleton] at member
  rcases member with rfl | inside | rfl
  · decide
  · rcases mem_intercalate inside with between | ⟨part, listed, inPart⟩
    · simp only [List.mem_cons, List.not_mem_nil, or_false] at between
      rcases between with rfl | rfl <;> decide
    · obtain ⟨field, known, rfl⟩ := List.mem_map.mp listed
      exact visible_fieldText (visible field known) inPart
  · decide

end

/-! ## Reading objects -/

section

variable {fuel : Nat} {name : String} {text : List Char} {value : Value}

theorem readFields_space (fuel : Nat) (rest : List Char) (before : Record) :
    readFields fuel (' ' :: rest) before = readFields fuel rest before := by
  cases fuel with
  | zero => rfl
  | succ fuel => rw [readFields, readFields, skipBlanks_space]

/-- What follows a field: a comma and further fields, or the closing brace. -/
def readBehind (fuel : Nat) (fields : Record) (text : List Char) : Option (Record × List Char) :=
  match skipBlanks text with
  | ',' :: rest => readFields fuel rest fields
  | '\x7d' :: rest => some (fields, rest)
  | _ => none

theorem readFields_field (reads : Reads text value) (enough : text.length ≤ fuel)
    (rest : List Char) (before : Record) :
    readFields (fuel + 1) (fieldText (name, text) ++ rest) before =
      readBehind fuel (putField before name value) rest := by
  rw [fieldText, List.append_assoc, writeText_append, readFields, skipBlanks_solid (by decide)]
  simp only [readText?_escaped, List.cons_append]
  rw [skipBlanks_solid (by decide)]
  simp only
  rw [readValue_space, reads fuel rest enough, String.ofList_toList]
  rfl

theorem readBehind_comma (fields : Record) (rest : List Char) :
    readBehind fuel fields (',' :: ' ' :: rest) = readFields fuel rest fields := by
  rw [readBehind, skipBlanks_solid (by decide)]
  exact readFields_space fuel rest fields

theorem readBehind_brace (fields : Record) (rest : List Char) :
    readBehind fuel fields ('\x7d' :: rest) = some (fields, rest) := by
  rw [readBehind, skipBlanks_solid (by decide)]
  rfl

end

def Tells (field : String × List Char) (entry : String × Value) : Prop :=
  field.1 = entry.1 ∧ Reads field.2 entry.2

theorem readFields_written {fields : List (String × List Char)} {record : Record}
    (tells : List.Forall₂ Tells fields record) (several : fields ≠ []) (rest : List Char)
    {fuel : Nat} (before : Record) (distinct : ((before ++ record).map Prod.fst).Nodup)
    (enough : ([',', ' '].intercalate (fields.map fieldText)).length < fuel) :
    readFields fuel ([',', ' '].intercalate (fields.map fieldText) ++ '\x7d' :: rest) before =
      some (before ++ record, rest) := by
  induction tells generalizing fuel before with
  | nil => exact absurd rfl several
  | @cons field entry others entries tell tells ih =>
      obtain ⟨name, text⟩ := field
      obtain ⟨entryName, value⟩ := entry
      obtain ⟨same, reads⟩ := tell
      simp only at same reads
      subst same
      have new : name ∉ before.map Prod.fst := by
        rw [List.map_append, List.nodup_append] at distinct
        intro known
        exact distinct.2.2 name known name List.mem_cons_self rfl
      obtain ⟨fuel, rfl⟩ : ∃ less, fuel = less + 1 := ⟨fuel - 1, by omega⟩
      have longer := length_lt_fieldText name text
      cases others with
      | nil =>
          cases tells
          rw [List.map_cons, List.map_nil, List.intercalate_singleton] at enough ⊢
          rw [readFields_field reads (by omega), readBehind_brace, putField_of_new new]
      | cons next further =>
          rw [List.map_cons, List.map_cons, List.intercalate_cons_cons, ← List.map_cons] at enough ⊢
          rw [List.length_append, List.length_append] at enough
          have later : ((before ++ [(name, value)] ++ entries).map Prod.fst).Nodup := by
            rwa [List.append_assoc, List.singleton_append]
          rw [List.append_assoc, List.append_assoc, readFields_field reads (by omega),
            List.cons_append, List.cons_append, List.nil_append, readBehind_comma,
            putField_of_new new, ih (List.cons_ne_nil _ _) _ later (by omega),
            List.append_assoc, List.singleton_append]

/-- Fields begin with the quote of the first name. -/
theorem exists_fields_eq_quote (field : String × List Char) (others : List (String × List Char))
    (rest : List Char) :
    ∃ tail, [',', ' '].intercalate ((field :: others).map fieldText) ++ rest = '"' :: tail := by
  cases others with
  | nil =>
      rw [List.map_cons, List.map_nil, List.intercalate_singleton, fieldText, List.append_assoc,
        writeText_append]
      exact ⟨_, rfl⟩
  | cons next further =>
      rw [List.map_cons, List.map_cons, List.intercalate_cons_cons, fieldText]
      simp only [List.append_assoc]
      rw [writeText_append]
      exact ⟨_, rfl⟩

theorem reads_writeObject {fields : List (String × List Char)} {record : Record}
    (tells : List.Forall₂ Tells fields record) (distinct : (record.map Prod.fst).Nodup) :
    Reads (writeObject fields) (.record record) := by
  intro fuel rest enough
  rw [writeObject_eq, List.length_cons, List.length_append] at enough
  obtain ⟨fuel, rfl⟩ : ∃ less, fuel = less + 1 := ⟨fuel - 1, by omega⟩
  rw [writeObject_eq, List.cons_append, List.append_assoc, List.singleton_append, readValue,
    skipBlanks_solid (by decide)]
  simp only
  cases fields with
  | nil =>
      cases tells
      rw [List.map_nil]
      rfl
  | cons field others =>
      have short : ([',', ' '].intercalate ((field :: others).map fieldText)).length < fuel := by
        rw [List.length_singleton] at enough
        omega
      have read := readFields_written tells (List.cons_ne_nil _ _) rest [] distinct short
      obtain ⟨tail, first⟩ := exists_fields_eq_quote field others ('\x7d' :: rest)
      rw [first] at read ⊢
      rw [skipBlanks_solid (by decide)]
      exact congrArg (Option.map fun found => (Value.record found.1, found.2)) read

/-- A record of texts is read as it was written. -/
theorem reads_write_record {fields : Record}
    (texts : ∀ field ∈ fields, ∃ text, field.2 = .text text)
    (distinct : (fields.map Prod.fst).Nodup) :
    Reads (write (.record fields)) (.record fields) := by
  rw [write_record]
  refine reads_writeObject (List.forall₂_map_left_iff.mpr ?_) distinct
  refine List.forall₂_same.mpr fun field member => ⟨rfl, ?_⟩
  obtain ⟨text, told⟩ := texts field member
  rw [told, write]
  exact reads_writeText text

theorem read?_of_reads {text : List Char} {value : Value} (reads : Reads text value) :
    read? (String.ofList text) = some value := by
  have read := reads (text.length + 1) [] (Nat.le_succ _)
  rw [List.append_nil] at read
  rw [read?, String.length_ofList, String.toList_ofList, read]
  rfl

end PagedListing.Json
