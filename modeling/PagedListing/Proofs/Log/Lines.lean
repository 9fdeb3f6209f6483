import PagedListing.Log.Entry
import PagedListing.Proofs.Json.Objects
import PagedListing.Proofs.Log.Calendar

set_option autoImplicit false

/-!
# Lines of a log

Whatever the texts of an entry hold, its line is visible ASCII, and reading the line gives these
texts back and nothing else.
-/

namespace PagedListing.Log

open PagedListing.Text

namespace Line

variable {line : Line}

theorem visible_fields {field : String × List Char}
    (member : field ∈ line.fields (Json.writeCodePoints line.message)) :
    ∀ c ∈ field.2, Json.Visible c := by
  intro c inside
  rw [fields, List.mem_append] at member
  rcases member with always | further
  · simp only [List.mem_cons, List.not_mem_nil, or_false] at always
    rcases always with rfl | rfl | rfl | rfl
    · exact Json.visible_writeText inside
    · exact Json.visible_writeText inside
    · exact Json.visible_writeText inside
    · exact Json.visible_writeCodePoints inside
  · simp only [Option.mem_toList, Option.map_eq_some_iff] at further
    obtain ⟨text, -, rfl⟩ := further
    exact Json.visible_writeText inside

theorem visible_render (line : Line) : ∀ c ∈ line.render.toList, Json.Visible c := by
  intro c member
  rw [render, String.toList_ofList] at member
  exact Json.visible_writeObject (fun _ known => visible_fields known) member

theorem texts_record (line : Line) (message : String) :
    ∀ field ∈ line.record message, ∃ text, field.2 = .text text := by
  intro field member
  rw [record, List.mem_append] at member
  rcases member with always | further
  · simp only [List.mem_cons, List.not_mem_nil, or_false] at always
    rcases always with rfl | rfl | rfl | rfl <;> exact ⟨_, rfl⟩
  · simp only [Option.mem_toList, Option.map_eq_some_iff] at further
    obtain ⟨text, -, rfl⟩ := further
    exact ⟨text, rfl⟩

theorem names_record (line : Line) (message : String) :
    (line.record message).map Prod.fst = ["time", "level", "logger", "message"] ++
      (if line.incident.isSome then ["exc_info"] else []) := by
  cases incident : line.incident <;> simp [record, incident]

theorem distinct_record (line : Line) (message : String) :
    ((line.record message).map Prod.fst).Nodup := by
  rw [names_record]
  cases line.incident.isSome with
  | false => decide
  | true => decide

theorem read?_render {message : String} (isText : line.message = codePoints message.toList) :
    Json.read? line.render = some (.record (line.record message)) := by
  rw [render_eq_render_record isText, Json.render]
  exact Json.read?_of_reads (Json.reads_write_record (line.texts_record message)
    (line.distinct_record message))

theorem lookup_record (line : Line) (message : String) :
    (line.record message).lookup "time" = some (.text line.time) ∧
    (line.record message).lookup "level" = some (.text line.level) ∧
    (line.record message).lookup "logger" = some (.text line.logger) ∧
    (line.record message).lookup "message" = some (.text message) ∧
    (line.record message).lookup "exc_info" = line.incident.map .text := by
  refine ⟨rfl, rfl, rfl, rfl, ?_⟩
  rw [record]
  cases line.incident with
  | none => rfl
  | some _ => rfl

end Line

namespace Entry

variable {entry : Entry} {codes : List CodePoint}

def lineAt (entry : Entry) (time : String) (codes : List CodePoint) : Line where
  time := time
  level := entry.level.label
  logger := entry.logger
  message := codes
  incident := entry.incident.map Incident.text

theorem render_of_written {time : String} (written : writtenAt entry.created = .ok time)
    (filled : Template.fill entry.template entry.arguments = .ok codes) :
    entry.render = .ok (entry.lineAt time codes).render := by
  rw [render, line, written, filled]
  rfl

theorem render_of_unwritten {fault : TimeFault}
    (unwritten : writtenAt entry.created = .error fault) : entry.render = .error (.time fault) := by
  rw [render, line, unwritten]
  rfl

end Entry

/-- A line is visible ASCII. If its message is a text, the line is read as one object, which has
an incident exactly if the line has one and in which every text stands as it was. The entries whose
message can be filled in are rendered as such lines as long as their times lie in the calendar,
and a clock that counts nanoseconds in 64 bits never leaves it. -/
theorem render_unforgeable :
    (∀ line : Line, ∀ c ∈ line.render.toList, 0x20 ≤ c.toNat ∧ c.toNat ≤ 0x7E) ∧
    (∀ (line : Line) (message : String), line.message = codePoints message.toList →
      ∃ fields, Json.read? line.render = some (.record fields) ∧
        fields.map Prod.fst = ["time", "level", "logger", "message"] ++
          (if line.incident.isSome then ["exc_info"] else []) ∧
        fields.lookup "time" = some (.text line.time) ∧
        fields.lookup "level" = some (.text line.level) ∧
        fields.lookup "logger" = some (.text line.logger) ∧
        fields.lookup "message" = some (.text message) ∧
        fields.lookup "exc_info" = line.incident.map .text) ∧
    (∀ (entry : Entry) (codes : List CodePoint),
      Template.fill entry.template entry.arguments = .ok codes →
      (InCalendar entry.created → ∃ time, writtenAt entry.created = .ok time ∧
        entry.render = .ok (entry.lineAt time codes).render) ∧
      (¬InCalendar entry.created → ∃ fault, entry.render = .error (.time fault))) ∧
    ∀ microseconds : Int, (1000 * microseconds).natAbs < 2 ^ 63 → InCalendar microseconds := by
  refine ⟨Line.visible_render, fun line message isText => ?_, fun entry codes filled => ⟨?_, ?_⟩,
    fun microseconds inClock => ?_⟩
  · exact ⟨line.record message, Line.read?_render isText, line.names_record message,
      line.lookup_record message⟩
  · intro inside
    obtain ⟨time, written⟩ := (exists_writtenAt_iff _).mpr inside
    exact ⟨time, written, Entry.render_of_written written filled⟩
  · intro outside
    cases written : writtenAt entry.created with
    | ok time => exact absurd ((exists_writtenAt_iff _).mp ⟨time, written⟩) outside
    | error fault => exact ⟨fault, Entry.render_of_unwritten written⟩
  · unfold InCalendar
    omega

def forgingMessage : String :=
  "done\", \"level\": \"DEBUG\" \\\" \\u0022 \x00\x7f\n\u2028\ud7ff\ue000😀"

def forgingLine : Line where
  time := "2024-02-29T00:00:00+00:00"
  level := "INFO\n"
  logger := "agents\""
  message := codePoints forgingMessage.toList
  incident := some "Traceback:\n\t\\"

def forgingEntry : Entry where
  logger := "agents\""
  level := 25
  template := "asked for %s"
  arguments := [.text "\n\""]
  created := 0

theorem render_unforgeable_forging :
    (∃ fields, Json.read? forgingLine.render = some (.record fields) ∧
      fields.lookup "level" = some (.text "INFO\n") ∧
      fields.lookup "message" = some (.text forgingMessage) ∧
      fields.lookup "exc_info" = some (.text "Traceback:\n\t\\")) ∧
    (∃ time, forgingEntry.render =
      .ok (forgingEntry.lineAt time (codePoints "asked for \n\"".toList)).render) ∧
    (∃ fault, { forgingEntry with created := 253402300799999985 }.render =
      .error (.time fault)) ∧
    InCalendar (-9223372036854775) := by
  obtain ⟨-, restored, entries, clock⟩ := render_unforgeable
  have filled : Template.fill "asked for %s" [.text "\n\""] =
      .ok (codePoints "asked for \n\"".toList) := by rfl
  refine ⟨?_, ?_, ?_, clock _ (by decide)⟩
  · obtain ⟨fields, read, -, -, level, -, message, incident⟩ :=
      restored forgingLine forgingMessage rfl
    exact ⟨fields, read, level, message, incident⟩
  · obtain ⟨time, -, rendered⟩ := (entries forgingEntry _ filled).1 (by decide)
    exact ⟨time, rendered⟩
  · exact (entries { forgingEntry with created := 253402300799999985 } _ filled).2 (by decide)

end PagedListing.Log
