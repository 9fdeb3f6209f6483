import PagedListing.Json.Writer
import PagedListing.Log.Level
import PagedListing.Log.Template
import PagedListing.Log.Time

set_option autoImplicit false

/-!
# Log entries

One entry is written as one line of JSON. Whatever its texts hold, the line is made of
visible ASCII and blanks.
-/

namespace PagedListing.Log

open PagedListing.Text

structure Incident where
  label : String
  message : String
deriving DecidableEq, Repr

namespace Incident

def text (incident : Incident) : String :=
  if incident.message = "" then incident.label
  else incident.label ++ ": " ++ incident.message

end Incident

structure Entry where
  logger : String
  level : Level
  template : String
  arguments : List Value := []
  /-- Microseconds since 1970. -/
  created : Int
  incident : Option Incident := none
deriving Repr

inductive EntryFault where
  | template (fault : TemplateFault)
  | time (fault : TimeFault)
deriving Repr

namespace EntryFault

def message : EntryFault → String
  | .template fault => fault.message
  | .time fault => fault.message

def kind : EntryFault → FailureKind
  | .template fault => fault.kind
  | .time fault => fault.kind

end EntryFault

/-- The texts of an entry. Its message may hold surrogates. -/
structure Line where
  time : String
  level : String
  logger : String
  message : List CodePoint
  incident : Option String := none
deriving DecidableEq, Repr

namespace Line

/-- The fields of a line around the JSON text of its message. Only an entry with an
incident has a field for it. -/
def fields (line : Line) (message : List Char) : List (String × List Char) :=
  [("time", Json.writeText line.time.toList), ("level", Json.writeText line.level.toList),
    ("logger", Json.writeText line.logger.toList), ("message", message)] ++
  (line.incident.map fun text => ("exc_info", Json.writeText text.toList)).toList

def render (line : Line) : String :=
  String.ofList (Json.writeObject (line.fields (Json.writeCodePoints line.message)))

def record (line : Line) (message : String) : Record :=
  [("time", .text line.time), ("level", .text line.level), ("logger", .text line.logger),
    ("message", .text message)] ++
  (line.incident.map fun text => ("exc_info", Value.text text)).toList

/-- A line whose message is a text is rendered as its record is. -/
theorem render_eq_render_record {line : Line} {message : String}
    (isText : line.message = codePoints message.toList) :
    line.render = Json.render (.record (line.record message)) := by
  rw [render, Json.render, Json.write_record, isText, Json.writeCodePoints_codePoints]
  cases incident : line.incident <;> simp [fields, record, incident, Json.write]

end Line

namespace Entry

def line (entry : Entry) : Except EntryFault Line := do
  let time ← (writtenAt entry.created).mapError .time
  let message ← (Template.fill entry.template entry.arguments).mapError .template
  return {
    time
    level := entry.level.label
    logger := entry.logger
    message
    incident := entry.incident.map Incident.text }

def render (entry : Entry) : Except EntryFault String := Line.render <$> entry.line

end Entry

end PagedListing.Log
