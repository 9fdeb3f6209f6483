import PagedListing.Number.Numeral

set_option autoImplicit false

/-!
# Levels

How grave a message is. Levels are integers, six of which have names.
-/

namespace PagedListing.Log

/-- A level. Larger ones are graver. -/
abbrev Level := Int

namespace Level

/-- The names by which levels are set. Two levels have two of them. -/
def names : List (String × Level) :=
  [("CRITICAL", 50), ("FATAL", 50), ("ERROR", 40), ("WARNING", 30), ("WARN", 30),
    ("INFO", 20), ("DEBUG", 10), ("NOTSET", 0)]

def ofName? (name : String) : Option Level := names.lookup name

def initial : Level := 30

/-- The name under which a level is shown: the first of its names, or its number. -/
def label (level : Level) : String :=
  match names.find? (·.2 = level) with
  | some (name, _) => name
  | none => "Level " ++ Number.numeral level

end Level

end PagedListing.Log
