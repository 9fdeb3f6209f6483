import PagedListing.Text.Blank
import PagedListing.Text.LetterCase

set_option autoImplicit false

/-!
# States of a run

A list of states is written with commas. Segments that name no state are skipped, and a
state that is named again counts once.
-/

namespace PagedListing

open PagedListing.Text

inductive RunStatus where
  | pending
  | running
  | completed
  | failed
  | cancelled
deriving DecidableEq, Repr

namespace RunStatus

def name : RunStatus → String
  | .pending => "pending"
  | .running => "running"
  | .completed => "completed"
  | .failed => "failed"
  | .cancelled => "cancelled"

def all : List RunStatus := [.pending, .running, .completed, .failed, .cancelled]

def ofName? (name : List Char) : Option RunStatus :=
  all.find? fun status => status.name.toList = name

/-- The state that one segment names. Letter case and blanks at the ends do not count. -/
def ofSegment? (segment : List Char) : Option RunStatus :=
  ofName? (lower (strip segment))

def addOnce (found : List RunStatus) (status : RunStatus) : List RunStatus :=
  if status ∈ found then found else found ++ [status]

def parse (text : String) : List RunStatus :=
  ((text.toList.splitOn ',').filterMap ofSegment?).foldl addOnce []

end RunStatus

end PagedListing
