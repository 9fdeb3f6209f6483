import PagedListing.Log.Level
import PagedListing.Settings
import PagedListing.Text.LetterCase

set_option autoImplicit false

/-!
# Log setup

Logging is set up once. A setup that fails on its level leaves its handler behind, and
the next one is carried out in full.
-/

namespace PagedListing.Log

inductive Layout where
  | json
  | text
deriving DecidableEq, Repr

namespace Layout

def jsonName : String := "json"

/-- The layout of a given name. Every other name asks for text. -/
def ofName (name : String) : Layout :=
  if Text.lower name.toList = jsonName.toList then .json else .text

def describe : Layout → String
  | .json => jsonName
  | .text => "%(asctime)s %(levelname)s %(name)s %(message)s"

end Layout

structure Setup where
  level : Level := Level.initial
  handlers : List Layout := []
  configured : Bool := false
deriving DecidableEq, Repr

structure UnknownLevel where
  name : List Char
deriving DecidableEq, Repr

def UnknownLevel.message (level : UnknownLevel) : String :=
  "Unknown level: " ++ String.ofList (Text.quoted level.name)

namespace Setup

def chosen (choice : Option String) (fallback : String) : String :=
  (choice.filter (· ≠ "")).getD fallback

/-- Sets logging up unless it has been before. -/
def configure (settings : Settings) (level format : Option String) (setup : Setup) :
    Except UnknownLevel Unit × Setup :=
  if setup.configured then (.ok (), setup)
  else
    let handlers := setup.handlers ++ [Layout.ofName (chosen format settings.logFormat)]
    let name := Text.upper (chosen level settings.logLevel).toList
    match Level.ofName? (String.ofList name) with
    | some level => (.ok (), { level, handlers, configured := true })
    | none => (.error ⟨name⟩, { setup with handlers })

end Setup

end PagedListing.Log
