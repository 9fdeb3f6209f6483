set_option autoImplicit false

/-!
# Runs of cased letters

Letters that change case by the same distance, next to each other or every second one.
-/

namespace PagedListing.Text

/-- The code points `first`, `first + step`, … up to `last` move by `shift`. -/
structure CaseRun where
  first : Nat
  last : Nat
  step : Nat
  shift : Int
deriving DecidableEq, Repr

namespace CaseRun

def covers (run : CaseRun) (code : Nat) : Bool :=
  run.first ≤ code && code ≤ run.last && (code - run.first) % run.step == 0

def apply (run : CaseRun) (c : Char) : Char :=
  Char.ofNat (c.toNat + run.shift).toNat

end CaseRun

/-- The other form of a character, which is the character itself outside every run. -/
def shiftCase (runs : List CaseRun) (c : Char) : Char :=
  match runs.find? (·.covers c.toNat) with
  | some run => run.apply c
  | none => c

end PagedListing.Text
