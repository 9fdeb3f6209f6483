import PagedListing.Text.Blank

set_option autoImplicit false

/-!
# Sort fields

One field of an ordering with its direction, and the compact text for a list of them:
fields separated by commas, with a hyphen in front of a descending one.
-/

namespace PagedListing

open PagedListing.Text

structure SortField where
  field : String
  descending : Bool := false
deriving DecidableEq, Repr

namespace SortField

/-- Reads one segment of a sort text. Blanks around the name and around the hyphen do
not count, and a segment without a name is skipped. -/
def ofSegment? (segment : List Char) : Option SortField :=
  match strip segment with
  | [] => none
  | '-' :: rest =>
      match strip rest with
      | [] => none
      | name => some ⟨String.ofList name, true⟩
  | name => some ⟨String.ofList name, false⟩

def parse (spec : String) : List SortField :=
  (spec.toList.splitOn ',').filterMap ofSegment?

def toSegment (sort : SortField) : String :=
  if sort.descending then "-" ++ sort.field else sort.field

def render (fields : List SortField) : String :=
  ",".intercalate (fields.map toSegment)

def direction (sort : SortField) : String :=
  if sort.descending then "DESC" else "ASC"

/-- A comma between two sort texts reads them one after the other. -/
theorem parse_append_comma (first second : String) :
    parse (first ++ "," ++ second) = parse first ++ parse second := by
  have joined : (first ++ "," ++ second).toList = first.toList ++ ',' :: second.toList := by
    simp [String.toList_append]
  simp [parse, joined, List.splitOn_append_cons_self, List.filterMap_append]

end SortField

end PagedListing
