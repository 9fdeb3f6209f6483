import PagedListing.Pagination.Request
import PagedListing.Validation.Boolean

set_option autoImplicit false

/-!
# Submitted page requests

A page request may be submitted as a record of typed fields. A field that is left out
keeps its default, and everything that is wrong is reported, field by field.
-/

namespace PagedListing.Pagination

open PagedListing.Validation

namespace Request

def readNumber (fields : Record) (name : String) (fallback : Int) : Reading Int :=
  match fields.lookup name with
  | some value => integerAt [.field name] value
  | none => .ok fallback

def readSearch (fields : Record) : Reading (Option String) :=
  match fields.lookup "search" with
  | none | some .null => .ok none
  | some (.text text) => .ok (presentSearch (some text))
  | some _ => Reading.refuse [.field "search"] .notText

def readSortName (path : List Step) (fields : Record) : Reading String :=
  match fields.lookup "field" with
  | some (.text name) => .ok name
  | some _ => Reading.refuse (path ++ [.field "field"]) .notText
  | none => Reading.refuse (path ++ [.field "field"]) .missing

def readDescending (path : List Step) (fields : Record) : Reading Bool :=
  match fields.lookup "descending" with
  | some value =>
      (readBoolean value).mapError fun kind => [⟨path ++ [.field "descending"], kind⟩]
  | none => .ok false

def readSortField (path : List Step) : Value → Reading SortField
  | .record fields =>
      match readSortName path fields, readDescending path fields with
      | .ok name, .ok descending => .ok ⟨name, descending⟩
      | name, descending => .error (name.issues ++ descending.issues)
  | _ => Reading.refuse path .notRecord

/-- Reads an ordering: a sort text, or a list of sort fields. -/
def readSort (fields : Record) : Reading (List SortField) :=
  match fields.lookup "sort" with
  | none | some .null => .ok []
  | some (.text text) => .ok (SortField.parse text)
  | some (.list items) =>
      Reading.all <| items.mapIdx fun index item =>
        readSortField [.field "sort", .item index] item
  | some _ => Reading.refuse [.field "sort"] .notSort

def ofFields (fields : Record) : Reading Request :=
  match readNumber fields "page" 1, readNumber fields "page_size" 0, readSearch fields,
      readSort fields with
  | .ok page, .ok size, .ok search, .ok sort => .ok { page, size, search, sort }
  | page, size, search, sort =>
      .error (page.issues ++ size.issues ++ search.issues ++ sort.issues)

end Request

end PagedListing.Pagination
