import VersionTags.Error
import VersionTags.Text.Blank
import VersionTags.Text.Lowercase
/-!
# Pages and orders

A request may ask for a page of the tag counts: where it starts, counted from 1, how many rows it has, and how the
rows are ordered.  `Page.ofRaw` accepts the raw values of a request.  A sort text is either blank, which leaves the
rows unsorted, or one of a few words in any case, with blanks allowed around it; anything else is refused.
-/
namespace VersionTags

inductive SortField where
  | tagName
  | tagCount
  deriving DecidableEq, Repr

inductive SortOrder where
  | asc
  | desc
  deriving DecidableEq, Repr

def SortField.name : SortField → String
  | .tagName => "name"
  | .tagCount => "count"

def SortOrder.name : SortOrder → String
  | .asc => "asc"
  | .desc => "desc"

def SortField.parse (s : String) : Except Error SortField :=
  let word := Text.lowercase (Text.trim s)
  if ["name", "tag", "tag_name", "tagname"].contains word then .ok .tagName
  else if ["count", "tag_count", "tagcount"].contains word then .ok .tagCount
  else .error (.invalidArgument (.sortField s))

def SortOrder.parse (s : String) : Except Error SortOrder :=
  let word := Text.lowercase (Text.trim s)
  if ["asc", "ascending"].contains word then .ok .asc
  else if ["desc", "descending"].contains word then .ok .desc
  else .error (.invalidArgument (.sortOrder s))

/-- Reads a word in any case.  Blanks around it are not allowed. -/
def KeyStrategy.parse (s : String) : Except Error KeyStrategy :=
  let word := Text.lowercase s
  if ["generated-keys", "generated_keys", "native", "returning"].contains word then .ok .generatedKeys
  else if ["max-id", "max_id", "locked"].contains word then .ok .maxId
  else .error (.invalidArgument (.keyStrategy s))

/-- The part of the rows a request asks for. -/
structure Page where
  start : Nat
  count : Nat
  sortBy : Option SortField
  sortOrder : Option SortOrder
  deriving DecidableEq, Repr

namespace Page

/-- Reads a sort text: a blank one asks for nothing. -/
def optional {α : Type} (parse : String → Except Error α) (s : String) : Except Error (Option α) :=
  if Text.trim s = "" then .ok none else (parse s).map some

def ofRaw (start count : Int) (sortBy sortOrder : String) : Except Error Page := do
  if start < 0 then throw (.invalidArgument (.negativeStart start))
  if count < 0 then throw (.invalidArgument (.negativeSize count))
  let field ← optional SortField.parse sortBy
  let order ← optional SortOrder.parse sortOrder
  return ⟨start.toNat, count.toNat, field, order⟩

/-- How many rows stand before the page.  A start of 0 is the first row as well. -/
def offset (p : Page) : Nat := max p.start 1 - 1

/-- The order the page asks for, which needs a field and a direction. -/
def order? (p : Page) : Option (SortField × SortOrder) := do return (← p.sortBy, ← p.sortOrder)

end Page

/-- A request: the page it asks for, if any, and the number of rows it was told of. -/
structure PageRequest where
  page : Option Page
  rowCount : Option Nat
  deriving DecidableEq, Repr

namespace PageRequest

def unpaginated : PageRequest := ⟨none, none⟩

def ofPage (p : Page) : PageRequest := ⟨some p, none⟩

def setRowCount (r : PageRequest) (n : Nat) : PageRequest := { r with rowCount := some n }

end PageRequest
end VersionTags
