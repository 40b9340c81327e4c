import VersionTags.Json.Printer
import VersionTags.Json.Reader
import VersionTags.Storage.Database
/-!
# Snapshots

The form in which the tables stand in a file: a line that says what follows, and one value of JSON.  A text that does
not start with that line is no snapshot.
-/
namespace VersionTags

namespace Cell

/-- A number that is no integer is the pair of its mantissa and exponent, and an infinite one the truth value that says
whether it is negative. -/
def toJson : Cell → Json
  | .int n => .int n
  | .real m e => .array [.int m, .int e]
  | .infinite negative => .bool negative
  | .text s => .string s

def ofJson : Json → Option Cell
  | .int n => some (.int n)
  | .array [.int m, .int e] => some (.real m e)
  | .bool negative => some (.infinite negative)
  | .string s => some (.text s)
  | _ => none

end Cell

namespace TagRow

def toJson (t : TagRow) : Json :=
  .array [.int t.id, .string t.name, .string t.author, .string t.time, t.tenant.toJson]

def ofJson : Json → Option TagRow
  | .array [i, n, a, t, w] => do return ⟨← i.asInt, ← n.asString, ← a.asString, ← t.asString, ← Cell.ofJson w⟩
  | _ => none

end TagRow

namespace LinkRow

def toJson (l : LinkRow) : Json := .array [l.tag.toJson, l.version.toJson, l.tenant.toJson]

def ofJson : Json → Option LinkRow
  | .array [t, v, w] => do return ⟨← Cell.ofJson t, ← Cell.ofJson v, ← Cell.ofJson w⟩
  | _ => none

end LinkRow

namespace Database

def toJson (db : Database) : Json :=
  .array [.array (db.tags.map TagRow.toJson), .array (db.links.map LinkRow.toJson), .int db.lastId]

/-- The tables that JSON holds; the last id may not be below another. -/
def ofJson : Json → Option Database
  | .array [tags, links, lastId] => do
    let ts ← tags.asList TagRow.ofJson
    let ls ← links.asList LinkRow.ofJson
    let n ← lastId.asInt
    if h : 0 ≤ n ∧ ∀ t ∈ ts, t.id ≤ n then some ⟨ts, ls, n, h.1, h.2⟩ else none
  | _ => none

/-- The line a snapshot starts with. -/
def snapshotHead : String := "tag database 1\n"

def snapshot (db : Database) : String := snapshotHead ++ db.toJson.compact

/-- The tables of a snapshot. -/
def ofSnapshot (s : String) : Option Database :=
  if s.startsWith snapshotHead then Json.read (String.ofList (s.toList.drop snapshotHead.length)) >>= ofJson else none

end Database
end VersionTags
