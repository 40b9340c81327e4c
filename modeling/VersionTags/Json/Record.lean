import VersionTags.Json.Value
import VersionTags.Page
import VersionTags.Time.Relaxed
/-!
# Records as JSON

How tags, counts, pages and statistics are written as JSON and read back.  Reading ignores unknown fields, takes a
missing field for null where the field is optional, accepts a record as an array of its fields, and never takes a
fraction or a string for a number.  An absent path is left out of a tagging.
-/
namespace VersionTags

namespace Time.Instant

def ofJson (j : Json) : Option Instant := j.asString >>= readRelaxed

def toJson (t : Instant) : Json := .string t.zuluText

end Time.Instant

namespace TagRecord

def ofJson (j : Json) : Option TagRecord := do
  match ← j.members ["name", "author", "tagged_at"] with
  | [n, a, t] => return ⟨← (← n).asString, ← (← a).asString, ← Time.Instant.ofJson (← t)⟩
  | _ => none

def toJson (r : TagRecord) : Json :=
  .object [("name", .string r.name), ("author", .string r.author), ("tagged_at", r.taggedAt.toJson)]

end TagRecord

namespace Tagging

def ofJson (j : Json) : Option Tagging := do
  match ← j.members ["id", "name", "author", "tagged_at", "resource_path"] with
  | [i, n, a, t, p] =>
    return ⟨← (← i).asInt64, ← (← n).asString, ← (← a).asString, ← Time.Instant.ofJson (← t),
      ← Json.optional Json.asString p⟩
  | _ => none

def toJson (t : Tagging) : Json :=
  .object ([("id", .int t.id), ("name", .string t.name), ("author", .string t.author),
    ("tagged_at", t.taggedAt.toJson)] ++ t.path.toList.map fun p => ("resource_path", .string p))

end Tagging

namespace TagCount

def ofJson (j : Json) : Option TagCount := do
  match ← j.members ["name", "count"] with
  | [n, c] => return ⟨← (← n).asString, ← (← c).asNat64⟩
  | _ => none

def toJson (c : TagCount) : Json := .object [("count", .int c.count), ("name", .string c.name)]

end TagCount

namespace SortField

def word : SortField → String
  | .tagName => "tag_name"
  | .tagCount => "tag_count"

def ofJson : Json → Option SortField := Json.asWord [("tag_name", .tagName), ("tag_count", .tagCount)]

def toJson (f : SortField) : Json := .string f.word

end SortField

namespace SortOrder

def ofJson : Json → Option SortOrder := Json.asWord [("asc", .asc), ("desc", .desc)]

def toJson (o : SortOrder) : Json := .string o.name

end SortOrder

namespace KeyStrategy

def ofJson : Json → Option KeyStrategy := Json.asWord [("generated-keys", .generatedKeys), ("max-id", .maxId)]

def toJson (k : KeyStrategy) : Json := .string k.name

end KeyStrategy

namespace Page

def ofJson (j : Json) : Option Page := do
  match ← j.members ["start", "count", "sort_by", "sort_order"] with
  | [s, c, f, o] =>
    return ⟨← (← s).asNat64, ← (← c).asNat64, ← Json.optional SortField.ofJson f,
      ← Json.optional SortOrder.ofJson o⟩
  | _ => none

def toJson (p : Page) : Json :=
  .object [("start", .int p.start), ("count", .int p.count), ("sort_by", Json.ofOption SortField.toJson p.sortBy),
    ("sort_order", Json.ofOption SortOrder.toJson p.sortOrder)]

end Page

def Stats.toJson (s : Stats) : Json :=
  .object [("tenant", .int s.tenant), ("tags", .int s.tags), ("taggings", .int s.taggings),
    ("versions", .int s.versions)]

end VersionTags
