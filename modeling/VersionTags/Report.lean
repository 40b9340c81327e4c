import VersionTags.Grid
import VersionTags.Tag
/-!
# Reports

Taggings, counts and statistics as grids, and statistics as plain lines.
-/
namespace VersionTags

namespace Report

/-- Labelled values under the headings "Metric" and "Value"; nothing at all without a value. -/
def metrics (rows : List (String × String)) : String :=
  if rows = [] then "" else Grid.render ⟨["Metric", "Value"], rows.map fun r => [r.1, r.2]⟩

def stats (s : Stats) : String :=
  metrics [("Tenant", toString s.tenant), ("Tags", toString s.tags), ("Taggings", toString s.taggings),
    ("Tagged versions", toString s.versions)]

/-- The statistics as lines of text. -/
def statsLines (s : Stats) : String :=
  s!"Tag Statistics (tenant {s.tenant}):\n  Tags: {s.tags}\n  Taggings: {s.taggings}\n" ++
    s!"  Tagged versions: {s.versions}\n"

/-- One row to a tagging, to the second, with a dash for an unknown path. -/
def taggings (ts : List Tagging) : String :=
  Grid.render ⟨["ID", "Tag", "Author", "Tagged", "Path"],
    ts.map fun t => [toString t.id, t.name, t.author, t.taggedAt.plainText, t.path.getD "-"]⟩

def counts (cs : List TagCount) : String :=
  Grid.render ⟨["Tag", "Count"], cs.map fun c => [c.name, toString c.count]⟩

end Report
end VersionTags
