import VersionTags.Store.Basic
/-!
# Reading tags

The reads of a store: queries of the tables its connection sees, with the paths of versions filled in.
-/
namespace VersionTags.Store

/-- Whether the author gave the version the name, in any case. -/
def hasTag (s : Store) (name : String) (v : Version) (author : String) : Operation Bool :=
  s.look (.findTag name (s.describe v) author) fun db => db.hasTag s.tenant v name author

/-- The names of the tags on a version. -/
def tags (s : Store) (v : Version) : Operation (List String) :=
  s.look (.readTags (s.describe v)) fun db => db.names s.tenant v

/-- How often the version has the name, in any case. -/
def countTag (s : Store) (v : Version) (name : String) : Operation Nat :=
  s.look (.countTag name (s.describe v)) fun db => db.countNamed s.tenant v name

/-- Gives taggings of one version its path. -/
def withPath (s : Store) (v : Version) (ts : List Tagging) : List Tagging :=
  ts.map fun t => { t with path := s.locator.path? v }

/-- The tags on a version. -/
def taggings (s : Store) (v : Version) : Operation (List Tagging) := do
  return s.withPath v (← s.ask (.readTaggings (s.describe v)) fun db => db.taggings s.tenant v)

/-- The tags on a version with exactly the name, by the authors the filter admits. -/
def taggingsNamed (s : Store) (v : Version) (name : String) (a : AuthorFilter) : Operation (List Tagging) := do
  return s.withPath v (← s.ask (.readTagging name (s.describe v) a) fun db => db.taggingsNamed s.tenant v name a)

/-- The tag with an id.  It has a path when its version resolves. -/
def taggingById (s : Store) (id : TagId) : Operation (Option Tagging) := do
  match ← s.ask (.readTaggingById id) fun db => db.taggingById s.tenant id with
  | none => return none
  | some (t, v) => return some { t with path := if v.isResolvable then s.locator.path? v else none }

/-- The paths of the wanted versions in their order, each path once. -/
def distinctPaths (resolved : List (Version × String)) (wanted : List Version) : List String :=
  (wanted.filterMap fun v => resolved.lookup v).eraseDups

/-- The paths of the resources with any of the names, in any case. -/
def pathsWithAny (s : Store) (names : List String) : Operation (List String) := do
  if names = [] then return []
  if maxValues ≤ names.length then throw (.storage (.findPaths names) (.tooManyNames names.length))
  let vs ← s.ask (.findPaths names) fun db => db.versionsWithAny s.tenant names
  let wanted := vs.filter Version.isResolvable
  return distinctPaths (s.locator.resolve s.access wanted) wanted

/-- The names on a version with their counts: the page asked for, where the store serves pages and the request has
one, and all of them otherwise.  The request comes back with the number of all rows when a page was served. -/
def tagCounts (s : Store) (v : Version) (request : PageRequest) : Operation (List TagCount × PageRequest) := do
  let task := Task.countTags (s.describe v)
  match request.page with
  | some p =>
    if s.paginated then
      let (rows, total) ← s.look task fun db => db.countsPage s.tenant v p
      return (rows, request.setRowCount total)
    else return (← s.look task fun db => db.counts s.tenant v, request)
  | none => return (← s.look task fun db => db.counts s.tenant v, request)

/-- The row counts of the tenant. -/
def stats (s : Store) : Operation Stats := s.look (.collectStats s.tenant) fun db => db.stats s.tenant

end VersionTags.Store
