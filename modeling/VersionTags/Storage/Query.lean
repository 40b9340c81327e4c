import Std.Data.HashSet
import VersionTags.Page
import VersionTags.Storage.Database
import VersionTags.Time.Stored
/-!
# Queries

The reads of a tenant, as functions of the tables.  Those that report a time fail at the first row whose time cannot
be read, and the search for versions fails at the first version that is no number; no other read looks at those
columns.
-/
namespace VersionTags.Database

/-- The names of the tags on a version, repeats included. -/
def names (db : Database) (T : Tenant) (v : Version) : List String := (db.on T v).map TagRow.name

/-- Reads the time of a row that stands in the given column of the answer. -/
def readTime (column : Nat) (t : TagRow) : Except Failure Time.Instant :=
  match Time.readStored t.time with
  | .ok i => .ok i
  | .error why => .error (.unreadableTime column why)

def recordOf (t : TagRow) : Except Failure TagRecord := do
  return ⟨t.name, t.author, ← readTime 2 t⟩

def taggingOf (t : TagRow) : Except Failure Tagging := do
  return ⟨t.id, t.name, t.author, ← readTime 3 t, none⟩

/-- The tags on a version as records to be written elsewhere. -/
def records (db : Database) (T : Tenant) (v : Version) : Except Failure (List TagRecord) :=
  (db.on T v).mapM recordOf

/-- The tags on a version. -/
def taggings (db : Database) (T : Tenant) (v : Version) : Except Failure (List Tagging) :=
  (db.on T v).mapM taggingOf

/-- The tags on a version with exactly the name, by the authors the filter admits. -/
def taggingsNamed (db : Database) (T : Tenant) (v : Version) (name : String) (a : AuthorFilter) :
    Except Failure (List Tagging) :=
  ((db.on T v).filter fun t => t.name == name && a.admits t.author).mapM taggingOf

/-- Whether the author gave the version the name, in any case. -/
def hasTag (db : Database) (T : Tenant) (v : Version) (name author : String) : Bool :=
  (db.on T v).any fun t => Text.sameFold t.name name && t.author == author

/-- How often the version has the name, in any case. -/
def countNamed (db : Database) (T : Tenant) (v : Version) (name : String) : Nat :=
  (db.on T v).countP fun t => Text.sameFold t.name name

/-- Reads a version in the given column of the answer. -/
def readVersion (column : Nat) : Cell → Except Failure Version
  | .int v => .ok v
  | c => .error (.notAnInteger c.typeName column "version")

/-- The tenant's tags with any of the names, in any case, by name and those of one name by id. -/
def tagsNamed (db : Database) (T : Tenant) (names : List String) : List TagRow :=
  let wanted := names.map Text.lowercase
  (db.tags.filter fun t => t.tenant == .int T && wanted.contains (Text.lowercase t.name)).mergeSort fun t u =>
    decide (t.name < u.name) || t.name == u.name && decide (t.id ≤ u.id)

/-- The versions with any of the names, in any case, each once and in ascending order. -/
def versionsWithAny (db : Database) (T : Tenant) (names : List String) : Except Failure (List Version) :=
  let links := db.linkIndex T
  let found := (db.tagsNamed T names).flatMap fun t => ((links.getD t.id []).map LinkRow.version).reverse
  ((found.eraseDupsBy Cell.same).mergeSort Cell.le).mapM (readVersion 0)

/-- The tag with the id and the version it is on; of several versions the first. -/
def taggingById (db : Database) (T : Tenant) (id : TagId) : Except Failure (Option (Tagging × Version)) :=
  match db.tags.find? fun t => t.id == id && t.tenant == .int T, (db.linksOf T id).head? with
  | some t, some l => do return some (← taggingOf t, ← readVersion 4 l.version)
  | _, _ => .ok none

/-- Counts one more name in front of counts that start with those of the same name, if there are any. -/
def countOne (n : String) : List TagCount → List TagCount
  | c :: cs => if c.name = n then ⟨n, c.count + 1⟩ :: cs else ⟨n, 1⟩ :: c :: cs
  | [] => [⟨n, 1⟩]

/-- The distinct names on a version in ascending order, each with the number of its tags. -/
def counts (db : Database) (T : Tenant) (v : Version) : List TagCount :=
  ((db.names T v).mergeSort fun a b => decide (a ≤ b)).foldr countOne []

/-- Counts in ascending order of names put into the order asked for.  Equal counts stand by name, and descending order
is ascending order backwards. -/
def sortCounts (order : Option (SortField × SortOrder)) (cs : List TagCount) : List TagCount :=
  match order with
  | none => cs
  | some (field, direction) =>
    let ascending := match field with
      | .tagName => cs
      | .tagCount => cs.mergeSort fun a b => decide (a.count ≤ b.count)
    match direction with
    | .asc => ascending
    | .desc => ascending.reverse

/-- The greatest number of rows a page can skip or hold. -/
def maxRows : Nat := Decimal.maxInt64.toNat

/-- The page's rows of the counts, and how many rows there are in all. -/
def countsPage (db : Database) (T : Tenant) (v : Version) (p : Page) : List TagCount × Nat :=
  let cs := db.counts T v
  (((sortCounts p.order? cs).drop (min p.offset maxRows)).take (min p.count maxRows), cs.length)

/-- The tenant's row counts.  Versions are counted once each, whatever value stands for them. -/
def stats (db : Database) (T : Tenant) : Stats :=
  let links := db.links.filter fun l => l.tenant == .int T
  ⟨T, db.tags.countP fun t => t.tenant == .int T, links.length,
    (Std.HashSet.ofList (links.map fun l => l.version.canonical)).size⟩

/-- The greatest id in the table of tags, of any tenant. -/
def greatestId (db : Database) : Except Failure TagId :=
  match db.tags with
  | t :: ts => .ok (ts.foldl (fun id t => max id t.id) t.id)
  | [] => .error .noRow

/-- The ids of the tags on a version that a removal names, in the order of their links. -/
def idsToRemove (db : Database) (T : Tenant) (v : Version) (name : Option String) (a : AuthorFilter) : List TagId :=
  ((db.on T v).filter fun t =>
    (match name with | some n => Text.sameFold t.name n | none => true) && a.admits t.author).map TagRow.id

end VersionTags.Database
