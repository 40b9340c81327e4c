import VersionTags.Toml.Value
/-!
# Building tables from lines

The lines of a configuration file add to a tree of tables.  A header opens a table or one more table of a list, and a
pair puts a value under a key, which may be a path through tables.  Which table may be added to depends on how it came
about: a table with a header of its own gets no second one and is closed to paths from outside, a table that was only
passed through may still get its header, and a table made by the path of a key is added to by such paths alone.  No key
is given twice.
-/
namespace VersionTags.Toml

/-- How a table came about. -/
inductive Origin where
  /-- It has a header. -/
  | header
  /-- A header below it passed through it. -/
  | passed
  /-- The path of a key made it. -/
  | key
  deriving DecidableEq, Repr

/-- A node of the tree: a finished value, a table that may grow, or a list of tables of which the last may grow. -/
inductive Entry where
  | value (v : Toml)
  | table (origin : Origin) (entries : List (String × Entry))
  | tables (front : List (List (String × Entry))) (last : List (String × Entry))

/-- The entries of a table that may grow. -/
abbrev Entries := List (String × Entry)

namespace Entries

/-- Puts another node under a key that is there. -/
def replace (es : Entries) (k : String) (e : Entry) : Entries :=
  es.map fun p => if p.1 == k then (k, e) else p

/-- Changes the table at the end of a path, making the tables that are missing on the way.  A path of a key (`byKey`)
does not lead through a table with a header.  The change is told how the table came about. -/
def alter (byKey : Bool) (change : Origin → Entries → Option Entries) :
    Origin → List String → Entries → Option Entries
  | origin, [], es => change origin es
  | _, k :: ks, es =>
    match es.lookup k with
    | none =>
      let made := if byKey then Origin.key else Origin.passed
      (alter byKey change made ks []).map fun sub => es ++ [(k, .table made sub)]
    | some (.value _) => none
    | some (.table origin sub) =>
      if byKey ∧ origin = .header then none
      else (alter byKey change origin ks sub).map fun sub' => es.replace k (.table origin sub')
    | some (.tables front last) =>
      (alter byKey change .header ks last).map fun last' => es.replace k (.tables front last')

/-- Puts a value under a key, at the end of a path from this table. -/
def insertValue (es : Entries) (path : List String) (k : String) (v : Toml) : Option Entries :=
  alter true (fun origin sub =>
    if path ≠ [] ∧ origin ≠ .key then none
    else if (sub.lookup k).isSome then none
    else some (sub ++ [(k, .value v)])) .header path es

/-- Takes out the node under a key. -/
def erase (es : Entries) (k : String) : Entries := es.filter fun p => p.1 != k

/-- Opens the table with a header: a new one, or one that was only passed through.  Either becomes the last entry. -/
def openTable (es : Entries) (path : List String) (k : String) : Option Entries :=
  alter false (fun _ sub =>
    match sub.lookup k with
    | none => some (sub ++ [(k, .table .header [])])
    | some (.table .passed inner) => some (sub.erase k ++ [(k, .table .header inner)])
    | some _ => none) .header path es

/-- Opens one more table of a list of tables. -/
def openListed (es : Entries) (path : List String) (k : String) : Option Entries :=
  alter false (fun _ sub =>
    match sub.lookup k with
    | none => some (sub ++ [(k, .tables [] [])])
    | some (.tables front last) => some (sub.replace k (.tables (front ++ [last]) []))
    | some _ => none) .header path es

/-- Puts a value under a key into the table that was opened last, given by its own path. -/
def insertInto (es : Entries) (current path : List String) (k : String) (v : Toml) : Option Entries :=
  alter false (fun _ sub => insertValue sub path k v) .header current es

end Entries

mutual

/-- The finished value of a node; `make` says what its tables become. -/
def Entry.toToml (make : List (String × Toml) → Toml) : Entry → Toml
  | .value v => v
  | .table _ es => make (Entries.toToml make es)
  | .tables front last => .array (Entries.toTables make front ++ [make (Entries.toToml make last)])

def Entries.toToml (make : List (String × Toml) → Toml) : List (String × Entry) → List (String × Toml)
  | [] => []
  | (k, e) :: es => (k, e.toToml make) :: Entries.toToml make es

def Entries.toTables (make : List (String × Toml) → Toml) : List (List (String × Entry)) → List Toml
  | [] => []
  | es :: rest => make (Entries.toToml make es) :: Entries.toTables make rest

end

end VersionTags.Toml
