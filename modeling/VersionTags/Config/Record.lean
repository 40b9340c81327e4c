import VersionTags.Config.Basic
import VersionTags.Json.Record
import VersionTags.Toml.Reader
import VersionTags.Toml.Writer
/-!
# Configurations as records

A configuration is read from JSON and from the entries of a configuration file by the same rules: unknown fields are
ignored, a missing field has its default, and the two groups of settings may be given as arrays of their first fields.
`Config.fileText` writes the file that reads back as the configuration, where it can be written at all.
-/
namespace VersionTags.Config

/-- The settings of the store: how ids are learnt, and how long to wait. -/
abbrev StorageSettings := KeyStrategy × Nat

/-- Reads a field of JSON that has a default; null is no default. -/
def jsonOrDefault {α : Type} (otherwise : α) (value : Json → Option α) : Option Json → Option α
  | none => some otherwise
  | some j => value j

def storageOfJson (j : Json) : Option StorageSettings := do
  match ← j.membersFrom 0 ["key_strategy", "busy_timeout_ms"] with
  | [s, w] =>
    return (← jsonOrDefault defaultStrategy KeyStrategy.ofJson s, ← jsonOrDefault defaultWait Json.asNat64 w)
  | _ => none

def paginationOfJson (j : Json) : Option Bool := do
  match ← j.membersFrom 0 ["enabled"] with
  | [e] => jsonOrDefault true Json.asBool e
  | _ => none

def pathsOfJson : Json → Option PathTable
  | .object fs => do return PathTable.ofList (← fs.mapM fun f => do return (f.1, ← f.2.asString))
  | _ => none

def ofJson (j : Json) : Option Config := do
  match ← j.membersFrom 2 ["database", "tenant", "storage", "pagination", "paths"] with
  | [d, t, s, g, p] =>
    let (strategy, wait) ← jsonOrDefault (defaultStrategy, defaultWait) storageOfJson s
    return ⟨← Json.optional Json.asString d, ← Json.optional Json.asInt32 t, strategy, wait,
      ← jsonOrDefault true paginationOfJson g, ← jsonOrDefault PathTable.empty pathsOfJson p⟩
  | _ => none

def toJson (c : Config) : Json :=
  .object [("database", Json.ofOption .string c.database), ("tenant", Json.ofOption .int c.tenant),
    ("storage", .object [("key_strategy", c.strategy.toJson), ("busy_timeout_ms", .int c.wait)]),
    ("pagination", .object [("enabled", .bool c.paginated)]),
    ("paths", .object (c.paths.entries.map fun p => (p.1, .string p.2)))]

/-! ## Configuration files -/

def strategyOfToml : Toml → Option KeyStrategy :=
  Toml.asWord [("generated-keys", .generatedKeys), ("max-id", .maxId)]

def storageOfToml (t : Toml) : Option StorageSettings := do
  match ← t.members ["key_strategy", "busy_timeout_ms"] with
  | [s, w] =>
    return (← Toml.orDefault defaultStrategy strategyOfToml s,
      ← Toml.orDefault defaultWait (fun t => t.asInteger >>= Decimal.nat64?) w)
  | _ => none

def paginationOfToml (t : Toml) : Option Bool := do
  match ← t.members ["enabled"] with
  | [e] => Toml.orDefault true Toml.asBoolean e
  | _ => none

def pathsOfToml (t : Toml) : Option PathTable := do
  return PathTable.ofList (← (← t.entries).mapM fun e => do return (e.1, ← e.2.asString))

def ofToml (entries : List (String × Toml)) : Option Config := do
  let (strategy, wait) ← Toml.orDefault (defaultStrategy, defaultWait) storageOfToml (entries.lookup "storage")
  return ⟨← Toml.optional Toml.asString (entries.lookup "database"),
    ← Toml.optional (fun t => t.asInteger >>= Decimal.int32?) (entries.lookup "tenant"), strategy, wait,
    ← Toml.orDefault true paginationOfToml (entries.lookup "pagination"),
    ← Toml.orDefault PathTable.empty pathsOfToml (entries.lookup "paths")⟩

/-- The configuration a file holds. -/
def ofText (s : String) : Option Config := Toml.read s >>= ofToml

/-- The lines of the fields that stand before all groups, with an empty line after them if there are any. -/
def headText (c : Config) : String :=
  let lines := c.database.toList.map (fun d => Toml.Writer.pair "database" (Toml.Writer.value d)) ++
    c.tenant.toList.map (fun t => Toml.Writer.pair "tenant" (toString t))
  if lines = [] then "" else String.join lines ++ "\n"

/-- The file that holds a configuration.  A wait beyond 63 bits cannot be written. -/
def fileText (c : Config) : Except Error String :=
  if Decimal.maxInt64 < (c.wait : Int) then .error (.config .unwritable)
  else .ok (c.headText ++
    "[storage]\n" ++ Toml.Writer.pair "key_strategy" (Toml.Writer.value c.strategy.name) ++
    Toml.Writer.pair "busy_timeout_ms" (toString c.wait) ++
    "\n[pagination]\n" ++ Toml.Writer.pair "enabled" (if c.paginated then "true" else "false") ++
    "\n[paths]\n" ++
    String.join (c.paths.entries.map fun p => Toml.Writer.pair (Toml.Writer.key p.1) (Toml.Writer.value p.2)))

end VersionTags.Config
