import VersionTags.Locator
import VersionTags.Storage.File
import VersionTags.Storage.Query
/-!
# Stores

A store is one connection to a database file on behalf of a tenant, with the choice of how ids are learnt, whether
pages are served, the failing triggers of the file, and the way to the paths of versions.

`Store.run` does an action of its connection, and `Store.ask` answers a query from the tables the connection sees.
-/
namespace VersionTags

structure Store where
  connection : Connection
  tenant : Tenant
  strategy : KeyStrategy
  paginated : Bool
  faults : List Fault
  locator : Locator
  access : LocatorAccess
  deriving DecidableEq

/-- What an operation of a store does: it ends with a value or an error, and the file stays as it was left. -/
abbrev Operation (α : Type) := ExceptT Error (StateM File) α

namespace Store

/-- What messages call a version: its path, or its number where there is none. -/
def describe (s : Store) (v : Version) : String := (s.locator.path? v).getD s!"<version {v}>"

/-- Does an action as part of a task. -/
def run {α : Type} (task : Task) (a : Action α) : Operation α := ExceptT.mk do
  match ← a.run with
  | .ok x => return .ok x
  | .error f => return .error (.storage task f)

/-- Answers a query as part of a task. -/
def ask {α : Type} (s : Store) (task : Task) (q : Database → Except Failure α) : Operation α :=
  run task (File.query s.connection q)

/-- Answers a query that does not fail of itself. -/
def look {α : Type} (s : Store) (task : Task) (q : Database → α) : Operation α := s.ask task fun db => .ok (q db)

end Store
end VersionTags
