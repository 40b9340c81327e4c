import VersionTags.Config.PathTable
import VersionTags.Error
import VersionTags.Locator
import VersionTags.Text.Blank
/-!
# Configurations

A configuration names the database and the tenant, says how ids are learnt, how long to wait for a lock and whether
pages are served, and maps version numbers, written as texts, to paths.  `Config.locator` reads those numbers.
-/
namespace VersionTags

structure Config where
  database : Option String
  tenant : Option Tenant
  strategy : KeyStrategy
  /-- How long to wait for a lock, in milliseconds. -/
  wait : Nat
  paginated : Bool
  /-- Paths under version numbers. -/
  paths : PathTable
  deriving DecidableEq, Repr

namespace Config

def defaultStrategy : KeyStrategy := .generatedKeys

def defaultWait : Nat := 5000

/-- The configuration in which nothing is given. -/
def default : Config := ⟨none, none, defaultStrategy, defaultWait, true, PathTable.empty⟩

/-- The tenant, where none is given the one all belongs to that has no other. -/
def tenantId (c : Config) : Tenant := c.tenant.getD superTenant

/-- The version number a text denotes, with blanks around it. -/
def readVersion (key : String) : Except Error Version :=
  match Decimal.readInt64 (Text.trim key) with
  | some n => .ok n
  | none => .error (.config (.badVersion key))

/-- The paths by version number, taken in the order of the table.  The first key that is no number is an error, and of
two keys for one number the later counts. -/
def locator (c : Config) : Except Error Locator := do
  return Locator.ofList (← c.paths.entries.mapM fun p => do return (← readVersion p.1, p.2))

/-- Where a configuration is looked for. -/
def defaultPath : String := "regtags.toml"

end Config
end VersionTags
