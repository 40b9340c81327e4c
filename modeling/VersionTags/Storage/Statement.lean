import VersionTags.Storage.Failure
import VersionTags.Storage.Database
/-!
# Statements

A statement changes the tables as a whole or is refused.  A refusal has a cause and a reach: it undoes the statement
alone, or it ends the whole transaction the statement was part of.

Failing triggers (`Fault`) refuse statements on chosen rows.  Of several that fire on one row the latest declared
speaks.
-/
namespace VersionTags

/-- How much a refused statement undoes. -/
inductive Reach where
  | statement
  | transaction
  deriving DecidableEq, Repr

structure Refusal where
  cause : Failure
  reach : Reach
  deriving DecidableEq, Repr

/-- What a failing trigger waits for. -/
inductive Trigger where
  /-- A tag row with the name has been inserted. -/
  | tagInsert (name : String)
  /-- A link row on the version is about to be inserted. -/
  | linkInsert (version : Version)
  /-- A tag row with the name is about to be deleted. -/
  | tagDelete (name : String)
  deriving DecidableEq, Repr

structure Fault where
  on : Trigger
  reach : Reach
  message : String
  deriving DecidableEq, Repr

/-- Passes unless a trigger waits for the event. -/
def checkFaults (faults : List Fault) (event : Trigger) : Except Refusal Unit :=
  match faults.reverse.find? fun f => f.on == event with
  | some f => .error ⟨.raised f.message, f.reach⟩
  | none => .ok ()

def Fault.isTagInsert (f : Fault) : Bool :=
  match f.on with
  | .tagInsert _ => true
  | _ => false

/-- A change of the tables with an answer. -/
abbrev Statement (α : Type) := StateT Database (Except Refusal) α

namespace Statement

/-- Inserts a tag row under the next id, and yields that id.  An exhausted id space ends the transaction when the
insertion is the only thing the statement does: it neither returns the id nor has a trigger to run, so there is no
record of the statement alone to undo. -/
def insertTag (faults : List Fault) (returning : Bool) (T : Tenant) (r : TagRecord) : Statement TagId := fun db =>
  if db.lastId = Decimal.maxInt64 then
    .error ⟨.full, if returning || faults.any Fault.isTagInsert then .statement else .transaction⟩
  else do
    let id := db.lastId + 1
    checkFaults faults (.tagInsert r.name)
    return (id, db.withTag ⟨id, r.name, r.author, r.taggedAt.storedText, .int T⟩)

def insertLink (faults : List Fault) (T : Tenant) (id : TagId) (v : Version) : Statement Unit := fun db => do
  checkFaults faults (.linkInsert v)
  return ((), db.withLink ⟨.int id, .int v, .int T⟩)

/-- Deletes the tenant's links of a tag. -/
def deleteLinks (T : Tenant) (id : TagId) : Statement Unit := fun db =>
  .ok ((), db.keepLinks fun l => !(l.tenant == .int T && l.tag.integer? == some id))

/-- Deletes the tenant's tag with an id, if there is one. -/
def deleteTag (faults : List Fault) (T : Tenant) (id : TagId) : Statement Unit := fun db => do
  (db.tags.filter fun t => t.tenant == .int T && t.id == id).forM fun t => checkFaults faults (.tagDelete t.name)
  return ((), db.keepTags fun t => !(t.tenant == .int T && t.id == id))

end Statement
end VersionTags
