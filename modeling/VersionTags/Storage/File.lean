import VersionTags.Storage.Statement
/-!
# A database file and its connections

Connections are numbers.  The file holds the committed tables and, while one connection has a transaction open, that
connection's working copy with the savepoints below it.  Only the connection with the transaction may write; the
others read the committed tables and are told at once that the file is locked.  A transaction that changes more than
its connection keeps in memory begins to write to the file before it ends, and from then on the others cannot read
either.  When it does is told by `File.spills`, of which nothing is assumed.

`File.writeScope` is the boundary of one write operation.  On a connection without a transaction it opens one and
commits it, and inside a transaction it sets a savepoint and releases it; when the operation fails it undoes what the
operation did and passes the failure on, whatever the clean-up itself reports.
-/
namespace VersionTags

/-- A connection to a file. -/
abbrev Connection := Nat

/-- A transaction in progress: the tables as its connection sees them, what they were at each savepoint, and all that
they have been before, what was undone included.  The latest stand first. -/
structure Transaction where
  working : Database
  savepoints : List Database
  past : List Database
  deriving DecidableEq

/-- A file, which may refuse to be changed. -/
structure File where
  committed : Database
  writer : Option (Connection × Transaction)
  readOnly : Bool
  /-- Whether a transaction has begun to write to the file. -/
  spills : Transaction → Bool

/-- What a connection does to a file: it ends with a value or a failure, and the file stays as it was left. -/
abbrev Action (α : Type) := ExceptT Failure (StateM File) α

namespace File

/-- A file with the tables, which no transaction writes to before its end unless a rule says so. -/
def ofDatabase (db : Database) (spills : Transaction → Bool := fun _ => false) : File := ⟨db, none, false, spills⟩

/-- The connection's own transaction. -/
def transaction? (f : File) (c : Connection) : Option Transaction :=
  match f.writer with
  | some (owner, t) => if owner = c then some t else none
  | none => none

/-- The connection has no transaction open. -/
def isAutocommit (f : File) (c : Connection) : Bool := (f.transaction? c).isNone

/-- The tables a connection reads. -/
def view (f : File) (c : Connection) : Database :=
  match f.transaction? c with
  | some t => t.working
  | none => f.committed

/-- Another connection has a transaction that has begun to write to the file, so that this connection cannot read. -/
def isBlocked (f : File) (c : Connection) : Bool :=
  match f.writer with
  | some (owner, t) => owner != c && f.spills t
  | none => false

/-- Answers a query from the tables the connection sees. -/
def query {α : Type} (c : Connection) (q : Database → Except Failure α) : Action α := do
  let f ← get
  if f.isBlocked c then throw .locked
  match q (f.view c) with
  | .ok a => return a
  | .error e => throw e

/-- Opens a transaction and takes the write lock. -/
def begin (c : Connection) : Action Unit := do
  let f ← get
  match f.writer with
  | some (owner, _) => throw (if owner = c then .nestedTransaction else .locked)
  | none => set { f with writer := some (c, ⟨f.committed, [], []⟩) }

def commit (c : Connection) : Action Unit := do
  let f ← get
  match f.transaction? c with
  | some t => set { f with committed := t.working, writer := none }
  | none => throw .noTransactionToCommit

def rollback (c : Connection) : Action Unit := do
  let f ← get
  match f.transaction? c with
  | some _ => set { f with writer := none }
  | none => throw .noTransactionToRollBack

/-- Remembers the tables of the connection's transaction. -/
def savepoint (c : Connection) : Action Unit := do
  let f ← get
  match f.transaction? c with
  | some ⟨working, rest, past⟩ => set { f with writer := some (c, ⟨working, working :: rest, working :: past⟩) }
  | none => throw .noSavepoint

/-- Returns to the latest savepoint, which stays. -/
def rollbackTo (c : Connection) : Action Unit := do
  let f ← get
  match f.transaction? c with
  | some ⟨working, db :: rest, past⟩ => set { f with writer := some (c, ⟨db, db :: rest, working :: past⟩) }
  | _ => throw .noSavepoint

/-- Forgets the latest savepoint. -/
def release (c : Connection) : Action Unit := do
  let f ← get
  match f.transaction? c with
  | some ⟨working, _ :: rest, past⟩ => set { f with writer := some (c, ⟨working, rest, past⟩) }
  | _ => throw .noSavepoint

/-- Runs a statement on the connection's transaction.  Without one, the statement is a transaction of its own. -/
def execute {α : Type} (c : Connection) (s : Statement α) : Action α := do
  let f ← get
  if f.readOnly then throw .readOnly
  match f.writer with
  | none =>
    match s f.committed with
    | .ok (a, db) =>
      set { f with committed := db }
      return a
    | .error r => throw r.cause
  | some (owner, t) =>
    if owner = c then
      match s t.working with
      | .ok (a, db) =>
        set { f with writer := some (c, { t with working := db }) }
        return a
      | .error r =>
        match r.reach with
        | .statement => pure ()
        | .transaction => set { f with writer := none }
        throw r.cause
    else throw .locked

/-- Does something whose failure does not matter. -/
def attempt (a : Action Unit) : Action Unit := tryCatch a fun _ => pure ()

/-- Does `body` all or not at all. -/
def writeScope {α : Type} (c : Connection) (body : Action α) : Action α := do
  if (← get).isAutocommit c then
    begin c
    let a ← tryCatch body fun e => do
      attempt (rollback c)
      throw e
    commit c
    return a
  else
    savepoint c
    let a ← tryCatch body fun e => do
      attempt (do rollbackTo c; release c)
      throw e
    release c
    return a

end File
end VersionTags
