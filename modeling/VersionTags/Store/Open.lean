import VersionTags.FileTree
import VersionTags.Storage.Header
import VersionTags.Store.Address
import VersionTags.Store.Basic
/-!
# Opening databases

A database is opened by its address.  A file that is absent or empty becomes a database without rows, and a file that
holds something else is refused.  The path is followed by its text alone where it goes up.  An address without a file
is that of a database that is gone once it is closed.

Beside the file of a database there can be its journal, in which a change is noted while it is made, its log, and the
index of the log.  A journal that was left behind gives the file the length it had before the change; otherwise there is
nothing in these files that could be undone or redone.  They are cleared away before the database is read.  A directory
in place of the journal or the log makes the database unusable, and one in place of the index keeps the log from being
cleared away.
-/
namespace VersionTags

/-- What a file holds, as a database: nothing yet, tables, or something else. -/
inductive Holding where
  | nothing
  | tables (db : Database)
  | other (form : FileForm)
  deriving DecidableEq

/-- The holding of bytes.  A single byte counts as none. -/
def Holding.ofBytes (bytes : List UInt8) : Holding :=
  if bytes.length ≤ 1 then .nothing else .other (Header.form bytes)

def Node.holding : Node → Holding
  | .directory => .other .foreign
  | .text s => .ofBytes s.toUTF8.toList
  | .binary bytes => .ofBytes bytes
  | .database db => .tables db
  | .device _ => .nothing

/-- A file beside a database. -/
inductive Beside where
  | absent
  | directory
  /-- A file without content. -/
  | empty
  /-- A file whose content begins with the byte zero, as that of a journal does when it is done with. -/
  | finished
  /-- A file with content; a journal may say how long the database was. -/
  | pending (length : Option Nat)
  deriving DecidableEq, Repr

/-- The size of a page. -/
def pageBytes : Nat := 4096

def Beside.ofBytes : List UInt8 → Beside
  | [] => .empty
  | 0 :: _ => .finished
  | bytes => .pending (Header.lengthBefore? pageBytes bytes)

def Beside.ofNode : Option Node → Beside
  | none => .absent
  | some .directory => .directory
  | some (.text s) => .ofBytes s.toUTF8.toList
  | some (.binary bytes) => .ofBytes bytes
  | some (.database _) => .pending none
  | some (.device _) => .directory

/-- An open database, with the place of its file if it has one. -/
structure OpenDatabase where
  place : Option Place
  tables : Database
  readOnly : Bool
  deriving DecidableEq

namespace OpenDatabase

/-! ## The place of the file -/

/-- The greatest number of bytes of a path on the way to a file, and of the path of a file. -/
def maxStep : Nat := 511

def maxPath : Nat := 504

/-- Where steps lead when going up only drops the last name. -/
def settle (t : FileTree) : Place → List String → Except FileFault Place
  | place, [] => .ok place
  | place, n :: ns =>
    let next := FileTree.next place n
    if n = "." ∨ n = ".." then settle t next ns
    else if maxStep < next.utf8ByteSize then .error .nameTooLong
    else
      match t.follow "" .directory (Path.steps next) with
      | .ok _ => settle t next ns
      | .error .notFound => settle t next ns
      | .error e => .error e

/-- The place of the file at a path, if there can be a file. -/
def place? (t : FileTree) (path : String) : Option Place := do
  let place ← (settle t (if Path.isAbsolute path then "" else t.current) (Path.steps path)).toOption
  if place = "" ∨ maxPath < place.utf8ByteSize then none else some place

/-! ## The files beside it -/

/-- The place of the journal, whose name is that of the file and more; so are those of the others. -/
def journal (place : Place) : Place := place ++ "-journal"

def log (place : Place) : Place := place ++ "-wal"

def logIndex (place : Place) : Place := place ++ "-shm"

def lock (place : Place) : Place := place ++ ".lock"

/-- What is done to a file and the files beside it: it ends with a value or a failure, and the tree stays as it was
left. -/
abbrev Handling (α : Type) := ExceptT Failure (StateM FileTree) α

/-- What is beside a file at a place. -/
def look (place : Place) : Handling Beside := do return Beside.ofNode ((← get).node? place)

def clear (place : Place) : Handling Unit := modify (·.erase place)

/-- Gives a file the length that it had, and says what it holds then.  A database that loses pages cannot be read. -/
def cutTo (length : Nat) (h : Holding) (place : Place) : Handling Holding := do
  if length = 0 then
    modify (·.put place (.text ""))
    return .nothing
  else
    match h with
    | .tables db =>
      if Header.countOf pageBytes length < (← get).disk.pages db then
        modify (·.put place (.binary Header.cutShort))
        return .other .malformed
      else return h
    | _ => return h

/-- Undoes what the journal notes and clears it away before a file is read, and says what the file holds then. -/
def settleJournal (a : Address) (h : Holding) (place : Place) : Handling Holding := do
  match ← look (journal place), h with
  | .finished, .nothing =>
    if !a.isReadOnly then clear (journal place)
    return h
  | .pending _, .nothing =>
    if !a.isReadOnly then clear (journal place)
    return h
  | .directory, .nothing => return h
  | .directory, _ => throw (.disk .reading)
  | .pending length, _ =>
    if a.isReadOnly then throw .pendingJournal
    clear (journal place)
    match length with
    | some n => cutTo n h place
    | none => return h
  | _, _ => return h

/-- A new index of a log. -/
def freshIndex : Node := .binary [0x18, 0xE2, 0x2D, 0x00]

/-- Clears the log of a file that holds something away, and says whether the file can be changed then. -/
def clearLog (a : Address) (place : Place) : Handling Bool := do
  if !a.canShare then throw .cannotOpenBeside
  if (← look (logIndex place)) = .directory then return false
  else if a.isReadOnly then
    modify (·.put (logIndex place) freshIndex)
    return false
  else
    clear (log place)
    clear (logIndex place)
    return true

/-- Clears the log away before a file is read, and says whether the file can be changed then. -/
def settleLog (a : Address) (h : Holding) (place : Place) : Handling Bool := do
  match ← look (log place), h with
  | .directory, .nothing => throw (.disk .deleting)
  | .directory, _ => throw .cannotOpenBeside
  | .absent, _ => return !a.isReadOnly
  | .empty, _ => return !a.isReadOnly
  | _, .nothing =>
    clear (log place)
    return !a.isReadOnly
  | _, _ => clearLog a place

/-- Locks a file by a directory beside it, which is gone once the file is closed. -/
def mark (place : Place) : Handling Unit := do
  if FileTree.maxName < (FileTree.lastName (lock place)).utf8ByteSize then throw (.disk .locking)
  if ((← get).node? (lock place)).isSome then throw .locked

/-- Clears away what is beside a file before it is read, and says what the file holds and whether it can be changed
then. -/
def settleBeside (a : Address) (h : Holding) (place : Place) : Handling (Holding × Bool) := do
  if a.immutable then return (h, false)
  if a.isMarked then mark place
  let h' ← if a.isMarked then pure h else settleJournal a h place
  return (h', ← settleLog a h' place)

/-! ## Opening -/

/-- Makes the tables in a file that holds nothing.  The change is noted in the journal, which is gone afterwards. -/
def makeTables (place : Place) : Handling OpenDatabase := do
  match (← get).node? place with
  | some (.device .sink) => throw (.disk .flushing)
  | some (.device .full) => throw .full
  | _ => pure ()
  if (← look (journal place)) = .directory then throw .cannotOpenBeside
  if FileTree.maxName < (FileTree.lastName (journal place)).utf8ByteSize then throw .cannotOpenBeside
  clear (journal place)
  modify (·.put place (.database Database.empty))
  return ⟨some place, Database.empty, false⟩

/-- Reads the file of a database and makes its tables, unless they are there. -/
def enter (a : Address) (h : Holding) (place : Place) : Handling OpenDatabase := do
  let (h, writable) ← settleBeside a h place
  match h with
  | .other .foreign => throw .notADatabase
  | .other .malformed => throw .malformed
  | .other .unsupported => throw .unsupported
  | .other (.bare changeable sound) =>
    if !writable || !changeable then throw .readOnly
    if !sound then throw .malformed
    makeTables place
  | .tables db => return ⟨some place, db, !writable⟩
  | .nothing => if writable then makeTables place else throw .readOnly

/-- Enters a file as part of opening a database. -/
def doing (h : Handling OpenDatabase) (t : FileTree) : Except Error OpenDatabase × FileTree :=
  let (r, t') := h.run.run t
  (match r with
    | .ok o => .ok o
    | .error f => .error (.storage .setUpTables f), t')

/-- Opens the file that a path leads to; `text` is how the database is called in messages. -/
def openFile (text : String) (a : Address) (t : FileTree) : Except Error OpenDatabase × FileTree :=
  let refuse (f : Failure) : Except Error OpenDatabase × FileTree := (.error (.storage (.openFile text) f), t)
  match place? t a.path with
  | none => refuse (.cannotOpen text)
  | some place =>
    if a.modeOf.any fun p => !t.pathExists p then refuse (.disk .opening)
    else match t.follow "" .directory (Path.steps place) with
    | .error _ => refuse (.cannotOpen text)
    | .ok (.there _ .directory) => refuse (if a.mode = .readOnly then .disk .opening else .cannotOpen text)
    | .ok (.there _ n) => doing (enter a n.holding place) t
    | .ok (.free _) =>
      if a.mode = .create then doing (enter a .nothing place) (t.put place (.text "")) else refuse (.cannotOpen text)

/-- The number of bytes before the first NUL of a text. -/
def nulPosition? (text : String) : Option Nat :=
  if text.contains '\x00' then some (String.ofList (text.toList.takeWhile (· != '\x00'))).utf8ByteSize else none

/-- The failure that a text which is no address ends with. -/
def readAddress (text : String) : Except Failure Address :=
  match nulPosition? text, Address.read text with
  | some n, _ => .error (.nulInPath n)
  | none, .ok a => .ok a
  | none, .error f => .error (.address f)

/-- Opens the database that a text names. -/
def openAt (text : String) (t : FileTree) : Except Error OpenDatabase × FileTree :=
  match readAddress text with
  | .error f => (.error (.storage (.openFile text) f), t)
  | .ok a =>
    if a.hasFile then openFile text a t
    else if a.isReadOnly then (.error (.storage .setUpTables .readOnly), t)
    else (.ok ⟨none, Database.empty, false⟩, t)

/-- Does an operation on an open database and closes it.  What was committed is in its file afterwards, and a change
takes away the journal it was noted in. -/
def use {α : Type} (o : OpenDatabase) (op : Operation α) (t : FileTree) : Except Error α × FileTree :=
  let (r, file) := op.run.run { File.ofDatabase o.tables with readOnly := o.readOnly }
  (r, match o.place with
    | some place =>
      if file.committed = o.tables then t
      else (t.erase (journal place)).put place (.database file.committed)
    | none => t)

end OpenDatabase
end VersionTags
