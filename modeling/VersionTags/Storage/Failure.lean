import VersionTags.Time.Scan
/-!
# Failures of the database

What the database itself reports: a failing trigger, a lock, an exhausted id space, a misplaced transaction command,
a value that cannot be read, a file that is no database or cannot be used as one, an address that names none, or a
statement with more values than it can take.
-/
namespace VersionTags

/-- Why an address names no database. -/
inductive AddressFault where
  /-- It names a host that is not this one. -/
  | host (name : String)
  | fileSystem (name : String)
  | accessMode (name : String)
  | cacheMode (name : String)
  /-- The access mode allows more than one before it. -/
  | notAllowed (name : String)
  deriving DecidableEq, Repr

def AddressFault.message : AddressFault → String
  | .host name => "invalid uri authority: " ++ name
  | .fileSystem name => "no such vfs: " ++ name
  | .accessMode name => "no such access mode: " ++ name
  | .cacheMode name => "no such cache mode: " ++ name
  | .notAllowed name => "access mode not allowed: " ++ name

/-! ## Statements with too many values -/

/-- The number of values that a statement can take. -/
def maxValues : Nat := 32766

/-- The search for the versions with any of some names, up to the names. -/
def searchHead : String :=
  "SELECT DISTINCT rt.version FROM resource_tag rt JOIN tag t ON rt.tag_id = t.id WHERE casefold(t.name) IN ("

/-- So many names in the search, by their numbers. -/
def searchNames (n : Nat) : String :=
  ", ".intercalate ((List.range n).map fun i => s!"casefold(?{i + 1})")

/-- The search for the versions with any of so many names. -/
def searchText (n : Nat) : String :=
  searchHead ++ searchNames n ++ s!") AND rt.tenant_id = ?{n + 1} AND t.tenant_id = ?{n + 1} ORDER BY rt.version"

/-- Where the first value that is too many stands in the search. -/
def searchLimit (n : Nat) : Nat :=
  (searchHead ++ searchNames maxValues).utf8ByteSize +
    (if n ≤ maxValues then ") AND rt.tenant_id = " else ", casefold(").utf8ByteSize

/-- What was being done when the disk failed. -/
inductive DiskFault where
  /-- The first look at the file of a database. -/
  | opening
  /-- Reading the journal. -/
  | reading
  /-- Deleting the log. -/
  | deleting
  /-- Bringing what was written to the disk. -/
  | flushing
  /-- Making the directory by which a file is locked. -/
  | locking
  deriving DecidableEq, Repr

inductive Failure where
  /-- A trigger refused the statement. -/
  | raised (message : String)
  /-- Another connection holds the write lock. -/
  | locked
  /-- Every id has been given. -/
  | full
  | nestedTransaction
  | noTransactionToCommit
  | noTransactionToRollBack
  | noSavepoint
  /-- A query for one row found none. -/
  | noRow
  /-- A stored time in the given column of the answer cannot be read. -/
  | unreadableTime (column : Nat) (why : Time.ReadError)
  /-- A value in the given column of the answer is no integer. -/
  | notAnInteger (typeName : String) (column : Nat) (name : String)
  /-- The file cannot be opened or created. -/
  | cannotOpen (path : String)
  /-- A file beside the database's cannot be opened. -/
  | cannotOpenBeside
  | disk (fault : DiskFault)
  /-- The database may not be changed. -/
  | readOnly
  /-- The database may not be changed, and its journal would have to be undone first. -/
  | pendingJournal
  | notADatabase
  /-- The file is a database that cannot be read. -/
  | malformed
  /-- The file is a database of a later kind. -/
  | unsupported
  | address (fault : AddressFault)
  /-- The path of the file has a NUL after so many bytes. -/
  | nulInPath (position : Nat)
  /-- A search for so many names, of which each is a value, and the tenant is one more. -/
  | tooManyNames (count : Nat)
  deriving DecidableEq, Repr

def Failure.message : Failure → String
  | .raised m => m
  | .locked => "database is locked"
  | .full => "database or disk is full"
  | .nestedTransaction => "cannot start a transaction within a transaction"
  | .noTransactionToCommit => "cannot commit - no transaction is active"
  | .noTransactionToRollBack => "cannot rollback - no transaction is active"
  | .noSavepoint => "no such savepoint"
  | .noRow => "Query returned no rows"
  | .unreadableTime column why => s!"Conversion error from type Text at index: {column}, " ++ why.message
  | .notAnInteger typeName column name => s!"Invalid column type {typeName} at index: {column}, name: {name}"
  | .cannotOpen path => "unable to open database file: " ++ path
  | .cannotOpenBeside => "unable to open database file"
  | .disk _ => "disk I/O error"
  | .readOnly => "attempt to write a readonly database"
  | .pendingJournal => "attempt to write a readonly database"
  | .address fault => fault.message
  | .notADatabase => "file is not a database"
  | .malformed => "database disk image is malformed"
  | .unsupported => "unsupported file format"
  | .nulInPath position => s!"nul byte found in provided data at position: {position}"
  | .tooManyNames n =>
    s!"variable number must be between ?1 and ?{maxValues} in " ++ searchText n ++ s!" at offset {searchLimit n}"

/-- What stands behind a failure, for a report of the whole chain of causes. -/
def Failure.cause : Failure → Option String
  | .locked => some "Error code 5: The database file is locked"
  | .full => some "Error code 13: Insertion failed because database is full"
  | .cannotOpen _ => some "Error code 14: Unable to open the database file"
  | .cannotOpenBeside => some "Error code 14: Unable to open the database file"
  | .disk .opening => some "Error code 10: Some kind of disk I/O error occurred"
  | .disk .reading => some "Error code 266: Error reading from disk"
  | .disk .deleting => some "Error code 2570: Error deleting file"
  | .disk .flushing => some "Error code 1034: Error flushing data to persistent storage (fsync)"
  | .disk .locking => some "Error code 3850: I/O error in the advisory file locking logic"
  | .readOnly => some "Error code 8: Attempt to write a readonly database"
  | .pendingJournal => some "Error code 776: Database has hot journal that must be rolled back requires write access"
  | .address (.notAllowed _) => some "Error code 3: Access permission denied"
  | .address _ => some "Error code 1: SQL error or missing database"
  | .tooManyNames _ => some "Error code 1: SQL error or missing database"
  | .notADatabase => some "Error code 26: File opened that is not a database file"
  | .malformed => some "Error code 11: The database disk image is malformed"
  | .unsupported => some "Error code 1: SQL error or missing database"
  | .nulInPath position => some (Failure.nulInPath position).message
  | _ => none

end VersionTags
