import VersionTags.Storage.Failure
import VersionTags.Tag
import VersionTags.Text.Quoted
/-!
# Errors

Every operation fails with one of four kinds of error, or with a wait that no clock can hold.  A storage error names
the task that failed, with the tag, resource and author it was working on, and the database's own failure.
`Error.message` holds the wording of all of them, and `Error.causes` what a report of the whole chain adds.
-/
namespace VersionTags

/-- What the store was doing, for the tasks that can fail. -/
inductive Task where
  | addTag (name resource author : String)
  | addTags (resource : String)
  | removeTag (name resource : String)
  | removeTagBy (name resource author : String)
  | purge (version : Version)
  | findTag (name resource author : String)
  | readTags (resource : String)
  | countTag (name resource : String)
  | countTags (resource : String)
  | collectStats (tenant : Tenant)
  | findPaths (names : List String)
  | readTagging (name resource : String) (author : AuthorFilter)
  | readTaggings (resource : String)
  | readTaggingById (id : TagId)
  | beginTransaction
  | commitTransaction
  | rollBackTransaction
  | openFile (path : String)
  | setUpTables
  deriving DecidableEq, Repr

def Task.failed : Task → String
  | .addTag n r a => s!"Failed to add tag {n} to resource {r} by user {a}"
  | .addTags r => s!"Failed to add tags to resource {r}"
  | .removeTag n r => s!"Failed to remove tag {n} from resource {r}"
  | .removeTagBy n r a => s!"Failed to remove tag {n} from resource {r} by user {a}"
  | .purge v => s!"Failed to purge tags of version {v}"
  | .findTag n r a => s!"Failed to check the existence of the tag {n} on resource {r} by user {a}"
  | .countTag n r => s!"Failed to get tag count of tag {n} on resource {r}"
  | .countTags r => s!"Failed to get tags and tag counts of the resource {r}"
  | .collectStats t => s!"Failed to collect statistics for tenant {t}"
  | .readTags r => s!"Failed to get tags associated with the resource path {r}"
  | .findPaths ns => "Failed to get resource paths with any of the tags " ++ Text.quotedList ns
  | .readTagging n r a =>
    s!"Failed to get tagging information for tag {n} on resource {r} by user " ++ a.describe
  | .readTaggings r => s!"Failed to get tagging information for the resource {r}"
  | .readTaggingById i => s!"Failed to get tagging information for tag ID {i}"
  | .beginTransaction => "Failed to begin transaction"
  | .commitTransaction => "Failed to commit transaction"
  | .rollBackTransaction => "Failed to roll back transaction"
  | .openFile p => s!"Failed to open tag database {p}"
  | .setUpTables => "Failed to initialize tag schema"

/-- An argument that is not accepted. -/
inductive BadArgument where
  | negativeStart (n : Int)
  | negativeSize (n : Int)
  | sortField (text : String)
  | sortOrder (text : String)
  | keyStrategy (text : String)
  deriving DecidableEq, Repr

def BadArgument.message : BadArgument → String
  | .negativeStart n => s!"Negative page start: {n}"
  | .negativeSize n => s!"Negative page size: {n}"
  | .sortField t => s!"Unknown sort field: {t}"
  | .sortOrder t => s!"Unknown sort order: {t}"
  | .keyStrategy t => s!"Unknown key strategy: {t}"

/-- A configuration that cannot be used or written. -/
inductive ConfigFault where
  | badVersion (key : String)
  | alreadyExists (path : String)
  /-- The text of the file is no configuration. -/
  | unreadable (path : String)
  /-- A number is too large for the file format. -/
  | unwritable
  deriving DecidableEq, Repr

def ConfigFault.message : ConfigFault → String
  | .badVersion k => "invalid version number in [paths]: " ++ Text.quoted k
  | .alreadyExists p => s!"config already exists at {p} (use --force to overwrite)"
  | .unreadable p => s!"{p}: TOML parse error"
  | .unwritable => "out-of-range value for u64 type"

/-- What the file system reports. -/
inductive FileFault where
  | notFound
  | notADirectory
  | isADirectory
  | exists
  | notUtf8
  | nameTooLong
  | nulInName
  | noSpace
  deriving DecidableEq, Repr

def FileFault.message : FileFault → String
  | .notFound => "No such file or directory (os error 2)"
  | .notADirectory => "Not a directory (os error 20)"
  | .isADirectory => "Is a directory (os error 21)"
  | .exists => "File exists (os error 17)"
  | .notUtf8 => "stream did not contain valid UTF-8"
  | .nameTooLong => "File name too long (os error 36)"
  | .nulInName => "file name contained an unexpected NUL byte"
  | .noSpace => "No space left on device (os error 28)"

inductive Error where
  | storage (task : Task) (failure : Failure)
  | invalidArgument (fault : BadArgument)
  | config (fault : ConfigFault)
  | io (fault : FileFault)
  /-- A wait in milliseconds beyond 31 bits. -/
  | waitTooLong
  deriving DecidableEq, Repr

def Error.message : Error → String
  | .storage t f => t.failed ++ ": " ++ f.message
  | .invalidArgument a => "Invalid argument: " ++ a.message
  | .config c => "Config error: " ++ c.message
  | .io f => "IO error: " ++ f.message
  | .waitTooLong => "wait too long"

/-- The causes behind an error, nearest first. -/
def Error.causes : Error → List String
  | .storage _ f => f.message :: f.cause.toList
  | .io f => [f.message]
  | _ => []

/-- The error and its causes on one line. -/
def Error.chain (e : Error) : String := ": ".intercalate (e.message :: e.causes)

end VersionTags
