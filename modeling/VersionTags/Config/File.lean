import VersionTags.Config.Record
import VersionTags.FileTree
/-!
# Configuration files

Loading a configuration from a file tree and writing it there.  A file that is absent holds no configuration, and one
that is there is replaced only by force.
-/
namespace VersionTags.Config

/-- A fault of the file tree as an error. -/
def ofFileFault {α : Type} : Except FileFault α → Except Error α
  | .ok a => .ok a
  | .error f => .error (.io f)

/-- The configuration in the file at a path, if there is a file. -/
def load (t : FileTree) (path : String) : Except Error (Option Config) := do
  if t.pathExists path then
    match ofText (← ofFileFault (t.readText path)) with
    | some c => return some c
    | none => throw (.config (.unreadable path))
  else return none

/-- Writes a configuration to the file at a path.  What the tree is after a failure is told beside it. -/
def write (path : String) (c : Config) (force : Bool) (t : FileTree) : Except Error Unit × FileTree :=
  if t.pathExists path ∧ force = false then (.error (.config (.alreadyExists path)), t)
  else
    match c.fileText with
    | .error e => (.error e, t)
    | .ok s =>
      let (r, t') := t.writeFile path s
      (ofFileFault r, t')

/-- Where the database is in a directory. -/
def databasePathIn (base : String) : String := Path.join (Path.join base ".regtags") "regtags.db"

/-- Makes the directory a database is to be in, where it is missing. -/
def ensureDirectory (path : String) (t : FileTree) : Except Error Unit × FileTree :=
  match Path.parent path with
  | none => (.ok (), t)
  | some above =>
    if above = "" ∨ t.pathExists above then (.ok (), t)
    else
      let (r, t') := t.makeDirectories above
      (ofFileFault r, t')

end VersionTags.Config
