import Std.Data.HashMap
import VersionTags.Error
import VersionTags.Storage.Database
/-!
# Files and directories

A file tree holds directories and files by their places under the root, and one directory is the current one.  A path
is a text; it is followed name by name, and every name but the last has to be a directory.  A file holds a text,
bytes that are no text, or a database.  Two devices stand among the files: one that takes all that is written and one
that takes nothing.

A file is emptied before it is written, and where the disk has no room for the rest it keeps a part of the text.
-/
namespace VersionTags

/-- What stands where a file could stand and keeps nothing. -/
inductive Device where
  /-- It takes whatever is written. -/
  | sink
  /-- It has no room. -/
  | full
  deriving DecidableEq, Repr

inductive Node where
  | directory
  | text (s : String)
  /-- Bytes that are not UTF-8. -/
  | binary (bytes : List UInt8)
  | database (db : Database)
  | device (d : Device)
  deriving DecidableEq

/-- The names on the way from the root, each after a slash.  The place of the root is empty. -/
abbrev Place := String

/-- What a file holds of whose text only so many bytes were written. -/
def Node.ofPart (s : String) (n : Nat) : Node :=
  let bytes := s.toUTF8.toList.take n
  match String.fromUTF8? ⟨bytes.toArray⟩ with
  | some s => .text s
  | none => .binary bytes

/-- What nodes do not tell of the disk that they are on. -/
structure Disk where
  /-- How many bytes of a text a file at the place can take, where there is a limit. -/
  room : Place → Option Nat
  /-- How many pages the file of a database has. -/
  pages : Database → Nat

/-- A disk on which there is room for every text, and every database has one page. -/
def Disk.ample : Disk := ⟨fun _ => none, fun _ => 1⟩

/-- The nodes of a tree below its root. -/
structure FileTree where
  nodes : Std.HashMap Place Node
  current : Place
  disk : Disk := Disk.ample

/-! ## Paths -/

namespace Path

/-- Whether a path starts at the root. -/
def isAbsolute (p : String) : Bool := p.startsWith "/"

/-- The steps of a path: its names and dots. -/
def steps (p : String) : List String := (p.splitOn "/").filter (· != "")

/-- The names of a path, with the dot it may start with. -/
def names (p : String) : List String :=
  let ns := (steps p).filter (· != ".")
  if p.startsWith "." && (p.splitOn "/").head? == some "." then "." :: ns else ns

/-- The path without its last name, if it has one. -/
def parent (p : String) : Option String :=
  match names p with
  | [] => none
  | ns => some ((if isAbsolute p then "/" else "") ++ "/".intercalate ns.dropLast)

/-- The path of a name in a directory. -/
def join (p name : String) : String :=
  if p = "" ∨ p.endsWith "/" then p ++ name else p ++ "/" ++ name

end Path

/-- Where a path leads: to a node, or to a free name in a directory. -/
inductive Spot where
  | there (place : Place) (node : Node)
  | free (place : Place)
  deriving DecidableEq

namespace FileTree

/-- Directories that a machine has from the start. -/
def usualDirectories : List Place :=
  ["bin", "boot", "dev", "etc", "home", "lib", "lib64", "media", "mnt", "opt", "proc", "root", "run", "sbin", "srv",
      "sys", "tmp", "usr", "var"].map ("/" ++ ·) ++
    ["bin", "include", "lib", "local", "sbin", "share", "src"].map ("/usr/" ++ ·) ++
    ["cache", "lib", "local", "log", "mail", "opt", "spool", "tmp"].map ("/var/" ++ ·)

/-- The devices by their places. -/
def devices : List (Place × Device) := [("/dev/null", .sink), ("/dev/full", .full)]

/-- The current directory of a machine on which nothing was done yet. -/
def freshCurrent : Place := "/tmp/scratchdir"

/-- A machine with an empty current directory. -/
def fresh (disk : Disk := Disk.ample) : FileTree where
  nodes := Std.HashMap.ofList (usualDirectories.map (fun p => (p, .directory)) ++
    devices.map (fun p => (p.1, .device p.2)) ++ [(freshCurrent, .directory)])
  current := freshCurrent
  disk := disk

def node? (t : FileTree) (place : Place) : Option Node := if place = "" then some .directory else t.nodes[place]?

/-- The tree with a node at a place. -/
def put (t : FileTree) (place : Place) (n : Node) : FileTree := { t with nodes := t.nodes.insert place n }

/-- The tree without the node at a place. -/
def erase (t : FileTree) (place : Place) : FileTree := { t with nodes := t.nodes.erase place }

/-- The greatest number of bytes of a name, and of a path. -/
def maxName : Nat := 255

def maxPath : Nat := 4095

/-- The place above a place. -/
def above (place : Place) : Place := String.ofList ((place.toList.reverse.dropWhile (· != '/')).drop 1).reverse

/-- The place one step leads to: a dot stays, and two dots go up. -/
def next (place : Place) (step : String) : Place :=
  if step = "." then place else if step = ".." then above place else place ++ "/" ++ step

/-- The last name of a place. -/
def lastName (place : Place) : String := String.ofList (place.toList.reverse.takeWhile (· != '/')).reverse

/-- Follows steps from a place that exists. -/
def follow (t : FileTree) : Place → Node → List String → Except FileFault Spot
  | place, node, [] => .ok (.there place node)
  | place, node, n :: ns =>
    if node ≠ .directory then .error .notADirectory
    else if maxName < n.utf8ByteSize then .error .nameTooLong
    else
      match t.node? (next place n) with
      | some node' => t.follow (next place n) node' ns
      | none => if ns = [] then .ok (.free (next place n)) else .error .notFound

/-- Follows some of the steps of a path from where it starts. -/
def locateSteps (t : FileTree) (p : String) (steps : List String) : Except FileFault Spot :=
  if p.contains '\x00' then .error .nulInName
  else if p = "" then .error .notFound
  else if maxPath < p.utf8ByteSize then .error .nameTooLong
  else t.follow (if Path.isAbsolute p then "" else t.current) .directory steps

/-- Where the steps of a path lead. -/
def locate (t : FileTree) (p : String) : Except FileFault Spot := t.locateSteps p (Path.steps p)

/-- Where a path leads.  One that ends with a slash leads to a directory or nowhere. -/
def resolve (t : FileTree) (p : String) : Except FileFault Spot := do
  match ← t.locate p with
  | .there place n => if p.endsWith "/" ∧ n ≠ .directory then throw .notADirectory else return .there place n
  | .free place => return .free place

/-- The node at a path. -/
def at? (t : FileTree) (p : String) : Option Node :=
  match t.resolve p with
  | .ok (.there _ n) => some n
  | _ => none

def pathExists (t : FileTree) (p : String) : Bool := (t.at? p).isSome

def isDirectory (t : FileTree) (p : String) : Bool := t.at? p == some .directory

/-- The text of a file. -/
def readText (t : FileTree) (p : String) : Except FileFault String := do
  match ← t.resolve p with
  | .there _ (.text s) => return s
  | .there _ (.device _) => return ""
  | .there _ .directory => throw .isADirectory
  | .there _ _ => throw .notUtf8
  | .free _ => throw .notFound

/-- Opens a file to be written, and yields its place.  A file that is there is emptied, one that is missing is made,
and a device stays what it is.  No file is opened at a path that ends with a slash, whatever its last name, once the
directory before that name is found. -/
def create (p : String) (t : FileTree) : Except FileFault Place × FileTree :=
  if p.endsWith "/" then
    (match t.locateSteps p (Path.steps p).dropLast with
      | .ok (.there _ .directory) => .error .isADirectory
      | .ok (.there _ _) => .error .notADirectory
      | .ok (.free _) => .error .notFound
      | .error e => .error e, t)
  else
    match t.locate p with
    | .ok (.there _ .directory) => (.error .isADirectory, t)
    | .ok (.there place (.device _)) => (.ok place, t)
    | .ok (.there place _) => (.ok place, t.put place (.text ""))
    | .ok (.free place) => (.ok place, t.put place (.text ""))
    | .error e => (.error e, t)

/-- Writes a text to an open file.  Where there is no room for all of it, the file keeps the bytes that find room. -/
def fill (place : Place) (s : String) (t : FileTree) : Except FileFault Unit × FileTree :=
  match t.node? place with
  | some (.device .sink) => (.ok (), t)
  | some (.device .full) => (if s = "" then .ok () else .error .noSpace, t)
  | _ =>
    match t.disk.room place with
    | some n =>
      if n < s.utf8ByteSize then (.error .noSpace, t.put place (.ofPart s n)) else (.ok (), t.put place (.text s))
    | none => (.ok (), t.put place (.text s))

/-- Puts a text into the file at a path. -/
def writeFile (p : String) (s : String) (t : FileTree) : Except FileFault Unit × FileTree :=
  match t.create p with
  | (.ok place, t') => t'.fill place s
  | (.error e, t') => (.error e, t')

/-- Makes one directory. -/
def makeDirectory (t : FileTree) (p : String) : Except FileFault FileTree := do
  match ← t.locate p with
  | .there _ _ => throw .exists
  | .free place => return t.put place .directory

/-- Makes a directory and those above it that are missing, at most `depth` of them.  What was made before a failure
stays. -/
def makeDirectoriesWithin : Nat → String → FileTree → Except FileFault Unit × FileTree
  | 0, p, t => (if p = "" then .ok () else .error .notFound, t)
  | depth + 1, p, t =>
    if p = "" then (.ok (), t)
    else match t.makeDirectory p with
      | .ok t' => (.ok (), t')
      | .error .notFound =>
        match Path.parent p with
        | none => (.error .notFound, t)
        | some above =>
          match makeDirectoriesWithin depth above t with
          | (.error e, t') => (.error e, t')
          | (.ok (), t') =>
            match t'.makeDirectory p with
            | .ok t'' => (.ok (), t'')
            | .error e => (if t'.isDirectory p then .ok () else .error e, t')
      | .error e => (if t.isDirectory p then .ok () else .error e, t)

/-- Makes a directory and those above it that are missing. -/
def makeDirectories (p : String) (t : FileTree) : Except FileFault Unit × FileTree :=
  makeDirectoriesWithin ((Path.names p).length + 1) p t

end FileTree
end VersionTags
