import Std.Time.DateTime
import VersionTags.Command.Run
import VersionTags.Storage.Snapshot
import VersionTags.Time.Epoch
/-!
# The program

Reads the arguments, the surroundings and the files an invocation can touch into a file tree, runs the program on it,
and writes what changed back.
-/
namespace VersionTags

/-- The node that the bytes of a file are. -/
def Node.ofBytes (bytes : ByteArray) : Node :=
  match String.fromUTF8? bytes with
  | none => .binary bytes.toList
  | some s =>
    match Database.ofSnapshot s with
    | some db => .database db
    | none => .text s

/-- The node at a place of the machine, if there is one. -/
def observe (place : Place) : IO (Option Node) := do
  if let some d := FileTree.devices.lookup place then return some (.device d)
  let path := (← IO.currentDir) / place
  if ← path.isDir then return some .directory
  try return some (.ofBytes (← IO.FS.readBinFile path))
  catch _ => return none

/-- Adds the nodes that steps from a place lead through. -/
def observeSteps (t : FileTree) (place : Place) : List String → IO FileTree
  | [] => return t
  | n :: ns => do
    let next := FileTree.next place n
    let t' ← match t.node? next with
      | some _ => pure t
      | none => match ← observe next with
        | some node => pure (t.put next node)
        | none => pure t
    observeSteps t' next ns

/-- Adds the nodes that a path leads through. -/
def observePath (t : FileTree) (path : String) : IO FileTree :=
  observeSteps t (if Path.isAbsolute path then "" else t.current) (Path.steps path)

/-- The paths that opening a database can touch, from the text that names it. -/
def databasePaths (text : String) : List String :=
  match Address.read text with
  | .ok a => text :: ["", "-journal", "-wal", "-shm"].map (a.path ++ ·)
  | .error _ => [text]

/-- The tree of all that an invocation can touch. -/
def observeAll (i : Invocation) : IO FileTree := do
  let steps := Path.steps (← IO.currentDir).toString
  let start ← observeSteps { nodes := ∅, current := steps.foldl FileTree.next "" } "" steps
  let configPath := i.config.getD Config.defaultPath
  let t ← observePath start configPath
  let c := match Config.load t configPath with
    | .ok (some c) => c
    | _ => Config.default
  (databasePaths (i.databasePath c)).foldlM observePath t

/-- Puts a node where the tree has it. -/
def store (place : Place) : Node → IO Unit
  | .directory => IO.FS.createDir place
  | .text s => IO.FS.writeFile place s
  | .binary bytes => IO.FS.writeBinFile place ⟨bytes.toArray⟩
  | .database db => IO.FS.writeFile place db.snapshot
  | .device _ => pure ()

def surroundings : IO Surroundings := do
  let quiet := ((← IO.getEnv "REGTAGS_QUIET").map asksForQuiet).getD false
  let noColor ← IO.getEnv "NO_COLOR"
  let colored := noColor.isNone && (← (← IO.getStdout).isTty)
  let count := (← Std.Time.Timestamp.now).toNanosecondsSinceUnixEpoch.val.toNat
  match Time.Instant.ofCount count with
  | some now => return ⟨quiet, ⟨colored⟩, (noColor.getD "").isEmpty, now⟩
  | none => throw (IO.userError "the clock is out of range")

def runMain (args : List String) : IO UInt32 := do
  let t ← match Invocation.ofArguments args with
    | .ok i => observeAll i
    | .error _ => pure FileTree.fresh
  let (o, t') := runProgram (← surroundings) args t
  for (place, node) in t'.nodes.toList.mergeSort fun a b => decide (a.1 ≤ b.1) do
    if t.node? place ≠ some node then store place node
  for (place, _) in t.nodes do
    if (t'.node? place).isNone then IO.FS.removeFile place
  IO.print (linesText o.out)
  IO.eprint (linesText o.err)
  return o.code.toUInt32

end VersionTags

def main (args : List String) : IO UInt32 := VersionTags.runMain args
