import VersionTags.Command.Arguments
import VersionTags.Command.Log
import VersionTags.Command.Output
import VersionTags.Config.File
import VersionTags.Json.Printer
import VersionTags.Report
import VersionTags.Session
import VersionTags.Store.Open
/-!
# Running commands

`Request.lines` answers a request from an open store.  `Invocation.perform` does all that an invocation asks for on a
file tree: it loads the configuration, finds the database, opens it and answers the request, or writes a configuration
file.  `runProgram` starts from the arguments and ends with an exit code and what is printed.
-/
namespace VersionTags

/-- What a run takes from its surroundings. -/
structure Surroundings where
  /-- Remarks are left out. -/
  quiet : Bool
  theme : Theme
  /-- The log has color. -/
  coloredLog : Bool
  /-- The reading of the clock. -/
  now : Time.Instant
  deriving DecidableEq

/-- Whether the value of a variable asks for quiet. -/
def asksForQuiet (value : String) : Bool :=
  value == "1" || String.ofList (value.toList.map Char.toLower) == "true"

/-- The answer to a request: lines, that a version has a new tag, or that there is no such tag. -/
inductive Reply where
  | lines (ls : List Line)
  | tagged (v : Version) (tag : String) (id : TagId)
  | noTagging (id : TagId)
  deriving DecidableEq, Repr

namespace Request

/-- A value as lines of JSON. -/
def jsonLines (j : Json) : List Line := [.answer j.pretty]

/-- The size of a page when only its start is given. -/
def wholePage : Int := 4294967295

/-- The page that the options ask for. -/
def pageRequest (start size : Option Int) (sortBy sortOrder : String) : Except Error PageRequest :=
  if start = none ∧ size = none ∧ sortBy = "" ∧ sortOrder = "" then .ok .unpaginated
  else (Page.ofRaw (start.getD 1) (size.getD wholePage) sortBy sortOrder).map .ofPage

def tagLines (theme : Theme) (v : Version) : Format → List String → List Line
  | .json, names => jsonLines (.array (names.map .string))
  | .text, [] => [.answer s!"{Icon.nothing} No tags on version {v}."]
  | .text, names => names.map fun n => .answer (Icon.tag ++ " " ++ theme.style .tag n)

def existsLines (theme : Theme) (v : Version) (tag author : String) : Format → Bool → List Line
  | .json, found => jsonLines (.object [("exists", .bool found)])
  | .text, true => [theme.success s!"{author} tagged version {v} with '{tag}'"]
  | .text, false => [.answer s!"{Icon.cross} {author} has not tagged version {v} with '{tag}'"]

def countLines (theme : Theme) (tag : String) : Format → Nat → List Line
  | .json, n => jsonLines (.object [("count", .int n), ("tag", .string tag)])
  | .text, n => [theme.summary tag (toString n)]

def countsLines (theme : Theme) : Format → List TagCount → Option Nat → List Line
  | .json, cs, total =>
    jsonLines (.object [("tags", .array (cs.map TagCount.toJson)), ("total", Json.ofOption (fun n => .int n) total)])
  | .text, cs, total => .answer (Report.counts cs) :: total.toList.map fun n => theme.info "Total" (toString n)

def taggingsLines : Format → List Tagging → List Line
  | .json, ts => jsonLines (.array (ts.map Tagging.toJson))
  | .text, [] => [.answer s!"{Icon.nothing} No taggings found."]
  | .text, ts => [.answer (Report.taggings ts)]

def taggingLines (theme : Theme) : Format → Tagging → List Line
  | .json, t => jsonLines t.toJson
  | .text, t =>
    [theme.status Icon.tag "Tag" t.name, theme.status Icon.person "Author" t.author,
      theme.status Icon.page "Tagged" t.taggedAt.offsetText,
      theme.status Icon.link "Path" (match t.path with
        | some p => theme.style .path p
        | none => theme.style .muted "unresolved")]

def pathsLines (theme : Theme) (tags : List String) : Format → List String → List Line
  | .json, ps => jsonLines (.array (ps.map .string))
  | .text, [] => [.answer (Icon.nothing ++ " No resources carry " ++ ", ".intercalate tags ++ ".")]
  | .text, ps =>
    theme.heading Icon.search ("Resources tagged " ++ " or ".intercalate tags) ::
      ps.map fun p => .answer ("  " ++ theme.style .path p)

def removedLines (theme : Theme) (tag : String) (rows : Nat) : List Line :=
  [theme.status Icon.removal "Removed" (s!"{rows} tag rows " ++ theme.style .dim s!"({tag})")]

def statsLines (theme : Theme) (strategy : KeyStrategy) : Format → Stats → List Line
  | .json, s => jsonLines s.toJson
  | .text, s =>
    [theme.heading Icon.statistics "Regtags Statistics", theme.status Icon.database "Key strategy" strategy.name] ++
      theme.partTitle "Rows" ++ [.answer (Report.stats s)]

/-- Answers a request. -/
def answer (x : Surroundings) (format : Format) (s : Store) : Request → Operation Reply
  | .add v tag author => do
    return .tagged v tag (← s.addTag x.now tag v author)
  | .copy source target => do
    s.copyTags source target
    let n := (← s.tags target).length
    return .lines [x.theme.status Icon.copy "Copied" s!"version {source} -> {target} ({n} tags on target)"]
  | .tags v => do return .lines (tagLines x.theme v format (← s.tags v))
  | .exists v tag author => do return .lines (existsLines x.theme v tag author format (← s.hasTag tag v author))
  | .count v tag => do return .lines (countLines x.theme tag format (← s.countTag v tag))
  | .counts v start size sortBy sortOrder => do
    let (rows, request) ← s.tagCounts v (← pageRequest start size sortBy sortOrder)
    return .lines (countsLines x.theme format rows request.rowCount)
  | .taggings v => do return .lines (taggingsLines format (← s.taggings v))
  | .taggingsNamed v tag author => do return .lines (taggingsLines format (← s.taggingsNamed v tag author))
  | .tagging id => do
    match ← s.taggingById id with
    | some t => return .lines (taggingLines x.theme format t)
    | none => return .noTagging id
  | .paths names => do return .lines (pathsLines x.theme names format (← s.pathsWithAny names))
  | .remove v tag => do return .lines (removedLines x.theme tag (← s.removeTag v tag))
  | .removeBy v tag author => do return .lines (removedLines x.theme tag (← s.removeTagBy v tag author))
  | .stats => do return .lines (statsLines x.theme s.strategy format (← s.stats))

end Request

/-- What is done on a file tree: it ends with a value or an error, and the tree stays as it was left. -/
abbrev Job (α : Type) := ExceptT Error (StateM FileTree) α

namespace Invocation

/-- Does what changes the tree even when it fails. -/
def doing {α : Type} (f : FileTree → Except Error α × FileTree) : Job α := ExceptT.mk fun t => f t

/-- The path of the database: the one given, or else the one of the configuration, or else the usual one. -/
def databasePath (i : Invocation) (c : Config) : String :=
  match i.database, c.database with
  | some p, _ => p
  | none, some p => p
  | none, none => Config.databasePathIn "."

/-- The store of an invocation on an open database. -/
def store (i : Invocation) (c : Config) (l : Locator) : Store :=
  ⟨0, i.tenant.getD c.tenantId, c.strategy, c.paginated, [], l, .map⟩

/-- Answers a request from the database that the invocation and the configuration name. -/
def serve (i : Invocation) (x : Surroundings) (configPath : String) (r : Request) : Job Reply := do
  let c := (← Config.load (← get) configPath).getD Config.default
  let path := i.databasePath c
  doing (Config.ensureDirectory path)
  let l ← c.locator
  let database ← doing (OpenDatabase.openAt path)
  if maxWait < c.wait then throw .waitTooLong
  doing (database.use (r.answer x i.format (i.store c l)))

/-- Writes the configuration that names the usual database. -/
def writeConfig (x : Surroundings) (configPath : String) (force : Bool) : Job Reply := do
  doing (Config.write configPath { Config.default with database := some (Config.databasePathIn ".") } force)
  return .lines [x.theme.success s!"Wrote {configPath}"]

/-- Does what an invocation asks for. -/
def perform (i : Invocation) (x : Surroundings) : Job Reply :=
  let configPath := i.config.getD Config.defaultPath
  match i.command with
  | .init force => writeConfig x configPath force
  | .request r => i.serve x configPath r

end Invocation

/-- What is logged of a reply or an error. -/
def Event.ofReply : Except Error Reply → List Event
  | .ok (.tagged v tag id) => [.added tag id v]
  | .error (.storage task f) => [.failed task f]
  | _ => []

/-- The lines of the log, with details if they are asked for. -/
def Event.lines (x : Surroundings) (verbose : Bool) (es : List Event) : List String :=
  (es.filter fun e => verbose || !e.isDetail).map (Event.line x.coloredLog x.now)

/-- How a reply or an error ends the run. -/
def Outcome.ofReply (x : Surroundings) : Except Error Reply → Outcome
  | .ok (.lines ls) => ⟨0, ls.filterMap (Line.shown x.quiet), []⟩
  | .ok (.tagged v tag _) =>
    ⟨0, ([x.theme.success s!"Tagged version {v} with '{tag}'"]).filterMap (Line.shown x.quiet), []⟩
  | .ok (.noTagging id) => ⟨2, [], [x.theme.warningText s!"No tagging with id {id}"]⟩
  | .error .waitTooLong => ⟨101, [], [Error.message .waitTooLong]⟩
  | .error e => ⟨1, [], [x.theme.errorText e.chain]⟩

/-- How the program is used. -/
def usage : String := "usage: regtags [options] " ++ "|".intercalate (Signature.all.map Signature.name) ++ " [operands]"

def versionText : String := "regtags 0.1.0"

def Outcome.ofStop : Stop → Outcome
  | .usage => ⟨2, [], [usage]⟩
  | .help => ⟨0, [usage], []⟩
  | .version => ⟨0, [versionText], []⟩

/-- Runs the program on a file tree. -/
def runProgram (x : Surroundings) (args : List String) (t : FileTree) : Outcome × FileTree :=
  match Invocation.ofArguments args with
  | .error s => (.ofStop s, t)
  | .ok i =>
    let (r, t') := (i.perform x).run.run t
    let o := Outcome.ofReply x r
    ({ o with err := Event.lines x i.verbose (Event.ofReply r) ++ o.err }, t')

end VersionTags
