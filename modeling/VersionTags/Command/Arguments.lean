import VersionTags.Command.Basic
import VersionTags.Decimal
/-!
# Arguments of the command line

The arguments are taken one after the other.  Before the command only the options of every command may stand, and after
it these and its own.  An option is written with two dashes and its name or with one dash and its letter, letters
without a value may be joined, and a value follows in an argument of its own or, after `=` or a letter, in the same.
An option stands at most once before the command and once after it, where it overrides.  After `--` come no options.

A value of its own may not start with a dash, except the number of a tenant and the dash alone.
-/
namespace VersionTags

/-- The options. -/
inductive Flag where
  | verbose
  | config
  | database
  | tenant
  | format
  | force
  | author
  | start
  | count
  | sortBy
  | sortOrder
  | tag
  deriving DecidableEq, Repr

/-- What may be given as a value. -/
inductive ValueKind where
  | none
  | word
  | path
  | tenant
  | number
  | format
  deriving DecidableEq, Repr

def Format.ofText : String → Option Format
  | "text" => some .text
  | "json" => some .json
  | _ => none

def ValueKind.accepts : ValueKind → String → Bool
  | .none, _ => true
  | .word, _ => true
  | .path, s => s != ""
  | .tenant, s => (Decimal.readInt32 s).isSome
  | .number, s => (Decimal.readInt64 s).isSome
  | .format, s => (Format.ofText s).isSome

namespace Flag

def name : Flag → String
  | .verbose => "verbose"
  | .config => "config"
  | .database => "database"
  | .tenant => "tenant"
  | .format => "format"
  | .force => "force"
  | .author => "author"
  | .start => "start"
  | .count => "count"
  | .sortBy => "sort-by"
  | .sortOrder => "sort-order"
  | .tag => "tag"

def letter : Flag → Option Char
  | .verbose => some 'v'
  | .config => some 'c'
  | .database => some 'd'
  | .tenant => some 't'
  | .format => some 'f'
  | .author => some 'a'
  | _ => none

def kind : Flag → ValueKind
  | .verbose => .none
  | .force => .none
  | .config => .path
  | .database => .path
  | .tenant => .tenant
  | .format => .format
  | .start => .number
  | .count => .number
  | _ => .word

/-- The options of every command. -/
def common : List Flag := [.verbose, .config, .database, .tenant, .format]

end Flag

/-- What a command takes: its own options, its operands in their order, and whether the last of them may be repeated. -/
structure Signature where
  name : String
  flags : List Flag
  operands : List ValueKind
  repeats : Bool
  deriving DecidableEq, Repr

namespace Signature

def all : List Signature :=
  [⟨"init", [.force], [], false⟩,
    ⟨"add", [.author], [.number, .word], false⟩,
    ⟨"copy", [], [.number, .number], false⟩,
    ⟨"tags", [], [.number], false⟩,
    ⟨"exists", [.author], [.number, .word], false⟩,
    ⟨"count", [], [.number, .word], false⟩,
    ⟨"counts", [.start, .count, .sortBy, .sortOrder], [.number], false⟩,
    ⟨"taggings", [.tag, .author], [.number], false⟩,
    ⟨"tagging", [], [.number], false⟩,
    ⟨"paths", [], [.word], true⟩,
    ⟨"remove", [.author], [.number, .word], false⟩,
    ⟨"stats", [], [], false⟩]

/-- What asks for help in place of a command. -/
def helpName : String := "help"

/-- What the operand with the given index may be. -/
def operand? (s : Signature) (i : Nat) : Option ValueKind :=
  match s.operands[i]? with
  | some k => some k
  | none => if s.repeats then s.operands.getLast? else none

end Signature

/-- Why the arguments are no invocation. -/
inductive Stop where
  /-- They are not understood. -/
  | usage
  /-- They ask how the program is used. -/
  | help
  /-- They ask for its version. -/
  | version
  deriving DecidableEq, Repr

/-- What has been taken of the arguments. -/
structure Scan where
  command : Option Signature
  /-- The options before the command, and their values. -/
  outer : List (Flag × String)
  /-- The options after the command, and their values. -/
  inner : List (Flag × String)
  operands : List String
  /-- An option that still needs its value. -/
  pending : Option Flag
  /-- No options follow. -/
  literal : Bool
  /-- The words after `help`, if it was given for a command. -/
  topics : Option (List String)
  deriving DecidableEq, Repr

namespace Scan

def empty : Scan := ⟨none, [], [], [], none, false, none⟩

/-- The options that may stand here. -/
def flags (s : Scan) : List Flag :=
  match s.command with
  | some c => c.flags ++ Flag.common
  | none => Flag.common

/-- Takes an option with its value. -/
def give (s : Scan) (f : Flag) (v : String) : Except Stop Scan :=
  let here := if s.command.isSome then s.inner else s.outer
  if (here.lookup f).isSome ∨ f.kind.accepts v = false then .error .usage
  else if s.command.isSome then .ok { s with inner := here ++ [(f, v)] }
  else .ok { s with outer := here ++ [(f, v)] }

/-- Takes an option, with its value if that is in the same argument. -/
def option (s : Scan) (f : Flag) (v : Option String) : Except Stop Scan :=
  match f.kind, v with
  | .none, none => s.give f ""
  | .none, some _ => .error .usage
  | _, none => .ok { s with pending := some f }
  | _, some v => s.give f v

/-- Takes an argument with two dashes, which are left out here. -/
def long (s : Scan) (cs : List Char) : Except Stop Scan :=
  let name := String.ofList (cs.takeWhile (· != '='))
  let value := match cs.dropWhile (· != '=') with
    | _ :: v => some (String.ofList v)
    | [] => none
  if name = "help" then .error (if value.isNone then .help else .usage)
  else if name = "version" ∧ s.command.isNone then .error (if value.isNone then .version else .usage)
  else
    match s.flags.find? fun f => f.name == name with
    | some f => s.option f value
    | none => .error .usage

/-- Takes the letters of an argument with one dash. -/
def letters (s : Scan) : List Char → Except Stop Scan
  | [] => .ok s
  | c :: cs =>
    if c = 'h' then .error .help
    else if c = 'V' ∧ s.command.isNone then .error .version
    else
      match s.flags.find? fun f => f.letter == some c with
      | none => .error .usage
      | some f =>
        if f.kind = .none then do
          let s' ← s.give f ""
          s'.letters cs
        else
          match cs with
          | [] => s.option f none
          | '=' :: v => s.option f (some (String.ofList v))
          | v => s.option f (some (String.ofList v))

/-- Takes an argument that is no option: the command, or an operand of it. -/
def word (s : Scan) (a : String) : Except Stop Scan :=
  match s.command with
  | none =>
    if a = Signature.helpName then .ok { s with topics := some [] }
    else
      match Signature.all.find? fun c => c.name == a with
      | some c => .ok { s with command := some c }
      | none => .error .usage
  | some c =>
    match c.operand? s.operands.length with
    | some k => if k.accepts a then .ok { s with operands := s.operands ++ [a] } else .error .usage
    | none => .error .usage

/-- Takes one argument. -/
def take (s : Scan) (a : String) : Except Stop Scan :=
  match s.topics, s.pending with
  | some ts, _ => .ok { s with topics := some (ts ++ [a]) }
  | none, some f =>
    if a = "-" ∨ a.startsWith "-" = false ∨ f.kind = .tenant then { s with pending := none }.give f a
    else .error .usage
  | none, none =>
    if s.literal then s.word a
    else if a = "--" then
      if s.command.isSome then .ok { s with literal := true } else .error .usage
    else if a.startsWith "--" then s.long (a.toList.drop 2)
    else if a.startsWith "-" ∧ a ≠ "-" then s.letters (a.toList.drop 1)
    else s.word a

/-- The value of an option: the one after the command, or else the one before it. -/
def value (s : Scan) (f : Flag) : Option String :=
  match s.inner.lookup f with
  | some v => some v
  | none => s.outer.lookup f

/-- The number given with an option. -/
def number (s : Scan) (f : Flag) : Option Int := s.value f >>= Decimal.readInt64

/-- The command with its operands and options, if none is missing. -/
def command? (s : Scan) : Option Command := do
  match (← s.command).name, s.operands with
  | "init", [] => return .init (s.value .force).isSome
  | "add", [v, t] => return .request (.add (← Decimal.readInt64 v) t (← s.value .author))
  | "copy", [v, w] => return .request (.copy (← Decimal.readInt64 v) (← Decimal.readInt64 w))
  | "tags", [v] => return .request (.tags (← Decimal.readInt64 v))
  | "exists", [v, t] => return .request (.exists (← Decimal.readInt64 v) t (← s.value .author))
  | "count", [v, t] => return .request (.count (← Decimal.readInt64 v) t)
  | "counts", [v] =>
    return .request (.counts (← Decimal.readInt64 v) (s.number .start) (s.number .count)
      ((s.value .sortBy).getD "") ((s.value .sortOrder).getD ""))
  | "taggings", [v] =>
    match s.value .tag, s.value .author with
    | some t, a => return .request (.taggingsNamed (← Decimal.readInt64 v) t (.ofOption a))
    | none, none => return .request (.taggings (← Decimal.readInt64 v))
    | none, some _ => none
  | "tagging", [i] => return .request (.tagging (← Decimal.readInt64 i))
  | "paths", t :: ts => return .request (.paths (t :: ts))
  | "remove", [v, t] =>
    match s.value .author with
    | some a => return .request (.removeBy (← Decimal.readInt64 v) t a)
    | none => return .request (.remove (← Decimal.readInt64 v) t)
  | "stats", [] => return .request .stats
  | _, _ => none

/-- Whether help can be given on the words after `help`: they are none, or name a command or help itself. -/
def isTopic : List String → Bool
  | [] => true
  | [t] => t == Signature.helpName || Signature.all.any fun c => c.name == t
  | _ => false

/-- The invocation, once all arguments are taken. -/
def finish (s : Scan) : Except Stop Invocation :=
  match s.topics, s.pending, s.command? with
  | some ts, _, _ => .error (if isTopic ts then .help else .usage)
  | none, none, some c =>
    .ok ⟨(s.value .verbose).isSome, s.value .config, s.value .database, s.value .tenant >>= Decimal.readInt32,
      (s.value .format >>= Format.ofText).getD .text, c⟩
  | _, _, _ => .error .usage

end Scan

/-- The invocation that the arguments denote. -/
def Invocation.ofArguments (args : List String) : Except Stop Invocation :=
  args.foldlM Scan.take Scan.empty >>= Scan.finish

end VersionTags
