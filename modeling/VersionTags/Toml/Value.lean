/-!
# Values of configuration files

The values a configuration file can hold.  Of a floating-point number it is only kept that it is one, since nothing in a
configuration is.  A date or time is kept as its text; taken for a table it has that text as its only entry, under a
key of its own.
-/
namespace VersionTags

inductive Toml where
  | string (s : String)
  | integer (n : Int)
  | float
  | boolean (b : Bool)
  | dateTime (text : String)
  | array (items : List Toml)
  /-- A table of several lines, under a header or made by the path of a key. -/
  | table (entries : List (String × Toml))
  /-- A table between braces. -/
  | inlineTable (entries : List (String × Toml))

namespace Toml

def asString : Toml → Option String
  | .string s => some s
  | _ => none

def asInteger : Toml → Option Int
  | .integer n => some n
  | _ => none

def asBoolean : Toml → Option Bool
  | .boolean b => some b
  | _ => none

/-- The key under which a date or time stands in the table it is taken for. -/
def dateTimeKey : String := "$__toml_private_datetime"

/-- The entries of a table. -/
def entries : Toml → Option (List (String × Toml))
  | .table es => some es
  | .inlineTable es => some es
  | .dateTime text => some [(dateTimeKey, .string text)]
  | _ => none

/-- The members of a record with the given fields: a table, with any other entries, or an array of the fields in their
order, which may be shorter or longer. -/
def members (names : List String) : Toml → Option (List (Option Toml))
  | .array ts => some ((List.range names.length).map fun i => ts[i]?)
  | t => t.entries.map fun es => names.map fun n => es.lookup n

/-- Whether a value is an empty table or array. -/
def isVoid : Toml → Bool
  | .table [] => true
  | .inlineTable [] => true
  | .array [] => true
  | _ => false

/-- Reads one of a few words: a string, or a table with the word as its first key and nothing under it.  A table
between braces has no other key. -/
def asWord {α : Type} (words : List (String × α)) : Toml → Option α
  | .string s => words.lookup s
  | .table ((s, t) :: _) => if t.isVoid then words.lookup s else none
  | .inlineTable [(s, t)] => if t.isVoid then words.lookup s else none
  | _ => none

/-- Reads a field that may be missing. -/
def optional {α : Type} (value : Toml → Option α) : Option Toml → Option (Option α)
  | none => some none
  | some t => (value t).map some

/-- Reads a field that has a default. -/
def orDefault {α : Type} (default : α) (value : Toml → Option α) : Option Toml → Option α
  | none => some default
  | some t => value t

end Toml
end VersionTags
