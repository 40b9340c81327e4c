import VersionTags.Toml.Number
import VersionTags.Toml.Tree
/-!
# Reading configuration files

`Toml.read` reads a whole file: lines that are empty or comments, headers of tables, and pairs of a key and a value.
Values are texts, numbers, times, arrays, which may go over several lines, and tables written on one line.  Arrays and
tables are nested to a limit, and so are the parts of a key.
-/
namespace VersionTags.Toml

/-- The number of levels that values or keys do not reach. -/
def depthLimit : Nat := 80

/-- A key as a path and its last part. -/
def pathAndKey : List String → List String × String
  | [] => ([], "")
  | [k] => ([], k)
  | p :: rest =>
    let (ps, k) := pathAndKey rest
    (p :: ps, k)

/-- A key at the front, of a text that is not as long as `fuel`. -/
def takeKey (fuel : Nat) (cs : List Char) : Option ((List String × String) × List Char) := do
  let (parts, rest) ← Lexeme.key fuel cs
  if parts.length < depthLimit then some (pathAndKey parts, rest) else none

mutual

/-- A value at the front.  `depth` is the number of levels it may still open, and `fuel` is more than twice the length
of the text: every value and every comma takes a character and at most two calls. -/
def takeValue : Nat → Nat → List Char → Option (Toml × List Char)
  | 0, _, _ => none
  | fuel + 1, depth, cs =>
    match cs, depth with
    | '[' :: rest, depth + 1 => (takeItems fuel depth rest).map fun p => (.array p.1, p.2)
    | '[' :: _, 0 => none
    | '\x7b' :: rest, depth + 1 =>
      match Lexeme.skipBlanks rest with
      | '\x7d' :: rest' => some (.inlineTable [], rest')
      | rest' => (takePairs fuel depth [] rest').map fun p => (.inlineTable (Entries.toToml .inlineTable p.1), p.2)
    | '\x7b' :: _, 0 => none
    | '"' :: _, _ => (Lexeme.string cs).map fun p => (.string p.1, p.2)
    | '\'' :: _, _ => (Lexeme.string cs).map fun p => (.string p.1, p.2)
    | _, _ => Lexeme.scalar cs

/-- The items of an array up to its closing bracket; a comma may follow the last. -/
def takeItems : Nat → Nat → List Char → Option (List Toml × List Char)
  | 0, _, _ => none
  | fuel + 1, depth, cs =>
    match Lexeme.skipLines (fuel + 1) cs with
    | ']' :: rest => some ([], rest)
    | cs' =>
      match takeValue fuel depth cs' with
      | none => none
      | some (v, rest) =>
        match Lexeme.skipLines fuel rest with
        | ',' :: rest' => (takeItems fuel depth rest').map fun p => (v :: p.1, p.2)
        | ']' :: rest' => some ([v], rest')
        | _ => none

/-- The pairs of a table on one line up to its closing brace, added to the entries before them. -/
def takePairs : Nat → Nat → Entries → List Char → Option (Entries × List Char)
  | 0, _, _, _ => none
  | fuel + 1, depth, es, cs =>
    match takeKey (fuel + 1) cs with
    | some ((path, k), '=' :: rest) =>
      match takeValue fuel depth (Lexeme.skipBlanks rest) with
      | none => none
      | some (v, rest) =>
        match es.insertValue path k v with
        | none => none
        | some es' =>
          match Lexeme.skipBlanks rest with
          | ',' :: rest' => takePairs fuel depth es' rest'
          | '\x7d' :: rest' => some (es', rest')
          | _ => none
    | _ => none

end

/-- What has been read of a file: its tables, and the path of the table that was opened last. -/
structure Document where
  root : Entries
  current : List String

namespace Document

def empty : Document := ⟨[], []⟩

/-- Adds one line or what takes up several: a header, or a pair.  The text is not as long as `limit`. -/
def takeLine (limit : Nat) (d : Document) (cs : List Char) : Option (Document × List Char) :=
  match cs with
  | '[' :: '[' :: rest => do
    let ((path, k), rest) ← takeKey limit rest
    let rest ← Lexeme.literal ']' rest >>= Lexeme.literal ']' >>= Lexeme.endLine
    return (⟨← d.root.openListed path k, path ++ [k]⟩, rest)
  | '[' :: rest => do
    let ((path, k), rest) ← takeKey limit rest
    let rest ← Lexeme.literal ']' rest >>= Lexeme.endLine
    return (⟨← d.root.openTable path k, path ++ [k]⟩, rest)
  | _ => do
    let ((path, k), rest) ← takeKey limit cs
    let rest ← Lexeme.literal '=' rest
    let (v, rest) ← takeValue (2 * limit) (depthLimit - 1) (Lexeme.skipBlanks rest)
    let rest ← Lexeme.endLine rest
    return ({ d with root := ← d.root.insertInto d.current path k v }, rest)

/-- Adds all lines, at most `fuel` of them, of a text that is not as long as `limit`. -/
def takeLines (limit : Nat) : Nat → Document → List Char → Option Document
  | 0, _, _ => none
  | fuel + 1, d, cs =>
    match Lexeme.skipBlanks cs with
    | [] => some d
    | '#' :: rest => Lexeme.endLine ('#' :: rest) >>= takeLines limit fuel d
    | cs' =>
      match Lexeme.newline cs' with
      | some rest => takeLines limit fuel d rest
      | none => do
        let (d', rest) ← d.takeLine limit cs'
        takeLines limit fuel d' rest

end Document

/-- A mark of the byte order at the front of a text is no part of it. -/
def withoutMark : List Char → List Char
  | '\ufeff' :: rest => rest
  | cs => cs

/-- The entries of a configuration file. -/
def read (s : String) : Option (List (String × Toml)) :=
  let cs := withoutMark s.toList
  let limit := cs.length + 1
  (Document.takeLines limit limit Document.empty cs).map fun d => Entries.toToml .table d.root

end VersionTags.Toml
