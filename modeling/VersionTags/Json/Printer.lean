import VersionTags.Json.Value
/-!
# Printing JSON

`pretty` prints a value over several lines, two blanks to a level; empty arrays and objects stay on one line.
`compact` prints it without any blank.
-/
namespace VersionTags.Json

/-- The escape of a character in a string. -/
def escaped (c : Char) : List Char :=
  if c = '"' then ['\\', '"']
  else if c = '\\' then ['\\', '\\']
  else if c = '\x08' then ['\\', 'b']
  else if c = '\x0c' then ['\\', 'f']
  else if c = '\n' then ['\\', 'n']
  else if c = '\r' then ['\\', 'r']
  else if c = '\t' then ['\\', 't']
  else if c.toNat < 0x20 then
    ['\\', 'u', '0', '0', (c.toNat / 16).digitChar, (c.toNat % 16).digitChar]
  else [c]

def quote (s : String) : String := String.ofList (['"'] ++ s.toList.flatMap escaped ++ ['"'])

mutual

def compact : Json → String
  | .null => "null"
  | .bool b => if b then "true" else "false"
  | .int n => toString n
  | .fraction t => t
  | .string s => quote s
  | .array js => "[" ++ ",".intercalate (compactItems js) ++ "]"
  | .object fs => "\x7b" ++ ",".intercalate (compactFields fs) ++ "\x7d"

def compactItems : List Json → List String
  | [] => []
  | j :: js => compact j :: compactItems js

def compactFields : List (String × Json) → List String
  | [] => []
  | (k, j) :: fs => (quote k ++ ":" ++ compact j) :: compactFields fs

end

/-- The items of an array or object on lines of their own, inside its brackets. -/
def block (openBracket closeBracket : String) (depth : Nat) (items : List String) : String :=
  let margin (n : Nat) := "\n" ++ String.ofList (List.replicate (2 * n) ' ')
  if items = [] then openBracket ++ closeBracket
  else
    openBracket ++ ",".intercalate (items.map fun i => margin (depth + 1) ++ i) ++ margin depth ++ closeBracket

mutual

/-- A value as it stands at a depth of nesting. -/
def prettyAt (depth : Nat) : Json → String
  | .null => "null"
  | .bool b => if b then "true" else "false"
  | .int n => toString n
  | .fraction t => t
  | .string s => quote s
  | .array js => block "[" "]" depth (prettyItems (depth + 1) js)
  | .object fs => block "\x7b" "\x7d" depth (prettyFields (depth + 1) fs)

def prettyItems (depth : Nat) : List Json → List String
  | [] => []
  | j :: js => prettyAt depth j :: prettyItems depth js

def prettyFields (depth : Nat) : List (String × Json) → List String
  | [] => []
  | (k, j) :: fs => (quote k ++ ": " ++ prettyAt depth j) :: prettyFields depth fs

end

def pretty (j : Json) : String := prettyAt 0 j

end VersionTags.Json
