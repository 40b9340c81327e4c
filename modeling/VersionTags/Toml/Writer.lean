import VersionTags.Toml.Text
/-!
# Writing texts into configuration files

How a text is written as a value or a key, in the plainest form that can hold it.  A value is a basic string if it
needs no escape; if it needs one, a literal string; then either of them over several lines; and only then a basic
string with escapes.  A key is bare if it can be, and never goes over several lines.

A tab does not count as an escape when the form is chosen, but between double quotes it is always written as one.
-/
namespace VersionTags.Toml.Writer

/-- Whether a character is a control other than the tab and the line feed. -/
def isControl (c : Char) : Bool := !(Lexeme.isPlain c || c == '\n')

/-- The length of the longest run of a character. -/
def longestRun (q : Char) (cs : List Char) : Nat :=
  (cs.foldl (fun (acc : Nat × Nat) c =>
    let now := if c = q then acc.2 + 1 else 0
    (max acc.1 now, now)) (0, 0)).1

/-- Whether a text can stand between double quotes without an escape, tabs aside. -/
def isBasic (cs : List Char) : Bool := !cs.any fun c => isControl c || c == '\\' || c == '"' || c == '\n'

/-- Whether a text can stand between single quotes as it is. -/
def isLiteral (cs : List Char) : Bool := !cs.any fun c => isControl c || c == '\'' || c == '\n'

/-- Whether a text can stand between three double quotes without an escape, tabs aside. -/
def isBasicLines (cs : List Char) : Bool :=
  (!cs.any fun c => isControl c || c == '\\') && decide (longestRun '"' cs ≤ 2)

/-- Whether a text can stand between three single quotes as it is. -/
def isLiteralLines (cs : List Char) : Bool := (!cs.any isControl) && decide (longestRun '\'' cs ≤ 2)

/-- A digit of a number to the base 16. -/
def hexDigit (d : Nat) : Char := if d < 10 then Char.ofNat ('0'.toNat + d) else Char.ofNat ('A'.toNat + (d - 10))

/-- A character as an escape, or as it is. -/
def escaped (c : Char) : List Char :=
  if c = '\x08' then ['\\', 'b']
  else if c = '\t' then ['\\', 't']
  else if c = '\n' then ['\\', 'n']
  else if c = '\x0c' then ['\\', 'f']
  else if c = '\r' then ['\\', 'r']
  else if c = '"' then ['\\', '"']
  else if c = '\\' then ['\\', '\\']
  else if Lexeme.isPlain c then [c]
  else ['\\', 'u', '0', '0', hexDigit (c.toNat / 16), hexDigit (c.toNat % 16)]

/-- The characters of a text over several lines, where line feeds stand as they are and of three double quotes in a row
only the third is escaped.  `run` is the number of double quotes just written. -/
def escapedLines : Nat → List Char → List Char
  | _, [] => []
  | run, c :: rest =>
    if c = '"' then
      if run < 2 then '"' :: escapedLines (run + 1) rest else '\\' :: '"' :: escapedLines 0 rest
    else if c = '\n' then '\n' :: escapedLines 0 rest
    else escaped c ++ escapedLines 0 rest

/-- A text between quotes, on a line of its own if it has several. -/
def between (quotes : String) (cs text : List Char) : String :=
  quotes ++ (if cs.contains '\n' then "\n" else "") ++ String.ofList text ++ quotes

/-- A text as a basic string on one line. -/
def basic (cs : List Char) : String := "\"" ++ String.ofList (cs.flatMap escaped) ++ "\""

/-- A text as a value. -/
def value (s : String) : String :=
  let cs := s.toList
  if isBasic cs then basic cs
  else if isLiteral cs then "'" ++ s ++ "'"
  else if isBasicLines cs then between "\"\"\"" cs (escapedLines 0 cs)
  else if isLiteralLines cs then between "'''" cs cs
  else if cs.contains '\n' then between "\"\"\"" cs (escapedLines 0 cs)
  else basic cs

/-- A text as a key. -/
def key (s : String) : String :=
  let cs := s.toList
  if cs ≠ [] ∧ cs.all Lexeme.isBare then s
  else if isBasic cs then basic cs
  else if isLiteral cs then "'" ++ s ++ "'"
  else basic cs

/-- One line with a key and what is written for its value. -/
def pair (k v : String) : String := k ++ " = " ++ v ++ "\n"

end VersionTags.Toml.Writer
