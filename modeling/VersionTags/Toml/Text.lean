/-!
# Texts in configuration files

The lexical parts of a configuration file that hold text: blanks, line ends, comments, keys and the four kinds of
strings.  A basic string has escapes and a literal one has none; each may span lines between three quotes.  Every
function takes its part from the front of the characters and yields the rest.
-/
namespace VersionTags.Toml.Lexeme

def isBlank (c : Char) : Bool := c == ' ' || c == '\t'

def skipBlanks (cs : List Char) : List Char := cs.dropWhile isBlank

/-- Whether a character may stand in a comment or a literal string: no control but the tab. -/
def isPlain (c : Char) : Bool := c == '\t' || (decide (0x20 ≤ c.toNat) && c.toNat != 0x7F)

/-- What follows a line break at the front. -/
def newline : List Char → Option (List Char)
  | '\n' :: rest => some rest
  | '\r' :: '\n' :: rest => some rest
  | _ => none

/-- Skips a comment at the front, up to the end of its line. -/
def skipComment : List Char → List Char
  | '#' :: rest => rest.dropWhile isPlain
  | cs => cs

/-- Skips blanks and a comment, after which the line or the text has to end. -/
def endLine (cs : List Char) : Option (List Char) :=
  match skipComment (skipBlanks cs) with
  | [] => some []
  | rest => newline rest

/-- Skips blanks, line breaks and comments, `fuel` of them at most. -/
def skipLines : Nat → List Char → List Char
  | 0, cs => cs
  | fuel + 1, cs =>
    match cs with
    | [] => []
    | c :: rest =>
      if isBlank c then skipLines fuel rest
      else if c = '#' then skipLines fuel (rest.dropWhile isPlain)
      else match newline cs with
        | some rest' => skipLines fuel rest'
        | none => cs

/-! ## Strings -/

def hexDigit (c : Char) : Option Nat :=
  if c.isDigit then some (c.toNat - '0'.toNat)
  else if 'a' ≤ c ∧ c ≤ 'f' then some (c.toNat - 'a'.toNat + 10)
  else if 'A' ≤ c ∧ c ≤ 'F' then some (c.toNat - 'A'.toNat + 10)
  else none

/-- The character with the code point written in hexadecimal. -/
def hexChar (ds : List Char) : Option Char := do
  let n ← ds.foldlM (fun n c => do return 16 * n + (← hexDigit c)) 0
  if n.isValidChar then some (Char.ofNat n) else none

/-- The character an escape stands for, after its backslash. -/
def escape : List Char → Option (Char × List Char)
  | 'b' :: rest => some ('\x08', rest)
  | 't' :: rest => some ('\t', rest)
  | 'n' :: rest => some ('\n', rest)
  | 'f' :: rest => some ('\x0c', rest)
  | 'r' :: rest => some ('\r', rest)
  | '"' :: rest => some ('"', rest)
  | '\\' :: rest => some ('\\', rest)
  | 'u' :: a :: b :: c :: d :: rest => (hexChar [a, b, c, d]).map fun x => (x, rest)
  | 'U' :: a :: b :: c :: d :: e :: f :: g :: h :: rest => (hexChar [a, b, c, d, e, f, g, h]).map fun x => (x, rest)
  | _ => none

/-- Puts a character before a text that was read. -/
def before (c : Char) (r : Option (List Char × List Char)) : Option (List Char × List Char) :=
  r.map fun p => (c :: p.1, p.2)

/-- A basic string after its opening quote. -/
def basicText : Nat → List Char → Option (List Char × List Char)
  | 0, _ => none
  | fuel + 1, cs =>
    match cs with
    | '"' :: rest => some ([], rest)
    | '\\' :: rest => do
      let (c, rest') ← escape rest
      before c (basicText fuel rest')
    | c :: rest => if isPlain c then before c (basicText fuel rest) else none
    | [] => none

/-- A literal string after its opening quote. -/
def literalText : List Char → Option (List Char × List Char)
  | '\'' :: rest => some ([], rest)
  | c :: rest => if isPlain c then before c (literalText rest) else none
  | [] => none

/-- The end of a string between three quotes: three of them, with up to two more that belong to the string. -/
def closing (q : Char) (cs : List Char) : Option (List Char × List Char) :=
  let n := (cs.takeWhile (· == q)).length
  if 3 ≤ n then
    let own := min (n - 3) 2
    some (List.replicate own q, cs.drop (own + 3))
  else none

/-- Skips blanks and line breaks. -/
def skipGaps : List Char → List Char
  | '\r' :: '\n' :: rest => skipGaps rest
  | c :: rest => if isBlank c || c == '\n' then skipGaps rest else c :: rest
  | [] => []

/-- What follows a backslash that ends its line: the next character that is neither blank nor part of a line break. -/
def continued (cs : List Char) : Option (List Char) := (newline (skipBlanks cs)).map skipGaps

/-- A basic string over several lines, after its opening quotes. -/
def basicLines : Nat → List Char → Option (List Char × List Char)
  | 0, _ => none
  | fuel + 1, cs =>
    match closing '"' cs with
    | some r => some r
    | none =>
      match cs with
      | '\\' :: rest =>
        match continued rest with
        | some rest' => basicLines fuel rest'
        | none => do
          let (c, rest') ← escape rest
          before c (basicLines fuel rest')
      | c :: rest =>
        match newline cs with
        | some rest' => before '\n' (basicLines fuel rest')
        | none => if isPlain c then before c (basicLines fuel rest) else none
      | [] => none

/-- A literal string over several lines, after its opening quotes. -/
def literalLines : Nat → List Char → Option (List Char × List Char)
  | 0, _ => none
  | fuel + 1, cs =>
    match closing '\'' cs with
    | some r => some r
    | none =>
      match cs with
      | c :: rest =>
        match newline cs with
        | some rest' => before '\n' (literalLines fuel rest')
        | none => if isPlain c then before c (literalLines fuel rest) else none
      | [] => none

/-- A line break right after the opening quotes does not belong to the string. -/
def afterOpening (cs : List Char) : List Char := (newline cs).getD cs

/-- A string of any kind. -/
def string (cs : List Char) : Option (String × List Char) :=
  let fuel := cs.length + 1
  let found := match cs with
    | '"' :: '"' :: '"' :: rest => basicLines fuel (afterOpening rest)
    | '\'' :: '\'' :: '\'' :: rest => literalLines fuel (afterOpening rest)
    | '"' :: rest => basicText fuel rest
    | '\'' :: rest => literalText rest
    | _ => none
  found.map fun p => (String.ofList p.1, p.2)

/-! ## Keys -/

/-- Whether a character may stand in a key without quotes. -/
def isBare (c : Char) : Bool := c.isAlphanum || c == '-' || c == '_'

/-- One part of a key: bare, or a string on one line. -/
def keyPart (cs : List Char) : Option (String × List Char) :=
  match cs with
  | '"' :: rest => (basicText (cs.length + 1) rest).map fun p => (String.ofList p.1, p.2)
  | '\'' :: rest => (literalText rest).map fun p => (String.ofList p.1, p.2)
  | _ =>
    let name := cs.takeWhile isBare
    if name = [] then none else some (String.ofList name, cs.dropWhile isBare)

/-- A key: parts separated by points, blanks allowed around each. -/
def key : Nat → List Char → Option (List String × List Char)
  | 0, _ => none
  | fuel + 1, cs => do
    let (k, rest) ← keyPart (skipBlanks cs)
    match skipBlanks rest with
    | '.' :: rest' =>
      let (ks, rest'') ← key fuel rest'
      return (k :: ks, rest'')
    | rest' => return ([k], rest')

end VersionTags.Toml.Lexeme
