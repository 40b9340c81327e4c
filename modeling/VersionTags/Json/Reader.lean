import VersionTags.Json.Value
/-!
# Reading JSON

`Json.read` reads one value that fills a text, blanks around it aside.  Every function takes its part from the front
of the characters and yields the rest; the depth of nesting is bounded by the length of the text.
-/
namespace VersionTags.Json

def isGap (c : Char) : Bool := c == ' ' || c == '\t' || c == '\n' || c == '\r'

def skip (cs : List Char) : List Char := cs.dropWhile isGap

def hexValue (c : Char) : Option Nat :=
  if c.isDigit then some (c.toNat - '0'.toNat)
  else if 'a' ≤ c ∧ c ≤ 'f' then some (c.toNat - 'a'.toNat + 10)
  else if 'A' ≤ c ∧ c ≤ 'F' then some (c.toNat - 'A'.toNat + 10)
  else none

/-- The number of four hexadecimal digits. -/
def hex4 (a b c d : Char) : Option Nat := do
  return (((← hexValue a) * 16 + (← hexValue b)) * 16 + (← hexValue c)) * 16 + (← hexValue d)

/-- The character of a code point, if it is one. -/
def charOf (n : Nat) : Option Char := if n.isValidChar then some (Char.ofNat n) else none

/-- The character a backslash and a letter stand for. -/
def shortEscape : Char → Option Char
  | '"' => some '"'
  | '\\' => some '\\'
  | '/' => some '/'
  | 'b' => some '\x08'
  | 'f' => some '\x0c'
  | 'n' => some '\n'
  | 'r' => some '\r'
  | 't' => some '\t'
  | _ => none

/-- Puts a character before the text that was read. -/
def consTo (c : Char) (r : Option (List Char × List Char)) : Option (List Char × List Char) :=
  r.map fun p => (c :: p.1, p.2)

/-- The text up to the closing quote, and what follows it. -/
def readText : List Char → Option (List Char × List Char)
  | [] => none
  | '"' :: rest => some ([], rest)
  | '\\' :: 'u' :: a :: b :: c :: d :: rest =>
    match hex4 a b c d with
    | none => none
    | some n =>
      if 0xD800 ≤ n ∧ n < 0xDC00 then
        match rest with
        | '\\' :: 'u' :: e :: f :: g :: h :: rest' =>
          match hex4 e f g h with
          | none => none
          | some m =>
            if 0xDC00 ≤ m ∧ m < 0xE000 then
              consTo (Char.ofNat (0x10000 + (n - 0xD800) * 0x400 + (m - 0xDC00))) (readText rest')
            else none
        | _ => none
      else
        match charOf n with
        | none => none
        | some x => consTo x (readText rest)
  | '\\' :: c :: rest =>
    match shortEscape c with
    | none => none
    | some x => consTo x (readText rest)
  | c :: rest => if c.toNat < 0x20 ∨ c = '\\' then none else consTo c (readText rest)

theorem readText_quote (rest : List Char) : readText ('"' :: rest) = some ([], rest) := readText.eq_2 rest

/-- Whether the characters are the digits of a whole number without needless zeros. -/
def isWhole : List Char → Bool
  | [] => false
  | ['0'] => true
  | '0' :: _ => false
  | _ => true

/-- The number at the front of a text. -/
def readNumber (cs : List Char) : Option (Json × List Char) := do
  let (negative, cs') := match cs with
    | '-' :: rest => (true, rest)
    | _ => (false, cs)
  let whole := cs'.takeWhile Char.isDigit
  let rest := cs'.dropWhile Char.isDigit
  if isWhole whole = false then none
  let (point, rest') ← match rest with
    | '.' :: more =>
      let ds := more.takeWhile Char.isDigit
      if ds = [] then none else some ('.' :: ds, more.dropWhile Char.isDigit)
    | _ => some ([], rest)
  let (power, rest'') ← match rest' with
    | c :: more =>
      if c = 'e' ∨ c = 'E' then
        let (sign, more') := match more with
          | '+' :: m => (['+'], m)
          | '-' :: m => (['-'], m)
          | _ => ([], more)
        let ds := more'.takeWhile Char.isDigit
        if ds = [] then none else some ([c] ++ sign ++ ds, more'.dropWhile Char.isDigit)
      else some ([], rest')
    | [] => some ([], rest')
  let n := Decimal.value whole
  if point = [] ∧ power = [] ∧ ¬(negative ∧ n = 0) then
    return (.int (if negative then -n else n), rest'')
  else
    return (.fraction (String.ofList ((if negative then ['-'] else []) ++ whole ++ point ++ power)), rest'')

mutual

/-- The value at the front of a text, blanks before it skipped. -/
def readValue : Nat → List Char → Option (Json × List Char)
  | 0, _ => none
  | fuel + 1, cs =>
    match skip cs with
    | 'n' :: 'u' :: 'l' :: 'l' :: rest => some (.null, rest)
    | 't' :: 'r' :: 'u' :: 'e' :: rest => some (.bool true, rest)
    | 'f' :: 'a' :: 'l' :: 's' :: 'e' :: rest => some (.bool false, rest)
    | '"' :: rest => (readText rest).map fun p => (.string (String.ofList p.1), p.2)
    | '[' :: rest =>
      match skip rest with
      | ']' :: rest' => some (.array [], rest')
      | _ => (readItems fuel rest).map fun p => (.array p.1, p.2)
    | '\x7b' :: rest =>
      match skip rest with
      | '\x7d' :: rest' => some (.object [], rest')
      | _ => (readFields fuel rest).map fun p => (.object p.1, p.2)
    | other => readNumber other

/-- The items of an array up to its closing bracket. -/
def readItems : Nat → List Char → Option (List Json × List Char)
  | 0, _ => none
  | fuel + 1, cs =>
    match readValue fuel cs with
    | none => none
    | some (j, rest) =>
      match skip rest with
      | ',' :: rest' => (readItems fuel rest').map fun p => (j :: p.1, p.2)
      | ']' :: rest' => some ([j], rest')
      | _ => none

/-- The fields of an object up to its closing brace. -/
def readFields : Nat → List Char → Option (List (String × Json) × List Char)
  | 0, _ => none
  | fuel + 1, cs =>
    match skip cs with
    | '"' :: rest =>
      match readText rest with
      | none => none
      | some (k, rest) =>
        match skip rest with
        | ':' :: rest =>
          match readValue fuel rest with
          | none => none
          | some (j, rest) =>
            match skip rest with
            | ',' :: rest' => (readFields fuel rest').map fun p => ((String.ofList k, j) :: p.1, p.2)
            | '\x7d' :: rest' => some ([(String.ofList k, j)], rest')
            | _ => none
        | _ => none
    | _ => none

end

theorem readValue_zero (cs : List Char) : readValue 0 cs = none := readValue.eq_1 cs

theorem readItems_zero (cs : List Char) : readItems 0 cs = none := readItems.eq_1 cs

theorem readFields_zero (cs : List Char) : readFields 0 cs = none := readFields.eq_1 cs

/-- The value a text denotes. -/
def read (s : String) : Option Json :=
  let cs := s.toList
  match readValue (2 * cs.length + 2) cs with
  | some (j, rest) => if skip rest = [] then some j else none
  | none => none

end VersionTags.Json
