import VersionTags.Text.CaseTable
/-!
# Lowercase

`lowercase` is the full lowercase mapping of Unicode without language rules.  Two characters are special: `İ` becomes
an `i` and a combining dot, and a capital sigma becomes `ς` at the end of a word and `σ` elsewhere.  A sigma ends a
word when, ignoring what is case-ignorable, a cased character stands before it and none follows.

Names are compared by their lowercase forms (`sameFold`), so `ß` and `SS` stay different.
-/
namespace VersionTags.Text

def isCased (c : Char) : Bool := casedRanges.has c.toNat

def isCaseIgnorable (c : Char) : Bool := ignorableRanges.has c.toNat

/-- Whether the first character that is not case-ignorable is cased. -/
def meetsCased (cs : List Char) : Bool :=
  match cs.dropWhile isCaseIgnorable with
  | [] => false
  | c :: _ => isCased c

/-- Whether a sigma between the text `before` (nearest character first) and the text `after` ends a word. -/
def endsWord (before after : List Char) : Bool := meetsCased before && !meetsCased after

/-- The code point of the lowercase letter of a character, itself where there is none. -/
def lowerCode (n : Nat) : Nat :=
  match caseRuns.find? (·.has n) with
  | some r => (n + r.shift).toNat
  | none => n

/-- The lowercase form of one character, its neighbours aside. -/
def lowerChar (c : Char) : List Char :=
  if c = 'İ' then ['i', '\u0307'] else [Char.ofNat (lowerCode c.toNat)]

/-- The lowercase form of a text that follows the characters `before` (nearest first). -/
def lowerAfter (before : List Char) : List Char → List Char
  | [] => []
  | c :: rest =>
    (if c = 'Σ' then [if endsWord before rest then 'ς' else 'σ'] else lowerChar c) ++ lowerAfter (c :: before) rest

def lowerList (cs : List Char) : List Char := lowerAfter [] cs

/-- The lowercase form of a text. -/
def lowercase (s : String) : String := String.ofList (lowerList s.toList)

/-- Two names are the same up to case. -/
def sameFold (a b : String) : Bool := lowercase a == lowercase b

end VersionTags.Text
