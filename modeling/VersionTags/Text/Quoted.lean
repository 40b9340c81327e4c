import VersionTags.Text.PrintTable
/-!
# Quotation in messages

A message quotes a text between double quotes.  The quote, the backslash and four controls have a short escape; a
character that would not show on its own is spelled by its code point in hexadecimal, as `\u{…}`.
-/
namespace VersionTags.Text

/-- Whether a character shows on its own in a quotation. -/
def showsItself (c : Char) : Bool :=
  !extenderRanges.has c.toNat && !unprintableRanges.has c.toNat

def quotedChar (c : Char) : List Char :=
  if c = '\x00' then ['\\', '0']
  else if c = '\t' then ['\\', 't']
  else if c = '\r' then ['\\', 'r']
  else if c = '\n' then ['\\', 'n']
  else if c = '"' then ['\\', '"']
  else if c = '\\' then ['\\', '\\']
  else if showsItself c then [c]
  else ['\\', 'u', '\x7b'] ++ Nat.toDigits 16 c.toNat ++ ['\x7d']

/-- A text as a message quotes it. -/
def quoted (s : String) : String := String.ofList (['"'] ++ s.toList.flatMap quotedChar ++ ['"'])

/-- A list of texts as a message quotes it. -/
def quotedList (ss : List String) : String := "[" ++ ", ".intercalate (ss.map quoted) ++ "]"

end VersionTags.Text
