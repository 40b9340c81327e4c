import VersionTags.Text.WidthTable
/-!
# Terminal width

The number of terminal columns a text takes: the sum over its characters, whatever they combine to.
-/
namespace VersionTags.Text

def charWidth (c : Char) : Nat :=
  if 0x20 ≤ c.toNat ∧ c.toNat < 0x7F then 1
  else if zeroWidthRanges.has c.toNat then 0
  else if wideRanges.has c.toNat then 2
  else 1

def width (s : String) : Nat := s.toList.foldl (fun w c => w + charWidth c) 0

end VersionTags.Text
