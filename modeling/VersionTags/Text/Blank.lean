import VersionTags.Text.Ranges
/-!
# White space

`isBlank` is the Unicode property White_Space, and `trim` takes blank characters off both ends of a text.
-/
namespace VersionTags.Text

/-- Characters with the property White_Space. -/
def blankRanges : Ranges := [
    (0x9, 0xD), (0x20, 0x20), (0x85, 0x85), (0xA0, 0xA0), (0x1680, 0x1680), (0x2000, 0x200A), (0x2028, 0x2029),
    (0x202F, 0x202F), (0x205F, 0x205F), (0x3000, 0x3000)]

def isBlank (c : Char) : Bool := blankRanges.has c.toNat

/-- The characters from the first that is not blank. -/
def trimStart (cs : List Char) : List Char := cs.dropWhile isBlank

def trimList (cs : List Char) : List Char := (trimStart (trimStart cs).reverse).reverse

/-- A text without the blank characters at its ends. -/
def trim (s : String) : String := String.ofList (trimList s.toList)

end VersionTags.Text
