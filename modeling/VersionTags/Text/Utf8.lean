/-!
# Bytes as text

Bytes are read as characters in UTF-8.  Where they are none, the longest run that could have begun a character is taken
as one piece, and the caller says what is read in its place.
-/
namespace VersionTags.Text

/-- How a character goes on after its first byte: the number of bytes that follow, and the bounds of the first of
them. -/
def continuation? (b : Nat) : Option (Nat × Nat × Nat) :=
  if b < 0x80 then some (0, 0x80, 0xBF)
  else if b < 0xC2 then none
  else if b < 0xE0 then some (1, 0x80, 0xBF)
  else if b = 0xE0 then some (2, 0xA0, 0xBF)
  else if b = 0xED then some (2, 0x80, 0x9F)
  else if b < 0xF0 then some (2, 0x80, 0xBF)
  else if b = 0xF0 then some (3, 0x90, 0xBF)
  else if b < 0xF4 then some (3, 0x80, 0xBF)
  else if b = 0xF4 then some (3, 0x80, 0x8F)
  else none

/-- The bytes at the front that go on a character, at most `n` of them, when the first is between the bounds. -/
def continued : Nat → Nat → Nat → List Nat → List Nat
  | 0, _, _, _ => []
  | _, _, _, [] => []
  | n + 1, low, high, b :: bs => if low ≤ b ∧ b ≤ high then b :: continued n 0x80 0xBF bs else []

/-- The bits of a first byte that belong to its character, when so many bytes follow. -/
def leadingBits (following b : Nat) : Nat := if following = 0 then b else b % Nat.pow 2 (6 - following)

/-- The code point of a character. -/
def codePoint (first : Nat) (rest : List Nat) : Nat :=
  rest.foldl (fun n b => n * 64 + b % 64) (leadingBits rest.length first)

/-- Takes the piece at the front: a character, or bytes that are none. -/
def pieceOf (b : Nat) (bs : List Nat) : Option Char × List Nat :=
  match continuation? b with
  | none => (none, [b])
  | some (n, low, high) =>
    let rest := continued n low high bs
    (if rest.length = n then some (Char.ofNat (codePoint b rest)) else none, b :: rest)

/-- Reads at most `fuel` pieces. -/
def readPieces (stray : List Nat → List Char) : Nat → List Nat → List Char
  | 0, _ => []
  | _, [] => []
  | fuel + 1, b :: bs =>
    match pieceOf b bs with
    | (some c, piece) => c :: readPieces stray fuel (bs.drop (piece.length - 1))
    | (none, piece) => stray piece ++ readPieces stray fuel (bs.drop (piece.length - 1))

/-- Bytes as a text, with `stray` read for those that are no characters. -/
def ofBytes (stray : List Nat → List Char) (bytes : List Nat) : String :=
  String.ofList (readPieces stray bytes.length bytes)

/-- The bytes of a text. -/
def toBytes (s : String) : List Nat := s.toUTF8.toList.map UInt8.toNat

end VersionTags.Text
