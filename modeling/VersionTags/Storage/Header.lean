/-!
# Heads of files

What the first bytes of a file say where it is to be a database, and what those of a journal say.  Numbers stand with
their high byte first, and a byte beyond the end of a file counts as 0.

A database begins with fixed words, the size of its pages and the number of them, and the head of its first page.  A
journal begins with fixed bytes and with the length that the database had before the change it notes.
-/
namespace VersionTags

/-- What a file is as a database, where it is not one of this library's own. -/
inductive FileForm where
  /-- No database. -/
  | foreign
  /-- A database that cannot be read. -/
  | malformed
  /-- A database of a later kind. -/
  | unsupported
  /-- A database without the tables.  It may have to be left as it is, and it may have no sound place for them. -/
  | bare (changeable sound : Bool)
  deriving DecidableEq, Repr

namespace Header

def byteAt (bytes : List UInt8) (i : Nat) : Nat := (bytes[i]?.getD 0).toNat

/-- The number in so many bytes from a position on. -/
def number (bytes : List UInt8) (i : Nat) : Nat → Nat
  | 0 => 0
  | n + 1 => 256 * number bytes i n + byteAt bytes (i + n)

/-- How many times a size goes into a length, a part of it counted as one. -/
def countOf (size length : Nat) : Nat := (length + (size - 1)) / size

/-- A size of pages or of the parts of a disk: a power of two that is not below `least`. -/
def isSize (least n : Nat) : Bool := decide (least ≤ n ∧ n ≤ 65536) && Nat.pow 2 n.log2 == n

/-! ## Databases -/

/-- The words at the front of every database. -/
def words : List UInt8 := "SQLite format 3".toUTF8.toList ++ [0]

/-- The size of a page, which stands in two bytes, the greatest as 1. -/
def pageSize (bytes : List UInt8) : Nat := 256 * byteAt bytes 16 + 65536 * byteAt bytes 17

/-- The number of pages by the head, if the one who wrote it last knew of it, or else by the length of the file. -/
def pageCount (bytes : List UInt8) : Nat :=
  let told := number bytes 28 4
  if told = 0 ∨ number bytes 24 4 ≠ number bytes 92 4 then countOf (pageSize bytes) bytes.length else told

/-- What the head of the first page makes of a database. -/
def formOfFirstPage (bytes : List UInt8) (usable : Nat) : FileForm :=
  let cells := number bytes 103 2
  let content := if number bytes 105 2 = 0 then 65536 else number bytes 105 2
  let free := content + byteAt bytes 107
  let pointers := (List.range cells).map fun i => number bytes (108 + 2 * i) 2
  if byteAt bytes 100 = 13 ∧ pointers.all (fun p => decide (108 + 2 * cells ≤ p ∧ p ≤ usable - 4)) then
    .bare (decide (byteAt bytes 18 ≤ 2)) (decide (108 + 2 * cells ≤ free ∧ free ≤ usable))
  else .malformed

/-- What a file with so many bytes or more is. -/
def form (bytes : List UInt8) : FileForm :=
  let size := pageSize bytes
  let usable := size - byteAt bytes 20
  if bytes.take 16 ≠ words ∨ 2 < byteAt bytes 19 ∨ number bytes 21 3 ≠ 0x402020 ∨ isSize 512 size = false then .foreign
  else if countOf size bytes.length < pageCount bytes then .malformed
  else if usable < 480 then .foreign
  else if 4 < number bytes 44 4 then .unsupported
  else formOfFirstPage bytes usable

/-- The head of a database that has lost the rest of its pages. -/
def cutShort : List UInt8 := words ++ [16, 0, 1, 1, 0, 64, 32, 32]

/-! ## Journals -/

/-- The bytes at the front of every journal. -/
def journalWords : List UInt8 := [0xD9, 0xD5, 0x05, 0xF9, 0x20, 0xA1, 0x63, 0xD7]

/-- The length of the head of a journal. -/
def journalHead : Nat := 512

/-- The number of bytes that the database had before the change which a journal notes, if the journal has a head. -/
def lengthBefore? (pageSize : Nat) (bytes : List UInt8) : Option Nat :=
  let size := if number bytes 24 4 = 0 then pageSize else number bytes 24 4
  if journalHead ≤ bytes.length ∧ bytes.take 8 = journalWords ∧ isSize 512 size ∧ isSize 32 (number bytes 20 4) then
    some (number bytes 16 4 * size)
  else none

end Header
end VersionTags
