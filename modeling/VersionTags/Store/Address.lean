import VersionTags.Decimal
import VersionTags.Storage.Failure
import VersionTags.Text.Utf8
/-!
# Addresses of databases

A database is opened by a text.  Most texts are paths as they stand.  One that starts with `file:` is an address in
parts: an optional host, which has to be this one, then the path, then parameters after a question mark, and a
fragment that means nothing.  In the path and in the parameters a percent sign with two hexadecimal digits stands for a
byte, and the byte zero ends the part it is in.

The parameters that count are the access mode, the mode of a cache, the file system, whether the file is locked while
it is used, whether it is taken to be immutable, and whose permissions it gets.  All others are passed over.
-/
namespace VersionTags

/-- What a connection may do with a database. -/
inductive AccessMode where
  | readOnly
  /-- Reads and writes a file that exists. -/
  | readWrite
  /-- Reads and writes a file, and makes it if there is none. -/
  | create
  /-- Keeps the database in memory. -/
  | memory
  deriving DecidableEq, Repr

namespace AccessMode

def parse : String → Option AccessMode
  | "ro" => some readOnly
  | "rw" => some readWrite
  | "rwc" => some create
  | "memory" => some memory
  | _ => none

/-- How much a mode asks for. -/
def demand : AccessMode → Nat
  | memory => 0
  | readOnly => 1
  | readWrite => 2
  | create => 3

/-- How much a mode leaves for one that comes after it. -/
def grant : AccessMode → Nat
  | readOnly => 1
  | readWrite => 2
  | create => 3
  | memory => 4

end AccessMode

/-- What a file system does with the files it makes. -/
structure FileSystem where
  /-- They are in memory. -/
  volatile : Bool
  /-- Connections to one of them share memory, which a log needs. -/
  sharing : Bool
  /-- A file is locked by a directory beside it, which does not tell whose lock it is. -/
  marking : Bool
  deriving DecidableEq, Repr

/-- The file systems by name. -/
def FileSystem.all : List (String × FileSystem) :=
  [("unix", ⟨false, true, false⟩), ("unix-excl", ⟨false, true, false⟩), ("unix-none", ⟨false, false, false⟩),
    ("unix-dotfile", ⟨false, false, true⟩), ("memdb", ⟨true, false, false⟩)]

/-- The file system of a path as it stands. -/
def FileSystem.usual : FileSystem := ⟨false, true, false⟩

/-- Where a database is and how it is opened. -/
structure Address where
  path : String
  mode : AccessMode
  system : FileSystem
  /-- The file is locked while it is used. -/
  locked : Bool
  /-- The file is taken never to change. -/
  immutable : Bool
  /-- A file whose permissions a new file gets. -/
  modeOf : Option String
  deriving DecidableEq, Repr

namespace Address

/-- The address of a path as it stands. -/
def ofPath (p : String) : Address := ⟨p, .create, .usual, true, false, none⟩

/-- The path names something, be it in memory. -/
def isNamed (a : Address) : Bool := a.path != "" && a.path != ":memory:" && a.mode != .memory

/-- The database has a file. -/
def hasFile (a : Address) : Bool := a.isNamed && !a.system.volatile

/-- A log can be used. -/
def canShare (a : Address) : Bool := a.system.sharing && a.locked

/-- The file is locked by a directory beside it, so that a journal beside it may be in use. -/
def isMarked (a : Address) : Bool := a.system.marking && a.locked && !a.immutable

def isReadOnly (a : Address) : Bool := a.mode == .readOnly || a.immutable && a.isNamed

/-! ## The parts of an address -/

/-- The start of an address in parts. -/
def scheme : String := "file:"

def hexValue? (b : Nat) : Option Nat :=
  let c := Char.ofNat b
  if c.isDigit then some (b - '0'.toNat)
  else if 'a' ≤ c ∧ c ≤ 'f' then some (b - 'a'.toNat + 10)
  else if 'A' ≤ c ∧ c ≤ 'F' then some (b - 'A'.toNat + 10)
  else none

/-- The byte written with a percent sign at the front. -/
def escape? : List Nat → Option Nat
  | p :: h :: l :: _ => do
    if p = '%'.toNat then return 16 * (← hexValue? h) + (← hexValue? l) else none
  | _ => none

/-- The bytes that a part stands for; `skip` bytes at the front belong to an escape that has been read. -/
def unescape : Nat → List Nat → List Nat
  | _, [] => []
  | skip + 1, _ :: bs => unescape skip bs
  | 0, b :: bs =>
    match escape? (b :: bs) with
    | some 0 => []
    | some x => x :: unescape 2 bs
    | none => b :: unescape 0 bs

/-- Splits at the first byte of a kind, which belongs to neither half. -/
def splitAt (c : Char) (bs : List Nat) : List Nat × List Nat :=
  (bs.takeWhile (· != c.toNat), (bs.dropWhile (· != c.toNat)).drop 1)

/-- The pieces between bytes of a kind. -/
def pieces (c : Char) : List Nat → List (List Nat)
  | [] => [[]]
  | b :: bs =>
    if b = c.toNat then [] :: pieces c bs
    else
      match pieces c bs with
      | [] => [[b]]
      | p :: ps => (b :: p) :: ps

/-- A name of a file.  A byte that is no character becomes one of a private plane. -/
def fileName (bs : List Nat) : String := Text.ofBytes (fun stray => stray.map fun b => Char.ofNat (0x10FF00 + b)) bs

/-- A name in a message. -/
def shownName (bs : List Nat) : String := Text.ofBytes (fun _ => ['\ufffd']) bs

/-- The parameters: names with values, those without a name left out. -/
def parameters (query : List Nat) : List (String × String) :=
  let pairs := (pieces '&' query).map fun p =>
    let (name, value) := splitAt '=' p
    (shownName (unescape 0 name), shownName (unescape 0 value))
  pairs.filter fun p => p.1 != ""

/-! ## What the parameters ask for -/

/-- The mode that one more parameter leaves. -/
def stepMode (mode : AccessMode) : String × String → Except AddressFault AccessMode
  | ("mode", value) =>
    match AccessMode.parse value with
    | none => .error (.accessMode value)
    | some m => if m.demand ≤ mode.grant then .ok m else .error (.notAllowed value)
  | ("cache", value) => if value = "shared" ∨ value = "private" then .ok mode else .error (.cacheMode value)
  | _ => .ok mode

/-- The number at the front of a text, to the base 16 if it starts so, and 0 if it takes more than 31 bits. -/
def leadingNumber (cs : List Char) : Nat :=
  let digits (cs : List Char) := cs.takeWhile fun c => (hexValue? c.toNat).isSome
  let decimal := Decimal.value (cs.takeWhile Char.isDigit)
  let n : Nat := match cs with
    | '0' :: x :: rest =>
      if (x = 'x' ∨ x = 'X') ∧ digits rest ≠ [] then
        (digits rest).foldl (fun n c => 16 * n + (hexValue? c.toNat).getD 0) 0
      else decimal
    | _ => decimal
  if (n : Int) ≤ Decimal.maxInt32 then n else 0

/-- A truth value: a number, of which the lowest byte counts, or a word. -/
def isTrue (value : String) : Bool :=
  let cs := value.toList
  if (cs.takeWhile Char.isDigit) ≠ [] then leadingNumber cs % 256 != 0
  else ["on", "yes", "true"].contains (String.ofList (cs.map Char.toLower))

/-- Reads an address in parts, from what stands after its start. -/
def ofParts (bs : List Nat) : Except AddressFault Address := do
  let slash := '/'.toNat
  let rest ← match bs with
    | a :: b :: more =>
      if a = slash ∧ b = slash then
        let host := more.takeWhile (· != slash)
        if host = [] ∨ host = Text.toBytes "localhost" then pure (more.dropWhile (· != slash))
        else throw (.host (shownName host))
      else pure bs
    | _ => pure bs
  let (path, query) := splitAt '?' (splitAt '#' rest).1
  let ps := parameters query
  let mode ← ps.foldlM stepMode .create
  let system ← match ps.reverse.lookup "vfs" with
    | none => pure FileSystem.usual
    | some name =>
      match FileSystem.all.lookup name with
      | some f => pure f
      | none => throw (.fileSystem name)
  let asks (name : String) : Bool := ((ps.lookup name).map isTrue).getD false
  return ⟨fileName (unescape 0 path), mode, system, !asks "nolock", asks "immutable", ps.lookup "modeof"⟩

/-- Reads the text by which a database is opened. -/
def read (text : String) : Except AddressFault Address :=
  if text.startsWith scheme then ofParts ((Text.toBytes text).drop scheme.utf8ByteSize) else .ok (ofPath text)

end Address
end VersionTags
