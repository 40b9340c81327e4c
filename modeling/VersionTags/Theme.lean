/-!
# Styles of the terminal

Every kind of text has a style: the codes that switch it on, written before the text, with the code that switches
everything off after it.  Without color the text stays as it is.
-/
namespace VersionTags

/-- The kinds of text that are styled. -/
inductive TextKind where
  | header
  | success
  | error
  | warn
  | info
  | dim
  | muted
  | tag
  | path
  deriving DecidableEq, Repr

/-- The display codes of a kind of text: its color and its weight. -/
def TextKind.codes : TextKind → List Nat
  | .header => [36, 1]
  | .success => [32, 1]
  | .error => [31, 1]
  | .warn => [33, 1]
  | .info => [35]
  | .dim => [37, 2]
  | .muted => [90]
  | .tag => [33]
  | .path => [34, 4]

def TextKind.all : List (String × TextKind) :=
  [("header", .header), ("success", .success), ("error", .error), ("warn", .warn), ("info", .info), ("dim", .dim),
    ("muted", .muted), ("tag", .tag), ("path", .path)]

/-- Whether texts are styled. -/
structure Theme where
  colored : Bool
  deriving DecidableEq, Repr

/-- The escape that switches display codes on. -/
def escapeCodes (codes : List Nat) : String := "\x1b[" ++ ";".intercalate (codes.map toString) ++ "m"

/-- A text between display codes, if there is to be color. -/
def displayed (colored : Bool) (codes : List Nat) (s : String) : String :=
  if colored then escapeCodes codes ++ s ++ escapeCodes [0] else s

def Theme.style (t : Theme) (k : TextKind) (s : String) : String := displayed t.colored k.codes s

end VersionTags
