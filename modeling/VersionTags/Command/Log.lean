import VersionTags.Error
import VersionTags.Theme
import VersionTags.Time.Instant
/-!
# The log

A run says on its error output what happened, ahead of what it has to tell: a failure of the database always, and a tag
that was added to those who ask for more.  An event takes one line that starts with the time, the level and the part of
the program that speaks.  A message is shown without the controls that terminals obey, except that its line breaks stay,
so that a text with line breaks goes on without a head.
-/
namespace VersionTags

inductive Event where
  | added (tag : String) (id : TagId) (v : Version)
  | failed (task : Task) (failure : Failure)
  deriving DecidableEq, Repr

namespace Event

/-- Whether an event is told of only on request. -/
def isDetail : Event → Bool
  | .added _ _ _ => true
  | .failed _ _ => false

/-- The level of an event, and the display codes of it. -/
def level : Event → String × List Nat
  | .added _ _ _ => ("DEBUG", [34])
  | .failed _ _ => ("ERROR", [31])

/-- The part of the program that speaks. -/
def speaker : Event → String
  | .added _ _ _ => "regtags::storage::tags"
  | .failed _ _ => "regtags"

def message : Event → String
  | .added tag id v => s!"Added tag {tag} ({id}) to version {v}"
  | .failed task _ => task.failed

/-- The named values after the message. -/
def fields : Event → List (String × String)
  | .added _ _ _ => []
  | .failed _ f => [("error", f.message)]

/-- A character that terminals obey, spelled out. -/
def spelled (c : Char) : List Char :=
  let n := c.toNat
  let digits := Nat.toDigits 16 n
  if [0x07, 0x08, 0x0c, 0x1b, 0x7f].contains n then
    ['\\', 'x'] ++ List.replicate (2 - digits.length) '0' ++ digits
  else if 0x80 ≤ n ∧ n ≤ 0x9f then ['\\', 'u', '\x7b'] ++ digits ++ ['\x7d']
  else [c]

/-- How the line of an event starts. -/
def head (colored : Bool) (now : Time.Instant) (e : Event) : String :=
  displayed colored [2] now.zuluText ++ " " ++ displayed colored e.level.2 e.level.1 ++ " " ++
    displayed colored [2] e.speaker ++ displayed colored [2] ":"

/-- The line of an event. -/
def line (colored : Bool) (now : Time.Instant) (e : Event) : String :=
  let fields := e.fields.map fun f => displayed colored [3] f.1 ++ displayed colored [2] "=" ++ f.2
  " ".intercalate (e.head colored now :: String.ofList (e.message.toList.flatMap spelled) :: fields)

end Event
end VersionTags
