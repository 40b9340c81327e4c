import VersionTags.Time.Instant
/-!
# Counted time

A clock of the machine counts from the start of 1970.  `Instant.ofCount` is the instant such a count stands for; days
are stepped through one by one.
-/
namespace VersionTags.Time

/-- The first day of 1970. -/
def epoch : Date := ⟨1970, 1, 1, by decide⟩

/-- The date a number of days later. -/
def Date.after (x : Date) : Nat → Option Date
  | 0 => some x
  | n + 1 => x.next >>= fun y => y.after n

def secondsInDay : Nat := 86400

/-- The instant a number of nanoseconds after the start of 1970. -/
def Instant.ofCount (nanoseconds : Nat) : Option Instant := do
  let seconds := nanoseconds / 1000000000
  let date ← epoch.after (seconds / secondsInDay)
  let rest := seconds % secondsInDay
  Instant.mk? date (rest / 3600) (rest / 60 % 60) (rest % 60) (nanoseconds % 1000000000)

end VersionTags.Time
