import VersionTags.Store.Read
import VersionTags.Store.Write
/-!
# Sessions

A session is a database file with several stores on it, each a connection of its own, and one locator that all of them
share and that may change as the session goes on.  `Session.step` does one step on one store.  A step ends with an
answer or an error; an error does not end the session.
-/
namespace VersionTags

/-- What a store of a session has of its own. -/
structure Seat where
  tenant : Tenant
  strategy : KeyStrategy
  paginated : Bool
  deriving DecidableEq, Repr

structure Session where
  file : File
  faults : List Fault
  locator : Locator
  access : LocatorAccess
  clock : Time.Instant
  seats : List Seat

/-- How a step asks for a page of the counts. -/
inductive PageChoice where
  /-- Without a request. -/
  | absent
  /-- With a request for no page. -/
  | unpaginated
  /-- With the raw values of a page. -/
  | raw (start count : Int) (sortBy sortOrder : String)
  | page (p : Page)
  deriving DecidableEq, Repr

inductive Step where
  | add (name : String) (v : Version) (author : String)
  | addMany (v : Version) (records : List TagRecord)
  | copy (source target : Version)
  | move (source target : Version)
  | remove (v : Version) (name : String)
  | removeBy (v : Version) (name author : String)
  | purge (v : Version)
  | exists (name : String) (v : Version) (author : String)
  | tags (v : Version)
  | records (v : Version)
  | paths (names : List String)
  | count (v : Version) (name : String)
  | tagging (v : Version) (name : String) (author : AuthorFilter)
  | taggings (v : Version)
  | byId (id : TagId)
  | counts (v : Version) (page : PageChoice)
  | stats
  | begin
  | commit
  | rollback
  | setTenant (t : Tenant)
  | tenant
  | setPath (v : Version) (path : String)
  | deletePath (v : Version)
  | setStrategy (text : String)
  | strategy
  | setPaginated (on : Bool)
  | setWait (ms : Nat)
  deriving DecidableEq

inductive Answer where
  | done
  | number (n : Int)
  | flag (b : Bool)
  | text (s : Option String)
  | texts (ss : List String)
  | records (rs : List TagRecord)
  | tagging (t : Option Tagging)
  | taggings (ts : List Tagging)
  | counts (rows : List TagCount) (total : Option Nat)
  | stats (s : Stats)
  deriving DecidableEq

/-- The request of a choice of page. -/
def PageChoice.request : PageChoice → Except Error PageRequest
  | .absent => .ok .unpaginated
  | .unpaginated => .ok .unpaginated
  | .raw a b c d => (Page.ofRaw a b c d).map .ofPage
  | .page p => .ok (.ofPage p)

/-- The longest wait for a lock, in milliseconds. -/
def maxWait : Nat := 2147483647

namespace Session

/-- A store at a seat of the session. -/
def store (s : Session) (i : Nat) (seat : Seat) : Store :=
  ⟨i, seat.tenant, seat.strategy, seat.paginated, s.faults, s.locator, s.access⟩

/-- Does an operation on the session's file. -/
def operate (s : Session) (op : Operation Answer) : Except Error Answer × Session :=
  let (r, file) := op.run.run s.file
  (r, { s with file := file })

/-- Changes a seat. -/
def setSeat (s : Session) (i : Nat) (seat : Seat) : Session := { s with seats := s.seats.set i seat }

/-- The operation of a step that works on the file, if the step is one. -/
def operation (s : Session) (st : Store) : Step → Option (Operation Answer)
  | .add n v a => some (do let _ ← st.addTag s.clock n v a; return .done)
  | .addMany v rs => some (do st.addTags v rs; return .done)
  | .copy v w => some (do st.copyTags v w; return .done)
  | .move v w => some (do st.moveTags v w; return .done)
  | .remove v n => some (do return .number (← st.removeTag v n))
  | .removeBy v n a => some (do return .number (← st.removeTagBy v n a))
  | .purge v => some (do return .number (← st.purge v))
  | .exists n v a => some (do return .flag (← st.hasTag n v a))
  | .tags v => some (do return .texts (← st.tags v))
  | .records v => some (do return .records (← st.records v))
  | .paths ns => some (do return .texts (← st.pathsWithAny ns))
  | .count v n => some (do return .number (← st.countTag v n))
  | .tagging v n a => some (do return .taggings (← st.taggingsNamed v n a))
  | .taggings v => some (do return .taggings (← st.taggings v))
  | .byId i => some (do return .tagging (← st.taggingById i))
  | .counts v page => some do
    let (rows, request) ← st.tagCounts v (← page.request)
    return .counts rows request.rowCount
  | .stats => some (do return .stats (← st.stats))
  | .begin => some (do st.beginTransaction; return .done)
  | .commit => some (do st.commit; return .done)
  | .rollback => some (do st.rollback; return .done)
  | _ => none

/-- A step that works on the session itself: on the seat or the locator. -/
def adjust (s : Session) (i : Nat) (seat : Seat) : Step → Except Error Answer × Session
  | .setTenant t => (.ok (.number t), s.setSeat i { seat with tenant := t })
  | .tenant => (.ok (.number seat.tenant), s)
  | .setPath v p =>
    let l := s.locator.insert v p
    (.ok (.number l.size), { s with locator := l })
  | .deletePath v => (.ok (.text (s.locator.path? v)), { s with locator := s.locator.erase v })
  | .setStrategy text =>
    match KeyStrategy.parse text with
    | .ok k => (.ok (.text (some k.name)), s.setSeat i { seat with strategy := k })
    | .error e => (.error e, s)
  | .strategy => (.ok (.text (some seat.strategy.name)), s)
  | .setPaginated on => (.ok .done, s.setSeat i { seat with paginated := on })
  | .setWait ms => (if ms ≤ maxWait then .ok .done else .error .waitTooLong, s)
  | _ => (.ok .done, s)

/-- Does one step on the store at a seat. -/
def step (s : Session) (i : Nat) (seat : Seat) (x : Step) : Except Error Answer × Session :=
  match s.operation (s.store i seat) x with
  | some op => s.operate op
  | none => s.adjust i seat x

/-- The row counts that a store sees, if it can read. -/
def rows (s : Session) (i : Nat) (seat : Seat) : Option Stats :=
  if s.file.isBlocked i then none else some ((s.file.view i).stats seat.tenant)

end Session
end VersionTags
