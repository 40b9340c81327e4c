import VersionTags.Proofs.Session.Journal
import VersionTags.Proofs.Store.AllOrNothing
/-!
# Serial histories

However the stores of a session take turns, at most one connection has a transaction open, the others are locked out
while it has, and the committed tables are those that the committed writes leave when they are done one after another:
`Session.serial`.

The reads of the others are not locked out, but for one case.  A transaction that has begun to write to the file keeps
everyone else from reading until it ends (`spilling_transaction_locks_reads`).  All this holds whenever a transaction
begins to.
-/
namespace VersionTags

/-- While another connection has a transaction open, a store can change nothing and open no transaction.  It reads the
committed tables, unless the transaction has begun to write to the file. -/
structure File.LockedOut (f : File) (st : Store) : Prop where
  write : ∀ (w : Write) (now : Time.Instant), f.run (w.perform st now) = (Write.report (.error (w.shutOut st f)), f)
  move : ∀ v w : Version, f.run (st.moveTags v w) = (.ok (), f)
  begin : f.run st.beginTransaction = (.error (.storage .beginTransaction .locked), f)
  read : ∀ r : Read, f.run (r.perform st) =
    (if f.isBlocked st.connection then (r.inquiry st).on (.error .locked)
      else ((File.ofDatabase f.committed).run (r.perform st)).1, f)

namespace File

variable {f : File} {c d : Connection}

/-- **At most one connection is outside autocommit.** -/
theorem eq_of_isAutocommit (hc : f.isAutocommit c = false) (hd : f.isAutocommit d = false) : c = d := by
  obtain ⟨t, ht⟩ := writer_of_isAutocommit hc
  obtain ⟨u, hu⟩ := writer_of_isAutocommit hd
  cases ht.symm.trans hu
  rfl

/-- **While one connection is outside autocommit, every store of another is locked out.** -/
theorem lockedOut (h : f.isAutocommit c = false) {st : Store} (hne : st.connection ≠ c) : f.LockedOut st := by
  obtain ⟨t, hw⟩ := writer_of_isAutocommit h
  have hl : f.isLocked st.connection = true := by simp [isLocked, hw, hne.symm]
  refine ⟨fun w now => w.run_perform_of_isLocked st now hl, fun _ _ => rfl, ?_, fun r => ?_⟩
  · rw [Store.beginTransaction, Store.run_run, run_begin, hw]
    simp only [if_neg hne.symm]
    rfl
  · rw [Read.run_perform, Read.run_perform]
    have hs : (ofDatabase f.committed).sight st.connection = .ok f.committed := rfl
    rw [hs, sight, view_of_isLocked hl]
    by_cases hb : f.isBlocked st.connection = true
    · simp only [if_pos hb]
    · simp only [if_neg hb]

end File

namespace Session

theorem records_move {db : Database} {j : Journal} {s : Session} (h : j.Records db s.file) (m : Move) :
    (j.noteMove s m).Records db (s.move m).2.file := by
  unfold Journal.noteMove move
  cases s.seats[m.seat]? with
  | none => exact h
  | some seat => exact h.note (s := { s with clock := m.now }) m.seat seat m.step

/-- **The journal of a run accounts for the file it leaves.** -/
theorem records_run {db : Database} : ∀ (ms : List Move) {j : Journal} {s : Session}, j.Records db s.file →
    (s.journal j ms).Records db (s.run ms).file
  | [], _, _, h => h
  | m :: ms, _, _, h => records_run ms (records_move h m)

/-- **Whatever order the stores of a session take turns in, the outcome is serial.**  At most one connection is outside
autocommit, and while one is, the stores of all others are locked out.  The committed tables are what the committed
writes leave, done again one after another with the same answers. -/
theorem serial (db : Database) (faults : List Fault) (l : Locator) (a : LocatorAccess) (now : Time.Instant)
    (seats : List Seat) (spills : Transaction → Bool) (ms : List Move) :
    let s : Session := ⟨.ofDatabase db spills, faults, l, a, now, seats⟩
    let f := (s.run ms).file
    (∀ c d, f.isAutocommit c = false → f.isAutocommit d = false → c = d) ∧
      (∀ c, f.isAutocommit c = false → ∀ st : Store, st.connection ≠ c → f.LockedOut st) ∧
      replay (.ofDatabase db spills) (s.journal .empty ms).done = some (.ofDatabase f.committed spills) := by
  intro s f
  have hr : (s.journal .empty ms).Records db f := records_run ms (.empty db spills)
  refine ⟨fun _ _ => File.eq_of_isAutocommit, fun c hc st hne => File.lockedOut hc hne, ?_⟩
  rw [replay_ofDatabase, hr.committed]
  rfl

open Write (someTime plainStore)

/-- A session of two stores on an empty file. -/
def pair : Session :=
  ⟨.ofDatabase .empty, [], .empty, .map, someTime, [⟨1, .maxId, true⟩, ⟨1, .generatedKeys, true⟩]⟩

/-- The first store puts a tag inside a transaction, which the second cannot do meanwhile. -/
def overlap : List Move :=
  [⟨0, someTime, .begin⟩, ⟨0, someTime, .add "n" 1 "alice"⟩, ⟨1, someTime, .add "m" 1 "bob"⟩]

/-- Then the first store commits, and both put another tag. -/
def turns : List Move := overlap ++
  [⟨0, someTime, .commit⟩, ⟨1, someTime, .add "p" 1 "bob"⟩, ⟨0, someTime, .add "q" 1 "alice"⟩]

/-- While the first store is in its transaction the second is locked out, and at the end three writes are done. -/
theorem pair_takes_turns :
    (pair.run overlap).file.isAutocommit 0 = false ∧
      (pair.run overlap).file.LockedOut { plainStore with connection := 1 } ∧
      (pair.journal .empty turns).done.map Call.write = [.add "n" 1 "alice", .add "p" 1 "bob", .add "q" 1 "alice"] ∧
      (pair.run turns).file.committed.tags.map TagRow.name = ["q", "p", "n"] ∧
      replay (.ofDatabase .empty) (pair.journal .empty turns).done =
        some (.ofDatabase (pair.run turns).file.committed) := by
  have ho : (pair.run overlap).file.isAutocommit 0 = false := rfl
  obtain ⟨-, hlocked, -⟩ := serial .empty [] .empty .map someTime pair.seats (fun _ => false) overlap
  obtain ⟨-, -, hreplay⟩ := serial .empty [] .empty .map someTime pair.seats (fun _ => false) turns
  exact ⟨ho, hlocked 0 ho _ (by decide), rfl, rfl, hreplay⟩

end Session

/-! ## A transaction that has begun to write to the file -/

theorem utf8ByteSize_replicate (n : Nat) : (String.ofList (List.replicate n 'n')).utf8ByteSize = n := by
  have hs : (List.replicate n 'n').utf8Encode.size = n := by
    induction n with
    | zero => rfl
    | succ n ih =>
      have hn : ['n'].utf8Encode.size = 1 := by decide
      rw [List.replicate_succ, List.utf8Encode_cons, ByteArray.size_append, ih, hn, Nat.add_comm]
  exact hs

/-- A transaction with a name of two million bytes in its tables does not keep them in memory. -/
def holdsLongName (t : Transaction) : Bool := t.working.tags.any fun r => decide (2000000 ≤ r.name.utf8ByteSize)

/-- An empty file on which the first store has opened a transaction and put a tag. -/
def heldFile (name : String) : File :=
  (((File.ofDatabase .empty holdsLongName).run Write.plainStore.beginTransaction).2.run
    ((Write.add name 1 "alice").perform Write.plainStore Write.someTime)).2

theorem heldFile_eq (name : String) :
    let db := Database.empty.withTagging 1 1 ⟨name, "alice", Write.someTime⟩
    heldFile name = ⟨.empty, some (0, ⟨db, [], [.empty]⟩), false, holdsLongName⟩ := rfl

/-- **A transaction that has begun to write to the file locks the reads of the others**, which the committed tables
could answer. -/
theorem spilling_transaction_locks_reads :
    let f := heldFile (String.ofList (List.replicate 2000000 'n'))
    let st := { Write.plainStore with connection := 1 }
    f.isAutocommit 0 = false ∧ f.committed = .empty ∧
      (f.run ((Read.tags 1).perform st)).1 = .error (.storage (.readTags (st.describe 1)) .locked) ∧
      ((File.ofDatabase f.committed).run ((Read.tags 1).perform st)).1 = .ok (.texts []) := by
  intro f st
  have hname := utf8ByteSize_replicate 2000000
  revert f
  generalize String.ofList (List.replicate 2000000 'n') = name at hname
  rw [heldFile_eq]
  intro f
  have hb : f.isBlocked 1 = true := by
    simp [f, File.isBlocked, holdsLongName, hname]
  refine ⟨rfl, rfl, ?_, ?_⟩
  · rw [Read.run_perform, File.sight, if_pos hb]
    rfl
  · rw [Read.run_perform]
    show Except.ok (Answer.texts ((Database.empty.on 1 1).map TagRow.name)) = _
    rw [Database.on_eq]
    rfl

end VersionTags
