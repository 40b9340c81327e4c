import VersionTags.Proofs.Session.Run
/-!
# The journal of a session

The journal notes each write that succeeds, with its answer.  Outside a transaction the write is done at once.  Inside
one it is pending with its connection, until the transaction is committed and all that is pending is done, or until the
transaction ends otherwise and it is dropped.

What is done, performed again one write after another on a connection of its own, has the same answers and leaves the
committed tables (`Session.replay_journal`).  The invariant also says what each open transaction is working on: the
tables after what is done and what is pending with it (`Journal.Records`).
-/
namespace VersionTags

/-- A write that a store has done at a time, and its answer. -/
structure Call where
  store : Store
  now : Time.Instant
  write : Write
  answer : Answer
  deriving DecidableEq

/-- Does a call again, on a connection of its own, if it comes to the same answer. -/
def Call.redo (k : Call) (f : File) : Option File :=
  match f.run (k.write.perform { k.store with connection := 0 } k.now) with
  | (.ok x, g) => if x = k.answer then some g else none
  | (.error _, _) => none

def replay (f : File) (ks : List Call) : Option File := ks.foldlM (fun f k => k.redo f) f

structure Journal where
  done : List Call
  pending : Connection → List Call

namespace Journal

def empty : Journal := ⟨[], fun _ => []⟩

def append (j : Journal) (k : Call) : Journal := { j with done := j.done ++ [k] }

def hold (j : Journal) (c : Connection) (k : Call) : Journal :=
  { j with pending := fun d => if d = c then j.pending d ++ [k] else j.pending d }

def drop (j : Journal) (c : Connection) : Journal :=
  { j with pending := fun d => if d = c then [] else j.pending d }

/-- What is pending with a connection is done. -/
def commit (j : Journal) (c : Connection) : Journal := { j.drop c with done := j.done ++ j.pending c }

/-- Drops what is pending with a connection that has no transaction any more. -/
def tidy (j : Journal) (f : File) (c : Connection) : Journal := if f.isAutocommit c then j.drop c else j

/-- Notes a step of a store at a seat, by the answer of the step and the file that it leaves. -/
def note (j : Journal) (s : Session) (i : Nat) (seat : Seat) (x : Step) : Journal :=
  let (r, after) := s.step i seat x
  match x.write?, r with
  | some w, .ok a =>
    if s.file.isAutocommit i then j.append ⟨s.store i seat, s.clock, w, a⟩
    else j.hold i ⟨s.store i seat, s.clock, w, a⟩
  | none, .ok _ => if x = .commit then j.commit i else j.tidy after.file i
  | _, .error _ => j.tidy after.file i

def noteMove (j : Journal) (s : Session) (m : Move) : Journal :=
  match s.seats[m.seat]? with
  | some seat => j.note { s with clock := m.now } m.seat seat m.step
  | none => j

end Journal

def Session.journal (s : Session) (j : Journal) : List Move → Journal
  | [] => j
  | m :: ms => (s.move m).2.journal (j.noteMove s m) ms

/-! ## Calls on tables -/

/-- Does a call again on tables. -/
def Call.on (k : Call) (db : Database) : Option Database :=
  match k.write.on k.store false k.now db with
  | .ok (x, db) => if x = k.answer then some db else none
  | .error _ => none

def redoAll (db : Database) (ks : List Call) : Option Database := ks.foldlM (fun db k => k.on db) db

theorem redoAll_append (db : Database) (ks ks' : List Call) :
    redoAll db (ks ++ ks') = (redoAll db ks).bind fun db => redoAll db ks' := List.foldlM_append

theorem redoAll_snoc {db db' db'' : Database} {ks : List Call} {k : Call} (h : redoAll db ks = some db')
    (hk : k.on db' = some db'') : redoAll db (ks ++ [k]) = some db'' := by
  rw [redoAll_append, h]
  simpa [redoAll] using hk

theorem Write.on_connection (w : Write) (st : Store) (c : Connection) (ro : Bool) (now : Time.Instant) (db : Database) :
    w.on { st with connection := c } ro now db = w.on st ro now db := by
  cases w <;> rfl

theorem File.Alike.eq_ofDatabase {g : File} {db : Database} {spills : Transaction → Bool}
    (h : g.Alike (.ofDatabase db spills)) : g = .ofDatabase db spills := by
  rcases g with ⟨k, _ | w, ro, sp⟩
  · exact h
  · cases h

theorem Call.redo_ofDatabase (k : Call) (db : Database) (spills : Transaction → Bool) :
    k.redo (.ofDatabase db spills) = (k.on db).map fun db => .ofDatabase db spills := by
  obtain ⟨g, hg, ha⟩ := k.write.run_perform { k.store with connection := 0 } k.now (.ofDatabase db spills)
  have ho : k.write.outcome { k.store with connection := 0 } k.now (.ofDatabase db spills) =
      k.write.on k.store false k.now db := k.write.on_connection k.store 0 false k.now db
  rw [ho] at hg ha
  unfold redo on
  rw [hg]
  generalize k.write.on k.store false k.now db = o at ha
  rcases o with b | ⟨x, db'⟩
  · rfl
  · obtain rfl : g = .ofDatabase db' spills := File.Alike.eq_ofDatabase ha
    by_cases hx : x = k.answer <;> simp [Write.report, hx]

theorem replay_ofDatabase (spills : Transaction → Bool) : ∀ (ks : List Call) (db : Database),
    replay (.ofDatabase db spills) ks = (redoAll db ks).map fun db => .ofDatabase db spills
  | [], _ => rfl
  | k :: ks, db => by
    have hk : replay (.ofDatabase db spills) (k :: ks) =
        (k.redo (.ofDatabase db spills)).bind fun f => replay f ks := rfl
    have hd : redoAll db (k :: ks) = (k.on db).bind fun db => redoAll db ks := rfl
    rw [hk, hd, k.redo_ofDatabase]
    cases k.on db with
    | none => rfl
    | some db' => exact replay_ofDatabase spills ks db'

/-! ## What the journal records -/

namespace File

/-- The connection with a transaction open, and the tables it is working on. -/
def work (f : File) : Option (Connection × Database) := f.writer.map fun w => (w.1, w.2.working)

variable {f g : File} {c : Connection} {t : Transaction}

theorem Alike.work (h : g.Alike f) : g.work = f.work := by
  have hw : ∀ e : File, e.withoutPast.work = e.work := by
    rintro ⟨k, _ | ⟨owner, t⟩, ro, sp⟩ <;> rfl
  rw [← hw, h, hw]

theorem work_of_writer (h : f.writer = some (c, t)) : f.work = some (c, t.working) := by rw [work, h]; rfl

end File

/-- The journal accounts for the file: for the committed tables by what is done, and for the working tables of an open
transaction by what is pending with it besides. -/
structure Journal.Records (db : Database) (j : Journal) (f : File) : Prop where
  changeable : f.readOnly = false
  committed : redoAll db j.done = some f.committed
  idle : f.work = none → ∀ c, j.pending c = []
  working : ∀ c now, f.work = some (c, now) →
    redoAll db (j.done ++ j.pending c) = some now ∧ ∀ d, d ≠ c → j.pending d = []

namespace Journal.Records

variable {db : Database} {j : Journal} {f g : File} {c : Connection}

theorem empty (db : Database) (spills : Transaction → Bool) : Journal.empty.Records db (.ofDatabase db spills) where
  changeable := rfl
  committed := rfl
  idle _ _ := rfl
  working _ _ h := by cases h

theorem of_alike (h : j.Records db f) (ha : g.Alike f) : j.Records db g where
  changeable := ha.readOnly.trans h.changeable
  committed := by rw [ha.committed, h.committed]
  idle hw := h.idle (ha.work.symm.trans hw)
  working c now hw := h.working c now (ha.work.symm.trans hw)

theorem pending_eq_nil (h : j.Records db f) (ha : f.isAutocommit c = true) : j.pending c = [] := by
  rcases hw : f.writer with _ | ⟨d, t⟩
  · exact h.idle (by rw [File.work, hw]; rfl) c
  · refine (h.working d _ (File.work_of_writer hw)).2 c ?_
    rintro rfl
    simp [File.isAutocommit, File.transaction?_of_writer hw] at ha

theorem tidy (h : j.Records db f) (c : Connection) : (j.tidy f c).Records db f := by
  unfold Journal.tidy
  split
  · rename_i ha
    have hd : j.drop c = j := by
      unfold Journal.drop
      congr 1
      funext d
      split
      · rename_i hc
        rw [hc, h.pending_eq_nil ha]
      · rfl
    rwa [hd]
  · exact h

/-- A transaction that ends otherwise than by a commit drops what is pending. -/
theorem ended {t : Transaction} (h : j.Records db f) (hw : f.writer = some (c, t)) :
    (j.drop c).Records db { f with writer := none } where
  changeable := h.changeable
  committed := h.committed
  idle _ d := by
    simp only [Journal.drop]
    split
    · rfl
    · exact (h.working c _ (File.work_of_writer hw)).2 d ‹_›
  working _ _ hn := by cases hn

theorem committed_pending {t : Transaction} (h : j.Records db f) (hw : f.writer = some (c, t)) :
    (j.commit c).Records db { f with committed := t.working, writer := none } where
  changeable := h.changeable
  committed := (h.working c _ (File.work_of_writer hw)).1
  idle := (h.ended hw).idle
  working _ _ hn := by cases hn

theorem begun (h : j.Records db f) (hw : f.writer = none) (c : Connection) (t : Transaction)
    (ht : t.working = f.committed) : j.Records db { f with writer := some (c, t) } where
  changeable := h.changeable
  committed := h.committed
  idle hn := by cases hn
  working d now hn := by
    have hp := h.idle (by rw [File.work, hw]; rfl)
    cases hn
    rw [hp, List.append_nil, ht]
    exact ⟨h.committed, fun d _ => hp d⟩

theorem put (h : j.Records db f) (hl : f.isLocked c = false) {k : Call} {now : Database}
    (hk : k.on (f.view c) = some now) :
    (if f.isAutocommit c then j.append k else j.hold c k).Records db (f.put now) := by
  rw [File.isAutocommit_eq hl]
  rcases File.writer_of_isLocked hl with ⟨t, hw⟩ | hw
  · -- inside a transaction the call is pending
    rw [File.view_of_writer hw] at hk
    obtain ⟨hnow, hd⟩ := h.working c _ (File.work_of_writer hw)
    simp only [hw, Option.isNone_some, Bool.false_eq_true, ↓reduceIte, File.put]
    refine ⟨h.changeable, h.committed, fun hn => (by cases hn), fun d now' hn => ?_⟩
    cases hn
    simp only [Journal.hold, ↓reduceIte]
    rw [← List.append_assoc]
    refine ⟨redoAll_snoc hnow hk, fun d hne => ?_⟩
    rw [if_neg hne]
    exact hd d hne
  · -- outside one it is done
    rw [File.view_of_none hw] at hk
    simp only [hw, Option.isNone_none, ↓reduceIte, File.put]
    have hidle : ∀ c, j.pending c = [] := h.idle (by rw [File.work, hw]; rfl)
    exact ⟨h.changeable, redoAll_snoc h.committed hk, fun _ => hidle, fun d now' hn => (by cases hn)⟩

theorem undo (h : j.Records db f) {r : Reach} (hl : r = .transaction → f.isLocked c = false)
    (ha : g.Alike (f.undo r)) : (j.tidy g c).Records db g := by
  cases r with
  | statement => exact (h.of_alike ha).tidy c
  | transaction =>
    rcases File.writer_of_isLocked (hl rfl) with ⟨t, hw⟩ | hw
    · have hg : g.isAutocommit c = true := ha.isAutocommit c
      rw [Journal.tidy, if_pos hg]
      exact (h.ended hw).of_alike ha
    · rw [File.undo_of_none hw] at ha
      exact (h.of_alike ha).tidy c

theorem note_eq_tidy (j : Journal) (s : Session) (i : Nat) (seat : Seat) {x : Step} (hw : x.write? = none)
    (hc : x ≠ .commit) : j.note s i seat x = j.tidy (s.step i seat x).2.file i := by
  simp only [Journal.note, hw]
  rcases s.step i seat x with ⟨e | a, s'⟩
  · rfl
  · simp only [if_neg hc]

/-- **A step keeps the journal true.** -/
theorem note {s : Session} (h : j.Records db s.file) (i : Nat) (seat : Seat) (x : Step) :
    (j.note s i seat x).Records db (s.step i seat x).2.file := by
  cases x.kind with
  | write w =>
    obtain ⟨g, hg, ha⟩ := w.run_perform (s.store i seat) s.clock s.file
    simp only [Journal.note, Session.step_write, Session.operate_eq, hg, Write.write?_step]
    rcases ho : w.outcome (s.store i seat) s.clock s.file with b | ⟨a, now⟩
    · rw [ho] at ha
      exact h.undo (Write.isLocked_of_transaction ho) ha
    · rw [ho] at ha
      obtain ⟨hl, hw⟩ := Write.outcome_ok ho
      rw [h.changeable] at hw
      refine (h.put hl ?_).of_alike ha
      simp [Call.on, hw]
  | read r =>
    have hf : (s.step i seat r.step).2.file = s.file := by
      rw [Session.step_read, Session.operate_eq, Read.run_perform]
    rw [note_eq_tidy j s i seat r.write?_step r.step_ne.2.1, hf]
    exact h.tidy i
  | begin =>
    rw [note_eq_tidy (x := .begin) j s i seat rfl nofun]
    refine tidy ?_ i
    rw [Session.step_begin, Session.file_command, File.run_begin]
    split
    · exact h
    · exact h.begun ‹_› i _ rfl
  | commit =>
    simp only [Journal.note, Session.step_commit, Session.operate_eq, Session.run_command, File.run_commit]
    cases ht : s.file.transaction? i with
    | none => exact h.tidy i
    | some t => exact h.committed_pending (File.writer_of_transaction? ht)
  | rollback =>
    rw [note_eq_tidy (x := .rollback) j s i seat rfl nofun, Session.step_rollback, Session.file_command,
      File.run_rollback]
    cases ht : s.file.transaction? i with
    | none => exact h.tidy i
    | some t => exact h.ended (File.writer_of_transaction? ht)
  | aside hx =>
    rw [note_eq_tidy j s i seat (Step.write?_of_isAside hx) (Step.ne_of_isAside hx).2.1, s.file_aside i seat hx]
    exact h.tidy i

end Journal.Records
end VersionTags
