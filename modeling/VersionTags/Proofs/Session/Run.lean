import VersionTags.Proofs.Store.Effect
import VersionTags.Proofs.Store.Read
/-!
# Runs of a session

A run is a list of moves, each a step on the store at a seat at some time.  A step is a write, a read, one of the three
commands of a transaction, or it leaves the file aside (`Step.kind`).

A property of tables that new taggings and removals keep holds everywhere in a run, of the committed tables and of
what every connection sees, once it holds at the start: `Session.everywhere_run`.
-/
namespace VersionTags

structure Move where
  seat : Nat
  now : Time.Instant
  step : Step
  deriving DecidableEq

def Write.step : Write → Step
  | .add n v a => .add n v a
  | .addMany v rs => .addMany v rs
  | .copy v w => .copy v w
  | .remove v n => .remove v n
  | .removeBy v n a => .removeBy v n a
  | .purge v => .purge v

def Read.step : Read → Step
  | .exists n v a => .exists n v a
  | .tags v => .tags v
  | .records v => .records v
  | .paths ns => .paths ns
  | .count v n => .count v n
  | .tagging v n a => .tagging v n a
  | .taggings v => .taggings v
  | .byId i => .byId i
  | .counts v page => .counts v page
  | .stats => .stats

def Step.write? : Step → Option Write
  | .add n v a => some (.add n v a)
  | .addMany v rs => some (.addMany v rs)
  | .copy v w => some (.copy v w)
  | .remove v n => some (.remove v n)
  | .removeBy v n a => some (.removeBy v n a)
  | .purge v => some (.purge v)
  | _ => none

@[simp] theorem Write.write?_step (w : Write) : w.step.write? = some w := by cases w <;> rfl

@[simp] theorem Read.write?_step (r : Read) : r.step.write? = none := by cases r <;> rfl

theorem Write.step_ne (w : Write) : w.step ≠ .begin ∧ w.step ≠ .commit ∧ w.step ≠ .rollback := by
  cases w <;> exact ⟨nofun, nofun, nofun⟩

theorem Read.step_ne (r : Read) : r.step ≠ .begin ∧ r.step ≠ .commit ∧ r.step ≠ .rollback := by
  cases r <;> exact ⟨nofun, nofun, nofun⟩

namespace Session

/-- Does a move, whose answer is there unless the session has no such seat. -/
def move (s : Session) (m : Move) : Option (Except Error Answer) × Session :=
  match s.seats[m.seat]? with
  | some seat =>
    let (r, s) := { s with clock := m.now }.step m.seat seat m.step
    (some r, s)
  | none => (none, s)

def run (s : Session) (ms : List Move) : Session := ms.foldl (fun s m => (s.move m).2) s

theorem step_write (s : Session) (i : Nat) (seat : Seat) (w : Write) :
    s.step i seat w.step = s.operate (w.perform (s.store i seat) s.clock) := by
  cases w <;> rfl

theorem step_read (s : Session) (i : Nat) (seat : Seat) (r : Read) :
    s.step i seat r.step = s.operate (r.perform (s.store i seat)) := by
  cases r <;> rfl

theorem operate_eq (s : Session) (op : Operation Answer) :
    s.operate op = ((s.file.run op).1, { s with file := (s.file.run op).2 }) := rfl

end Session

/-- The step works on the session itself and not on its file. -/
def Step.isAside : Step → Bool
  | .move _ _ => true
  | .setTenant _ => true
  | .tenant => true
  | .setPath _ _ => true
  | .deletePath _ => true
  | .setStrategy _ => true
  | .strategy => true
  | .setPaginated _ => true
  | .setWait _ => true
  | _ => false

inductive Step.Kind : Step → Prop where
  | write (w : Write) : Kind w.step
  | read (r : Read) : Kind r.step
  | begin : Kind .begin
  | commit : Kind .commit
  | rollback : Kind .rollback
  | aside {x : Step} (h : x.isAside = true) : Kind x

theorem Step.kind (x : Step) : x.Kind := by
  cases x with
  | add n v a => exact .write (.add n v a)
  | addMany v rs => exact .write (.addMany v rs)
  | copy v w => exact .write (.copy v w)
  | remove v n => exact .write (.remove v n)
  | removeBy v n a => exact .write (.removeBy v n a)
  | purge v => exact .write (.purge v)
  | «exists» n v a => exact .read (.exists n v a)
  | tags v => exact .read (.tags v)
  | records v => exact .read (.records v)
  | paths ns => exact .read (.paths ns)
  | count v n => exact .read (.count v n)
  | tagging v n a => exact .read (.tagging v n a)
  | taggings v => exact .read (.taggings v)
  | byId i => exact .read (.byId i)
  | counts v page => exact .read (.counts v page)
  | stats => exact .read .stats
  | begin => exact .begin
  | commit => exact .commit
  | rollback => exact .rollback
  | _ => exact .aside rfl

/-- **A step aside does not look at the file.** -/
theorem Session.step_aside (s : Session) (f : File) (i : Nat) (seat : Seat) {x : Step} (hx : x.isAside = true) :
    { s with file := f }.step i seat x = ((s.step i seat x).1, { (s.step i seat x).2 with file := f }) := by
  cases x with
  | move v w => rfl
  | setTenant t => rfl
  | tenant => rfl
  | setPath v p => rfl
  | deletePath v => rfl
  | setStrategy text =>
    simp only [step, operation, adjust]
    cases KeyStrategy.parse text <;> rfl
  | strategy => rfl
  | setPaginated on => rfl
  | setWait ms => rfl
  | _ => cases hx

theorem Session.file_aside (s : Session) (i : Nat) (seat : Seat) {x : Step} (hx : x.isAside = true) :
    (s.step i seat x).2.file = s.file :=
  congrArg (fun r => r.2.file) (s.step_aside s.file i seat hx)

theorem Step.write?_of_isAside {x : Step} (hx : x.isAside = true) : x.write? = none := by
  cases x <;> first | rfl | cases hx

theorem Step.ne_of_isAside {x : Step} (hx : x.isAside = true) : x ≠ .begin ∧ x ≠ .commit ∧ x ≠ .rollback := by
  refine ⟨?_, ?_, ?_⟩ <;> rintro rfl <;> cases hx

/-! ## Properties of all tables of a file -/

namespace File

/-- The committed tables, and those that any connection sees, have the property. -/
def Everywhere (P : Database → Prop) (f : File) : Prop := P f.committed ∧ ∀ c, P (f.view c)

variable {P : Database → Prop} {f g : File}

theorem everywhere_iff : f.Everywhere P ↔ P f.committed ∧ ∀ c t, f.writer = some (c, t) → P t.working := by
  refine and_congr_right fun hk => ⟨fun h c t hw => ?_, fun h c => ?_⟩
  · rw [← view_of_writer hw]
    exact h c
  · rcases hw : f.writer with _ | ⟨owner, t⟩
    · rwa [view_of_none hw]
    · by_cases ho : owner = c
      · rw [← ho, view_of_writer hw]
        exact h owner t hw
      · rwa [view_of_ne hw ho]

theorem everywhere_ofDatabase {db : Database} {spills : Transaction → Bool} (h : P db) :
    (ofDatabase db spills).Everywhere P :=
  ⟨h, fun _ => h⟩

theorem Alike.everywhere (h : g.Alike f) (hf : f.Everywhere P) : g.Everywhere P :=
  ⟨h.committed ▸ hf.1, fun c => h.view c ▸ hf.2 c⟩

theorem everywhere_put {db : Database} (hf : f.Everywhere P) (h : P db) : (f.put db).Everywhere P := by
  rw [everywhere_iff]
  unfold put
  split
  · refine ⟨hf.1, fun c t hw => ?_⟩
    cases hw
    exact h
  · rename_i hw
    exact ⟨h, fun c t hn => by cases hw.symm.trans hn⟩

theorem everywhere_undo (r : Reach) (hf : f.Everywhere P) : (f.undo r).Everywhere P := by
  cases r with
  | statement => exact hf
  | transaction => exact ⟨hf.1, fun _ => hf.1⟩

theorem everywhere_begin (c : Connection) (hf : f.Everywhere P) : (f.run (begin c)).2.Everywhere P := by
  rw [run_begin]
  split
  · exact hf
  · rw [everywhere_iff]
    refine ⟨hf.1, fun d t hw => ?_⟩
    cases hw
    exact hf.1

theorem everywhere_commit (c : Connection) (hf : f.Everywhere P) : (f.run (commit c)).2.Everywhere P := by
  rw [run_commit]
  split
  · rename_i t ht
    have hv := hf.2 c
    rw [view, ht] at hv
    exact ⟨hv, fun _ => hv⟩
  · exact hf

theorem everywhere_rollback (c : Connection) (hf : f.Everywhere P) : (f.run (rollback c)).2.Everywhere P := by
  rw [run_rollback]
  split
  · exact ⟨hf.1, fun _ => hf.1⟩
  · exact hf

end File

/-- A property that new taggings and removals keep. -/
structure Kept (P : Database → Prop) : Prop where
  withTagging : ∀ db T v r, P db → P (db.withTagging T v r)
  without : ∀ db T ids, P db → P (db.without T ids)

namespace Kept

variable {P : Database → Prop}

theorem withTaggings (hP : Kept P) (T : Tenant) (v : Version) : ∀ (rs : List TagRecord) {db : Database},
    P db → P (db.withTaggings T v rs)
  | [], _, h => h
  | r :: rs, db, h => hP.withTaggings T v rs (hP.withTagging db T v r h)

theorem perform (hP : Kept P) {f : File} (hf : f.Everywhere P) (w : Write) (st : Store) (now : Time.Instant) :
    (f.run (w.perform st now)).2.Everywhere P := by
  obtain ⟨g, hg, ha⟩ := w.run_perform st now f
  rw [hg]
  refine ha.everywhere ?_
  cases ho : w.outcome st now f with
  | error b => exact File.everywhere_undo _ hf
  | ok p =>
    obtain ⟨x, db⟩ := p
    refine File.everywhere_put hf ?_
    obtain ⟨copied, -, rfl⟩ := Write.on_ok (Write.outcome_ok ho).2
    rcases w.changed_cases st now copied (f.view st.connection) with ⟨v, rs, h⟩ | ⟨v, name, a, h⟩ <;> rw [h]
    · exact hP.withTaggings _ v rs (hf.2 _)
    · exact hP.without _ _ _ (hf.2 _)

end Kept

namespace Session

variable {P : Database → Prop} {s : Session}

theorem run_command (f : File) (t : Task) (a : Action Unit) :
    f.run (do Store.run t a; return Answer.done : Operation Answer) = match f.run a with
      | (.ok (), g) => (.ok .done, g)
      | (.error e, g) => (.error (.storage t e), g) := by
  rw [File.run_bind, Store.run_run]
  rcases f.run a with ⟨e | ⟨⟩, g⟩ <;> rfl

theorem step_begin (s : Session) (i : Nat) (seat : Seat) : s.step i seat .begin =
    s.operate (do Store.run .beginTransaction (File.begin i); return .done) := rfl

theorem step_commit (s : Session) (i : Nat) (seat : Seat) : s.step i seat .commit =
    s.operate (do Store.run .commitTransaction (File.commit i); return .done) := rfl

theorem step_rollback (s : Session) (i : Nat) (seat : Seat) : s.step i seat .rollback =
    s.operate (do Store.run .rollBackTransaction (File.rollback i); return .done) := rfl

theorem file_command (s : Session) (t : Task) (a : Action Unit) :
    (s.operate (do Store.run t a; return Answer.done)).2.file = (s.file.run a).2 := by
  rw [operate_eq, run_command]
  rcases s.file.run a with ⟨e | ⟨⟩, g⟩ <;> rfl

theorem everywhere_step (hP : Kept P) (hs : s.file.Everywhere P) (i : Nat) (seat : Seat) (x : Step) :
    (s.step i seat x).2.file.Everywhere P := by
  cases x.kind with
  | write w =>
    rw [step_write, operate_eq]
    exact hP.perform hs w _ _
  | read r =>
    rw [step_read, operate_eq, Read.run_perform]
    exact hs
  | begin =>
    rw [step_begin, file_command]
    exact File.everywhere_begin i hs
  | commit =>
    rw [step_commit, file_command]
    exact File.everywhere_commit i hs
  | rollback =>
    rw [step_rollback, file_command]
    exact File.everywhere_rollback i hs
  | aside h =>
    rw [file_aside s i seat h]
    exact hs

theorem everywhere_move (hP : Kept P) (hs : s.file.Everywhere P) (m : Move) : (s.move m).2.file.Everywhere P := by
  unfold move
  split
  · exact everywhere_step (s := { s with clock := m.now }) hP hs m.seat _ m.step
  · exact hs

/-- **What taggings and removals keep holds everywhere in a run.** -/
theorem everywhere_run (hP : Kept P) : ∀ (ms : List Move) {s : Session}, s.file.Everywhere P →
    (s.run ms).file.Everywhere P
  | [], _, hs => hs
  | m :: ms, _, hs => everywhere_run hP ms (everywhere_move hP hs m)

end Session
end VersionTags
