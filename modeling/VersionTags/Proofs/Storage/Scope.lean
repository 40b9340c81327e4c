import VersionTags.Storage.File
/-!
# What an action does to a file

`File.run` runs an action, and each action of a file has one equation that says what it comes to.

An action that works inside a transaction *carries* a statement when it does to the working tables what the statement
does to them, and fails as the statement is refused (`File.Carries`).  Whatever an action carries, a write scope around
it does as a whole or not at all (`File.run_writeScope`): that is the only fact about scopes the rest needs.
-/
namespace VersionTags

/-- Refuses the statement where the file may not be changed. -/
def Statement.under {α : Type} (readOnly : Bool) (s : Statement α) : Statement α :=
  if readOnly then fun _ => .error ⟨.readOnly, .statement⟩ else s

/-- A query as a statement that changes nothing. -/
def Statement.ofQuery {α : Type} (q : Database → Except Failure α) : Statement α := fun db =>
  match q db with
  | .ok x => .ok (x, db)
  | .error e => .error ⟨e, .statement⟩

theorem Statement.under_error {α : Type} {ro : Bool} {s : Statement α} {db : Database} {r : Refusal}
    (h : s.under ro db = .error r) : r = ⟨.readOnly, .statement⟩ ∨ s db = .error r := by
  cases ro with
  | true =>
    cases h
    exact .inl rfl
  | false => exact .inr h

theorem Statement.under_ok {α : Type} {ro : Bool} {s : Statement α} {db : Database} {p : α × Database}
    (h : s.under ro db = .ok p) : s db = .ok p := by
  cases ro with
  | true => cases h
  | false => exact h

namespace File

variable {ε α β : Type}

/-- What an action comes to on a file, and the file that it leaves. -/
def run (f : File) (a : ExceptT ε (StateM File) α) : Except ε α × File := StateT.run (ExceptT.run a) f

@[simp] theorem run_pure (f : File) (x : α) : f.run (pure x : ExceptT ε (StateM File) α) = (.ok x, f) := rfl

@[simp] theorem run_throw (f : File) (e : ε) : f.run (throw e : ExceptT ε (StateM File) α) = (.error e, f) := rfl

@[simp] theorem run_get (f : File) : f.run (get : ExceptT ε (StateM File) File) = (.ok f, f) := rfl

theorem run_bind (f : File) (a : ExceptT ε (StateM File) α) (k : α → ExceptT ε (StateM File) β) :
    f.run (a >>= k) = match f.run a with
      | (.ok x, g) => g.run (k x)
      | (.error e, g) => (.error e, g) := by
  show (match (StateT.run (ExceptT.run a) f : Except ε α × File) with
    | (r, g) => StateT.run (ExceptT.bindCont k r) g : Except ε β × File) = _
  unfold run
  rcases StateT.run (ExceptT.run a) f with ⟨r | x, g⟩ <;> rfl

theorem run_tryCatch (f : File) (a : ExceptT ε (StateM File) α) (h : ε → ExceptT ε (StateM File) α) :
    f.run (tryCatch a h) = match f.run a with
      | (.ok x, g) => (.ok x, g)
      | (.error e, g) => g.run (h e) := by
  unfold run
  show (match (StateT.run (ExceptT.run a) f : Except ε α × File) with
    | (r, g) =>
      StateT.run (match r with | .ok x => pure (.ok x) | .error e => ExceptT.run (h e)) g : Except ε α × File) = _
  rcases StateT.run (ExceptT.run a) f with ⟨r | x, g⟩ <;> rfl

/-! ## The actions of a file -/

theorem run_query (f : File) (c : Connection) (q : Database → Except Failure α) :
    f.run (query c q) = (if f.isBlocked c then .error .locked else q (f.view c), f) := by
  simp only [query, run_bind, run_get]
  by_cases hb : f.isBlocked c = true
  · simp [hb]
  · simp only [hb]
    cases q (f.view c) <;> rfl

theorem run_begin (f : File) (c : Connection) : f.run (begin c) = match f.writer with
    | some (owner, _) => (.error (if owner = c then .nestedTransaction else .locked), f)
    | none => (.ok (), { f with writer := some (c, ⟨f.committed, [], []⟩) }) := by
  simp only [begin, run_bind, run_get]
  cases f.writer <;> rfl

theorem run_commit (f : File) (c : Connection) : f.run (commit c) = match f.transaction? c with
    | some t => (.ok (), { f with committed := t.working, writer := none })
    | none => (.error .noTransactionToCommit, f) := by
  simp only [commit, run_bind, run_get]
  cases f.transaction? c <;> rfl

theorem run_rollback (f : File) (c : Connection) : f.run (rollback c) = match f.transaction? c with
    | some _ => (.ok (), { f with writer := none })
    | none => (.error .noTransactionToRollBack, f) := by
  simp only [rollback, run_bind, run_get]
  cases f.transaction? c <;> rfl

/-- The file with other tables in the connection's transaction. -/
def withWorking (f : File) (c : Connection) (t : Transaction) (db : Database) : File :=
  { f with writer := some (c, { t with working := db }) }

theorem transaction?_of_writer {f : File} {c : Connection} {t : Transaction} (h : f.writer = some (c, t)) :
    f.transaction? c = some t := by
  simp [transaction?, h]

theorem view_of_writer {f : File} {c : Connection} {t : Transaction} (h : f.writer = some (c, t)) :
    f.view c = t.working := by
  simp [view, transaction?_of_writer h]

theorem view_of_ne {f : File} {c d : Connection} {t : Transaction} (h : f.writer = some (c, t)) (hd : c ≠ d) :
    f.view d = f.committed := by
  simp [view, transaction?, h, hd]

theorem view_of_none {f : File} (h : f.writer = none) (c : Connection) : f.view c = f.committed := by
  simp [view, transaction?, h]

theorem isBlocked_of_writer {f : File} {c : Connection} {t : Transaction} (h : f.writer = some (c, t)) :
    f.isBlocked c = false := by
  simp [isBlocked, h]

theorem run_savepoint {f : File} {c : Connection} {t : Transaction} (h : f.writer = some (c, t)) :
    f.run (savepoint c) =
      (.ok (), { f with writer := some (c, ⟨t.working, t.working :: t.savepoints, t.working :: t.past⟩) }) := by
  simp only [savepoint, run_bind, run_get, transaction?_of_writer h]
  rfl

theorem run_rollbackTo (k : Database) (c : Connection) (db base : Database) (rest past : List Database) (ro : Bool)
    (sp : Transaction → Bool) : File.run ⟨k, some (c, ⟨db, base :: rest, past⟩), ro, sp⟩ (rollbackTo c) =
      (.ok (), ⟨k, some (c, ⟨base, base :: rest, db :: past⟩), ro, sp⟩) := by
  simp only [rollbackTo, run_bind, run_get, transaction?, ↓reduceIte]
  rfl

theorem run_release (k : Database) (c : Connection) (db base : Database) (rest past : List Database) (ro : Bool)
    (sp : Transaction → Bool) : File.run ⟨k, some (c, ⟨db, base :: rest, past⟩), ro, sp⟩ (release c) =
      (.ok (), ⟨k, some (c, ⟨db, rest, past⟩), ro, sp⟩) := by
  simp only [release, run_bind, run_get, transaction?, ↓reduceIte]
  rfl

/-! ## Statements -/

/-- Another connection has a transaction open. -/
def isLocked (f : File) (c : Connection) : Bool :=
  match f.writer with
  | some (owner, _) => owner != c
  | none => false

theorem writer_of_isLocked {f : File} {c : Connection} (h : f.isLocked c = false) :
    (∃ t, f.writer = some (c, t)) ∨ f.writer = none := by
  unfold isLocked at h
  split at h
  · rename_i owner t hw
    obtain rfl : owner = c := by simpa using h
    exact .inl ⟨t, hw⟩
  · exact .inr ‹_›

/-- The file after a write that leaves these tables: they are the working tables of the open transaction, and without
one they are committed. -/
def put (f : File) (db : Database) : File :=
  match f.writer with
  | some (c, t) => f.withWorking c t db
  | none => { f with committed := db }

/-- The file after a refusal of such a reach, when what the statement did has been undone. -/
def undo (f : File) : Reach → File
  | .statement => f
  | .transaction => { f with writer := none }

/-- What a write comes to, by what becomes of a statement on the tables that its connection sees. -/
def settle (f : File) : Except Refusal (α × Database) → Except Failure α × File
  | .ok (x, db) => (.ok x, f.put db)
  | .error r => (.error r.cause, f.undo r.reach)

theorem undo_of_none {f : File} (h : f.writer = none) (r : Reach) : f.undo r = f := by
  cases r with
  | statement => rfl
  | transaction =>
    cases f
    simp_all [undo]

theorem view_put {f : File} {c : Connection} (db : Database) (h : f.isLocked c = false) : (f.put db).view c = db := by
  rcases writer_of_isLocked h with ⟨t, hw⟩ | hw <;> simp [put, hw, withWorking, view, transaction?]

theorem isBlocked_put {f : File} {c : Connection} (db : Database) (h : f.isLocked c = false) :
    (f.put db).isBlocked c = false := by
  rcases writer_of_isLocked h with ⟨t, hw⟩ | hw <;> simp [put, hw, withWorking, isBlocked]

/-- **A statement on a connection that is not locked out** does to the tables that it sees what the statement says. -/
theorem run_execute {f : File} {c : Connection} (s : Statement α) (h : f.isLocked c = false) :
    f.run (execute c s) = f.settle (s.under f.readOnly (f.view c)) := by
  simp only [execute, run_bind, run_get, Statement.under]
  by_cases hro : f.readOnly = true
  · simp only [if_pos hro]
    rfl
  simp only [if_neg hro]
  rcases writer_of_isLocked h with ⟨t, hw⟩ | hw
  · simp only [hw, ↓reduceIte, view_of_writer hw]
    rcases s t.working with ⟨e, _ | _⟩ | ⟨x, db⟩
    · rfl
    · rfl
    · simp only [settle, put, hw]
      rfl
  · simp only [hw, view_of_none hw]
    rcases s f.committed with ⟨e, r⟩ | ⟨x, db⟩
    · simp only [settle, undo_of_none hw]
      rfl
    · simp only [settle, put, hw]
      rfl

theorem run_execute_of_isLocked {f : File} {c : Connection} (s : Statement α) (h : f.isLocked c = true) :
    ∃ e, f.run (execute c s) = (.error e, f) := by
  simp only [execute, run_bind, run_get]
  by_cases hro : f.readOnly = true
  · simp only [if_pos hro]
    exact ⟨_, rfl⟩
  simp only [if_neg hro]
  unfold isLocked at h
  split at h
  · rename_i owner t hw
    have ho : owner ≠ c := by simpa using h
    simp only [hw, if_neg ho]
    exact ⟨_, rfl⟩
  · cases h

/-! ## Actions inside a transaction -/

/-- How an action of the connection's transaction ends, by what becomes of a statement on the working tables.  A
refusal that undoes the statement alone may leave what was done before it. -/
inductive Ends (f : File) (c : Connection) (t : Transaction) :
    Except Refusal (α × Database) → Except Failure α × File → Prop where
  | done (x : α) (db : Database) : Ends f c t (.ok (x, db)) (.ok x, f.withWorking c t db)
  | refused (e : Failure) (db : Database) : Ends f c t (.error ⟨e, .statement⟩) (.error e, f.withWorking c t db)
  | lost (e : Failure) : Ends f c t (.error ⟨e, .transaction⟩) (.error e, { f with writer := none })

/-- In a transaction of the connection, the action does to the working tables what the statement does to them, and
fails as the statement is refused.  The statement is told whether the file may be changed. -/
def Carries (c : Connection) (a : Action α) (s : Bool → Statement α) : Prop :=
  ∀ (f : File) (t : Transaction), f.writer = some (c, t) → Ends f c t (s f.readOnly t.working) (f.run a)

theorem Ends.of_withWorking {f : File} {c : Connection} {t : Transaction} {db : Database}
    {o : Except Refusal (α × Database)} {r : Except Failure α × File}
    (h : Ends (f.withWorking c t db) c { t with working := db } o r) : Ends f c t o r := by
  cases h with
  | done x db' => exact .done x db'
  | refused e db' => exact .refused e db'
  | lost e => exact .lost e

theorem withWorking_self {f : File} {c : Connection} {t : Transaction} (h : f.writer = some (c, t)) :
    f.withWorking c t t.working = f := by
  cases f
  simp_all [withWorking]

theorem carries_pure (c : Connection) (x : α) : Carries c (pure x) fun _ => pure x := by
  intro f t h
  have hd := Ends.done (f := f) (c := c) (t := t) x t.working
  rwa [withWorking_self h] at hd

/-- What settles a statement on the tables of the open transaction carries it. -/
theorem carries_of_settle {c : Connection} {a : Action α} {s : Bool → Statement α}
    (h : ∀ f : File, f.isLocked c = false → f.run a = f.settle (s f.readOnly (f.view c))) : Carries c a s := by
  intro f t hw
  have hl : f.isLocked c = false := by simp [isLocked, hw]
  rw [h f hl, view_of_writer hw]
  rcases s f.readOnly t.working with ⟨e, _ | _⟩ | ⟨x, db⟩
  · have hr := Ends.refused (α := α) (f := f) (c := c) (t := t) e t.working
    rwa [withWorking_self hw] at hr
  · exact .lost e
  · simp only [settle, put, hw]
    exact .done x db

theorem carries_execute (c : Connection) (s : Statement α) : Carries c (execute c s) fun ro => s.under ro :=
  carries_of_settle fun _ h => run_execute s h

theorem carries_query (c : Connection) (q : Database → Except Failure α) :
    Carries c (query c q) fun _ => Statement.ofQuery q := by
  intro f t h
  rw [run_query, isBlocked_of_writer h, view_of_writer h, if_neg Bool.false_ne_true]
  dsimp only [Statement.ofQuery]
  cases q t.working with
  | ok x =>
    have hd := Ends.done (f := f) (c := c) (t := t) x t.working
    rwa [withWorking_self h] at hd
  | error e =>
    have hr := Ends.refused (α := α) (f := f) (c := c) (t := t) e t.working
    rwa [withWorking_self h] at hr

theorem Carries.bind {c : Connection} {a : Action α} {k : α → Action β} {s : Bool → Statement α}
    {s' : α → Bool → Statement β} (ha : Carries c a s) (hk : ∀ x, Carries c (k x) (s' x)) :
    Carries c (a >>= k) fun ro => s ro >>= fun x => s' x ro := by
  intro f t h
  have hf := ha f t h
  rw [run_bind]
  show Ends f c t (s f.readOnly t.working >>= fun p => s' p.1 f.readOnly p.2) _
  generalize s f.readOnly t.working = o at hf
  generalize f.run a = r at hf
  cases hf with
  | done x db => exact (hk x (f.withWorking c t db) { t with working := db } rfl).of_withWorking
  | refused e db => exact .refused e db
  | lost e => exact .lost e

/-! ## The write scope -/

theorem run_attempt (f : File) (a : Action Unit) : f.run (attempt a) = (.ok (), (f.run a).2) := by
  rw [attempt, run_tryCatch]
  rcases f.run a with ⟨e | ⟨⟩, g⟩ <;> rfl

/-- The file as if its transaction had no past. -/
def withoutPast (f : File) : File := { f with writer := f.writer.map fun w => (w.1, { w.2 with past := [] }) }

/-- Two files that differ at most in the past of the transaction. -/
def Alike (f g : File) : Prop := f.withoutPast = g.withoutPast

theorem run_writeScope_of_isLocked {f : File} {c : Connection} (a : Action α) (h : f.isLocked c = true) :
    f.run (writeScope c a) = (.error .locked, f) := by
  unfold isLocked at h
  split at h
  · rename_i owner t hw
    have ho : owner ≠ c := by simpa using h
    simp [writeScope, run_bind, isAutocommit, transaction?, hw, ho, run_begin]
  · cases h

/-- **Whatever is done within a write scope happens as a whole or not at all.**  The scope does to the tables what the
statement that its body carries does, a refusal undoes the statement or the whole transaction, and the failure is that
of the statement, whatever the clean-up comes to. -/
theorem run_writeScope {f : File} {c : Connection} {a : Action α} {s : Bool → Statement α} (ha : Carries c a s)
    (h : f.isLocked c = false) :
    ∃ g, f.run (writeScope c a) = ((f.settle (s f.readOnly (f.view c))).1, g) ∧
      g.Alike (f.settle (s f.readOnly (f.view c))).2 := by
  unfold isLocked at h
  split at h
  · -- a transaction of the connection: the scope is a savepoint
    rename_i owner t hw
    obtain rfl : owner = c := by simpa using h
    have hf := ha { f with writer := some (owner, ⟨t.working, t.working :: t.savepoints, t.working :: t.past⟩) } _ rfl
    simp only [writeScope, run_bind, run_get, isAutocommit, transaction?_of_writer hw, Option.isNone_some,
      Bool.false_eq_true, ↓reduceIte, run_savepoint hw, run_tryCatch, run_attempt, view_of_writer hw]
    dsimp only at hf
    generalize s f.readOnly t.working = o at hf
    generalize File.run _ a = r at hf
    cases hf with
    | done x db =>
      simp only [withWorking, run_release]
      exact ⟨_, rfl, by simp [Alike, withoutPast, settle, put, hw, withWorking]⟩
    | refused e db =>
      simp only [withWorking, run_rollbackTo, run_release, run_throw]
      exact ⟨_, rfl, by simp [Alike, withoutPast, settle, undo, hw]⟩
    | lost e =>
      simp only [run_bind, rollbackTo, run_get, run_throw, transaction?]
      exact ⟨_, rfl, rfl⟩
  · -- no transaction: the scope is one
    rename_i hw
    have hv : f.view c = f.committed := view_of_none hw c
    have hf := ha { f with writer := some (c, ⟨f.committed, [], []⟩) } _ rfl
    simp only [writeScope, run_bind, run_get, isAutocommit, transaction?, hw, Option.isNone_none, ↓reduceIte,
      run_begin, run_tryCatch, run_attempt, hv]
    dsimp only at hf
    generalize s f.readOnly f.committed = o at hf
    generalize File.run _ a = r at hf
    cases hf with
    | done x db =>
      simp only [withWorking, run_commit, transaction?, ↓reduceIte]
      exact ⟨_, rfl, by simp [Alike, withoutPast, settle, put, hw]⟩
    | refused e db =>
      simp only [withWorking, run_rollback, transaction?, ↓reduceIte, run_throw]
      exact ⟨_, rfl, by simp [Alike, withoutPast, settle, undo, hw]⟩
    | lost e =>
      simp only [run_rollback, transaction?, run_throw]
      exact ⟨_, rfl, by simp [Alike, withoutPast, settle, undo]⟩

/-! ## What the connections see -/

theorem view_withoutPast (f : File) (c : Connection) : f.withoutPast.view c = f.view c := by
  rcases f with ⟨k, _ | ⟨owner, t⟩, ro, sp⟩
  · rfl
  · by_cases h : owner = c <;> simp [view, transaction?, withoutPast, h]

theorem isAutocommit_withoutPast (f : File) (c : Connection) : f.withoutPast.isAutocommit c = f.isAutocommit c := by
  rcases f with ⟨k, _ | ⟨owner, t⟩, ro, sp⟩
  · rfl
  · by_cases h : owner = c <;> simp [isAutocommit, transaction?, withoutPast, h]

theorem isLocked_withoutPast (f : File) (c : Connection) : f.withoutPast.isLocked c = f.isLocked c := by
  rcases f with ⟨k, _ | ⟨owner, t⟩, ro, sp⟩ <;> rfl

namespace Alike

variable {f g : File}

theorem view (h : f.Alike g) (c : Connection) : f.view c = g.view c := by
  rw [← view_withoutPast, h, view_withoutPast]

theorem isAutocommit (h : f.Alike g) (c : Connection) : f.isAutocommit c = g.isAutocommit c := by
  rw [← isAutocommit_withoutPast, h, isAutocommit_withoutPast]

theorem isLocked (h : f.Alike g) (c : Connection) : f.isLocked c = g.isLocked c := by
  rw [← isLocked_withoutPast, h, isLocked_withoutPast]

theorem committed (h : f.Alike g) : f.committed = g.committed := by
  have hc : f.withoutPast.committed = g.withoutPast.committed := by rw [h]
  exact hc

theorem readOnly (h : f.Alike g) : f.readOnly = g.readOnly := by
  have hc : f.withoutPast.readOnly = g.withoutPast.readOnly := by rw [h]
  exact hc

theorem spills (h : f.Alike g) : f.spills = g.spills := by
  have hc : f.withoutPast.spills = g.withoutPast.spills := by rw [h]
  exact hc

end Alike

/-- What no action of a connection changes: whether the file may be changed, and when a transaction begins to write to
it. -/
def settings (f : File) : Bool × (Transaction → Bool) := (f.readOnly, f.spills)

/-! ## Who has the transaction -/

section

variable {f : File} {c : Connection} {t : Transaction}

theorem writer_of_transaction? (h : f.transaction? c = some t) : f.writer = some (c, t) := by
  unfold transaction? at h
  split at h
  · rename_i owner t' hw
    split at h
    · rename_i ho
      cases h
      rw [hw, ho]
    · cases h
  · cases h

theorem writer_of_isAutocommit (h : f.isAutocommit c = false) : ∃ t, f.writer = some (c, t) := by
  cases ht : f.transaction? c with
  | none =>
    rw [isAutocommit, ht] at h
    cases h
  | some t => exact ⟨t, writer_of_transaction? ht⟩

theorem isAutocommit_eq (h : f.isLocked c = false) : f.isAutocommit c = f.writer.isNone := by
  rcases writer_of_isLocked h with ⟨t, hw⟩ | hw <;> simp [isAutocommit, transaction?, hw]

/-- A locked connection sees the committed tables. -/
theorem view_of_isLocked (h : f.isLocked c = true) : f.view c = f.committed := by
  unfold isLocked at h
  split at h
  · rename_i hw
    exact view_of_ne hw (bne_iff_ne.1 h)
  · cases h

theorem isBlocked_of_isLocked (h : f.isLocked c = false) : f.isBlocked c = false := by
  rcases writer_of_isLocked h with ⟨t, hw⟩ | hw
  · exact isBlocked_of_writer hw
  · simp [isBlocked, hw]

end

end File
end VersionTags
