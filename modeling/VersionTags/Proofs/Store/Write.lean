import VersionTags.Proofs.Store.Read
/-!
# What a write does to the tables

The six writes of a store are values of `Write`.  `Write.on` says what a write does to the tables alone: it may read
records first, and then does its statements one after another until one is refused.  No transaction, savepoint or lock
occurs in it.  `Write.run_perform` says that performing the write on a file comes to just that, whatever transaction
is open: all of it on success, and on failure as much undone as the refused statement asks.
-/
namespace VersionTags

namespace Store

variable (s : Store) (readOnly : Bool)

def putOne (v : Version) (r : TagRecord) : Statement TagId := do
  let id ← (Statement.insertTag s.faults (s.strategy == .generatedKeys) s.tenant r).under readOnly
  (Statement.insertLink s.faults s.tenant id v).under readOnly
  return id

def putAll (v : Version) (rs : List TagRecord) : Statement Unit := rs.forM fun r => discard (s.putOne readOnly v r)

/-- Deletes the tenant's links of a tag and then the tag. -/
def deleteOne (id : TagId) : Statement Unit := do
  (Statement.deleteLinks s.tenant id).under readOnly
  (Statement.deleteTag s.faults s.tenant id).under readOnly

def deleteAll (ids : List TagId) : Statement Unit := ids.forM (s.deleteOne readOnly)

/-- Deletes the tags that a removal names, and answers how many rows it named. -/
def takeOut (v : Version) (name : Option String) (a : AuthorFilter) : Statement Nat := do
  let ids := (← get).idsToRemove s.tenant v name a
  s.deleteAll readOnly ids
  return ids.length

end Store

/-! ## The greatest id -/

theorem foldl_max_of_le {m : Int} : ∀ {ts : List TagRow}, (∀ t ∈ ts, t.id ≤ m) →
    ts.foldl (fun id t => max id t.id) m = m
  | [], _ => rfl
  | t :: ts, h => by
    rw [List.foldl_cons, Int.max_eq_left (h t List.mem_cons_self)]
    exact foldl_max_of_le fun u hu => h u (List.mem_cons_of_mem t hu)

/-- **The greatest id after an insertion is the id of the row inserted**, since no row has one above `lastId`. -/
theorem Statement.greatestId_of_insertTag {faults : List Fault} {returning : Bool} {T : Tenant} {r : TagRecord}
    {db db' : Database} {id : TagId} (h : insertTag faults returning T r db = .ok (id, db')) :
    db'.greatestId = .ok id := by
  unfold insertTag at h
  split at h
  · cases h
  · cases hf : checkFaults faults (.tagInsert r.name) with
    | error e => rw [hf] at h; cases h
    | ok u =>
      rw [hf] at h
      cases h
      simp only [Database.greatestId, Database.withTag]
      rw [foldl_max_of_le]
      intro t ht
      exact Int.le_trans (db.id_le t ht) (Int.le_add_one (Int.le_refl _))

namespace Store

open File (Carries)

/-- **However the id is learnt, it is the one that the insertion gives.** -/
theorem run_insertTag (st : Store) (r : TagRecord) {f : File} (h : f.isLocked st.connection = false) :
    f.run (st.insertTag r) = f.settle ((Statement.insertTag st.faults (st.strategy == .generatedKeys) st.tenant r).under
      f.readOnly (f.view st.connection)) := by
  unfold insertTag
  cases st.strategy with
  | generatedKeys => exact File.run_execute _ h
  | maxId =>
    show f.run (_ >>= fun _ => _) = f.settle ((Statement.insertTag st.faults false st.tenant r).under _ _)
    rw [File.run_bind, File.run_execute _ h]
    cases ho : (Statement.insertTag st.faults false st.tenant r).under f.readOnly (f.view st.connection) with
    | error e => rfl
    | ok p =>
      obtain ⟨id, db⟩ := p
      have hid := Statement.greatestId_of_insertTag (Statement.under_ok ho)
      simp only [File.settle]
      rw [File.run_query, File.isBlocked_put db h, File.view_put db h, hid]
      rfl

theorem carries_insertTag (s : Store) (r : TagRecord) :
    Carries s.connection (s.insertTag r)
      fun ro => (Statement.insertTag s.faults (s.strategy == .generatedKeys) s.tenant r).under ro :=
  File.carries_of_settle fun _ h => s.run_insertTag r h

theorem carries_insertTagging (s : Store) (v : Version) (r : TagRecord) :
    Carries s.connection (s.insertTagging v r) fun ro => s.putOne ro v r :=
  (s.carries_insertTag r).bind fun id => (File.carries_execute _ _).bind fun _ => File.carries_pure _ id

theorem discard_eq_bind {m : Type → Type} [Monad m] [LawfulMonad m] {α : Type} (a : m α) :
    discard a = a >>= fun _ => pure () := by
  show Functor.mapConst () a = _
  rw [map_const]
  exact map_eq_pure_bind _ a

theorem carries_discard {α : Type} {c : Connection} {a : Action α} {s : Bool → Statement α} (h : Carries c a s) :
    Carries c (discard a) fun ro => discard (s ro) := by
  simp only [discard_eq_bind]
  exact h.bind fun _ => File.carries_pure _ ()

theorem carries_insertAll (s : Store) (v : Version) : ∀ rs : List TagRecord,
    Carries s.connection (rs.forM fun r => discard (s.insertTagging v r)) fun ro => s.putAll ro v rs
  | [] => File.carries_pure _ ()
  | r :: rs => (carries_discard (s.carries_insertTagging v r)).bind fun _ => carries_insertAll s v rs

theorem carries_deleteTag (s : Store) (id : TagId) :
    Carries s.connection (s.deleteTag id) fun ro => s.deleteOne ro id :=
  (File.carries_execute _ _).bind fun _ => File.carries_execute _ _

theorem carries_deleteAll (s : Store) : ∀ ids : List TagId,
    Carries s.connection (ids.forM s.deleteTag) fun ro => s.deleteAll ro ids
  | [] => File.carries_pure _ ()
  | id :: ids => (s.carries_deleteTag id).bind fun _ => carries_deleteAll s ids

theorem carries_remove (s : Store) (v : Version) (name : Option String) (a : AuthorFilter) :
    Carries s.connection (do
      let ids ← File.query s.connection fun db => .ok (db.idsToRemove s.tenant v name a)
      ids.forM s.deleteTag
      return ids.length) fun ro => s.takeOut ro v name a :=
  (File.carries_query s.connection fun db => .ok (db.idsToRemove s.tenant v name a)).bind fun ids =>
    (s.carries_deleteAll ids).bind fun _ => File.carries_pure _ ids.length

end Store

/-! ## The writes -/

inductive Write where
  | add (name : String) (v : Version) (author : String)
  | addMany (v : Version) (records : List TagRecord)
  | copy (source target : Version)
  | remove (v : Version) (name : String)
  | removeBy (v : Version) (name author : String)
  | purge (v : Version)
  deriving DecidableEq

namespace Write

def perform (st : Store) (now : Time.Instant) : Write → Operation Answer
  | .add n v a => do let _ ← st.addTag now n v a; return .done
  | .addMany v rs => do st.addTags v rs; return .done
  | .copy v w => do st.copyTags v w; return .done
  | .remove v n => do return .number (← st.removeTag v n)
  | .removeBy v n a => do return .number (← st.removeTagBy v n a)
  | .purge v => do return .number (← st.purge v)

def task (st : Store) : Write → Task
  | .add n v a => .addTag n (st.describe v) a
  | .addMany v _ => .addTags (st.describe v)
  | .copy _ w => .addTags (st.describe w)
  | .remove v n => .removeTag n (st.describe v)
  | .removeBy v n a => .removeTagBy n (st.describe v) a
  | .purge v => .purge v

/-- The statements of a write, one after another, where a copy has read these records. -/
def statement (st : Store) (readOnly : Bool) (now : Time.Instant) (copied : List TagRecord) : Write → Statement Answer
  | .add n v a => do let _ ← st.putOne readOnly v ⟨n, a, now⟩; return .done
  | .addMany v rs => do st.putAll readOnly v rs; return .done
  | .copy _ w => do st.putAll readOnly w copied; return .done
  | .remove v n => do return .number (← st.takeOut readOnly v (some n) .any)
  | .removeBy v n a => do return .number (← st.takeOut readOnly v (some n) (.exactly a))
  | .purge v => do return .number (← st.takeOut readOnly v none .any)

/-- What refuses a write, and what the write was doing. -/
structure Blame where
  task : Task
  refusal : Refusal
  deriving DecidableEq

def blaming (t : Task) : Except Refusal (Answer × Database) → Except Blame (Answer × Database)
  | .ok r => .ok r
  | .error r => .error ⟨t, r⟩

/-- The tables after the statements of a write, or what refuses one of them. -/
def execute (w : Write) (st : Store) (readOnly : Bool) (now : Time.Instant) (copied : List TagRecord) (db : Database) :
    Except Blame (Answer × Database) :=
  blaming (w.task st) (w.statement st readOnly now copied db)

/-- What a write comes to on the tables that its connection sees.  A copy reads its records first. -/
def on (w : Write) (st : Store) (readOnly : Bool) (now : Time.Instant) (db : Database) :
    Except Blame (Answer × Database) :=
  match w with
  | .copy v _ =>
    match db.records st.tenant v with
    | .ok rs => w.execute st readOnly now rs db
    | .error e => .error ⟨.readTags (st.describe v), ⟨e, .statement⟩⟩
  | _ => w.execute st readOnly now [] db

/-- What refuses a write while another connection has a transaction open: the lock, unless the records to be copied
cannot be read. -/
def shutOut (w : Write) (st : Store) (f : File) : Blame :=
  match w with
  | .copy v _ =>
    if f.isBlocked st.connection then ⟨.readTags (st.describe v), ⟨.locked, .statement⟩⟩
    else
      match f.committed.records st.tenant v with
      | .ok _ => ⟨w.task st, ⟨.locked, .statement⟩⟩
      | .error e => ⟨.readTags (st.describe v), ⟨e, .statement⟩⟩
  | _ => ⟨w.task st, ⟨.locked, .statement⟩⟩

/-- What a write comes to on a file. -/
def outcome (w : Write) (st : Store) (now : Time.Instant) (f : File) : Except Blame (Answer × Database) :=
  if f.isLocked st.connection then .error (w.shutOut st f) else w.on st f.readOnly now (f.view st.connection)

def report : Except Blame (Answer × Database) → Except Error Answer
  | .ok (x, _) => .ok x
  | .error b => .error (.storage b.task b.refusal.cause)

def leave (f : File) : Except Blame (Answer × Database) → File
  | .ok (_, db) => f.put db
  | .error b => f.undo b.refusal.reach

/-! ## Performing a write -/

theorem run_scoped {α : Type} {f : File} {st : Store} {a : Action α} {s : Bool → Statement α} (t : Task)
    (k : α → Answer) (ha : File.Carries st.connection a s) (h : f.isLocked st.connection = false) :
    ∃ g, f.run (do return k (← Store.run t (File.writeScope st.connection a)) : Operation Answer) =
      (report (blaming t ((do return k (← s f.readOnly) : Statement Answer) (f.view st.connection))), g) ∧
      g.Alike (leave f (blaming t ((do return k (← s f.readOnly) : Statement Answer) (f.view st.connection)))) := by
  obtain ⟨g, hg, hl⟩ := File.run_writeScope ha h
  have hs : (do return k (← s f.readOnly) : Statement Answer) (f.view st.connection) =
      (s f.readOnly (f.view st.connection)).map fun p => (k p.1, p.2) := by
    show (s f.readOnly (f.view st.connection) >>= fun p => _) = _
    cases s f.readOnly (f.view st.connection) <;> rfl
  rw [hs, File.run_bind, Store.run_run, hg]
  generalize s f.readOnly (f.view st.connection) = o at hl
  rcases o with r | ⟨x, db⟩
  · exact ⟨g, rfl, hl⟩
  · exact ⟨g, rfl, hl⟩

theorem run_scoped_of_isLocked {α : Type} {f : File} {st : Store} (a : Action α) (t : Task) (k : α → Answer)
    (h : f.isLocked st.connection = true) :
    f.run (do return k (← Store.run t (File.writeScope st.connection a)) : Operation Answer) =
      (.error (.storage t .locked), f) := by
  rw [File.run_bind, Store.run_run, File.run_writeScope_of_isLocked a h]
  rfl

theorem run_removal {f : File} {st : Store} (t : Task) (v : Version) (name : Option String) (a : AuthorFilter)
    (h : f.isLocked st.connection = false) :
    let o := blaming t
      ((do return .number (← st.takeOut f.readOnly v name a) : Statement Answer) (f.view st.connection))
    ∃ g, f.run (do return .number (← Store.run t (st.removeMatching v name a)) : Operation Answer) = (report o, g) ∧
      g.Alike (leave f o) :=
  run_scoped t (fun n : Nat => .number n) (st.carries_remove v name a) h

theorem run_removal_of_isLocked {f : File} {st : Store} (t : Task) (v : Version) (name : Option String)
    (a : AuthorFilter) (h : f.isLocked st.connection = true) :
    f.run (do return .number (← Store.run t (st.removeMatching v name a)) : Operation Answer) =
      (.error (.storage t .locked), f) :=
  run_scoped_of_isLocked _ t (fun n : Nat => .number n) h

theorem run_records (f : File) (st : Store) (v : Version) : f.run (st.records v) =
    ((Task.readTags (st.describe v)).answer (f.sight st.connection) fun db => db.records st.tenant v, f) :=
  Store.run_ask f st _ _

/-- **A write is shut out while another connection has a transaction open**, and leaves the file as it is. -/
theorem run_perform_of_isLocked (w : Write) (st : Store) (now : Time.Instant) {f : File}
    (h : f.isLocked st.connection = true) :
    f.run (w.perform st now) = (report (.error (w.shutOut st f)), f) := by
  cases w with
  | add n v a => exact run_scoped_of_isLocked _ _ (fun _ => .done) h
  | addMany v rs => exact run_scoped_of_isLocked _ _ (fun _ => .done) h
  | copy v w =>
    show f.run ((st.records v >>= fun rs => st.addTags w rs) >>= fun _ => pure Answer.done) = _
    rw [File.run_bind, File.run_bind, run_records, File.sight, File.view_of_isLocked h]
    unfold shutOut
    by_cases hb : f.isBlocked st.connection = true
    · simp only [if_pos hb]
      rfl
    · simp only [if_neg hb, Task.answer]
      cases f.committed.records st.tenant v with
      | error e => rfl
      | ok rs =>
        have hr := run_scoped_of_isLocked (rs.forM fun r => discard (st.insertTagging w r))
          (.addTags (st.describe w)) (fun _ => .done) h
        rw [File.run_bind] at hr
        exact hr
  | remove v n => exact run_removal_of_isLocked _ v (some n) .any h
  | removeBy v n a => exact run_removal_of_isLocked _ v (some n) (.exactly a) h
  | purge v => exact run_removal_of_isLocked _ v none .any h

theorem shutOut_reach (w : Write) (st : Store) (f : File) : (w.shutOut st f).refusal.reach = .statement := by
  cases w with
  | copy v w =>
    dsimp only [shutOut]
    by_cases hb : f.isBlocked st.connection = true
    · rw [if_pos hb]
    · rw [if_neg hb]
      cases f.committed.records st.tenant v <;> rfl
  | _ => rfl

/-- **Performing a write comes to what the write does to the tables its connection sees**: on success they are as its
statements leave them, and on failure the error names the refusal and the file is as the refusal's reach says. -/
theorem run_perform (w : Write) (st : Store) (now : Time.Instant) (f : File) :
    ∃ g, f.run (w.perform st now) = (report (w.outcome st now f), g) ∧ g.Alike (leave f (w.outcome st now f)) := by
  unfold outcome
  cases h : f.isLocked st.connection with
  | true =>
    refine ⟨f, run_perform_of_isLocked w st now h, ?_⟩
    show f.Alike (f.undo (w.shutOut st f).refusal.reach)
    rw [shutOut_reach]
    rfl
  | false =>
    cases w with
    | add n v a => exact run_scoped _ (fun _ => .done) (st.carries_insertTagging v ⟨n, a, now⟩) h
    | addMany v rs => exact run_scoped _ (fun _ => .done) (st.carries_insertAll v rs) h
    | copy v w =>
      show ∃ g, f.run ((st.records v >>= fun rs => st.addTags w rs) >>= fun _ => pure Answer.done) = _ ∧ _
      rw [File.run_bind, File.run_bind, run_records, File.sight, File.isBlocked_of_isLocked h]
      simp only [Bool.false_eq_true, ↓reduceIte, Task.answer, on]
      cases (f.view st.connection).records st.tenant v with
      | error e => exact ⟨f, rfl, rfl⟩
      | ok rs =>
        obtain ⟨g, hg⟩ := run_scoped (.addTags (st.describe w)) (fun _ => .done) (st.carries_insertAll w rs) h
        rw [File.run_bind] at hg
        exact ⟨g, hg⟩
    | remove v n => exact run_removal _ v (some n) .any h
    | removeBy v n a => exact run_removal _ v (some n) (.exactly a) h
    | purge v => exact run_removal _ v none .any h

end Write
end VersionTags
