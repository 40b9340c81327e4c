import VersionTags.Proofs.Store.Standing
/-!
# How a store learns an id

The insertion returns the id, or the store asks for the greatest one afterwards.  Both come to the id of the row that
was inserted, since no row has an id above the last one given (`Store.run_insertTag`, `Store.id_of_insertTag`).

So a write does the same either way, with the same answer, but for what an insertion that finds no id left undoes inside
a transaction (`Write.run_strategy`).
-/
namespace VersionTags

namespace Store

variable {st : Store} {f g : File} {r : TagRecord} {id : TagId}

theorem isLocked_of_insertTag (h : f.run (st.insertTag r) = (.ok id, g)) : f.isLocked st.connection = false := by
  rw [← Bool.not_eq_true]
  intro hl
  unfold insertTag at h
  cases hs : st.strategy with
  | generatedKeys =>
    obtain ⟨e, he⟩ := File.run_execute_of_isLocked (Statement.insertTag st.faults true st.tenant r) hl
    rw [hs] at h
    cases he.symm.trans h
  | maxId =>
    obtain ⟨e, he⟩ := File.run_execute_of_isLocked (Statement.insertTag st.faults false st.tenant r) hl
    rw [hs] at h
    dsimp only at h
    rw [File.run_bind, he] at h
    cases h

/-- **The id that a store learns is that of the row inserted**, which is above that of every row there was, and the
greatest of the table. -/
theorem id_of_insertTag (h : f.run (st.insertTag r) = (.ok id, g)) :
    (g.view st.connection).tags =
        ⟨id, r.name, r.author, r.taggedAt.storedText, .int st.tenant⟩ :: (f.view st.connection).tags ∧
      (∀ t ∈ (f.view st.connection).tags, t.id < id) ∧ (g.view st.connection).greatestId = .ok id := by
  have hl := isLocked_of_insertTag h
  rw [run_insertTag st r hl] at h
  cases ho : (Statement.insertTag st.faults (st.strategy == .generatedKeys) st.tenant r).under f.readOnly
      (f.view st.connection) with
  | error e =>
    rw [ho] at h
    cases h
  | ok p =>
    obtain ⟨id', db⟩ := p
    rw [ho] at h
    cases h
    have hok := Statement.under_ok ho
    have hmax := Statement.greatestId_of_insertTag hok
    obtain ⟨rfl, rfl⟩ := insertTag_ok hok
    rw [File.view_put _ hl]
    refine ⟨rfl, fun t ht => ?_, hmax⟩
    exact Int.lt_add_one_of_le ((f.view st.connection).id_le t ht)

/-! ## The two ways inside a transaction -/

/-- The store with the choice to have ids returned. -/
def generated (st : Store) : Store := { st with strategy := .generatedKeys }

end Store

namespace File

variable {α β : Type} {f : File} {c : Connection}

/-- How two actions end on a file with a transaction of the connection: alike, or both find no id left, which ends the
transaction for the second one alone. -/
inductive Twin (c : Connection) (plain : Prop) : Except Failure α × File → Except Failure α × File → Prop where
  | same (r : Except Failure α × File) : Twin c plain r r
  | spent (h : plain) {f : File} {t : Transaction} (hw : f.writer = some (c, t)) :
    Twin c plain (.error .full, f) (.error .full, { f with writer := none })

def Twins (c : Connection) (plain : Prop) (a b : Action α) : Prop :=
  ∀ (f : File) (t : Transaction), f.writer = some (c, t) → Twin c plain (f.run a) (f.run b)

variable {plain : Prop}

theorem Twins.refl (a : Action α) : Twins c plain a a := fun _ _ _ => .same _

theorem Twins.bind {a b : Action α} {k l : α → Action β} {s : Bool → Statement α} (ha : Carries c a s)
    (h : Twins c plain a b) (hk : ∀ x, Twins c plain (k x) (l x)) : Twins c plain (a >>= k) (b >>= l) := by
  intro f t hw
  have he := ha f t hw
  have hf := h f t hw
  rw [run_bind, run_bind]
  generalize s f.readOnly t.working = o at he
  generalize f.run a = p at he hf
  generalize f.run b = q at hf
  cases hf with
  | same r =>
    cases he with
    | done x db => exact hk x _ { t with working := db } rfl
    | refused e db => exact .same _
    | lost e => exact .same _
  | spent hp hg => exact .spent hp hg

/-- **A write scope around two such actions ends alike**, unless both find no id left inside a transaction of the
caller. -/
theorem run_writeScope_of_twins {a b : Action α} (h : Twins c plain a b) (f : File) :
    f.run (writeScope c a) = f.run (writeScope c b) ∨
      plain ∧ f.isAutocommit c = false ∧ (f.run (writeScope c a)).1 = .error .full ∧
        (f.run (writeScope c b)).1 = .error .full := by
  cases hl : f.isLocked c with
  | true => exact .inl (by rw [run_writeScope_of_isLocked a hl, run_writeScope_of_isLocked b hl])
  | false =>
    rcases writer_of_isLocked hl with ⟨t, hw⟩ | hw
    · have hf := h { f with writer := some (c, ⟨t.working, t.working :: t.savepoints, t.working :: t.past⟩) } _ rfl
      simp only [writeScope, run_bind, run_get, isAutocommit, transaction?_of_writer hw, Option.isNone_some,
        Bool.false_eq_true, ↓reduceIte, run_savepoint hw, run_tryCatch, run_attempt]
      generalize File.run _ a = p at hf
      generalize File.run _ b = q at hf
      cases hf with
      | same r => exact .inl rfl
      | spent hp hg => exact .inr ⟨hp, trivial, rfl, rfl⟩
    · refine .inl ?_
      have hf := h { f with writer := some (c, ⟨f.committed, [], []⟩) } _ rfl
      simp only [writeScope, run_bind, run_get, isAutocommit, transaction?, hw, Option.isNone_none, ↓reduceIte,
        run_begin, run_tryCatch, run_attempt]
      generalize File.run _ a = p at hf
      generalize File.run _ b = q at hf
      cases hf with
      | same r => rfl
      | spent hp hg =>
        -- the scope's own transaction is gone either way
        simp only [run_rollback, transaction?_of_writer hg]
        rfl

end File

namespace Statement

/-- Returning the id makes no difference but to what an insertion that finds none left undoes. -/
theorem insertTag_returning (faults : List Fault) (T : Tenant) (r : TagRecord) (db : Database) :
    insertTag faults true T r db = insertTag faults false T r db ∨
      faults.any Fault.isTagInsert = false ∧ insertTag faults true T r db = .error ⟨.full, .statement⟩ ∧
        insertTag faults false T r db = .error ⟨.full, .transaction⟩ := by
  unfold insertTag
  by_cases hf : db.lastId = Decimal.maxInt64
  · simp only [if_pos hf]
    cases faults.any Fault.isTagInsert with
    | true => exact .inl rfl
    | false => exact .inr ⟨rfl, rfl, rfl⟩
  · exact .inl (by rw [if_neg hf, if_neg hf])

end Statement

namespace Store

open File (Twins)

variable {st : Store}

theorem twins_insertTag (st : Store) (r : TagRecord) :
    Twins st.connection (st.insertsPlainly = true) (st.generated.insertTag r) (st.insertTag r) := by
  intro f t hw
  have hl : f.isLocked st.connection = false := by simp [File.isLocked, hw]
  rw [run_insertTag st r hl, run_insertTag st.generated r hl]
  show File.Twin _ _ (f.settle ((Statement.insertTag st.faults true st.tenant r).under _ _)) _
  cases hs : st.strategy with
  | generatedKeys => exact .same _
  | maxId =>
    show File.Twin _ _ _ (f.settle ((Statement.insertTag st.faults false st.tenant r).under _ _))
    cases f.readOnly with
    | true => exact .same _
    | false =>
      show File.Twin _ _ (f.settle (Statement.insertTag st.faults true st.tenant r (f.view st.connection)))
        (f.settle (Statement.insertTag st.faults false st.tenant r (f.view st.connection)))
      rcases Statement.insertTag_returning st.faults st.tenant r (f.view st.connection) with he | ⟨hx, ht, hf⟩
      · rw [he]
        exact .same _
      · rw [ht, hf]
        exact .spent (by simp [insertsPlainly, hs, hx]) hw

theorem twins_insertTagging (st : Store) (v : Version) (r : TagRecord) :
    Twins st.connection (st.insertsPlainly = true) (st.generated.insertTagging v r) (st.insertTagging v r) :=
  (twins_insertTag st r).bind (carries_insertTag st.generated r) fun _ => .refl _

theorem twins_insertAll (st : Store) (v : Version) : ∀ rs : List TagRecord,
    Twins st.connection (st.insertsPlainly = true) (rs.forM fun r => discard (st.generated.insertTagging v r))
      (rs.forM fun r => discard (st.insertTagging v r))
  | [] => .refl _
  | r :: rs => by
    have hc := carries_insertTagging st.generated v r
    have hr : Twins st.connection (st.insertsPlainly = true) (discard (st.generated.insertTagging v r))
        (discard (st.insertTagging v r)) := by
      simp only [discard_eq_bind]
      exact (twins_insertTagging st v r).bind hc fun _ => .refl _
    exact hr.bind (carries_discard hc) fun _ => twins_insertAll st v rs

end Store

namespace Write

variable {st st' : Store} {w : Write} {now : Time.Instant} {f : File}

theorem run_scoped_of_twins {α : Type} {c : Connection} {plain : Prop} {a b : Action α}
    (h : File.Twins c plain a b) (t : Task) (k : α → Answer) (f : File) :
    let p := f.run (do return k (← Store.run t (File.writeScope c a)) : Operation Answer)
    let q := f.run (do return k (← Store.run t (File.writeScope c b)) : Operation Answer)
    p = q ∨ plain ∧ f.isAutocommit c = false ∧
      ∃ t, p.1 = .error (.storage t .full) ∧ q.1 = .error (.storage t .full) := by
  simp only [File.run_bind, Store.run_run]
  rcases File.run_writeScope_of_twins h f with he | ⟨hp, hf, ha, hb⟩
  · rw [he]
    exact .inl rfl
  · generalize f.run (File.writeScope c a) = p at ha
    generalize f.run (File.writeScope c b) = q at hb
    obtain ⟨p₁, g⟩ := p
    obtain ⟨q₁, g'⟩ := q
    dsimp only at ha hb
    rw [ha, hb]
    exact .inr ⟨hp, hf, t, rfl, rfl⟩

theorem run_copy (v w : Version) (st : Store) (now : Time.Instant) (f : File) :
    f.run ((copy v w).perform st now) =
      match (Task.readTags (st.describe v)).answer (f.sight st.connection) fun db => db.records st.tenant v with
      | .ok rs => f.run ((addMany w rs).perform st now)
      | .error e => (.error e, f) := by
  show f.run ((st.records v >>= fun rs => st.addTags w rs) >>= fun _ => pure Answer.done) = _
  rw [bind_assoc, File.run_bind, run_records]
  cases (Task.readTags (st.describe v)).answer (f.sight st.connection) fun db => db.records st.tenant v <;> rfl

/-- A write does the same when ids are returned, or it finds none left both ways inside a transaction of the caller. -/
theorem run_generated_cases (w : Write) (st : Store) (now : Time.Instant) (f : File) :
    let p := f.run (w.perform st.generated now)
    let q := f.run (w.perform st now)
    p = q ∨ st.insertsPlainly = true ∧ f.isAutocommit st.connection = false ∧
      ∃ t, p.1 = .error (.storage t .full) ∧ q.1 = .error (.storage t .full) := by
  have many (v : Version) (rs : List TagRecord) :=
    run_scoped_of_twins (Store.twins_insertAll st v rs) (.addTags (st.describe v)) (fun _ => .done) f
  cases w with
  | add n v a => exact run_scoped_of_twins (Store.twins_insertTagging st v ⟨n, a, now⟩) _ (fun _ => .done) f
  | addMany v rs => exact many v rs
  | copy v w =>
    have hg : f.run ((copy v w).perform st.generated now) =
        match (Task.readTags (st.describe v)).answer (f.sight st.connection) fun db => db.records st.tenant v with
        | .ok rs => f.run ((addMany w rs).perform st.generated now)
        | .error e => (.error e, f) := run_copy v w st.generated now f
    rw [hg, run_copy]
    cases (Task.readTags (st.describe v)).answer (f.sight st.connection) fun db => db.records st.tenant v with
    | error e => exact .inl rfl
    | ok rs => exact many w rs
  | remove v n => exact .inl rfl
  | removeBy v n a => exact .inl rfl
  | purge v => exact .inl rfl

theorem answer_generated (w : Write) (st : Store) (now : Time.Instant) (f : File) :
    (f.run (w.perform st.generated now)).1 = (f.run (w.perform st now)).1 := by
  rcases run_generated_cases w st now f with he | ⟨-, -, t, hp, hq⟩
  · rw [he]
  · rw [hp, hq]

theorem file_of_ranOut (h : RanOut st f (w.outcome st now f)) :
    (f.run (w.perform st now)).2 = { f with writer := none } := by
  obtain ⟨-, -, -, -, ha⟩ := id h
  exact file_of_ends ((ends_iff w st now ha).2 (.inr h))

/-- A plain insertion that finds no id left inside a transaction ends it, which it would not with ids returned. -/
theorem isAutocommit_of_ranOut (h : RanOut st f (w.outcome st now f)) :
    (f.run (w.perform st.generated now)).2.isAutocommit st.connection = false := by
  obtain ⟨b, ho, hb, -, ha⟩ := h
  -- with ids returned the refusal has the same cause, and undoes the statement alone
  have hnot : ¬Ends (w.outcome st.generated now f) := by
    intro he
    have hans := answer_generated w st now f
    obtain ⟨g, hg, -⟩ := w.run_perform st now f
    obtain ⟨g', hg', -⟩ := w.run_perform st.generated now f
    rw [hg, hg', ho] at hans
    rcases (ends_iff w st.generated now ha).1 he with ⟨b', m, ho', hr⟩ | ⟨b', -, -, hp', -⟩
    · rw [ho'] at hans
      have hc := (Error.storage.inj (Except.error.inj hans)).2
      rw [hr, hb] at hc
      cases hc
    · cases hp'
  rw [File.isAutocommit_of_standing (standing_of_not_ends hnot), ha]

theorem run_of_not_ranOut (h : ¬RanOut st f (w.outcome st now f)) :
    f.run (w.perform st.generated now) = f.run (w.perform st now) := by
  rcases run_generated_cases w st now f with he | ⟨hp, ha, t, -, hq⟩
  · exact he
  obtain ⟨g, hg, -⟩ := w.run_perform st now f
  rw [hg] at hq
  rcases ho : w.outcome st now f with b | ⟨x, db⟩ <;> rw [ho] at hq
  · obtain ⟨-, hb⟩ := Error.storage.inj (Except.error.inj hq)
    exact absurd ⟨b, ho, hb, hp, ha⟩ h
  · cases hq

theorem file_ne_of_ranOut (hs : st.generated = st'.generated) (h : RanOut st f (w.outcome st now f))
    (h' : ¬RanOut st' f (w.outcome st' now f)) : (f.run (w.perform st now)).2 ≠ (f.run (w.perform st' now)).2 := by
  intro hf
  have ha := isAutocommit_of_ranOut h
  rw [hs, run_of_not_ranOut h', ← hf, file_of_ranOut h, File.isAutocommit_of_none rfl] at ha
  cases ha

/-- **A write has the same answer however its store learns ids, and leaves the same file** just when a plain insertion
finds no id left inside a transaction both ways or neither. -/
theorem run_strategy (hs : st.generated = st'.generated) (w : Write) (now : Time.Instant) (f : File) :
    (f.run (w.perform st now)).1 = (f.run (w.perform st' now)).1 ∧
      ((f.run (w.perform st now)).2 = (f.run (w.perform st' now)).2 ↔
        (RanOut st f (w.outcome st now f) ↔ RanOut st' f (w.outcome st' now f))) := by
  refine ⟨by rw [← answer_generated w st, hs, answer_generated w st'], ?_⟩
  by_cases h : RanOut st f (w.outcome st now f) <;> by_cases h' : RanOut st' f (w.outcome st' now f)
  · exact iff_of_true (by rw [file_of_ranOut h, file_of_ranOut h']) (iff_of_true h h')
  · exact iff_of_false (file_ne_of_ranOut hs h h') fun hi => h' (hi.1 h)
  · exact iff_of_false (fun hf => file_ne_of_ranOut hs.symm h' h hf.symm) fun hi => h (hi.2 h')
  · have he := run_of_not_ranOut h
    rw [hs, run_of_not_ranOut h'] at he
    exact iff_of_true (by rw [he]) (iff_of_false h h')

end Write
end VersionTags
