import VersionTags.Proofs.Store.Write
/-!
# What a write changes, and what refuses it

A write that succeeds puts taggings on a version, one after another (`Database.withTaggings`), or takes tags out with
all the tenant's links of them (`Database.without`): `Write.on_ok`.  A write that is refused has one of the causes of
`Refusal.Cause`, and the cause alone says how much is undone: `Write.cause_of_outcome`.
-/
namespace VersionTags

/-- What cannot be read of a list has a first element that cannot. -/
theorem first_of_mapM {ε α β : Type} {g : α → Except ε β} {e : ε} : ∀ {xs : List α}, xs.mapM g = .error e →
    ∃ pre x post, xs = pre ++ x :: post ∧ (∀ y ∈ pre, ∃ z, g y = .ok z) ∧ g x = .error e
  | [], h => nomatch h
  | x :: xs, h => by
    rw [List.mapM_cons] at h
    cases hx : g x with
    | error e' =>
      rw [hx] at h
      cases h
      exact ⟨[], x, xs, rfl, nofun, hx⟩
    | ok z =>
      rw [hx] at h
      change xs.mapM g >>= _ = _ at h
      cases hm : xs.mapM g <;> rw [hm] at h <;> cases h
      obtain ⟨pre, y, post, rfl, hpre, hy⟩ := first_of_mapM hm
      refine ⟨x :: pre, y, post, rfl, fun w hw => ?_, hy⟩
      rcases List.mem_cons.1 hw with rfl | hw
      · exact ⟨z, hx⟩
      · exact hpre w hw

namespace Database

/-- The tables with one more tag, under the next id, and the link that puts it on the version. -/
def withTagging (db : Database) (T : Tenant) (v : Version) (r : TagRecord) : Database :=
  (db.withTag ⟨db.lastId + 1, r.name, r.author, r.taggedAt.storedText, .int T⟩).withLink
    ⟨.int (db.lastId + 1), .int v, .int T⟩

def withTaggings (db : Database) (T : Tenant) (v : Version) (rs : List TagRecord) : Database :=
  rs.foldl (fun db r => db.withTagging T v r) db

/-- The tables without the tenant's tags that have one of the ids, and without the tenant's links of them. -/
def without (db : Database) (T : Tenant) (ids : List TagId) : Database :=
  (db.keepLinks fun l => !(l.tenant == .int T && l.tag.integer?.any ids.contains)).keepTags fun t =>
    !(t.tenant == .int T && ids.contains t.id)

theorem ext {db db' : Database} (ht : db.tags = db'.tags) (hl : db.links = db'.links) (hi : db.lastId = db'.lastId) :
    db = db' := by
  cases db
  cases db'
  simp_all

@[simp] theorem tags_without (db : Database) (T : Tenant) (ids : List TagId) :
    (db.without T ids).tags = db.tags.filter fun t => !(t.tenant == .int T && ids.contains t.id) := rfl

@[simp] theorem links_without (db : Database) (T : Tenant) (ids : List TagId) :
    (db.without T ids).links = db.links.filter fun l => !(l.tenant == .int T && l.tag.integer?.any ids.contains) := rfl

theorem without_nil (db : Database) (T : Tenant) : db.without T [] = db := by
  refine ext (by simp) ?_ rfl
  rw [links_without, List.filter_eq_self]
  intro l _
  cases l.tag.integer? <;> simp

/-- A tag is taken out by deleting its links and then the tag. -/
theorem without_singleton (db : Database) (T : Tenant) (id : TagId) : db.without T [id] =
    (db.keepLinks fun l => !(l.tenant == .int T && l.tag.integer? == some id)).keepTags
      fun t => !(t.tenant == .int T && t.id == id) := by
  have hone : [id].contains = fun i => i == id := by
    funext i
    simp only [List.contains_cons, List.contains_nil, Bool.or_false]
  rw [without, hone]
  refine ext rfl (List.filter_congr fun l _ => ?_) rfl
  cases l.tag.integer? <;> rfl

/-- Tags taken out one after another are taken out together. -/
theorem without_cons (db : Database) (T : Tenant) (id : TagId) (ids : List TagId) :
    (db.without T [id]).without T ids = db.without T (id :: ids) := by
  refine ext ?_ ?_ rfl
  · rw [tags_without, tags_without, tags_without, List.filter_filter]
    refine List.filter_congr fun t _ => ?_
    by_cases ht : t.id = id <;> cases t.tenant == .int T <;> simp [ht]
  · rw [links_without, links_without, links_without, List.filter_filter]
    refine List.filter_congr fun l _ => ?_
    cases l.tag.integer? with
    | none => simp
    | some i => by_cases hi : i = id <;> cases l.tenant == .int T <;> simp [hi]

@[simp] theorem tags_withTagging (db : Database) (T : Tenant) (v : Version) (r : TagRecord) :
    (db.withTagging T v r).tags =
      ⟨db.lastId + 1, r.name, r.author, r.taggedAt.storedText, .int T⟩ :: db.tags := rfl

@[simp] theorem links_withTagging (db : Database) (T : Tenant) (v : Version) (r : TagRecord) :
    (db.withTagging T v r).links = ⟨.int (db.lastId + 1), .int v, .int T⟩ :: db.links := rfl

@[simp] theorem lastId_withTagging (db : Database) (T : Tenant) (v : Version) (r : TagRecord) :
    (db.withTagging T v r).lastId = db.lastId + 1 :=
  Int.max_eq_right (Int.le_add_one (Int.le_refl _))

end Database

/-! ## Why a statement is refused -/

/-- An insertion that neither returns its id nor has a trigger to run, so that there is no record of it alone. -/
def Store.insertsPlainly (st : Store) : Bool := st.strategy == .maxId && !st.faults.any Fault.isTagInsert

/-- What can refuse a write of a store, and how much is undone then. -/
inductive Refusal.Cause (st : Store) : Refusal → Prop where
  /-- A failing trigger, which says itself what is undone. -/
  | trigger {x : Fault} (h : x ∈ st.faults) : Cause st ⟨.raised x.message, x.reach⟩
  /-- No id is left.  A plain insertion takes the whole transaction with it. -/
  | exhausted : Cause st ⟨.full, if st.insertsPlainly then .transaction else .statement⟩
  /-- A row to be copied cannot be read. -/
  | unreadable (why : Time.ReadError) : Cause st ⟨.unreadableTime 2 why, .statement⟩
  /-- Another connection has a transaction open. -/
  | locked : Cause st ⟨.locked, .statement⟩
  /-- The file may not be changed. -/
  | readOnly : Cause st ⟨.readOnly, .statement⟩

theorem cause_of_checkFaults {st : Store} {event : Trigger} {r : Refusal} (h : checkFaults st.faults event = .error r) :
    r.Cause st := by
  unfold checkFaults at h
  split at h
  · rename_i x hx
    cases h
    exact .trigger (List.mem_reverse.1 (List.mem_of_find?_eq_some hx))
  · cases h

theorem Statement.bind_ok {α β : Type} {s : Statement α} {k : α → Statement β} {db : Database} {p : β × Database}
    (h : (s >>= k) db = .ok p) : ∃ x db', s db = .ok (x, db') ∧ k x db' = .ok p := by
  change s db >>= (fun q => k q.1 q.2) = .ok p at h
  rcases hs : s db with r | ⟨x, db'⟩ <;> rw [hs] at h
  · cases h
  · exact ⟨x, db', rfl, h⟩

theorem Statement.bind_error {α β : Type} {s : Statement α} {k : α → Statement β} {db : Database} {r : Refusal}
    (h : (s >>= k) db = .error r) : s db = .error r ∨ ∃ x db', s db = .ok (x, db') ∧ k x db' = .error r := by
  change s db >>= (fun q => k q.1 q.2) = .error r at h
  rcases hs : s db with r' | ⟨x, db'⟩ <;> rw [hs] at h
  · cases h
    exact .inl rfl
  · exact .inr ⟨x, db', rfl, h⟩

namespace Store

variable {st : Store} {ro : Bool} {db : Database}

theorem insertTag_ok {faults : List Fault} {returning : Bool} {T : Tenant} {r : TagRecord} {id : TagId}
    {db' : Database} (h : Statement.insertTag faults returning T r db = .ok (id, db')) :
    id = db.lastId + 1 ∧ db' = db.withTag ⟨id, r.name, r.author, r.taggedAt.storedText, .int T⟩ := by
  unfold Statement.insertTag at h
  split at h
  · cases h
  · cases hf : checkFaults faults (.tagInsert r.name) <;> rw [hf] at h <;> cases h
    exact ⟨rfl, rfl⟩

theorem insertLink_ok {faults : List Fault} {T : Tenant} {id : TagId} {v : Version} {db' : Database}
    (h : Statement.insertLink faults T id v db = .ok ((), db')) : db' = db.withLink ⟨.int id, .int v, .int T⟩ := by
  unfold Statement.insertLink at h
  cases hf : checkFaults faults (.linkInsert v) <;> rw [hf] at h <;> cases h
  rfl

theorem deleteTag_ok {faults : List Fault} {T : Tenant} {id : TagId} {db' : Database}
    (h : Statement.deleteTag faults T id db = .ok ((), db')) :
    db' = db.keepTags fun t => !(t.tenant == .int T && t.id == id) := by
  unfold Statement.deleteTag at h
  cases hc : (db.tags.filter fun t => t.tenant == .int T && t.id == id).forM
    fun t => checkFaults faults (.tagDelete t.name) <;> rw [hc] at h <;> cases h
  rfl

theorem putOne_ok {v : Version} {r : TagRecord} {id : TagId} {db' : Database}
    (h : st.putOne ro v r db = .ok (id, db')) : id = db.lastId + 1 ∧ db' = db.withTagging st.tenant v r := by
  obtain ⟨id, db₁, h₁, h⟩ := Statement.bind_ok h
  obtain ⟨⟨⟩, db₂, h₂, h⟩ := Statement.bind_ok h
  cases h
  obtain ⟨rfl, rfl⟩ := insertTag_ok (Statement.under_ok h₁)
  obtain rfl := insertLink_ok (Statement.under_ok h₂)
  exact ⟨rfl, rfl⟩

theorem putAll_ok {v : Version} : ∀ {rs : List TagRecord} {db db' : Database} {u : Unit},
    st.putAll ro v rs db = .ok (u, db') → db' = db.withTaggings st.tenant v rs
  | [], _, _, _, h => by
    cases h
    rfl
  | r :: rs, db, db', u, h => by
    obtain ⟨⟨⟩, db₁, h₁, h⟩ := Statement.bind_ok h
    change discard (st.putOne ro v r) db = _ at h₁
    rw [discard_eq_bind] at h₁
    obtain ⟨id, db₂, h₂, h₁⟩ := Statement.bind_ok h₁
    cases h₁
    obtain ⟨-, rfl⟩ := putOne_ok h₂
    have hr : db' = (db.withTagging st.tenant v r).withTaggings st.tenant v rs := putAll_ok h
    exact hr

theorem deleteOne_ok {id : TagId} {db' : Database} {u : Unit} (h : st.deleteOne ro id db = .ok (u, db')) :
    db' = db.without st.tenant [id] := by
  obtain ⟨⟨⟩, db₁, h₁, h₂⟩ := Statement.bind_ok h
  cases Statement.under_ok h₁
  rw [deleteTag_ok (Statement.under_ok h₂), db.without_singleton]

theorem deleteAll_ok : ∀ {ids : List TagId} {db db' : Database} {u : Unit}, st.deleteAll ro ids db = .ok (u, db') →
    db' = db.without st.tenant ids
  | [], db, _, _, h => by
    cases h
    exact (db.without_nil st.tenant).symm
  | id :: ids, db, db', u, h => by
    obtain ⟨⟨⟩, db₁, h₁, h⟩ := Statement.bind_ok h
    obtain rfl := deleteOne_ok (show st.deleteOne ro id db = _ from h₁)
    rw [deleteAll_ok (show st.deleteAll ro ids _ = _ from h), Database.without_cons]

theorem takeOut_ok {v : Version} {name : Option String} {a : AuthorFilter} {n : Nat} {db' : Database}
    (h : st.takeOut ro v name a db = .ok (n, db')) :
    n = (db.idsToRemove st.tenant v name a).length ∧
      db' = db.without st.tenant (db.idsToRemove st.tenant v name a) := by
  obtain ⟨db₀, db₁, h₁, h⟩ := Statement.bind_ok h
  cases h₁
  obtain ⟨⟨⟩, db₂, h₂, h⟩ := Statement.bind_ok h
  cases h
  exact ⟨rfl, deleteAll_ok h₂⟩

/-! ## Refusals -/

theorem putAll_of_readOnly {v : Version} : ∀ {rs : List TagRecord} {db' : Database},
    st.putAll true v rs db = .ok ((), db') → db' = db
  | [], _, h => by
    cases h
    rfl
  | r :: rs, _, h => by
    obtain ⟨⟨⟩, db₁, h₁, -⟩ := Statement.bind_ok h
    cases h₁

theorem deleteAll_of_readOnly : ∀ {ids : List TagId} {db' : Database}, st.deleteAll true ids db = .ok ((), db') →
    db' = db
  | [], _, h => by
    cases h
    rfl
  | id :: ids, _, h => by
    obtain ⟨⟨⟩, db₁, h₁, -⟩ := Statement.bind_ok h
    cases h₁

theorem takeOut_of_readOnly {v : Version} {name : Option String} {a : AuthorFilter} {n : Nat} {db' : Database}
    (h : st.takeOut true v name a db = .ok (n, db')) : db' = db := by
  obtain ⟨db₀, db₁, h₁, h⟩ := Statement.bind_ok h
  cases h₁
  obtain ⟨⟨⟩, db₂, h₂, h⟩ := Statement.bind_ok h
  cases h
  exact deleteAll_of_readOnly h₂

theorem cause_of_under {α : Type} {s : Statement α} {r : Refusal} (h : s.under ro db = .error r)
    (hs : s db = .error r → r.Cause st) : r.Cause st := by
  rcases Statement.under_error h with rfl | h
  · exact .readOnly
  · exact hs h

theorem cause_of_insertTag {t : TagRecord} {r : Refusal}
    (h : Statement.insertTag st.faults (st.strategy == .generatedKeys) st.tenant t db = .error r) : r.Cause st := by
  unfold Statement.insertTag at h
  split at h
  · cases h
    have hr : (if st.strategy == .generatedKeys || st.faults.any Fault.isTagInsert then Reach.statement
        else .transaction) = if st.insertsPlainly then .transaction else .statement := by
      unfold insertsPlainly
      cases st.strategy <;> cases st.faults.any Fault.isTagInsert <;> rfl
    rw [hr]
    exact .exhausted
  · cases hf : checkFaults st.faults (.tagInsert t.name) <;> rw [hf] at h <;> cases h
    exact cause_of_checkFaults hf

theorem cause_of_insertLink {id : TagId} {v : Version} {r : Refusal}
    (h : Statement.insertLink st.faults st.tenant id v db = .error r) : r.Cause st := by
  unfold Statement.insertLink at h
  cases hf : checkFaults st.faults (.linkInsert v) <;> rw [hf] at h <;> cases h
  exact cause_of_checkFaults hf

theorem cause_of_forM {α : Type} {check : α → Except Refusal PUnit} (hc : ∀ x r, check x = .error r → r.Cause st) :
    ∀ {xs : List α} {r : Refusal}, xs.forM check = .error r → r.Cause st
  | [], _, h => by cases h
  | x :: xs, r, h => by
    change check x >>= (fun _ => xs.forM check) = _ at h
    cases hx : check x <;> rw [hx] at h
    · cases h
      exact hc x _ hx
    · exact cause_of_forM hc h

theorem cause_of_deleteTag {id : TagId} {r : Refusal}
    (h : Statement.deleteTag st.faults st.tenant id db = .error r) : r.Cause st := by
  unfold Statement.deleteTag at h
  cases hc : (db.tags.filter fun t => t.tenant == .int st.tenant && t.id == id).forM
    fun t => checkFaults st.faults (.tagDelete t.name) <;> rw [hc] at h <;> cases h
  exact cause_of_forM (fun _ _ => cause_of_checkFaults) hc

theorem cause_of_putOne {v : Version} {t : TagRecord} {r : Refusal} (h : st.putOne ro v t db = .error r) :
    r.Cause st := by
  rcases Statement.bind_error h with h | ⟨id, db₁, -, h⟩
  · exact cause_of_under h cause_of_insertTag
  · rcases Statement.bind_error h with h | ⟨⟨⟩, db₂, -, h⟩
    · exact cause_of_under h cause_of_insertLink
    · cases h

theorem cause_of_putAll {v : Version} {r : Refusal} : ∀ {ts : List TagRecord} {db : Database},
    st.putAll ro v ts db = .error r → r.Cause st
  | [], _, h => by cases h
  | t :: ts, db, h => by
    rcases Statement.bind_error h with h | ⟨⟨⟩, db₁, -, h⟩
    · change discard (st.putOne ro v t) db = _ at h
      rw [discard_eq_bind] at h
      rcases Statement.bind_error h with h | ⟨_, _, -, h⟩
      · exact cause_of_putOne h
      · cases h
    · exact cause_of_putAll (show st.putAll ro v ts db₁ = _ from h)

theorem cause_of_deleteAll {r : Refusal} : ∀ {ids : List TagId} {db : Database},
    st.deleteAll ro ids db = .error r → r.Cause st
  | [], _, h => by cases h
  | id :: ids, db, h => by
    rcases Statement.bind_error h with h | ⟨⟨⟩, db₁, -, h⟩
    · rcases Statement.bind_error (show st.deleteOne ro id db = _ from h) with h | ⟨⟨⟩, db₂, -, h⟩
      · exact cause_of_under h nofun
      · exact cause_of_under h cause_of_deleteTag
    · exact cause_of_deleteAll (show st.deleteAll ro ids db₁ = _ from h)

theorem cause_of_takeOut {v : Version} {name : Option String} {a : AuthorFilter} {r : Refusal}
    (h : st.takeOut ro v name a db = .error r) : r.Cause st := by
  rcases Statement.bind_error h with h | ⟨db₀, db₁, -, h⟩
  · cases h
  · rcases Statement.bind_error h with h | ⟨⟨⟩, db₂, -, h⟩
    · exact cause_of_deleteAll h
    · cases h

end Store

namespace Write

variable {w : Write} {st : Store} {ro : Bool} {now : Time.Instant} {db : Database}

/-- The tables after a write of which nothing is refused, where a copy has read these records. -/
def changed (w : Write) (st : Store) (now : Time.Instant) (copied : List TagRecord) (db : Database) : Database :=
  match w with
  | .add n v a => db.withTaggings st.tenant v [⟨n, a, now⟩]
  | .addMany v rs => db.withTaggings st.tenant v rs
  | .copy _ w => db.withTaggings st.tenant w copied
  | .remove v n => db.without st.tenant (db.idsToRemove st.tenant v (some n) .any)
  | .removeBy v n a => db.without st.tenant (db.idsToRemove st.tenant v (some n) (.exactly a))
  | .purge v => db.without st.tenant (db.idsToRemove st.tenant v none .any)

def copies (w : Write) (st : Store) (db : Database) : Except Failure (List TagRecord) :=
  match w with
  | .copy v _ => db.records st.tenant v
  | _ => .ok []

theorem execute_ok {copied : List TagRecord} {x : Answer} {db' : Database}
    (h : w.execute st ro now copied db = .ok (x, db')) : db' = w.changed st now copied db := by
  unfold execute at h
  cases hs : w.statement st ro now copied db <;> rw [hs] at h <;> cases h
  cases w with
  | add n v a =>
    obtain ⟨id, db₁, h₁, h⟩ := Statement.bind_ok hs
    cases h
    exact (Store.putOne_ok h₁).2
  | addMany v rs =>
    obtain ⟨⟨⟩, db₁, h₁, h⟩ := Statement.bind_ok hs
    cases h
    exact Store.putAll_ok h₁
  | copy v w =>
    obtain ⟨⟨⟩, db₁, h₁, h⟩ := Statement.bind_ok hs
    cases h
    exact Store.putAll_ok h₁
  | remove v n =>
    obtain ⟨n, db₁, h₁, h⟩ := Statement.bind_ok hs
    cases h
    exact (Store.takeOut_ok h₁).2
  | removeBy v n a =>
    obtain ⟨n, db₁, h₁, h⟩ := Statement.bind_ok hs
    cases h
    exact (Store.takeOut_ok h₁).2
  | purge v =>
    obtain ⟨n, db₁, h₁, h⟩ := Statement.bind_ok hs
    cases h
    exact (Store.takeOut_ok h₁).2

/-- **What a successful write changes.** -/
theorem on_ok {x : Answer} {db' : Database} (h : w.on st ro now db = .ok (x, db')) :
    ∃ copied, w.copies st db = .ok copied ∧ db' = w.changed st now copied db := by
  cases w with
  | copy v w =>
    simp only [on] at h
    split at h
    · rename_i rs hrs
      exact ⟨rs, hrs, execute_ok h⟩
    · cases h
  | _ => exact ⟨[], rfl, execute_ok h⟩

/-- **Nothing is written where nothing may be changed**, not even by a write that has nothing to write and succeeds. -/
theorem on_of_readOnly {x : Answer} {db' : Database} (h : w.on st true now db = .ok (x, db')) : db' = db := by
  have hexecute : ∀ copied, w.execute st true now copied db = .ok (x, db') → db' = db := by
    intro copied h
    unfold execute at h
    cases hs : w.statement st true now copied db <;> rw [hs] at h <;> cases h
    cases w with
    | add n v a =>
      obtain ⟨id, db₁, h₁, -⟩ := Statement.bind_ok hs
      cases h₁
    | addMany v rs =>
      obtain ⟨⟨⟩, db₁, h₁, h⟩ := Statement.bind_ok hs
      cases h
      exact Store.putAll_of_readOnly h₁
    | copy v u =>
      obtain ⟨⟨⟩, db₁, h₁, h⟩ := Statement.bind_ok hs
      cases h
      exact Store.putAll_of_readOnly h₁
    | _ =>
      obtain ⟨n, db₁, h₁, h⟩ := Statement.bind_ok hs
      cases h
      exact Store.takeOut_of_readOnly h₁
  cases w with
  | copy v u =>
    simp only [on] at h
    split at h
    · exact hexecute _ h
    · cases h
  | _ => exact hexecute _ h

theorem changed_cases (w : Write) (st : Store) (now : Time.Instant) (copied : List TagRecord) (db : Database) :
    (∃ v rs, w.changed st now copied db = db.withTaggings st.tenant v rs) ∨
      ∃ v name a, w.changed st now copied db = db.without st.tenant (db.idsToRemove st.tenant v name a) := by
  cases w with
  | add n v a => exact .inl ⟨v, _, rfl⟩
  | addMany v rs => exact .inl ⟨v, rs, rfl⟩
  | copy v w => exact .inl ⟨w, copied, rfl⟩
  | remove v n => exact .inr ⟨v, some n, .any, rfl⟩
  | removeBy v n a => exact .inr ⟨v, some n, .exactly a, rfl⟩
  | purge v => exact .inr ⟨v, none, .any, rfl⟩

theorem cause_of_execute {copied : List TagRecord} {b : Blame} (h : w.execute st ro now copied db = .error b) :
    b.refusal.Cause st := by
  unfold execute at h
  cases hs : w.statement st ro now copied db <;> rw [hs] at h <;> cases h
  cases w with
  | add n v a =>
    rcases Statement.bind_error hs with h | ⟨_, _, -, h⟩
    · exact Store.cause_of_putOne h
    · cases h
  | addMany v rs =>
    rcases Statement.bind_error hs with h | ⟨_, _, -, h⟩
    · exact Store.cause_of_putAll h
    · cases h
  | copy v w =>
    rcases Statement.bind_error hs with h | ⟨_, _, -, h⟩
    · exact Store.cause_of_putAll h
    · cases h
  | _ =>
    rcases Statement.bind_error hs with h | ⟨_, _, -, h⟩
    · exact Store.cause_of_takeOut h
    · cases h

theorem unreadable_of_records {T : Tenant} {v : Version} {e : Failure} (h : db.records T v = .error e) :
    ∃ why, e = .unreadableTime 2 why := by
  obtain ⟨-, t, -, -, -, ht⟩ := first_of_mapM h
  unfold Database.recordOf Database.readTime at ht
  cases hr : Time.readStored t.time <;> rw [hr] at ht <;> cases ht
  exact ⟨_, rfl⟩

theorem cause_of_on {b : Blame} (h : w.on st ro now db = .error b) : b.refusal.Cause st := by
  cases w with
  | copy v w =>
    simp only [on] at h
    split at h
    · exact cause_of_execute h
    · rename_i e he
      cases h
      obtain ⟨why, rfl⟩ := unreadable_of_records he
      exact .unreadable why
  | _ => exact cause_of_execute h

theorem shutOut_refusal (w : Write) (st : Store) (f : File) : (w.shutOut st f).refusal = ⟨.locked, .statement⟩ ∨
    ∃ why, (w.shutOut st f).refusal = ⟨.unreadableTime 2 why, .statement⟩ := by
  cases w with
  | copy v w =>
    simp only [shutOut]
    split
    · exact .inl rfl
    · split
      · exact .inl rfl
      · rename_i e he
        obtain ⟨why, rfl⟩ := unreadable_of_records he
        exact .inr ⟨why, rfl⟩
  | _ => exact .inl rfl

/-- **Whatever refuses a write is a cause of a refusal.** -/
theorem cause_of_outcome {f : File} {b : Blame} (h : w.outcome st now f = .error b) : b.refusal.Cause st := by
  unfold outcome at h
  split at h
  · cases h
    rcases shutOut_refusal w st f with hs | ⟨why, hs⟩ <;> rw [hs]
    · exact .locked
    · exact .unreadable why
  · exact cause_of_on h

theorem outcome_ok {f : File} {x : Answer} {db' : Database} (h : w.outcome st now f = .ok (x, db')) :
    f.isLocked st.connection = false ∧ w.on st f.readOnly now (f.view st.connection) = .ok (x, db') := by
  unfold outcome at h
  split at h
  · cases h
  · exact ⟨Bool.eq_false_iff.2 ‹_›, h⟩

/-- A write that is refused for another reason than being shut out was not shut out. -/
theorem isLocked_of_ne {f : File} {b : Blame} (h : w.outcome st now f = .error b)
    (hb : b.refusal ≠ (w.shutOut st f).refusal) : f.isLocked st.connection = false := by
  unfold outcome at h
  split at h
  · cases h
    exact absurd rfl hb
  · exact Bool.eq_false_iff.2 ‹_›

theorem isLocked_of_full {f : File} {b : Blame} (h : w.outcome st now f = .error b) (hf : b.refusal.cause = .full) :
    f.isLocked st.connection = false := by
  refine isLocked_of_ne h fun hb => ?_
  rw [hb] at hf
  rcases shutOut_refusal w st f with hs | ⟨why, hs⟩ <;> rw [hs] at hf <;> cases hf

theorem isLocked_of_transaction {f : File} {b : Blame} (h : w.outcome st now f = .error b)
    (hr : b.refusal.reach = .transaction) : f.isLocked st.connection = false := by
  refine isLocked_of_ne h fun hb => ?_
  rw [hb, shutOut_reach] at hr
  cases hr

end Write

end VersionTags
