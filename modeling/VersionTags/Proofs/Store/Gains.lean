import VersionTags.Proofs.Session.Paired
import VersionTags.Proofs.Store.Removal
import VersionTags.Proofs.Store.Standing
import VersionTags.Proofs.Time.Stored
/-!
# What a version gains

New taggings go to the end of what is read of their version, under the next ids, and to nothing else
(`Database.on_withTaggings`).  A new id could be met by a link that is there already, so that this rests on each link
having a tag of its own.  A store that puts tags on a version reads them all back at its end (`Store.gains`), since
every time that is stored can be read.
-/
namespace VersionTags

/-! ## Tables filled by writes -/

/-- The tables stand in step, and every time in them is one that was stored. -/
structure Tidy (db : Database) : Prop extends Aligned db where
  stored : ∀ t ∈ db.tags, ∃ i : Time.Instant, t.time = i.storedText

theorem tidy_empty : Tidy .empty := ⟨aligned_empty, nofun⟩

/-- **New taggings and removals keep the tables tidy.** -/
theorem kept_tidy : Kept Tidy where
  withTagging db T v r h := by
    refine ⟨kept_aligned.withTagging db T v r h.toAligned, fun t ht => ?_⟩
    rcases List.mem_cons.1 ht with rfl | ht
    · exact ⟨r.taggedAt, rfl⟩
    · exact h.stored t ht
  without db T ids h := ⟨kept_aligned.without db T ids h.toAligned, fun t ht => h.stored t (List.mem_filter.1 ht).1⟩

/-- Whatever the stores of a session do, its tables are tidy. -/
theorem Session.tidy_run (faults : List Fault) (l : Locator) (a : LocatorAccess) (now : Time.Instant)
    (seats : List Seat) (spills : Transaction → Bool) (ms : List Move) :
    ((Session.fresh faults l a now seats spills).run ms).file.Everywhere Tidy :=
  Session.everywhere_run kept_tidy ms (File.everywhere_ofDatabase tidy_empty)

/-! ## Reports of tidy tables -/

theorem exists_forall₂ {α β : Type} {R : α → β → Prop} : ∀ {xs : List α}, (∀ x ∈ xs, ∃ y, R x y) →
    ∃ ys, List.Forall₂ R xs ys
  | [], _ => ⟨[], .nil⟩
  | x :: xs, h => by
    obtain ⟨y, hy⟩ := h x List.mem_cons_self
    obtain ⟨ys, hys⟩ := exists_forall₂ fun z hz => h z (List.mem_cons_of_mem x hz)
    exact ⟨y :: ys, .cons hy hys⟩

namespace TagRow

variable {rows : List TagRow} {path : Option String}

theorem exists_records (h : ∀ t ∈ rows, ∃ i : Time.Instant, t.time = i.storedText) :
    ∃ rs, List.Forall₂ IsRecord rows rs :=
  exists_forall₂ fun t ht => by
    obtain ⟨i, hi⟩ := h t ht
    exact ⟨⟨t.name, t.author, i⟩, rfl, rfl, hi ▸ Time.readStored_storedText i⟩

theorem exists_taggings (path : Option String) (h : ∀ t ∈ rows, ∃ i : Time.Instant, t.time = i.storedText) :
    ∃ ts, List.Forall₂ (IsTagging path) rows ts :=
  exists_forall₂ fun t ht => by
    obtain ⟨i, hi⟩ := h t ht
    exact ⟨⟨t.id, t.name, t.author, i, path⟩, rfl, rfl, rfl, hi ▸ Time.readStored_storedText i, rfl⟩

theorem ids_of_taggings {ts : List Tagging} (h : List.Forall₂ (IsTagging path) rows ts) :
    ts.map Tagging.id = rows.map TagRow.id := by
  induction h with
  | nil => rfl
  | cons hx _ ih => rw [List.map_cons, List.map_cons, hx.id, ih]

end TagRow

theorem Tidy.stored_on {db : Database} (h : Tidy db) (T : Tenant) (v : Version) :
    ∀ t ∈ db.on T v, ∃ i : Time.Instant, t.time = i.storedText :=
  fun t ht => h.stored t (Database.mem_on ht).1

/-! ## The rows of new tags -/

namespace Database

/-- The rows of new tags with these records, under the ids that follow one. -/
def rowsAfter (T : Tenant) : Int → List TagRecord → List TagRow
  | _, [] => []
  | id, r :: rs => ⟨id + 1, r.name, r.author, r.taggedAt.storedText, .int T⟩ :: rowsAfter T (id + 1) rs

/-- So many ids after one, in their order. -/
def idsAfter (id : Int) (n : Nat) : List TagId := (List.range n).map fun i : Nat => id + 1 + (i : Int)

theorem lt_of_mem_idsAfter {id new : Int} {n : Nat} (h : new ∈ idsAfter id n) : id < new := by
  obtain ⟨i, -, hi⟩ := List.mem_map.1 h
  have hpos : (0 : Int) ≤ i := Int.natCast_nonneg i
  rw [← hi]
  omega

variable {db : Database} (T : Tenant) (v : Version)

theorem ids_rowsAfter : ∀ (id : Int) (rs : List TagRecord),
    (rowsAfter T id rs).map TagRow.id = idsAfter id rs.length
  | _, [] => rfl
  | id, r :: rs => by
    rw [rowsAfter, List.map_cons, ids_rowsAfter (id + 1) rs, idsAfter, idsAfter, List.length_cons,
      List.range_succ_eq_map, List.map_cons, List.map_map]
    refine congrArg₂ List.cons (Int.add_zero _).symm (List.map_congr_left fun i _ => ?_)
    show id + 1 + 1 + (i : Int) = id + 1 + ((i + 1 : Nat) : Int)
    omega

theorem stored_rowsAfter : ∀ (id : Int) (rs : List TagRecord),
    ∀ t ∈ rowsAfter T id rs, ∃ i : Time.Instant, t.time = i.storedText
  | _, [], _, ht => absurd ht List.not_mem_nil
  | id, r :: rs, t, ht => by
    rcases List.mem_cons.1 ht with rfl | ht
    · exact ⟨r.taggedAt, rfl⟩
    · exact stored_rowsAfter (id + 1) rs t ht

theorem records_rowsAfter : ∀ (id : Int) (rs : List TagRecord),
    List.Forall₂ TagRow.IsRecord (rowsAfter T id rs) rs
  | _, [] => .nil
  | id, r :: rs => .cons ⟨rfl, rfl, Time.readStored_storedText r.taggedAt⟩ (records_rowsAfter (id + 1) rs)

theorem withTaggings_cons (db : Database) (r : TagRecord) (rs : List TagRecord) :
    db.withTaggings T v (r :: rs) = (db.withTagging T v r).withTaggings T v rs := rfl

theorem withTaggings_append (db : Database) (rs ss : List TagRecord) :
    db.withTaggings T v (rs ++ ss) = (db.withTaggings T v rs).withTaggings T v ss :=
  List.foldl_append

theorem lastId_withTaggings : ∀ (rs : List TagRecord) (db : Database),
    (db.withTaggings T v rs).lastId = db.lastId + rs.length
  | [], db => (Int.add_zero _).symm
  | r :: rs, db => by
    rw [withTaggings_cons, lastId_withTaggings rs, lastId_withTagging, List.length_cons]
    omega

/-- No link to an id that has been given meets a new tag. -/
theorem tagsOf_withTagging_of_le (r : TagRecord) (U : Tenant) {l : LinkRow} {i : TagId} (hl : l.tag = .int i)
    (hi : i ≤ db.lastId) : (db.withTagging T v r).tagsOf U l = db.tagsOf U l := by
  have hne : (Cell.int i == Cell.int (db.lastId + 1)) = false := by
    rw [beq_eq_false_iff_ne, ne_eq, Cell.int.injEq]
    exact Int.ne_of_lt (Int.lt_add_one_of_le hi)
  rw [tagsOf, tagsOf, tags_withTagging, List.filter_cons, hl, hne, Bool.and_false, if_neg Bool.false_ne_true]

theorem tagsOf_withTagging (h : Aligned db) (r : TagRecord) (U : Tenant) {l : LinkRow} (hl : l ∈ db.links) :
    (db.withTagging T v r).tagsOf U l = db.tagsOf U l := by
  obtain ⟨t, ht, hid, -⟩ := exists_tag h.inStep l hl
  exact tagsOf_withTagging_of_le T v r U hid (db.id_le t ht)

/-- A new link meets its own tag alone. -/
theorem tagsOf_withTagging_new (db : Database) (r : TagRecord) :
    (db.withTagging T v r).tagsOf T ⟨.int (db.lastId + 1), .int v, .int T⟩ = rowsAfter T db.lastId [r] := by
  have hnone : db.tags.filter (fun t => t.tenant == .int T && Cell.int (db.lastId + 1) == .int t.id) = [] := by
    rw [List.filter_eq_nil_iff]
    intro t ht
    have hne := Int.ne_of_gt (Int.lt_add_one_of_le (db.id_le t ht))
    simp [hne]
  rw [tagsOf, tags_withTagging, List.filter_cons, hnone]
  simp [rowsAfter]

theorem linksOn_withTagging (db : Database) (r : TagRecord) (U : Tenant) (u : Version) :
    (db.withTagging T v r).linksOn U u =
      db.linksOn U u ++ if U = T ∧ u = v then [⟨.int (db.lastId + 1), .int v, .int T⟩] else [] := by
  rw [linksOn, linksOn, links_withTagging, List.filter_cons, Aligned.same_int]
  by_cases hT : U = T ∧ u = v
  · simp [hT]
  · have hm : (Cell.int T == Cell.int U && v == u) = false := by
      rw [Bool.eq_false_iff, ne_eq, Bool.and_eq_true, beq_iff_eq, Cell.int.injEq, beq_iff_eq]
      exact fun he => hT ⟨he.1.symm, he.2.symm⟩
    rw [hm, if_neg hT, if_neg Bool.false_ne_true, List.append_nil]

/-- **A new tagging stands at the end of its version**, and nowhere else. -/
theorem on_withTagging (h : Aligned db) (r : TagRecord) (U : Tenant) (u : Version) :
    (db.withTagging T v r).on U u = db.on U u ++ if U = T ∧ u = v then rowsAfter T db.lastId [r] else [] := by
  have hold : (db.linksOn U u).flatMap ((db.withTagging T v r).tagsOf U) = (db.linksOn U u).flatMap (db.tagsOf U) :=
    List.flatMap_congr fun l hl => tagsOf_withTagging T v h r U (List.mem_filter.1 (List.mem_reverse.1 hl)).1
  rw [on_eq, on_eq, linksOn_withTagging, List.flatMap_append, hold]
  by_cases hT : U = T ∧ u = v
  · rw [if_pos hT, if_pos hT, List.flatMap_singleton, hT.1, tagsOf_withTagging_new]
  · rw [if_neg hT, if_neg hT, List.flatMap_nil]

theorem on_withTaggings (U : Tenant) (u : Version) : ∀ (rs : List TagRecord) {db : Database}, Aligned db →
    (db.withTaggings T v rs).on U u = db.on U u ++ if U = T ∧ u = v then rowsAfter T db.lastId rs else []
  | [], db, _ => by
    rw [rowsAfter, ite_self, List.append_nil]
    rfl
  | r :: rs, db, h => by
    -- the tables are aligned after the first tagging as before, and the next id has gone up by one
    rw [withTaggings_cons, on_withTaggings U u rs (kept_aligned.withTagging db T v r h), on_withTagging T v h,
      lastId_withTagging, List.append_assoc]
    split <;> rfl

end Database

/-! ## What is read of one version -/

namespace Read

/-- The version that a read asks about. -/
def about? : Read → Option Version
  | .counts v _ => some v
  | r => r.viewed?

/-- **A read of a version answers from the tenant's tags on it.** -/
theorem inquiry_of_on {r : Read} {st : Store} {u : Version} {a b : Database} (hr : r.about? = some u)
    (h : a.on st.tenant u = b.on st.tenant u) : (r.inquiry st).on (.ok a) = (r.inquiry st).on (.ok b) := by
  have hn : a.names st.tenant u = b.names st.tenant u := by rw [Database.names, Database.names, h]
  cases r with
  | paths ns => cases hr
  | byId i => cases hr
  | stats => cases hr
  | counts v page =>
    cases hr
    simp only [inquiry]
    cases page.request with
    | error e => rfl
    | ok request => simp only [Inquiry.on, Task.answer, countsOf, Database.countsPage, Database.counts, hn]
  | «exists» n v x => cases hr; simp only [inquiry, Inquiry.on, Task.answer, Database.hasTag, h]
  | tags v => cases hr; simp only [inquiry, Inquiry.on, Task.answer, hn]
  | records v => cases hr; simp only [inquiry, Inquiry.on, Task.answer, Database.records, h]
  | count v n => cases hr; simp only [inquiry, Inquiry.on, Task.answer, Database.countNamed, h]
  | tagging v n x => cases hr; simp only [inquiry, Inquiry.on, Task.answer, Database.taggingsNamed, h]
  | taggings v => cases hr; simp only [inquiry, Inquiry.on, Task.answer, Database.taggings, h]

end Read

/-- Where a write leaves the tenant's tags on a version as they are, no connection sees them change. -/
theorem File.on_view_put {f : File} {c : Connection} {db : Database} {T : Tenant} {u : Version}
    (hl : f.isLocked c = false) (h : db.on T u = (f.view c).on T u) (e : Connection) :
    ((f.put db).view e).on T u = (f.view e).on T u := by
  rcases writer_of_isLocked hl with ⟨t, hw⟩ | hw
  · have hput : f.put db = f.withWorking c t db := by rw [put, hw]
    by_cases he : c = e
    · rw [← he, view_put db hl, h]
    · -- the others go on to see the committed tables
      rw [hput, view_of_ne hw he, view_of_ne rfl he]
      rfl
  · have hput : (f.put db).view e = db := by
      rw [put_of_none hw]
      exact view_of_none (f := { f with committed := db }) hw _
    rw [hput, h, view_of_none hw, view_of_none hw]

namespace Store

variable {st st' : Store} {f g : File} {v u : Version} {rs : List TagRecord} {db : Database}

/-- Whatever the store reads of the version, it reads the same in both files. -/
def Keeps (st : Store) (f g : File) (u : Version) : Prop :=
  ∀ r : Read, r.about? = some u → (g.run (r.perform st)).1 = (f.run (r.perform st)).1

theorem keeps_of_on (hb : g.isBlocked st.connection = f.isBlocked st.connection)
    (h : (g.view st.connection).on st.tenant u = (f.view st.connection).on st.tenant u) : st.Keeps f g u := by
  intro r hr
  rw [Read.run_perform, Read.run_perform, File.sight, File.sight, hb]
  split
  · rfl
  · exact Read.inquiry_of_on hr h

/-- **A write that leaves the tenant's tags on a version as they are is not noticed there**, by a store on the same
connection, or by any other that can read as well as before. -/
theorem keeps_of_put (hl : f.isLocked st.connection = false) (hg : g.Alike (f.put db))
    (h : db.on st'.tenant u = (f.view st.connection).on st'.tenant u)
    (hb : st'.connection = st.connection ∨ g.isBlocked st'.connection = f.isBlocked st'.connection) :
    st'.Keeps f g u := by
  refine keeps_of_on (hb.elim (fun hc => ?_) id) ?_
  · rw [hc, File.isBlocked_of_isLocked hl, File.isBlocked_of_isLocked ((File.isLocked_of_put hg _).trans hl)]
  · rw [hg.view, File.on_view_put hl h]

/-- The version has these records at its end, under the next ids, and no other version, and no other tenant, has
anything new. -/
structure Gains (st : Store) (f g : File) (v : Version) (rs : List TagRecord) : Prop where
  records : ∃ old, (f.run (st.records v)).1 = .ok old ∧ (g.run (st.records v)).1 = .ok (old ++ rs)
  taggings : ∃ old new, (f.run (st.taggings v)).1 = .ok old ∧ (g.run (st.taggings v)).1 = .ok (old ++ new) ∧
    new.map Tagging.id = Database.idsAfter (f.view st.connection).lastId rs.length
  lastId : (g.view st.connection).lastId = (f.view st.connection).lastId + rs.length
  others : ∀ (st' : Store) (u : Version), st'.tenant ≠ st.tenant ∨ u ≠ v →
    st'.connection = st.connection ∨ g.isBlocked st'.connection = f.isBlocked st'.connection → st'.Keeps f g u

theorem records_ok_iff (hb : f.isBlocked st.connection = false) (v : Version) (rs : List TagRecord) :
    (f.run (st.records v)).1 = .ok rs ↔
      List.Forall₂ TagRow.IsRecord ((f.view st.connection).on st.tenant v) rs := by
  rw [Store.records, run_ask_ok hb, Database.records, mapM_ok_iff]
  simp only [TagRow.recordOf_ok]

theorem taggings_ok_iff (hb : f.isBlocked st.connection = false) (v : Version) (ts : List Tagging) :
    (f.run (st.taggings v)).1 = .ok ts ↔
      List.Forall₂ (TagRow.IsTagging (st.locator.path? v)) ((f.view st.connection).on st.tenant v) ts :=
  st.run_withPath_ok hb (.readTaggings (st.describe v)) (fun db => db.on st.tenant v) ts

/-- **A store that puts tags on a version reads them at its end.** -/
theorem gains (h : Tidy (f.view st.connection)) (hl : f.isLocked st.connection = false)
    (hg : g.Alike (f.put ((f.view st.connection).withTaggings st.tenant v rs))) : st.Gains f g v rs := by
  have hview := File.view_of_put hg hl
  have hbf := File.isBlocked_of_isLocked hl
  have hbg := File.isBlocked_of_isLocked ((File.isLocked_of_put hg _).trans hl)
  have hon := Database.on_withTaggings st.tenant v st.tenant v rs h.toAligned
  rw [if_pos ⟨rfl, rfl⟩] at hon
  refine ⟨?_, ?_, ?_, fun st' u hne hb => ?_⟩
  · obtain ⟨old, hold⟩ := TagRow.exists_records (h.stored_on st.tenant v)
    refine ⟨old, (records_ok_iff hbf v old).2 hold, (records_ok_iff hbg v _).2 ?_⟩
    rw [hview, hon]
    exact List.rel_append hold (Database.records_rowsAfter _ _ rs)
  · obtain ⟨old, hold⟩ := TagRow.exists_taggings (st.locator.path? v) (h.stored_on st.tenant v)
    obtain ⟨new, hnew⟩ := TagRow.exists_taggings (st.locator.path? v)
      (Database.stored_rowsAfter st.tenant (f.view st.connection).lastId rs)
    refine ⟨old, new, (taggings_ok_iff hbf v old).2 hold, (taggings_ok_iff hbg v _).2 ?_, ?_⟩
    · rw [hview, hon]
      exact List.rel_append hold hnew
    · rw [TagRow.ids_of_taggings hnew, Database.ids_rowsAfter]
  · rw [hview, Database.lastId_withTaggings]
  · refine keeps_of_put hl hg ?_ hb
    have hno : ¬(st'.tenant = st.tenant ∧ u = v) := fun he => hne.elim (fun hT => hT he.1) fun hu => hu he.2
    rw [Database.on_withTaggings st.tenant v st'.tenant u rs h.toAligned, if_neg hno, List.append_nil]

end Store
end VersionTags
