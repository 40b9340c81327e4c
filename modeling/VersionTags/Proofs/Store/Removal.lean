import VersionTags.Proofs.Storage.Rows
import VersionTags.Proofs.Store.Joined
/-!
# Two removals

A removal picks tags on a version first and then deletes them by their ids, from both tables.  Whether a row goes is
told by its tenant and the id that it has (`Selection.takes`).  Another removal changes that for none of the rows that
it leaves (`Selection.takes_cut`), since it deletes by ids too.  So two removals leave the same tables in either
order, and where they succeed in one order they succeed in the other (`Write.removals_commute`).
-/
namespace VersionTags

/-- What a removal names: the tags of a tenant on a version that pass a test. -/
structure Selection where
  tenant : Tenant
  version : Version
  pick : TagRow → Bool

namespace Selection

variable (s s' : Selection) (db : Database)

def picked : List TagRow := (db.on s.tenant s.version).filter s.pick

/-- The tables without the tags picked. -/
def cut : Database := db.without s.tenant ((s.picked db).map TagRow.id)

/-- Whether a row of the tenant goes that has the id: the tag itself, or a link of it. -/
def takes (tenant : Cell) (id : TagId) : Bool := tenant == .int s.tenant && ((s.picked db).map TagRow.id).contains id

theorem tags_cut : (s.cut db).tags = db.tags.filter fun t => !s.takes db t.tenant t.id := rfl

theorem links_cut : (s.cut db).links = db.links.filter fun l => !l.tag.integer?.any (s.takes db l.tenant) := by
  refine (Database.links_without _ _ _).trans (List.filter_congr fun l _ => ?_)
  cases l.tag.integer? <;> simp [takes]

theorem lastId_cut : (s.cut db).lastId = db.lastId := rfl

variable {s s' db}

theorem takes_iff {tenant : Cell} {id : TagId} :
    s.takes db tenant id = true ↔ tenant = .int s.tenant ∧ ∃ t ∈ s.picked db, t.id = id := by
  simp [takes]

theorem mem_picked {t : TagRow} (ht : t ∈ s.picked db) : t ∈ db.tags ∧ t.tenant = .int s.tenant :=
  Database.mem_on (List.mem_filter.1 ht).1

/-- A tag that is picked goes. -/
theorem takes_of_picked {t : TagRow} (ht : t ∈ s.picked db) : s.takes db t.tenant t.id = true :=
  takes_iff.2 ⟨(mem_picked ht).2, t, ht, rfl⟩

theorem joined_cut (T : Tenant) (v : Version) :
    (s.cut db).joined T v = (db.joined T v).filter fun p => !s.takes db p.2.tenant p.2.id :=
  Database.joined_without_of _ _ _ _ _

theorem picked_cut : s.picked (s'.cut db) = (s.picked db).filter fun t => !s'.takes db t.tenant t.id := by
  simp only [picked, Database.on_eq_joined, joined_cut, List.filter_map, List.filter_filter, Function.comp_def,
    Bool.and_comm]

/-- **A removal makes no difference to which of the rows left another one takes.** -/
theorem takes_cut {tenant : Cell} {id : TagId} (h : s'.takes db tenant id = false) :
    s.takes (s'.cut db) tenant id = s.takes db tenant id := by
  rw [Bool.eq_iff_iff, takes_iff, takes_iff, picked_cut]
  refine and_congr_right fun hT => ⟨?_, ?_⟩
  · rintro ⟨t, ht, hid⟩
    exact ⟨t, (List.mem_filter.1 ht).1, hid⟩
  · rintro ⟨t, ht, hid⟩
    -- the tag has the tenant and the id of the row, which the other removal leaves
    refine ⟨t, List.mem_filter.2 ⟨ht, ?_⟩, hid⟩
    rw [(mem_picked ht).2, ← hT, hid, h]
    rfl

theorem left_comm (tenant : Cell) (id : TagId) :
    (!s'.takes db tenant id && !s.takes (s'.cut db) tenant id) =
      (!s.takes db tenant id && !s'.takes (s.cut db) tenant id) := by
  cases h' : s'.takes db tenant id with
  | false =>
    rw [takes_cut h']
    cases h : s.takes db tenant id with
    | false => rw [takes_cut h, h']
    | true => rfl
  | true =>
    cases h : s.takes db tenant id with
    | false =>
      rw [takes_cut h, h']
      rfl
    | true => rfl

/-- **Two removals leave the same tables in either order.** -/
theorem cut_comm (s s' : Selection) (db : Database) : s.cut (s'.cut db) = s'.cut (s.cut db) := by
  refine Database.ext ?_ ?_ ?_
  · rw [tags_cut, tags_cut, tags_cut, tags_cut, List.filter_filter, List.filter_filter]
    refine List.filter_congr fun t _ => ?_
    rw [Bool.and_comm, left_comm, Bool.and_comm]
  · rw [links_cut, links_cut, links_cut, links_cut, List.filter_filter, List.filter_filter]
    refine List.filter_congr fun l _ => ?_
    cases l.tag.integer? with
    | none => simp only [Option.any_none]
    | some id =>
      simp only [Option.any_some]
      rw [Bool.and_comm, left_comm, Bool.and_comm]
  · rw [lastId_cut, lastId_cut, lastId_cut, lastId_cut]

/-- Nothing is left to be picked again. -/
theorem picked_cut_self : s.picked (s.cut db) = [] := by
  rw [picked_cut, List.filter_eq_nil_iff]
  intro t ht
  rw [takes_of_picked ht]
  exact nofun

theorem cut_of_picked (h : s.picked db = []) : s.cut db = db := by
  rw [cut, h]
  exact db.without_nil s.tenant

/-- Nothing stands against the deletion of the rows that go. -/
def Clear (s : Selection) (faults : List Fault) (readOnly : Bool) (db : Database) : Prop :=
  ∀ t ∈ db.tags, s.takes db t.tenant t.id = true → readOnly = false ∧ checkFaults faults (.tagDelete t.name) = .ok ()

variable {faults : List Fault} {readOnly : Bool}

theorem Clear.of_picked (h : s.picked db = []) : s.Clear faults readOnly db := by
  intro t _ ht
  obtain ⟨-, u, hu, -⟩ := takes_iff.1 ht
  rw [h] at hu
  cases hu

/-- What could be deleted can be deleted after another removal. -/
theorem Clear.cut (h : s.Clear faults readOnly db) : s.Clear faults readOnly (s'.cut db) := by
  intro t ht hs
  obtain ⟨ht, hkept⟩ := List.mem_filter.1 (s'.tags_cut db ▸ ht)
  rw [takes_cut (by simpa using hkept)] at hs
  exact h t ht hs

/-- What can be deleted after another removal could be deleted before it. -/
theorem Clear.of_cut (h' : s'.Clear faults readOnly db) (h : s.Clear faults readOnly (s'.cut db)) :
    s.Clear faults readOnly db := by
  intro t ht hs
  cases hk : s'.takes db t.tenant t.id with
  | true => exact h' t ht hk
  | false =>
    refine h t ?_ ?_
    · rw [tags_cut, List.mem_filter, hk]
      exact ⟨ht, rfl⟩
    · rwa [takes_cut hk]

end Selection

/-! ## When a removal succeeds -/

theorem forM_ok_iff {ε α : Type} {check : α → Except ε PUnit} : ∀ {xs : List α},
    xs.forM check = .ok () ↔ ∀ x ∈ xs, check x = .ok ()
  | [] => ⟨fun _ => nofun, fun _ => rfl⟩
  | x :: xs => by
    have ih : xs.forM check = .ok () ↔ ∀ y ∈ xs, check y = .ok () := forM_ok_iff
    change check x >>= (fun _ => xs.forM check) = _ ↔ _
    rw [List.forall_mem_cons, ← ih]
    cases check x with
    | error e => exact ⟨nofun, fun h => nomatch h.1⟩
    | ok u => exact ⟨fun h => ⟨rfl, h⟩, fun h => h.2⟩

theorem Statement.bind_isOk {α β : Type} {s : Statement α} {k : α → Statement β} {db : Database} :
    (∃ p, (s >>= k) db = .ok p) ↔ ∃ x db', s db = .ok (x, db') ∧ ∃ p, k x db' = .ok p := by
  constructor
  · rintro ⟨p, h⟩
    obtain ⟨x, db', hs, hk⟩ := bind_ok h
    exact ⟨x, db', hs, p, hk⟩
  · rintro ⟨x, db', hs, p, hk⟩
    refine ⟨p, ?_⟩
    show s db >>= (fun q => k q.1 q.2) = _
    rw [hs]
    exact hk

/-- No trigger waits for the deletion of a tag of the tenant that has one of the ids. -/
def Database.Deletable (db : Database) (faults : List Fault) (T : Tenant) (ids : List TagId) : Prop :=
  ∀ t ∈ db.tags, (t.tenant == .int T && ids.contains t.id) = true → checkFaults faults (.tagDelete t.name) = .ok ()

/-- What can be deleted together can be deleted one after another. -/
theorem Database.deletable_cons {db : Database} {faults : List Fault} {T : Tenant} {id : TagId} {ids : List TagId} :
    db.Deletable faults T (id :: ids) ↔ db.Deletable faults T [id] ∧ (db.without T [id]).Deletable faults T ids := by
  constructor
  · intro h
    refine ⟨fun t ht hid => h t ht ?_, fun t ht hids => h t (List.mem_filter.1 ht).1 ?_⟩
    · simp_all
    · simp_all
  · rintro ⟨h, h'⟩ t ht hs
    by_cases hid : t.id = id
    · exact h t ht (by simp_all)
    · exact h' t (List.mem_filter.2 ⟨ht, by simp [hid]⟩) (by simp_all)

namespace Store

variable {st : Store} {ro : Bool} {db : Database}

theorem deleteTag_isOk {faults : List Fault} {T : Tenant} {id : TagId} :
    (∃ p, Statement.deleteTag faults T id db = .ok p) ↔ db.Deletable faults T [id] := by
  have hd : db.Deletable faults T [id] ↔ (db.tags.filter fun t => t.tenant == .int T && t.id == id).forM
      (fun t => checkFaults faults (.tagDelete t.name)) = .ok () := by
    rw [forM_ok_iff]
    simp [Database.Deletable]
  rw [hd]
  unfold Statement.deleteTag
  cases (db.tags.filter fun t => t.tenant == .int T && t.id == id).forM
    fun t => checkFaults faults (.tagDelete t.name) with
  | error r => exact ⟨nofun, nofun⟩
  | ok u => exact ⟨fun _ => rfl, fun _ => ⟨_, rfl⟩⟩

theorem deleteOne_isOk {id : TagId} :
    (∃ p, st.deleteOne ro id db = .ok p) ↔ ro = false ∧ db.Deletable st.faults st.tenant [id] := by
  rw [deleteOne, Statement.bind_isOk]
  cases ro with
  | true => exact ⟨nofun, nofun⟩
  | false =>
    -- the links that go first make no difference to the tags
    have htags : ∀ keep, (db.keepLinks keep).Deletable st.faults st.tenant [id] ↔
        db.Deletable st.faults st.tenant [id] := fun _ => .rfl
    constructor
    · rintro ⟨⟨⟩, db', ⟨⟩, h⟩
      exact ⟨rfl, (htags _).1 (deleteTag_isOk.1 h)⟩
    · rintro ⟨-, h⟩
      exact ⟨(), _, rfl, deleteTag_isOk.2 ((htags _).2 h)⟩

/-- **The loop over the ids runs through** just when nothing stands against any of the tags. -/
theorem deleteAll_isOk : ∀ {ids : List TagId} {db : Database}, (∃ p, st.deleteAll ro ids db = .ok p) ↔
    ids = [] ∨ ro = false ∧ db.Deletable st.faults st.tenant ids
  | [], db => ⟨fun _ => .inl rfl, fun _ => ⟨((), db), rfl⟩⟩
  | id :: ids, db => by
    rw [or_iff_right (List.cons_ne_nil _ _), Database.deletable_cons]
    show (∃ p, (st.deleteOne ro id >>= fun _ => st.deleteAll ro ids) db = .ok p) ↔ _
    rw [Statement.bind_isOk]
    constructor
    · rintro ⟨⟨⟩, db', h, hrest⟩
      obtain ⟨hro, hid⟩ := deleteOne_isOk.1 ⟨_, h⟩
      obtain rfl := deleteOne_ok h
      rcases deleteAll_isOk.1 hrest with rfl | ⟨-, hids⟩
      · exact ⟨hro, hid, fun t _ ht => by simp at ht⟩
      · exact ⟨hro, hid, hids⟩
    · rintro ⟨hro, hid, hids⟩
      obtain ⟨⟨⟨⟩, db'⟩, h⟩ := deleteOne_isOk.2 ⟨hro, hid⟩
      obtain rfl := deleteOne_ok h
      exact ⟨_, _, h, deleteAll_isOk.2 (.inr ⟨hro, hids⟩)⟩

end Store

theorem Selection.clear_iff {s : Selection} {faults : List Fault} {readOnly : Bool} {db : Database} :
    s.Clear faults readOnly db ↔ (s.picked db).map TagRow.id = [] ∨ readOnly = false ∧
      db.Deletable faults s.tenant ((s.picked db).map TagRow.id) := by
  constructor
  · intro h
    cases hp : s.picked db with
    | nil => exact .inl rfl
    | cons t ts =>
      have ht : t ∈ s.picked db := hp ▸ List.mem_cons_self
      rw [← hp]
      exact .inr ⟨(h t (mem_picked ht).1 (takes_of_picked ht)).1, fun u hu hs => (h u hu hs).2⟩
  · rintro (h | ⟨hr, h⟩)
    · exact .of_picked (List.map_eq_nil_iff.1 h)
    · exact fun t ht hs => ⟨hr, h t ht hs⟩

namespace Write

variable {w : Write} {st : Store} {s : Selection} {now : Time.Instant}

/-- What a removal of the store names. -/
def selection? (w : Write) (st : Store) : Option Selection := w.removal?.map fun p => ⟨st.tenant, p.1, p.2⟩

theorem takeOut_isOk {ro : Bool} {v : Version} {db : Database} {name : Option String} {a : AuthorFilter} (t : Task)
    {ids : List TagId} (hi : db.idsToRemove st.tenant v name a = ids) :
    (∃ p, blaming t ((do return .number (← st.takeOut ro v name a) : Statement Answer) db) = .ok p) ↔
      ∃ p, st.deleteAll ro ids db = .ok p := by
  have hd : (do return .number (← st.takeOut ro v name a) : Statement Answer) db =
      (st.deleteAll ro ids db).map fun p => (.number ids.length, p.2) := by
    show (st.deleteAll ro (db.idsToRemove st.tenant v name a) db >>= fun p => _) >>= (fun p => _) = _
    rw [hi]
    cases st.deleteAll ro ids db <;> rfl
  rw [hd]
  cases st.deleteAll ro ids db with
  | error r => exact ⟨fun ⟨_, h⟩ => (by cases h), fun ⟨_, h⟩ => (by cases h)⟩
  | ok p => exact ⟨fun _ => ⟨p, rfl⟩, fun _ => ⟨_, rfl⟩⟩

/-- **A removal succeeds just when nothing stands against what it deletes.** -/
theorem on_isOk_iff (now : Time.Instant) (hw : w.selection? st = some s) {ro : Bool} {db : Database} :
    (∃ p, w.on st ro now db = .ok p) ↔ s.Clear st.faults ro db := by
  obtain ⟨⟨v, pick⟩, hr, rfl⟩ := Option.map_eq_some_iff.1 hw
  obtain ⟨name, a, hp, ho⟩ := on_removal st now hr
  have hids : db.idsToRemove st.tenant v name a = (Selection.picked ⟨st.tenant, v, pick⟩ db).map TagRow.id :=
    congrArg (List.map TagRow.id) (List.filter_congr fun u _ => hp u)
  rw [Selection.clear_iff, ← Store.deleteAll_isOk, ho, takeOut_isOk _ hids]

theorem on_of_selection (hw : w.selection? st = some s) {ro : Bool} {db db' : Database} {x : Answer}
    (h : w.on st ro now db = .ok (x, db')) : x = .number (s.picked db).length ∧ db' = s.cut db := by
  obtain ⟨⟨v, pick⟩, hr, rfl⟩ := Option.map_eq_some_iff.1 hw
  obtain ⟨hx, hdb⟩ := removal_ok hr h
  rw [List.countP_eq_length_filter] at hx
  exact ⟨hx, hdb⟩

end Write

/-! ## Files after a removal -/

namespace File

variable {f g h : File} {c d : Connection} {db : Database}

/-- Two connections that are not locked out see the same tables. -/
theorem view_eq_view (hc : f.isLocked c = false) (hd : f.isLocked d = false) : f.view c = f.view d := by
  rcases writer_of_isLocked hc with ⟨t, hw⟩ | hw
  · rcases writer_of_isLocked hd with ⟨u, hu⟩ | hu
    · rw [hw] at hu
      cases hu
      rfl
    · rw [hw] at hu
      cases hu
  · rw [view_of_none hw, view_of_none hw]

theorem isLocked_of_put (hg : g.Alike (f.put db)) (c : Connection) : g.isLocked c = f.isLocked c := by
  rw [hg.isLocked]
  rcases f with ⟨k, _ | ⟨owner, t⟩, ro, sp⟩ <;> rfl

theorem readOnly_of_put (hg : g.Alike (f.put db)) : g.readOnly = f.readOnly := by
  rw [hg.readOnly]
  rcases f with ⟨k, _ | ⟨owner, t⟩, ro, sp⟩ <;> rfl

theorem view_of_put (hg : g.Alike (f.put db)) (hc : f.isLocked c = false) : g.view c = db := by
  rw [hg.view, view_put db hc]

theorem withoutPast_put (f : File) (db : Database) : (f.put db).withoutPast = f.withoutPast.put db := by
  rcases f with ⟨k, _ | ⟨owner, t⟩, ro, sp⟩ <;> rfl

theorem put_put (f : File) (db db' : Database) : (f.put db).put db' = f.put db' := by
  rcases f with ⟨k, _ | ⟨owner, t⟩, ro, sp⟩ <;> rfl

/-- Of two writes one after another the later one leaves its tables. -/
theorem alike_of_put {db' : Database} (hg : g.Alike (f.put db)) (hh : h.Alike (g.put db')) : h.Alike (f.put db') := by
  refine hh.trans ?_
  rw [withoutPast_put, hg, ← withoutPast_put, put_put]

end File

namespace Write

variable {w w' : Write} {st st' : Store} {s s' : Selection} {now now' : Time.Instant} {f g h : File} {x y : Answer}

theorem run_isOk_iff (hw : w.selection? st = some s) : (∃ x g, f.run (w.perform st now) = (.ok x, g)) ↔
    f.isLocked st.connection = false ∧ s.Clear st.faults f.readOnly (f.view st.connection) := by
  rw [← on_isOk_iff now hw]
  obtain ⟨e, he, -⟩ := w.run_perform st now f
  rw [he]
  constructor
  · rintro ⟨x, g, hx⟩
    rcases ho : w.outcome st now f with b | p <;> rw [ho] at hx <;> cases hx
    exact ⟨(outcome_ok ho).1, p, (outcome_ok ho).2⟩
  · rintro ⟨hl, p, hp⟩
    rw [outcome, if_neg (Bool.eq_false_iff.1 hl), hp]
    exact ⟨p.1, e, rfl⟩

/-- What a removal that succeeds answers, and the file that it leaves. -/
theorem run_of_selection (hw : w.selection? st = some s) (hx : f.run (w.perform st now) = (.ok x, g)) :
    x = .number (s.picked (f.view st.connection)).length ∧ g.Alike (f.put (s.cut (f.view st.connection))) := by
  obtain ⟨e, he, ha⟩ := w.run_perform st now f
  rw [he] at hx
  rcases ho : w.outcome st now f with b | ⟨z, db⟩ <;> rw [ho] at hx ha <;> cases hx
  obtain ⟨hz, rfl⟩ := on_of_selection hw (outcome_ok ho).2
  exact ⟨hz, ha⟩

theorem checkFaults_ok {faults : List Fault} {event : Trigger} (h : ∀ x ∈ faults, x.on ≠ event) :
    checkFaults faults event = .ok () := by
  have hn : (faults.reverse.find? fun x => x.on == event) = none := by
    rw [List.find?_eq_none]
    exact fun x hx he => h x (List.mem_reverse.1 hx) (eq_of_beq he)
  rw [checkFaults, hn]

/-- **Nothing but a trigger on deletions refuses a removal**, where the file may be changed and no one else is changing
it. -/
theorem run_of_removal (w : Write) (st : Store) (now : Time.Instant) {f : File} {v : Version} {pick : TagRow → Bool}
    (hw : w.removal? = some (v, pick)) (hf : ∀ x ∈ st.faults, ∀ n, x.on ≠ .tagDelete n)
    (hl : f.isLocked st.connection = false) (hr : f.readOnly = false) :
    let found := (f.view st.connection).on st.tenant v
    ∃ g, f.run (w.perform st now) = (.ok (.number (found.countP pick : Nat)), g) ∧
      g.Alike (f.put ((f.view st.connection).without st.tenant ((found.filter pick).map TagRow.id))) := by
  intro found
  have hs : w.selection? st = some ⟨st.tenant, v, pick⟩ := by
    rw [selection?, hw]
    rfl
  obtain ⟨x, g, hx⟩ : ∃ x g, f.run (w.perform st now) = (.ok x, g) :=
    (run_isOk_iff hs).2 ⟨hl, fun t _ _ => ⟨hr, checkFaults_ok fun x hx => hf x hx _⟩⟩
  obtain ⟨rfl, hg⟩ := run_of_selection hs hx
  rw [List.countP_eq_length_filter]
  exact ⟨g, hx, hg⟩

/-- **A removal that succeeds succeeds again**, finds nothing and changes nothing. -/
theorem removal_again (hw : w.selection? st = some s) (hx : f.run (w.perform st now) = (.ok x, g))
    (now' : Time.Instant) : ∃ h, g.run (w.perform st now') = (.ok (.number 0), h) ∧ h.Alike g := by
  obtain ⟨hl, -⟩ := (run_isOk_iff hw).1 ⟨x, g, hx⟩
  obtain ⟨-, hg⟩ := run_of_selection hw hx
  have hv : g.view st.connection = s.cut (f.view st.connection) := File.view_of_put hg hl
  have hp : s.picked (g.view st.connection) = [] := hv ▸ Selection.picked_cut_self
  obtain ⟨y, h, hy⟩ : ∃ y h, g.run (w.perform st now') = (.ok y, h) :=
    (run_isOk_iff hw).2 ⟨(File.isLocked_of_put hg _).trans hl, Selection.Clear.of_picked hp⟩
  obtain ⟨hn, hh⟩ := run_of_selection hw hy
  rw [hp] at hn
  rw [Selection.cut_of_picked hp, hv] at hh
  refine ⟨h, hn ▸ hy, (File.alike_of_put hg hh).trans hg.symm⟩

/-- A removal makes no difference to whether another one succeeds. -/
theorem succeeds_after (hw : w.selection? st = some s) (hw' : w'.selection? st' = some s') (hf : st.faults = st'.faults)
    (hx : f.run (w.perform st now) = (.ok x, g)) :
    (∃ y h, g.run (w'.perform st' now') = (.ok y, h)) ↔ ∃ y h, f.run (w'.perform st' now') = (.ok y, h) := by
  obtain ⟨hl, hc⟩ := (run_isOk_iff hw).1 ⟨x, g, hx⟩
  obtain ⟨-, hg⟩ := run_of_selection hw hx
  rw [run_isOk_iff hw', run_isOk_iff hw', File.isLocked_of_put hg, File.readOnly_of_put hg]
  refine and_congr_right fun hl' => ?_
  rw [File.view_of_put hg hl', File.view_eq_view hl' hl, ← hf]
  exact ⟨hc.of_cut, Selection.Clear.cut⟩

/-- **Two removals that succeed in one order succeed in the other**, and leave the same tables. -/
theorem removals_commute (hw : w.selection? st = some s) (hw' : w'.selection? st' = some s')
    (hf : st.faults = st'.faults) (hx : f.run (w.perform st now) = (.ok x, g))
    (hy : g.run (w'.perform st' now') = (.ok y, h)) :
    let db := f.view st.connection
    x = .number (s.picked db).length ∧ y = .number (s'.picked (s.cut db)).length ∧ ∃ g' h',
      f.run (w'.perform st' now') = (.ok (.number (s'.picked db).length), g') ∧
      g'.run (w.perform st now) = (.ok (.number (s.picked (s'.cut db)).length), h') ∧ h'.Alike h := by
  intro db
  obtain ⟨z, g', hz⟩ := (succeeds_after hw hw' hf hx).1 ⟨y, h, hy⟩
  obtain ⟨u, h', hu⟩ := (succeeds_after hw' hw hf.symm hz).2 ⟨x, g, hx⟩
  have hl := ((run_isOk_iff hw).1 ⟨x, g, hx⟩).1
  have hl' := ((run_isOk_iff hw').1 ⟨z, g', hz⟩).1
  have hv : f.view st'.connection = db := File.view_eq_view hl' hl
  obtain ⟨rfl, hg⟩ := run_of_selection hw hx
  obtain ⟨rfl, hh⟩ := run_of_selection hw' hy
  obtain ⟨rfl, hg'⟩ := run_of_selection hw' hz
  obtain ⟨rfl, hh'⟩ := run_of_selection hw hu
  rw [File.view_of_put hg hl'] at hh ⊢
  rw [hv] at hz hg'
  rw [File.view_of_put hg' hl] at hu hh'
  refine ⟨rfl, rfl, g', h', hz, hu, ?_⟩
  have hend := File.alike_of_put hg' hh'
  rw [Selection.cut_comm] at hend
  exact hend.trans (File.alike_of_put hg hh).symm

end Write
end VersionTags
