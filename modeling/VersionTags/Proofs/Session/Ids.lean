import VersionTags.Proofs.Session.Bracket
import VersionTags.Proofs.Store.Ids
import VersionTags.Proofs.Store.Removal
/-!
# No id is given twice

The calls that a journal records as done give ids in ascending order, whoever makes them, and each above every id that
the committed tables ever held before.  So the id of a tag that is gone, with its removal committed, does not come back
(`Session.ids_of_run`).

A rollback gives ids back, and they are given again.  No committed tables ever held them.
-/
namespace VersionTags

/-- The ids that calls give when they are done one after another. -/
def Database.given (db : Database) : List Call → List TagId
  | [] => []
  | k :: ks =>
    match k.on db with
    | some db' => db.putIn db' ++ db'.given ks
    | none => []

theorem Call.on_ok {k : Call} {db db' : Database} (h : k.on db = some db') :
    k.write.on k.store false k.now db = .ok (k.answer, db') := by
  unfold Call.on at h
  split at h
  · rename_i x d hw
    split at h
    · rename_i hx
      cases h
      rw [hw, hx]
    · cases h
  · cases h

theorem redoAll_cons {db db' : Database} {k : Call} {ks : List Call} (h : redoAll db (k :: ks) = some db') :
    ∃ d, k.on db = some d ∧ redoAll d ks = some db' := by
  change (k.on db).bind (fun d => redoAll d ks) = some db' at h
  exact Option.bind_eq_some_iff.1 h

/-- **Calls done one after another give ids in ascending order.** -/
theorem Database.grows_given : ∀ (ks : List Call) {db db' : Database}, redoAll db ks = some db' →
    db.Grows db' (db.given ks)
  | [], db, db', h => by
    cases h
    exact .refl db
  | k :: ks, db, db', h => by
    obtain ⟨d, hk, hd⟩ := redoAll_cons h
    have hg := (Write.grows_on (Call.on_ok hk)).trans (grows_given ks hd)
    simpa only [given, hk] using hg

theorem lastId_le_redoAll : ∀ (ks : List Call) {db db' : Database}, db.lastId ≤ Decimal.maxInt64 →
    redoAll db ks = some db' → db'.lastId ≤ Decimal.maxInt64
  | [], _, _, hm, h => by
    cases h
    exact hm
  | k :: ks, db, db', hm, h => by
    obtain ⟨d, hk, hd⟩ := redoAll_cons h
    exact lastId_le_redoAll ks (Write.lastId_le_on hm (Call.on_ok hk)) hd

/-! ## What taggings and removals keep, along the journal -/

namespace Kept

variable {P : Database → Prop}

theorem on (hP : Kept P) {w : Write} {st : Store} {ro : Bool} {now : Time.Instant} {db db' : Database} {x : Answer}
    (hdb : P db) (h : w.on st ro now db = .ok (x, db')) : P db' := by
  obtain ⟨copied, -, rfl⟩ := Write.on_ok h
  rcases w.changed_cases st now copied db with ⟨v, rs, hc⟩ | ⟨v, name, a, hc⟩ <;> rw [hc]
  · exact hP.withTaggings _ v rs hdb
  · exact hP.without _ _ _ hdb

theorem redoAll (hP : Kept P) : ∀ (ks : List Call) {db db' : Database}, P db → redoAll db ks = some db' → P db'
  | [], _, _, hdb, h => by
    cases h
    exact hdb
  | k :: ks, db, db', hdb, h => by
    obtain ⟨d, hk, hd⟩ := redoAll_cons h
    exact hP.redoAll ks (hP.on hdb (Call.on_ok hk)) hd

/-- What holds of the committed tables holds of those that a transaction works on, too. -/
theorem everywhere (hP : Kept P) {db : Database} {j : Journal} {f : File} (hr : j.Records db f) (h : P f.committed) :
    f.Everywhere P := by
  rw [File.everywhere_iff]
  refine ⟨h, fun c t hw => ?_⟩
  obtain ⟨hwork, -⟩ := hr.working c _ (File.work_of_writer hw)
  rw [redoAll_append, hr.committed] at hwork
  exact hP.redoAll _ h hwork

end Kept

/-- The id has been given, or passed over, and no tag has it. -/
def Database.Retired (id : TagId) (db : Database) : Prop := id ≤ db.lastId ∧ ∀ t ∈ db.tags, t.id ≠ id

theorem kept_retired (id : TagId) : Kept (Database.Retired id) where
  withTagging db T v r h := by
    refine ⟨?_, fun t ht => ?_⟩
    · rw [Database.lastId_withTagging]
      exact Int.le_trans h.1 (Int.le_add_one (Int.le_refl _))
    · rcases List.mem_cons.1 ht with rfl | ht
      · exact (Int.ne_of_lt (Int.lt_add_one_of_le h.1)).symm
      · exact h.2 t ht
  without db T ids h := ⟨h.1, fun t ht => h.2 t (List.mem_filter.1 ht).1⟩

theorem Store.taggingById_of_absent {st : Store} {f : File} {id : TagId}
    (h : ∀ t ∈ (f.view st.connection).tags, t.id ≠ id) : (f.run (st.taggingById id)).1 =
      if f.isBlocked st.connection then .error (.storage (.readTaggingById id) .locked) else .ok none := by
  have hq : (f.view st.connection).taggingById st.tenant id = .ok none := by
    have hn : ((f.view st.connection).tags.find? fun t => t.id == id && t.tenant == .int st.tenant) = none := by
      rw [List.find?_eq_none]
      intro t ht
      simp [h t ht]
    rw [Database.taggingById, hn]
  rw [Store.taggingById, File.run_bind, Store.run_ask, File.sight]
  by_cases hb : f.isBlocked st.connection = true
  · simp only [if_pos hb]
    rfl
  · simp only [if_neg hb, Task.answer, hq]
    rfl

/-! ## Runs -/

namespace Session

theorem done_move (j : Journal) (s : Session) (m : Move) : ∃ ks, (j.noteMove s m).done = j.done ++ ks := by
  rcases j.noteMove_cases s m with ⟨k, -, -, -, hn⟩ | ⟨-, -, hn⟩ | ⟨-, hn | hn⟩ <;> rw [hn]
  · split
    · exact ⟨[k], rfl⟩
    · exact ⟨[], (List.append_nil _).symm⟩
  · exact ⟨j.pending m.seat, rfl⟩
  · exact ⟨[], (List.append_nil _).symm⟩
  · exact ⟨[], (List.append_nil _).symm⟩

theorem done_run : ∀ (ms : List Move) (s : Session) (j : Journal), ∃ ks, (s.journal j ms).done = j.done ++ ks
  | [], _, _ => ⟨[], (List.append_nil _).symm⟩
  | m :: ms, s, j => by
    obtain ⟨ks, hk⟩ := done_move j s m
    obtain ⟨ks', hk'⟩ := done_run ms (s.move m).2 (j.noteMove s m)
    exact ⟨ks ++ ks', by rw [journal, hk', hk, List.append_assoc]⟩

/-- **No id is given twice.**  Take the committed tables at one time and at a later one.  The calls done in between give
ids in ascending order, each positive, within 64 bits and above every id that the tables held at the first time, and
give no other tag a place.  An id that the tables held at the first time, or that was given since, and that no tag has
at the second time, is gone for good: no tag has it at any time after, committed or not, and whoever looks it up finds
none, unless the store cannot read.  Where no id is left, every insertion fails, and leaves the file as it is but for
one made plainly inside a transaction of its own connection. -/
theorem ids_of_run (db : Database) (hdb : db.lastId ≤ Decimal.maxInt64) (faults : List Fault) (l : Locator)
    (a : LocatorAccess) (now : Time.Instant) (seats : List Seat) (spills : Transaction → Bool) (pre mid : List Move) :
    let s : Session := ⟨.ofDatabase db spills, faults, l, a, now, seats⟩
    let old := (s.run pre).file.committed
    let f := (s.run (pre ++ mid)).file
    ∃ ks, (s.journal .empty (pre ++ mid)).done = (s.journal .empty pre).done ++ ks ∧ redoAll old ks = some f.committed ∧
      (old.given ks).Pairwise (· < ·) ∧
      (∀ id ∈ old.given ks, 1 ≤ id ∧ id ≤ Decimal.maxInt64 ∧ ∀ t ∈ old.tags, t.id < id) ∧
      (∀ t ∈ f.committed.tags, t ∈ old.tags ∨ t.id ∈ old.given ks) ∧
      (∀ id, ((∃ t ∈ old.tags, t.id = id) ∨ id ∈ old.given ks) → (∀ t ∈ f.committed.tags, t.id ≠ id) →
        ∀ post, let g := (s.run (pre ++ mid ++ post)).file
          g.Everywhere (fun d => ∀ t ∈ d.tags, t.id ≠ id) ∧ ∀ st : Store, (g.run (st.taggingById id)).1 =
            if g.isBlocked st.connection then .error (.storage (.readTaggingById id) .locked) else .ok none) ∧
      ∀ (st : Store) (w : Write) (now : Time.Instant), (f.view st.connection).lastId = Decimal.maxInt64 →
        w.Inserts st f → (∃ e, (f.run (w.perform st now)).1 = .error e) ∧
          (st.insertsPlainly = false ∨ f.isAutocommit st.connection = true → (f.run (w.perform st now)).2.Alike f) := by
  intro s old f
  have hpre : (s.journal .empty pre).Records db (s.run pre).file := records_run pre (.empty db spills)
  have hmid : (s.journal .empty (pre ++ mid)).Records db f := records_run (pre ++ mid) (.empty db spills)
  obtain ⟨ks, hks⟩ := done_run mid (s.run pre) (s.journal .empty pre)
  rw [← journal_append] at hks
  have hredo : redoAll old ks = some f.committed := by
    have hc := hmid.committed
    rw [hks, redoAll_append, hpre.committed] at hc
    exact hc
  have hgrows := Database.grows_given ks hredo
  have hmax : f.committed.lastId ≤ Decimal.maxInt64 := lastId_le_redoAll _ hdb hmid.committed
  refine ⟨ks, hks, hredo, hgrows.ascending, fun id hid => ?_, hgrows.rows, fun id hid hgone post => ?_,
    fun st w now h hi => Write.run_of_full h hi⟩
  · obtain ⟨hpos, habove⟩ := hgrows.fresh hid
    exact ⟨hpos, Int.le_trans (hgrows.within id hid) hmax, habove⟩
  · -- new ids are greater than the last one, so that an absent id up to it stays absent
    have hlast : id ≤ f.committed.lastId := by
      rcases hid with ⟨t, ht, rfl⟩ | hid
      · exact Int.le_trans (old.id_le t ht) hgrows.lastId
      · exact hgrows.within id hid
    intro g
    have hg : g.Everywhere (Database.Retired id) := by
      have hf : f.Everywhere (Database.Retired id) := (kept_retired id).everywhere hmid ⟨hlast, hgone⟩
      have hrun := everywhere_run (kept_retired id) post hf
      rw [← run_append] at hrun
      exact hrun
    exact ⟨⟨hg.1.2, fun c => (hg.2 c).2⟩, fun st => Store.taggingById_of_absent (hg.2 st.connection).2⟩

open Write (someTime)

/-- Tables with raw ids. -/
def rawTables : Database :=
  .ofRows [⟨-3, "x", "a", "2020-01-02 03:04:05+00:00", .int 1⟩, ⟨7, "y", "a", "never", .text "z"⟩] []

/-- A session of two stores that learn their ids in either way. -/
def newcomers : Session :=
  ⟨.ofDatabase rawTables, [], .empty, .map, someTime, [⟨1, .maxId, true⟩, ⟨2, .generatedKeys, true⟩]⟩

/-- The first store takes an insertion back. -/
def retreat : List Move := [opening, ⟨0, someTime, .add "n" 1 "alice"⟩, ⟨0, someTime, .rollback⟩]

/-- Then both put tags in. -/
def arrivals : List Move :=
  [⟨1, someTime, .add "m" 1 "bob"⟩, ⟨0, someTime, .addMany 1 [⟨"p", "alice", someTime⟩, ⟨"q", "alice", someTime⟩]⟩]

/-- The ids go on from the greatest raw one, and the one taken back is given. -/
theorem newcomers_get_fresh_ids :
    let ks := (newcomers.journal .empty (retreat ++ arrivals)).done
    rawTables.given ks = [8, 9, 10] ∧ (rawTables.given ks).Pairwise (· < ·) ∧
      ∀ id ∈ rawTables.given ks, 1 ≤ id ∧ id ≤ Decimal.maxInt64 ∧ ∀ t ∈ rawTables.tags, t.id < id := by
  intro ks
  obtain ⟨ks', hks, -, hascending, hfresh, -⟩ := ids_of_run rawTables (by decide) [] .empty .map someTime
    newcomers.seats (fun _ => false) retreat arrivals
  have hold : (newcomers.journal .empty retreat).done = [] := rfl
  have hsame : ks = ks' := hks.trans (congrArg (· ++ ks') hold)
  rw [hsame]
  refine ⟨?_, hascending, hfresh⟩
  rw [← hsame]
  decide +kernel

/-- A session of two stores on a file with one tag, to which a transaction with a long name begins to write. -/
def solo : Session :=
  ⟨.ofDatabase (Database.empty.withTagging 1 1 ⟨"n", "alice", someTime⟩) holdsLongName, [], .empty, .map, someTime,
    [⟨1, .maxId, true⟩, ⟨1, .maxId, true⟩]⟩

/-- The first store removes the tag. -/
def clearing : Move := ⟨0, someTime, .purge 1⟩

/-- Tables that have had one tag. -/
def clearedTables : Database := ⟨[], [], 1, by decide, nofun⟩

theorem solo_clearing : (solo.move clearing).2 = { solo with file := .ofDatabase clearedTables holdsLongName } := by
  have hseat : solo.seats[0]? = some ⟨1, .maxId, true⟩ := rfl
  obtain ⟨g, hg, ha⟩ := Write.run_of_removal (.purge 1) (solo.store 0 ⟨1, .maxId, true⟩) someTime (f := solo.file) rfl
    (fun x hx => absurd hx List.not_mem_nil) rfl rfl
  have hids : (solo.file.view 0).without 1 ((((solo.file.view 0).on 1 1).filter fun _ => true).map TagRow.id) =
      clearedTables := by
    rw [Database.on_eq]
    rfl
  have hgone : g = .ofDatabase clearedTables holdsLongName := by
    rw [ha.eq_of_none rfl]
    exact congrArg (fun db => File.ofDatabase db holdsLongName) hids
  have hm := move_write hseat someTime (.purge 1)
  rw [hg, hgone] at hm
  exact congrArg Prod.snd hm

/-- Then the first store opens a transaction and puts in a tag with this name. -/
def filling (name : String) : List Move := [opening, ⟨0, someTime, .add name 1 "alice"⟩]

/-- **A store that cannot read is not told that an id is gone**, and a plain insertion that finds no id left does change
something: the tag put in before it, inside the same transaction, is gone. -/
theorem locked_lookup_and_exhausted_insertion :
    let cleared := (solo.move clearing).2
    let filled := cleared.run (filling (String.ofList (List.replicate 2000000 'n')))
    let full := brink.run [opening, ⟨0, someTime, .add "k" 1 "alice"⟩]
    let failed := (full.move ⟨0, someTime, .add "full" 1 "alice"⟩).2
    (solo.file.committed.tags.map TagRow.id = [1] ∧ cleared.file.committed.tags = [] ∧
      filled.file.committed.tags = [] ∧
      (filled.move ⟨1, someTime, .byId 1⟩).1 = some (.error (.storage (.readTaggingById 1) .locked))) ∧
    (full.file.view 0).lastId = Decimal.maxInt64 ∧ (full.file.view 0).tags.map TagRow.name = ["k", "x"] ∧
      (failed.file.view 0).tags.map TagRow.name = ["x"] := by
  intro cleared filled full failed
  have hname := utf8ByteSize_replicate 2000000
  revert filled
  -- a name of such a length is not to be computed with
  generalize String.ofList (List.replicate 2000000 'n') = name at hname
  intro filled
  have hcleared : cleared = { solo with file := .ofDatabase clearedTables holdsLongName } := solo_clearing
  have hfilled : filled = { solo with file :=
      ⟨clearedTables, some (0, ⟨clearedTables.withTagging 1 1 ⟨name, "alice", someTime⟩, [], [clearedTables]⟩), false,
        holdsLongName⟩ } := by
    show cleared.run (filling name) = _
    rw [hcleared]
    rfl
  have hb : filled.file.isBlocked 1 = true := by
    rw [hfilled]
    simp [File.isBlocked, holdsLongName, hname]
  have hseat : filled.seats[1]? = some ⟨1, .maxId, true⟩ := by
    rw [hfilled]
    rfl
  have hread : (filled.move ⟨1, someTime, .byId 1⟩).1 = some (.error (.storage (.readTaggingById 1) .locked)) := by
    have hm := move_read hseat someTime (.byId 1)
    rw [File.sight, if_pos hb] at hm
    exact congrArg Prod.fst hm
  refine ⟨⟨rfl, ?_, ?_, hread⟩, rfl, rfl, rfl⟩
  · rw [hcleared]
    rfl
  · rw [hfilled]
    rfl

end Session
end VersionTags
