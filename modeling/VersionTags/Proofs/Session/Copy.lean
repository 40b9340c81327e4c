import VersionTags.Proofs.Session.Batch
import VersionTags.Proofs.Session.Ids
import VersionTags.Proofs.Session.Removal
import VersionTags.Proofs.Session.Transaction
/-!
# Copies

A copy puts the records of one version on another as new tags, under ids that no tag has, so that nothing is shared by
the two.  What is written on one version from then on, by any store and with whatever end, is not noticed on the other
(`Session.copies_stand_apart`).  A removal deletes tags by their ids, and would be noticed if a tag were on both.

That holds while the transaction lasts that the copy was made in, if it was made in one.  A refusal that ends it takes
the copy along, and all that was written in it before, on whatever version.
-/
namespace VersionTags

/-! ## What a write leaves as it is -/

theorem File.isLocked_of_standing {f g : File} (h : g.standing = f.standing) (c : Connection) :
    g.isLocked c = f.isLocked c := by
  have hl : ∀ e : File, e.isLocked c = e.standing.any fun p => p.1 != c := by
    rintro ⟨k, _ | ⟨d, t⟩, ro⟩ <;> rfl
  rw [hl, hl, h]

/-- The version that a write works on. -/
def Write.target : Write → Version
  | .add _ v _ => v
  | .addMany v _ => v
  | .copy _ w => w
  | .remove v _ => v
  | .removeBy v _ _ => v
  | .purge v => v

/-- **A write changes what is on its own version**, for its own tenant, and on no other. -/
theorem Write.on_of_ne {w : Write} {st : Store} {ro : Bool} {now : Time.Instant} {db db' : Database} {x : Answer}
    (h : Aligned db) (ho : w.on st ro now db = .ok (x, db')) {T : Tenant} {u : Version}
    (hne : st.tenant ≠ T ∨ w.target ≠ u) : db'.on T u = db.on T u := by
  obtain ⟨copied, -, rfl⟩ := on_ok ho
  -- what is put in stands on the version of the write, and what is cut out stood there
  have hput : ∀ v rs, st.tenant ≠ T ∨ v ≠ u → (db.withTaggings st.tenant v rs).on T u = db.on T u := by
    intro v rs hne
    have hno : ¬(T = st.tenant ∧ u = v) := fun he => hne.elim (fun hT => hT he.1.symm) fun hv => hv he.2.symm
    rw [Database.on_withTaggings st.tenant v T u rs h, if_neg hno, List.append_nil]
  have hcut : ∀ (v : Version) (pick : TagRow → Bool), st.tenant ≠ T ∨ v ≠ u →
      (db.without st.tenant (((db.on st.tenant v).filter pick).map TagRow.id)).on T u = db.on T u := by
    intro v pick hne
    have hs := (h.clears_cut ⟨st.tenant, v, pick⟩).others T u (hne.imp Ne.symm Ne.symm)
    show (Selection.cut ⟨st.tenant, v, pick⟩ db).on T u = _
    rw [Database.on_eq_joined, hs, ← Database.on_eq_joined]
  cases w with
  | add n v a => exact hput v _ hne
  | addMany v rs => exact hput v rs hne
  | copy v w => exact hput w copied hne
  | remove v n => exact hcut v _ hne
  | removeBy v n a => exact hcut v _ hne
  | purge v => exact hcut v _ hne

/-- A write that a store tries at some time. -/
structure Attempt where
  store : Store
  now : Time.Instant
  write : Write

namespace Attempt

def run (a : Attempt) (f : File) : File := (f.run (a.write.perform a.store a.now)).2

/-- The attempt is for another tenant, or works on another version. -/
def SparesOf (a : Attempt) (T : Tenant) (u : Version) : Prop := a.store.tenant ≠ T ∨ a.write.target ≠ u

end Attempt

/-- The file after some attempts, one after another, whether they succeed or not. -/
def File.after (f : File) (as : List Attempt) : File := as.foldl (fun f a => a.run f) f

namespace Attempt

variable {f : File} {a : Attempt} {T : Tenant} {u : Version} {c : Connection}

/-- An attempt is not noticed on a version that it spares, unless its refusal ends a transaction. -/
theorem on_view_run (h : f.Everywhere Aligned) (hs : a.SparesOf T u)
    (he : f.writer = none ∨ ¬Write.Ends (a.write.outcome a.store a.now f)) (e : Connection) :
    ((a.run f).view e).on T u = (f.view e).on T u := by
  obtain ⟨g, hg, ha⟩ := a.write.run_perform a.store a.now f
  rw [run, hg, ha.view]
  rcases ho : a.write.outcome a.store a.now f with b | ⟨x, db⟩
  · have hundo : f.undo b.refusal.reach = f := by
      rcases he with hw | he
      · exact File.undo_of_none hw _
      · cases hr : b.refusal.reach with
        | statement => rfl
        | transaction => exact absurd ⟨b, ho, hr⟩ he
    rw [Write.leave, hundo]
  · obtain ⟨hl, hon⟩ := Write.outcome_ok ho
    exact File.on_view_put hl (Write.on_of_ne (h.2 _) hon hs) e

theorem everywhere_run (h : f.Everywhere Aligned) (a : Attempt) : (a.run f).Everywhere Aligned :=
  kept_aligned.perform h a.write a.store a.now

theorem writer_after : ∀ (as : List Attempt) {f : File}, f.writer = none → (f.after as).writer = none
  | [], _, hw => hw
  | a :: as, _, hw => writer_after as (a.write.writer_of_none a.store a.now hw)

/-- **Attempts are not noticed on a version that they all spare**, where the connection is in its transaction at the end
as it was before them, or is in none. -/
theorem on_view_after : ∀ (as : List Attempt) {f : File}, f.Everywhere Aligned → f.isLocked c = false →
    (∀ a ∈ as, a.SparesOf T u) → (f.after as).isAutocommit c = f.isAutocommit c →
    (f.after as).isLocked c = false ∧ ∀ e, ((f.after as).view e).on T u = (f.view e).on T u
  | [], f, _, hl, _, _ => ⟨hl, fun e => rfl⟩
  | a :: as, f, h, hl, hs, hstay => by
    have hspares := hs a List.mem_cons_self
    have hrest := fun b hb => hs b (List.mem_cons_of_mem a hb)
    have hafter : f.after (a :: as) = (a.run f).after as := rfl
    rw [hafter] at hstay ⊢
    -- no attempt has ended the transaction, which no attempt begins again
    have hopen : f.writer = none ∨ ¬Write.Ends (a.write.outcome a.store a.now f) := by
      rcases File.writer_of_isLocked hl with ⟨t, hw⟩ | hw
      · refine .inr fun he => ?_
        have hgone : (a.run f).writer = none := by rw [run, Write.file_of_ends he]
        rw [File.isAutocommit_of_none (writer_after as hgone), File.isAutocommit,
          File.transaction?_of_writer hw] at hstay
        cases hstay
      · exact .inl hw
    have hstep : (a.run f).isLocked c = false ∧ (a.run f).isAutocommit c = f.isAutocommit c := by
      rcases hopen with hw | he
      · have hw' : (a.run f).writer = none := a.write.writer_of_none a.store a.now hw
        exact ⟨by simp [File.isLocked, hw'], by rw [File.isAutocommit_of_none hw', File.isAutocommit_of_none hw]⟩
      · have hst := Write.standing_of_not_ends he
        exact ⟨(File.isLocked_of_standing hst c).trans hl, File.isAutocommit_of_standing hst⟩
    obtain ⟨hl', hon⟩ := on_view_after as (everywhere_run h a) hstep.1 hrest (hstay.trans hstep.2.symm)
    exact ⟨hl', fun e => (hon e).trans (on_view_run h hspares hopen e)⟩

end Attempt

/-! ## Copies -/

namespace Store

variable {st : Store} {f g : File} {v w : Version}

theorem run_copyTags (st : Store) (f : File) (v w : Version) : f.run (st.copyTags v w) =
    match (f.run (st.records v)).1 with
    | .ok rs => f.run (st.addTags w rs)
    | .error e => (.error e, f) := by
  rw [copyTags, File.run_bind, Write.run_records]
  cases (Task.readTags (st.describe v)).answer (f.sight st.connection) fun db => db.records st.tenant v <;> rfl

/-- A copy that succeeds has read the records of its source, and has put them on its target. -/
theorem copyTags_ok (h : f.run (st.copyTags v w) = (.ok (), g)) :
    ∃ rs, (f.run (st.records v)).1 = .ok rs ∧ f.run (st.addTags w rs) = (.ok (), g) := by
  rw [run_copyTags] at h
  cases hr : (f.run (st.records v)).1 with
  | error e =>
    rw [hr] at h
    cases h
  | ok rs =>
    rw [hr] at h
    exact ⟨rs, rfl, h⟩

end Store

namespace Session

theorem kept_lastId (n : Int) : Kept fun db => n ≤ db.lastId where
  withTagging db T v r h := by
    rw [Database.lastId_withTagging]
    exact Int.le_trans h (Int.le_add_one (Int.le_refl _))
  without _ _ _ h := h

/-- No transaction works on tables with a next id below that of the committed ones. -/
theorem lastId_le_view (faults : List Fault) (l : Locator) (a : LocatorAccess) (now : Time.Instant) (seats : List Seat)
    (spills : Transaction → Bool) (ms : List Move) (c : Connection) :
    let f := ((Session.fresh faults l a now seats spills).run ms).file
    f.committed.lastId ≤ (f.view c).lastId := by
  intro f
  have hr := records_run ms (s := Session.fresh faults l a now seats spills) (.empty .empty spills)
  exact ((kept_lastId f.committed.lastId).everywhere hr (Int.le_refl _)).2 c

/-- **Copies stand apart.**  Whatever the stores of a session have done, a copy that succeeds puts the records of its
source at the end of its target, which may be the same version, under ids that are above those of all tags there were.
Then no attempt to write is noticed on a version, by a store of the tenant, but those of the tenant on that very
version, so long as the transaction lasts that the copy was made in. -/
theorem copies_stand_apart (faults : List Fault) (l : Locator) (a : LocatorAccess) (now : Time.Instant)
    (seats : List Seat) (spills : Transaction → Bool) (ms : List Move) :
    let f := ((Session.fresh faults l a now seats spills).run ms).file
    ∀ (st : Store) (v w : Version) (g : File), f.run (st.copyTags v w) = (.ok (), g) →
      (∃ rs, (f.run (st.records v)).1 = .ok rs ∧ st.Gains f g w rs ∧
        ∀ id ∈ Database.idsAfter (f.view st.connection).lastId rs.length,
          ∀ t, t ∈ f.committed.tags ∨ t ∈ (f.view st.connection).tags → t.id < id) ∧
      ∀ (u : Version) (as : List Attempt), (∀ a ∈ as, a.SparesOf st.tenant u) →
        (g.after as).isAutocommit st.connection = g.isAutocommit st.connection →
        ∀ st' : Store, st'.tenant = st.tenant →
          st'.connection = st.connection ∨ (g.after as).isBlocked st'.connection = g.isBlocked st'.connection →
          st'.Keeps g (g.after as) u := by
  intro f st v w g hg
  have htidy := Session.tidy_run faults l a now seats spills ms
  have hlast := lastId_le_view faults l a now seats spills ms st.connection
  obtain ⟨rs, hrs, hadd⟩ := Store.copyTags_ok hg
  obtain ⟨hl, ha⟩ := Store.addTags_ok hadd
  refine ⟨⟨rs, hrs, Store.gains (htidy.2 st.connection) hl ha, fun id hid t ht => ?_⟩,
    fun u as hs hstay st' hT hb => ?_⟩
  · have hnew := Database.lt_of_mem_idsAfter hid
    rcases ht with ht | ht
    · exact Int.lt_of_le_of_lt (Int.le_trans (f.committed.id_le t ht) hlast) hnew
    · exact Int.lt_of_le_of_lt ((f.view st.connection).id_le t ht) hnew
  · have hal : f.Everywhere Aligned := ⟨htidy.1.toAligned, fun c => (htidy.2 c).toAligned⟩
    have hgal : g.Everywhere Aligned :=
      ha.everywhere (File.everywhere_put hal (kept_aligned.withTaggings _ w rs (hal.2 st.connection)))
    have hgl : g.isLocked st.connection = false := (File.isLocked_of_put ha _).trans hl
    obtain ⟨hl', hon⟩ := Attempt.on_view_after as hgal hgl hs hstay
    refine Store.keeps_of_on (hb.elim (fun hc => ?_) id) (hT ▸ hon st'.connection)
    rw [hc, File.isBlocked_of_isLocked hgl, File.isBlocked_of_isLocked hl']

open Write (someTime strictStore)

def original : Move := ⟨0, someTime, .add "n" 1 "alice"⟩

/-- What the first store reads of the tag, and what a copy of it comes to. -/
theorem copy_of_original {f : File} (hl : f.isLocked 0 = false)
    (hon : (f.view 0).on 1 1 = [⟨1, "n", "alice", someTime.storedText, .int 1⟩]) :
    (f.run (strictStore.taggings 1)).1 = .ok [⟨1, "n", "alice", someTime, none⟩] ∧
      f.run (strictStore.copyTags 1 2) = f.run (strictStore.addTags 2 [⟨"n", "alice", someTime⟩]) := by
  have hb : f.isBlocked strictStore.connection = false := File.isBlocked_of_isLocked hl
  have hread := Time.readStored_storedText someTime
  have hon' : (f.view strictStore.connection).on strictStore.tenant 1 =
      [⟨1, "n", "alice", someTime.storedText, .int 1⟩] := hon
  have hrecords : (f.run (strictStore.records 1)).1 = .ok [⟨"n", "alice", someTime⟩] := by
    rw [Store.records_ok_iff hb, hon']
    exact .cons ⟨rfl, rfl, hread⟩ .nil
  refine ⟨?_, by rw [Store.run_copyTags, hrecords]⟩
  rw [Store.taggings_ok_iff hb, hon']
  exact .cons ⟨rfl, rfl, rfl, hread, rfl⟩ .nil

/-- The tag is copied to another version, from where the copy is removed after an insertion has been refused. -/
theorem original_survives_copy : let f := (strictPair.run [original]).file
    ∃ g, f.run (strictStore.copyTags 1 2) = (.ok (), g) ∧
      strictStore.Keeps g
        (g.after [⟨strictStore, someTime, .add "bad" 2 "alice"⟩, ⟨strictStore, someTime, .remove 2 "N"⟩]) 1 := by
  intro f
  have hon : (f.view 0).on 1 1 = [⟨1, "n", "alice", someTime.storedText, .int 1⟩] := by
    rw [Database.on_eq]
    rfl
  obtain ⟨-, hcopy⟩ := copy_of_original (f := f) rfl hon
  have hg : f.run (strictStore.addTags 2 [⟨"n", "alice", someTime⟩]) = (.ok (), _) := rfl
  rw [hg] at hcopy
  obtain ⟨-, hapart⟩ := copies_stand_apart strictStore.faults .empty .map someTime strictPair.seats (fun _ => false)
    [original] strictStore 1 2 _ hcopy
  refine ⟨_, hcopy, hapart 1 _ ?_ ?_ strictStore rfl (.inl rfl)⟩
  · intro a ha
    simp only [List.mem_cons, List.not_mem_nil, or_false] at ha
    rcases ha with rfl | rfl <;> exact .inr (by decide)
  · rw [File.isAutocommit_of_none (Attempt.writer_after _ rfl), File.isAutocommit_of_none rfl]

/-- **A refusal on the target takes the tags of the source along**, where it ends the transaction that they were put in
by. -/
theorem refusal_takes_original_along : let f := (strictPair.run [opening, original]).file
    ∃ g, f.run (strictStore.copyTags 1 2) = (.ok (), g) ∧
      (g.run (strictStore.taggings 1)).1 = .ok [⟨1, "n", "alice", someTime, none⟩] ∧
      ((g.after [⟨strictStore, someTime, .add "bad" 2 "alice"⟩]).run (strictStore.taggings 1)).1 = .ok [] := by
  intro f
  let g := (f.run (strictStore.addTags 2 [⟨"n", "alice", someTime⟩])).2
  have hon : (f.view 0).on 1 1 = [⟨1, "n", "alice", someTime.storedText, .int 1⟩] := by
    rw [Database.on_eq]
    rfl
  have hon' : (g.view 0).on 1 1 = [⟨1, "n", "alice", someTime.storedText, .int 1⟩] := by
    rw [Database.on_eq]
    rfl
  have hgone : g.after [⟨strictStore, someTime, .add "bad" 2 "alice"⟩] = .ofDatabase .empty := rfl
  refine ⟨g, (copy_of_original (f := f) rfl hon).2.trans rfl, (copy_of_original rfl hon').1, ?_⟩
  rw [hgone, Store.taggings_ok_iff rfl, Database.on_eq]
  exact .nil

end Session
end VersionTags
