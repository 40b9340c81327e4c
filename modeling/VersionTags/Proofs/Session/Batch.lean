import VersionTags.Proofs.Session.Conservation
import VersionTags.Proofs.Store.Gains
/-!
# Batches

A batch of tags comes to its parts, one after another: it succeeds just when they do, and leaves the same tables, rows
in the same order and the same next id (`Session.batches_fold`).  A single tag is a batch of one.  The batch is one
write and its parts are several, so that the transaction they are made in has come to its tables by other steps.
-/
namespace VersionTags

namespace Store

variable {st : Store} {ro : Bool} {v : Version}

theorem putAll_append (st : Store) (ro : Bool) (v : Version) (rs ss : List TagRecord) :
    st.putAll ro v (rs ++ ss) = st.putAll ro v rs >>= fun _ => st.putAll ro v ss :=
  List.forM_append

theorem putAll_singleton (r : TagRecord) (db : Database) :
    st.putAll ro v [r] db = (st.putOne ro v r db).map fun p => ((), p.2) := by
  have hone : st.putAll ro v [r] = st.putOne ro v r >>= fun _ => pure () := by
    rw [← discard_eq_bind]
    exact bind_pure_unit
  rw [hone]
  show (st.putOne ro v r db >>= fun p => pure ((), p.2)) = _
  cases st.putOne ro v r db <;> rfl

/-! ## What a batch comes to -/

variable {f g : File} {rs ss : List TagRecord}

theorem run_addTags (rs : List TagRecord) (hl : f.isLocked st.connection = false) :
    ∃ g, f.run (st.addTags v rs) = ((f.settle (st.putAll f.readOnly v rs (f.view st.connection))).1.mapError
        (.storage (.addTags (st.describe v))), g) ∧
      g.Alike (f.settle (st.putAll f.readOnly v rs (f.view st.connection))).2 := by
  obtain ⟨g, hg, ha⟩ := File.run_writeScope (st.carries_insertAll v rs) hl
  exact ⟨g, by rw [addTags, run_run, hg], ha⟩

theorem run_addTag (now : Time.Instant) (n a : String) (hl : f.isLocked st.connection = false) :
    ∃ g, f.run (st.addTag now n v a) =
        ((f.settle (st.putOne f.readOnly v ⟨n, a, now⟩ (f.view st.connection))).1.mapError
          (.storage (.addTag n (st.describe v) a)), g) ∧
      g.Alike (f.settle (st.putOne f.readOnly v ⟨n, a, now⟩ (f.view st.connection))).2 := by
  obtain ⟨g, hg, ha⟩ := File.run_writeScope (st.carries_insertTagging v ⟨n, a, now⟩) hl
  exact ⟨g, by rw [addTag, run_run, hg], ha⟩

theorem run_addTags_of_isLocked (rs : List TagRecord) (hl : f.isLocked st.connection = true) :
    f.run (st.addTags v rs) = (.error (.storage (.addTags (st.describe v)) .locked), f) := by
  rw [addTags, run_run, File.run_writeScope_of_isLocked _ hl]
  rfl

/-- The statements of a batch that succeeds, all of them. -/
def Puts (st : Store) (f : File) (v : Version) (rs : List TagRecord) : Prop :=
  f.isLocked st.connection = false ∧ st.putAll f.readOnly v rs (f.view st.connection) =
    .ok ((), (f.view st.connection).withTaggings st.tenant v rs)

/-- **A batch succeeds just when none of its statements is refused.** -/
theorem addTags_isOk_iff : (∃ g, f.run (st.addTags v rs) = (.ok (), g)) ↔ st.Puts f v rs := by
  constructor
  · rintro ⟨g, hg⟩
    have hl : f.isLocked st.connection = false := by
      rw [← Bool.not_eq_true]
      intro hl
      rw [run_addTags_of_isLocked rs hl] at hg
      cases hg
    obtain ⟨e, he, -⟩ := run_addTags (v := v) rs hl
    rw [he] at hg
    refine ⟨hl, ?_⟩
    rcases ho : st.putAll f.readOnly v rs (f.view st.connection) with r | ⟨⟨⟩, db⟩ <;> rw [ho] at hg
    · cases hg
    · rw [putAll_ok ho]
  · rintro ⟨hl, ho⟩
    obtain ⟨g, hg, -⟩ := run_addTags (v := v) rs hl
    rw [ho] at hg
    exact ⟨g, hg⟩

theorem addTags_ok (h : f.run (st.addTags v rs) = (.ok (), g)) : f.isLocked st.connection = false ∧
    g.Alike (f.put ((f.view st.connection).withTaggings st.tenant v rs)) := by
  obtain ⟨hl, ho⟩ := addTags_isOk_iff.1 ⟨g, h⟩
  obtain ⟨e, he, ha⟩ := run_addTags (v := v) rs hl
  rw [ho] at he ha
  cases h.symm.trans he
  exact ⟨hl, ha⟩

/-- **A batch can be put in just when its first part can, and then the rest.** -/
theorem puts_append (h : f.run (st.addTags v rs) = (.ok (), g)) : st.Puts f v (rs ++ ss) ↔ st.Puts g v ss := by
  obtain ⟨hl, ho⟩ := addTags_isOk_iff.1 ⟨g, h⟩
  obtain ⟨-, hg⟩ := addTags_ok h
  have hrun : st.putAll f.readOnly v (rs ++ ss) (f.view st.connection) =
      st.putAll f.readOnly v ss ((f.view st.connection).withTaggings st.tenant v rs) := by
    rw [putAll_append]
    show (st.putAll f.readOnly v rs (f.view st.connection) >>= fun p => st.putAll f.readOnly v ss p.2) = _
    rw [ho]
    rfl
  rw [Puts, Puts, File.isLocked_of_put hg, File.readOnly_of_put hg, File.view_of_put hg hl, hrun,
    Database.withTaggings_append]

theorem puts_of_append (h : st.Puts f v (rs ++ ss)) : st.Puts f v rs := by
  refine ⟨h.1, ?_⟩
  have ho := h.2
  rw [putAll_append] at ho
  obtain ⟨⟨⟩, db, hdb, -⟩ := Statement.bind_ok ho
  rw [hdb, putAll_ok hdb]

/-- **A batch succeeds just when its parts do**, one after another. -/
theorem addTags_append_isOk_iff : (∃ g, f.run (st.addTags v (rs ++ ss)) = (.ok (), g)) ↔
    ∃ e h, f.run (st.addTags v rs) = (.ok (), e) ∧ e.run (st.addTags v ss) = (.ok (), h) := by
  constructor
  · intro hall
    have hputs := addTags_isOk_iff.1 hall
    obtain ⟨e, he⟩ := addTags_isOk_iff.2 (puts_of_append hputs)
    obtain ⟨h, hh⟩ := addTags_isOk_iff.2 ((puts_append he).1 hputs)
    exact ⟨e, h, he, hh⟩
  · rintro ⟨e, h, he, hh⟩
    exact addTags_isOk_iff.2 ((puts_append he).2 (addTags_isOk_iff.1 ⟨h, hh⟩))

/-- **A batch leaves what its parts leave.** -/
theorem addTags_append_alike {e h : File} (hg : f.run (st.addTags v (rs ++ ss)) = (.ok (), g))
    (he : f.run (st.addTags v rs) = (.ok (), e)) (hh : e.run (st.addTags v ss) = (.ok (), h)) : h.Alike g := by
  obtain ⟨hl, hone⟩ := addTags_ok hg
  obtain ⟨-, hfirst⟩ := addTags_ok he
  obtain ⟨-, hsecond⟩ := addTags_ok hh
  rw [File.view_of_put hfirst hl, ← Database.withTaggings_append] at hsecond
  exact (File.alike_of_put hfirst hsecond).trans hone.symm

/-- **A single tag comes to what a batch of one comes to**, and is refused for the same cause. -/
theorem addTag_batch (st : Store) (f : File) (v : Version) (now : Time.Instant) (n a : String) :
    ∃ g g', g.Alike g' ∧
      (f.run (st.addTag now n v a) = (.ok ((f.view st.connection).lastId + 1), g) ∧
          f.run (st.addTags v [⟨n, a, now⟩]) = (.ok (), g') ∨
        ∃ why, f.run (st.addTag now n v a) = (.error (.storage (.addTag n (st.describe v) a) why), g) ∧
          f.run (st.addTags v [⟨n, a, now⟩]) = (.error (.storage (.addTags (st.describe v)) why), g')) := by
  cases hl : f.isLocked st.connection with
  | true =>
    refine ⟨f, f, rfl, .inr ⟨.locked, ?_, run_addTags_of_isLocked _ hl⟩⟩
    rw [addTag, run_run, File.run_writeScope_of_isLocked _ hl]
    rfl
  | false =>
    obtain ⟨g, hg, ha⟩ := run_addTag (v := v) now n a hl
    obtain ⟨g', hg', ha'⟩ := run_addTags (v := v) [⟨n, a, now⟩] hl
    rw [putAll_singleton] at hg' ha'
    refine ⟨g, g', ?_⟩
    rcases ho : st.putOne f.readOnly v ⟨n, a, now⟩ (f.view st.connection) with r | ⟨id, db⟩ <;>
      rw [ho] at hg ha hg' ha'
    · exact ⟨ha.trans ha'.symm, .inr ⟨r.cause, hg, hg'⟩⟩
    · obtain ⟨rfl, -⟩ := putOne_ok ho
      exact ⟨ha.trans ha'.symm, .inl ⟨hg, hg'⟩⟩

end Store

/-- **A batch is the fold of its parts.**  Whatever the stores of a session have done, a batch succeeds just when its
parts succeed one after another, and leaves the same tables.  The version has gained its records then, and no other
version and no other tenant anything.  A single tag is a batch of one. -/
theorem Session.batches_fold (faults : List Fault) (l : Locator) (a : LocatorAccess) (now : Time.Instant)
    (seats : List Seat) (spills : Transaction → Bool) (ms : List Move) :
    let f := ((Session.fresh faults l a now seats spills).run ms).file
    ∀ (st : Store) (v : Version),
      (∀ rs ss : List TagRecord,
        ((∃ g, f.run (st.addTags v (rs ++ ss)) = (.ok (), g)) ↔
          ∃ e h, f.run (st.addTags v rs) = (.ok (), e) ∧ e.run (st.addTags v ss) = (.ok (), h)) ∧
        ∀ g, f.run (st.addTags v (rs ++ ss)) = (.ok (), g) → st.Gains f g v (rs ++ ss) ∧
          ∀ e h, f.run (st.addTags v rs) = (.ok (), e) → e.run (st.addTags v ss) = (.ok (), h) → h.Alike g) ∧
      ∀ (now : Time.Instant) (n a : String), ∃ g g', g.Alike g' ∧
        (f.run (st.addTag now n v a) = (.ok ((f.view st.connection).lastId + 1), g) ∧
            f.run (st.addTags v [⟨n, a, now⟩]) = (.ok (), g') ∨
          ∃ why, f.run (st.addTag now n v a) = (.error (.storage (.addTag n (st.describe v) a) why), g) ∧
            f.run (st.addTags v [⟨n, a, now⟩]) = (.error (.storage (.addTags (st.describe v)) why), g')) := by
  intro f st v
  have htidy := (Session.tidy_run faults l a now seats spills ms).2 st.connection
  refine ⟨fun rs ss => ⟨Store.addTags_append_isOk_iff, fun g hg => ⟨?_, fun e h => Store.addTags_append_alike hg⟩⟩,
    st.addTag_batch f v⟩
  obtain ⟨hl, ha⟩ := Store.addTags_ok hg
  exact Store.gains htidy hl ha

namespace Session

open Write (someTime plainStore)

/-- A tag is put on twice at once, or once and then once more. -/
theorem repeated_tag_in_two_parts : let f := (patron.run dealings).file
    let r : TagRecord := ⟨"p", "bob", someTime⟩
    ∃ e g h, f.run (plainStore.addTags 1 [r]) = (.ok (), e) ∧ e.run (plainStore.addTags 1 [r]) = (.ok (), h) ∧
      f.run (plainStore.addTags 1 [r, r]) = (.ok (), g) ∧ h.Alike g ∧ plainStore.Gains f g 1 [r, r] := by
  intro f r
  obtain ⟨hfold, -⟩ := batches_fold [⟨.tagInsert "bad", .statement, "no"⟩] .empty .map someTime [⟨1, .maxId, true⟩]
    (fun _ => false) dealings plainStore 1
  obtain ⟨hiff, hboth⟩ := hfold [r] [r]
  have hg : f.run (plainStore.addTags 1 [r, r]) = (.ok (), _) := rfl
  obtain ⟨e, h, he, hh⟩ := hiff.1 ⟨_, hg⟩
  obtain ⟨hgains, hend⟩ := hboth _ hg
  exact ⟨e, _, h, he, hh, hg, hend e h he hh, hgains⟩

end Session
end VersionTags
