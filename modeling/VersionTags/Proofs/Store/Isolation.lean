import VersionTags.Proofs.Storage.Rows
import VersionTags.Proofs.Store.AllOrNothing
import VersionTags.Proofs.Store.Read
/-!
# Tenants apart

What a tenant's store reads and removes depends on the tenant's own rows and on the state of the connections, whatever
the other tenants have in the tables.  What a store writes leaves the rows of every other tenant as they are, with one
exception: a transaction that ends with a refusal takes along what another tenant has written in it.  A trigger that
rolls back asks for that.  A plain insertion that finds no id left does it unasked.
-/
namespace VersionTags

/-- Two files hold the same rows of the tenant, as committed and as any connection sees them. -/
structure File.SameRows (T : Tenant) (f g : File) : Prop where
  committed : f.committed.SameRows T g.committed
  view : ∀ c, (f.view c).SameRows T (g.view c)

/-- Two files hold the same rows of the tenant, and their connections are in the same state. -/
structure File.Agree (T : Tenant) (f g : File) : Prop extends File.SameRows T f g where
  owner : f.writer.map Prod.fst = g.writer.map Prod.fst
  isBlocked : ∀ c, f.isBlocked c = g.isBlocked c
  readOnly : f.readOnly = g.readOnly

/-! ## Reads of the tenant -/

namespace Read

theorem inquiry_congr (r : Read) {st : Store} {a b : Database} (h : a.SameRows st.tenant b) :
    (r.inquiry st).on (.ok a) = (r.inquiry st).on (.ok b) := by
  cases r with
  | «exists» n v x => simp only [inquiry, Inquiry.on, Task.answer, Database.hasTag, h.on]
  | tags v => simp only [inquiry, Inquiry.on, Task.answer, h.names]
  | records v => simp only [inquiry, Inquiry.on, Task.answer, h.records]
  | paths ns =>
    simp only [inquiry]
    split
    · rfl
    · split
      · rfl
      · simp only [Inquiry.on, Task.answer, h.versionsWithAny]
  | count v n => simp only [inquiry, Inquiry.on, Task.answer, Database.countNamed, h.on]
  | tagging v n x => simp only [inquiry, Inquiry.on, Task.answer, Database.taggingsNamed, h.on]
  | taggings v => simp only [inquiry, Inquiry.on, Task.answer, Database.taggings, h.on]
  | byId id => simp only [inquiry, Inquiry.on, Task.answer, h.taggingById]
  | counts v page =>
    simp only [inquiry]
    cases page.request with
    | error e => rfl
    | ok request => simp only [Inquiry.on, Task.answer, countsOf, h.counts, h.countsPage]
  | stats => simp only [inquiry, Inquiry.on, Task.answer, h.stats]

/-- **A read of the tenant answers from the tenant's rows.** -/
theorem run_congr (r : Read) {st : Store} {f g : File} (h : f.Agree st.tenant g) :
    (f.run (r.perform st)).1 = (g.run (r.perform st)).1 := by
  rw [run_perform, run_perform]
  unfold File.sight
  rw [h.isBlocked]
  split
  · rfl
  · exact inquiry_congr r (h.view st.connection)

end Read

/-! ## Removals by the tenant -/

/-- Two changes end alike for the tenant: with the same answer and the same rows, or with the same error. -/
inductive Database.SameEnd (T : Tenant) {ε α : Type} : Except ε (α × Database) → Except ε (α × Database) → Prop where
  | ok (x : α) {a b : Database} (h : a.SameRows T b) : SameEnd T (.ok (x, a)) (.ok (x, b))
  | error (e : ε) : SameEnd T (.error e) (.error e)

/-- Statements one after another end alike when each does. -/
theorem Database.SameEnd.bind {T : Tenant} {α β : Type} {s s' : Statement α} {k k' : α → Statement β} {a b : Database}
    (hs : SameEnd T (s a) (s' b)) (hk : ∀ x {a' b' : Database}, a'.SameRows T b' → SameEnd T (k x a') (k' x b')) :
    SameEnd T ((s >>= k) a) ((s' >>= k') b) := by
  show SameEnd T (s a >>= fun p => k p.1 p.2) (s' b >>= fun p => k' p.1 p.2)
  generalize s a = x at hs
  generalize s' b = y at hs
  cases hs with
  | ok x h => exact hk x h
  | error e => exact .error e

theorem Database.SameEnd.under {T : Tenant} {α : Type} {s s' : Statement α} {a b : Database} (ro : Bool)
    (h : SameEnd T (s a) (s' b)) : SameEnd T (s.under ro a) (s'.under ro b) := by
  cases ro with
  | true => exact .error (⟨.readOnly, .statement⟩ : Refusal)
  | false => exact h

namespace Store

variable {st : Store} {a b : Database}

theorem deleteTag_congr {T : Tenant} (h : a.SameRows T b) (faults : List Fault) (id : TagId) :
    Database.SameEnd T (Statement.deleteTag faults T id a) (Statement.deleteTag faults T id b) := by
  unfold Statement.deleteTag
  rw [Database.tagsFor_id, Database.tagsFor_id, h.tags]
  cases ((b.tagsFor T).filter fun t => t.id == id).forM fun t => checkFaults faults (.tagDelete t.name) with
  | error r => exact .error r
  | ok u => exact .ok () (h.keepTags _)

theorem deleteOne_congr (h : a.SameRows st.tenant b) (ro : Bool) (id : TagId) :
    Database.SameEnd st.tenant (st.deleteOne ro id a) (st.deleteOne ro id b) :=
  (Database.SameEnd.under (s := Statement.deleteLinks st.tenant id) ro (.ok () (h.keepLinks _))).bind fun _ _ _ h' =>
    (deleteTag_congr h' st.faults id).under ro

theorem deleteAll_congr (ro : Bool) : ∀ (ids : List TagId) {a b : Database}, a.SameRows st.tenant b →
    Database.SameEnd st.tenant (st.deleteAll ro ids a) (st.deleteAll ro ids b)
  | [], _, _, h => .ok () h
  | id :: ids, _, _, h => (deleteOne_congr h ro id).bind fun _ _ _ h' => deleteAll_congr ro ids h'

theorem takeOut_congr (h : a.SameRows st.tenant b) (ro : Bool) (v : Version) (name : Option String) (x : AuthorFilter) :
    Database.SameEnd st.tenant (st.takeOut ro v name x a) (st.takeOut ro v name x b) := by
  have hids := h.idsToRemove v name x
  show Database.SameEnd st.tenant
    ((st.deleteAll ro (a.idsToRemove st.tenant v name x) >>= fun _ => pure (a.idsToRemove st.tenant v name x).length) a)
    ((st.deleteAll ro (b.idsToRemove st.tenant v name x) >>= fun _ => pure (b.idsToRemove st.tenant v name x).length) b)
  rw [hids]
  exact (deleteAll_congr ro _ h).bind fun _ _ _ h' => .ok _ h'

end Store

namespace File

variable {T : Tenant} {f g f' g' : File}

theorem SameRows.trans (h : f.SameRows T g) (h' : g.SameRows T f') : f.SameRows T f' :=
  ⟨h.committed.trans h'.committed, fun c => (h.view c).trans (h'.view c)⟩

theorem Alike.sameRows (h : f.Alike g) (T : Tenant) : f.SameRows T g :=
  ⟨h.committed ▸ .refl T _, fun c => h.view c ▸ .refl T _⟩

theorem Agree.isLocked (h : f.Agree T g) (c : Connection) : f.isLocked c = g.isLocked c := by
  have ho := h.owner
  unfold File.isLocked
  rcases hf : f.writer with _ | ⟨o, t⟩ <;> rcases hg : g.writer with _ | ⟨o', t'⟩ <;> simp_all

theorem Agree.put {a b : Database} (h : f.Agree T g) (hd : a.SameRows T b) : (f.put a).SameRows T (g.put b) := by
  have ho := h.owner
  unfold File.put
  rcases hf : f.writer with _ | ⟨o, t⟩ <;> rcases hg : g.writer with _ | ⟨o', t'⟩ <;> rw [hf, hg] at ho <;> cases ho
  · exact ⟨hd, fun c => hd⟩
  · refine ⟨h.committed, fun c => ?_⟩
    by_cases hc : o = c
    · simpa [File.view, transaction?, withWorking, hc] using hd
    · simpa [File.view, transaction?, withWorking, hc] using h.committed

theorem Agree.undo (h : f.Agree T g) (r : Reach) : (f.undo r).SameRows T (g.undo r) := by
  cases r with
  | statement => exact h.toSameRows
  | transaction => exact ⟨h.committed, fun _ => h.committed⟩

end File

namespace Write

variable {T : Tenant} {st : Store} {f g : File}

def isRemoval : Write → Bool
  | .remove _ _ => true
  | .removeBy _ _ _ => true
  | .purge _ => true
  | _ => false

theorem sameEnd_blaming {o o' : Except Refusal (Nat × Database)} (t : Task) (h : Database.SameEnd T o o') :
    Database.SameEnd T (blaming t (o >>= fun p => .ok (Answer.number p.1, p.2)))
      (blaming t (o' >>= fun p => .ok (Answer.number p.1, p.2))) := by
  cases h with
  | ok x hd => exact .ok _ hd
  | error r => exact .error (⟨t, r⟩ : Blame)

/-- **A removal by the tenant ends alike wherever the tenant's rows are the same.** -/
theorem outcome_congr {w : Write} (hw : w.isRemoval = true) (now : Time.Instant) (h : f.Agree st.tenant g) :
    Database.SameEnd st.tenant (w.outcome st now f) (w.outcome st now g) := by
  have hv := h.view st.connection
  unfold outcome
  rw [h.isLocked, h.readOnly]
  cases w with
  | remove v n =>
    split
    · exact .error _
    · exact sameEnd_blaming _ (Store.takeOut_congr hv _ v _ _)
  | removeBy v n x =>
    split
    · exact .error _
    · exact sameEnd_blaming _ (Store.takeOut_congr hv _ v _ _)
  | purge v =>
    split
    · exact .error _
    · exact sameEnd_blaming _ (Store.takeOut_congr hv _ v _ _)
  | _ => cases hw

theorem leave_congr {o o' : Except Blame (Answer × Database)} (h : f.Agree T g) (ho : Database.SameEnd T o o') :
    report o = report o' ∧ (leave f o).SameRows T (leave g o') := by
  cases ho with
  | ok x hd => exact ⟨rfl, h.put hd⟩
  | error b => exact ⟨rfl, h.undo b.refusal.reach⟩

theorem run_congr {w : Write} (hw : w.isRemoval = true) (now : Time.Instant) (h : f.Agree st.tenant g) :
    (f.run (w.perform st now)).1 = (g.run (w.perform st now)).1 ∧
      (f.run (w.perform st now)).2.SameRows st.tenant (g.run (w.perform st now)).2 := by
  obtain ⟨f', hf, haf⟩ := w.run_perform st now f
  obtain ⟨g', hg, hag⟩ := w.run_perform st now g
  obtain ⟨hr, hl⟩ := leave_congr h (outcome_congr hw now h)
  rw [hf, hg]
  exact ⟨hr, ((haf.sameRows _).trans hl).trans (File.Alike.sameRows hag.symm _)⟩

/-! ## Writes of another tenant -/

/-- A trigger that rolls back has refused the write. -/
def RolledBack (o : Except Blame (Answer × Database)) : Prop :=
  ∃ b m, o = .error b ∧ b.refusal = ⟨.raised m, .transaction⟩

/-- A plain insertion inside a transaction of the caller has found no id left. -/
def RanOut (st : Store) (f : File) (o : Except Blame (Answer × Database)) : Prop :=
  ∃ b, o = .error b ∧ b.refusal.cause = .full ∧ st.insertsPlainly = true ∧ f.isAutocommit st.connection = false

theorem sameRows_put {c : Connection} {db : Database} (hl : f.isLocked c = false) (hd : db.SameRows T (f.view c)) :
    (f.put db).SameRows T f := by
  rcases File.writer_of_isLocked hl with ⟨t, hw⟩ | hw
  · refine ⟨by simp [File.put, hw, File.withWorking, Database.SameRows.refl], fun d => ?_⟩
    rw [File.view_of_writer hw] at hd
    by_cases hc : c = d
    · simpa [File.put, hw, File.withWorking, File.view, File.transaction?, hc] using hd
    · simpa [File.put, hw, File.withWorking, File.view, File.transaction?, hc] using .refl T _
  · simp only [File.view, File.transaction?, hw] at hd
    refine ⟨by simpa [File.put, hw] using hd, fun d => ?_⟩
    simpa [File.put, hw, File.view, File.transaction?] using hd

theorem sameRows_of_ok {w : Write} {now : Time.Instant} {x : Answer} {db : Database} (hU : st.tenant ≠ T)
    (h : w.outcome st now f = .ok (x, db)) : (f.put db).SameRows T f := by
  obtain ⟨hl, ho⟩ := outcome_ok h
  obtain ⟨copied, -, rfl⟩ := on_ok ho
  refine sameRows_put hl ?_
  rcases w.changed_cases st now copied (f.view st.connection) with ⟨v, rs, hc⟩ | ⟨v, name, a, hc⟩ <;> rw [hc]
  · exact .of_withTaggings hU v rs _
  · exact .of_without hU _ _

/-- A transaction that ends takes along what the tenant has in it. -/
theorem sameRows_of_ended (hl : f.isLocked st.connection = false) (hg : g.Alike (f.undo .transaction)) :
    g.SameRows T f ↔ f.committed.SameRows T (f.view st.connection) := by
  have hv : ∀ c, g.view c = f.committed := fun c => hg.view c
  constructor
  · intro h
    have hc := h.view st.connection
    rwa [hv] at hc
  · intro h
    refine ⟨hg.committed ▸ .refl T _, fun c => ?_⟩
    rw [hv]
    by_cases hc : st.connection = c
    · rwa [← hc]
    · rcases File.writer_of_isLocked hl with ⟨t, hw⟩ | hw <;>
        simpa [File.view, File.transaction?, hw, hc] using .refl T _

/-- What a write of another tenant's store, with an outcome, keeps of the tenant's rows. -/
def Spared (T : Tenant) (st : Store) (f g : File) (o : Except Blame (Answer × Database)) : Prop :=
  g.committed.SameRows T f.committed ∧ (RolledBack o → ∀ c, g.view c = f.committed) ∧
    (¬RolledBack o → (g.SameRows T f ↔ ¬(RanOut st f o ∧ ¬f.committed.SameRows T (f.view st.connection))))

theorem spared_of_sameRows {o : Except Blame (Answer × Database)} (h : g.SameRows T f) (hb : ¬RolledBack o)
    (hn : ¬RanOut st f o) : Spared T st f g o :=
  ⟨h.committed, fun hr => absurd hr hb, fun _ => iff_of_true h fun hr => hn hr.1⟩

theorem spared_of_refused {t : Task} {r : Refusal} (hr : r.Cause st) (hg : g.Alike (f.undo r.reach))
    (hl : r.cause = .full → f.isLocked st.connection = false) : Spared T st f g (.error ⟨t, r⟩) := by
  -- a refusal of the statement alone, by anything but an exhausted plain insertion
  have hs : r.reach = .statement → (r.cause = .full → st.insertsPlainly = false) →
      Spared T st f g (.error ⟨t, r⟩) := by
    intro hr hp
    rw [hr] at hg
    refine spared_of_sameRows (File.Alike.sameRows hg T) ?_ ?_
    · rintro ⟨b, m, hb, hm⟩
      cases hb
      rw [show r = _ from hm] at hr
      cases hr
    · rintro ⟨b, hb, hf, hi, -⟩
      cases hb
      cases (hp hf).symm.trans hi
  cases hr with
  | @trigger x hx =>
    cases hr : x.reach with
    | statement => exact hr ▸ hs hr nofun
    | transaction =>
      rw [hr] at hg
      exact ⟨hg.committed ▸ .refl T _, fun _ c => hg.view c, fun hn => absurd ⟨_, x.message, rfl, rfl⟩ hn⟩
  | exhausted =>
    have hf := hl rfl
    cases hp : st.insertsPlainly with
    | false =>
      rw [hp] at hs
      exact hs rfl fun _ => rfl
    | true =>
      rw [hp] at hg
      simp only [↓reduceIte] at hg ⊢
      have hn : ¬RolledBack (.error ⟨t, ⟨.full, .transaction⟩⟩) := by
        rintro ⟨b, m, hb, hm⟩
        cases hb
        cases hm
      cases ha : f.isAutocommit st.connection with
      | true =>
        rw [undo_of_isAutocommit hf ha] at hg
        refine spared_of_sameRows (File.Alike.sameRows hg T) hn ?_
        rintro ⟨b, hb, -, -, hna⟩
        cases ha.symm.trans hna
      | false =>
        refine ⟨hg.committed ▸ .refl T _, fun hb => absurd hb hn, fun _ => ?_⟩
        rw [sameRows_of_ended hf hg]
        have hr : RanOut st f (.error ⟨t, ⟨.full, .transaction⟩⟩) := ⟨_, rfl, rfl, hp, ha⟩
        simp [hr]
  | unreadable why => exact hs rfl nofun
  | locked => exact hs rfl nofun
  | readOnly => exact hs rfl nofun

/-- **A write of another tenant leaves the tenant's rows as they are**, unless it ends the transaction that the tenant's
latest rows are in. -/
theorem spared (hU : st.tenant ≠ T) (w : Write) (now : Time.Instant) (f : File) :
    Spared T st f (f.run (w.perform st now)).2 (w.outcome st now f) := by
  obtain ⟨g, hg, ha⟩ := w.run_perform st now f
  rw [hg]
  rcases ho : w.outcome st now f with ⟨t, r⟩ | ⟨x, db⟩
  · rw [ho] at ha
    exact spared_of_refused (cause_of_outcome ho) ha (isLocked_of_full ho)
  · rw [ho] at ha
    refine spared_of_sameRows ((ha.sameRows T).trans (sameRows_of_ok hU ho)) ?_ ?_
    · rintro ⟨b, m, hb, -⟩
      cases hb
    · rintro ⟨b, hb, -⟩
      cases hb

end Write

/-- **Tenants are kept apart.**  Where two files hold the same rows of a tenant, the tenant's store reads the same from
both, and removes the same from both with the same answer.  What a store of another tenant writes spares the tenant's
rows. -/
theorem Store.tenants_apart (T : Tenant) :
    (∀ (st : Store) (f g : File), st.tenant = T → f.Agree T g →
      (∀ r : Read, (f.run (r.perform st)).1 = (g.run (r.perform st)).1) ∧
        ∀ (w : Write) (now : Time.Instant), w.isRemoval = true →
          (f.run (w.perform st now)).1 = (g.run (w.perform st now)).1 ∧
            (f.run (w.perform st now)).2.SameRows T (g.run (w.perform st now)).2) ∧
      ∀ (st : Store) (f : File) (w : Write) (now : Time.Instant), st.tenant ≠ T →
        Write.Spared T st f (f.run (w.perform st now)).2 (w.outcome st now f) := by
  refine ⟨?_, fun st f w now hU => Write.spared hU w now f⟩
  rintro st f g rfl h
  exact ⟨fun r => r.run_congr h, fun w now hw => w.run_congr hw now h⟩

namespace Store

open Write (someTime plainStore fullFile)

/-- A file in which the tenants 1 and 2 have links of each other's tags. -/
def mixedFile : File := .ofDatabase (.ofRows
  [⟨1, "x", "alice", "2024-02-29 12:00:00+00:00", .int 1⟩, ⟨2, "y", "bob", "2024-02-29 12:00:00+00:00", .int 2⟩]
  [⟨.int 1, .int 1, .int 1⟩, ⟨.int 2, .int 1, .int 1⟩, ⟨.int 1, .int 1, .int 2⟩, ⟨.int 2, .int 1, .int 2⟩])

/-- A file with the same rows of tenant 1 and no others. -/
def ownFile : File := .ofDatabase (.ofRows [⟨1, "x", "alice", "2024-02-29 12:00:00+00:00", .int 1⟩]
  [⟨.int 1, .int 1, .int 1⟩, ⟨.int 2, .int 1, .int 1⟩])

theorem agree_mixedFile : mixedFile.Agree 1 ownFile where
  committed := ⟨rfl, rfl⟩
  view _ := ⟨rfl, rfl⟩
  owner := rfl
  isBlocked _ := rfl
  readOnly := rfl

/-- Tenant 1 reads its one tag and takes it out, alike on both files; and when tenant 2 purges the version of its own
tag, tenant 1 keeps its rows. -/
theorem mixed_links_kept_apart :
    (mixedFile.run ((Read.tags 1).perform plainStore)).1 = .ok (.texts ["x"]) ∧
      (ownFile.run ((Read.tags 1).perform plainStore)).1 = .ok (.texts ["x"]) ∧
      (mixedFile.view 0).idsToRemove 1 1 none .any = [1] ∧
      (mixedFile.run ((Write.purge 1).perform plainStore someTime)).2.SameRows 1
        (ownFile.run ((Write.purge 1).perform plainStore someTime)).2 ∧
      (mixedFile.view 0).idsToRemove 2 1 none .any = [2] ∧
      (mixedFile.run ((Write.purge 1).perform { plainStore with tenant := 2 } someTime)).2.SameRows 1 mixedFile := by
  obtain ⟨hown, hother⟩ := tenants_apart 1
  obtain ⟨hread, hremove⟩ := hown plainStore mixedFile ownFile rfl agree_mixedFile
  have ht : (ownFile.run ((Read.tags 1).perform plainStore)).1 = .ok (.texts ["x"]) := by
    rw [Read.run_perform]
    show Except.ok (Answer.texts (((ownFile.view 0).on 1 1).map TagRow.name)) = _
    rw [Database.on_eq]
    rfl
  have hi : ∀ T : Tenant, (mixedFile.view 0).idsToRemove T 1 none .any =
      (((mixedFile.view 0).linksOn T 1).flatMap ((mixedFile.view 0).tagsOf T)).map TagRow.id := by
    intro T
    rw [← Database.on_eq, Database.idsToRemove]
    congr 1
    exact List.filter_eq_self.2 fun _ _ => rfl
  obtain ⟨-, -, hs⟩ := hother { plainStore with tenant := 2 } mixedFile (.purge 1) someTime (by decide)
  refine ⟨(hread (.tags 1)).trans ht, ht, hi 1, (hremove (.purge 1) someTime rfl).2, hi 2, (hs ?_).2 ?_⟩
  · -- no trigger is there to roll back
    rintro ⟨b, m, hb, hm⟩
    have hc := Write.cause_of_outcome hb
    rw [hm] at hc
    generalize hr : (⟨.raised m, .transaction⟩ : Refusal) = r at hc
    cases hc with
    | trigger hx => cases hx
    | _ => cases hr
  · rintro ⟨⟨b, -, -, -, ha⟩, -⟩
    cases ha

/-- **A plain insertion by tenant 2 that finds no id left takes along a tag of tenant 1**, which was put inside the same
transaction, though no trigger rolls back. -/
theorem exhausted_insertion_takes_foreign_rows :
    (fullFile.run ((Write.add "full" 1 "alice").perform { plainStore with tenant := 2 } someTime)).1 =
        .error (.storage (.addTag "full" (plainStore.describe 1) "alice") .full) ∧
      ((fullFile.view 0).tagsFor 1).length = 2 ∧
      (((fullFile.run ((Write.add "full" 1 "alice").perform { plainStore with tenant := 2 } someTime)).2.view
        0).tagsFor 1).length = 1 := ⟨rfl, rfl, rfl⟩

end Store
end VersionTags
