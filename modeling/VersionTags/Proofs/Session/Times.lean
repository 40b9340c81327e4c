import VersionTags.Proofs.Session.Copy
import VersionTags.Proofs.Session.Lookup
/-!
# Times that last

A time that is stored is read as it was given (`Time.readStored_storedText`), a leap second and a year of six digits
included, and a copy stores what was read.  A batch of records therefore comes back whole from any version that it has
got to by copies (`Store.times_last`): the records stand there one after another, between what was there before them and
what has come since.

Tables that were filled in some other way may hold times that cannot be read, and then the reads of their versions fail.
In a session they do not.
-/
namespace VersionTags

theorem infix_of_forall₂ {α β : Type} {R : α → β → Prop} {xs zs : List α} {ys : List β} (h : List.Forall₂ R xs ys)
    (hz : zs <:+: xs) : ∃ ws, ws <:+: ys ∧ List.Forall₂ R zs ws := by
  obtain ⟨pre, post, rfl⟩ := hz
  refine ⟨(ys.drop pre.length).take zs.length, ?_, ?_⟩
  · exact (List.take_prefix _ _).isInfix.trans (List.drop_suffix _ _).isInfix
  · have hcut := List.forall₂_take zs.length (List.forall₂_drop pre.length h)
    rwa [List.append_assoc, List.drop_left, List.take_left] at hcut

/-! ## Rows that stand on a version -/

namespace Database

variable {db : Database} {T : Tenant} {v : Version} {rows : List TagRow}

def linkTo (T : Tenant) (v : Version) (t : TagRow) : LinkRow := ⟨.int t.id, .int v, .int T⟩

/-- The rows stand on the version one after another, each by a link of its own that meets no other. -/
structure Stands (db : Database) (T : Tenant) (v : Version) (rows : List TagRow) : Prop where
  links : rows.map (linkTo T v) <:+: db.linksOn T v
  alone : ∀ t ∈ rows, db.tagsOf T (linkTo T v t) = [t]

namespace Stands

/-- **What stands on a version goes on to stand there**, whatever is put on any version for any tenant. -/
theorem withTagging (h : db.Stands T v rows) (U : Tenant) (u : Version) (r : TagRecord) :
    (db.withTagging U u r).Stands T v rows := by
  constructor
  · rw [linksOn_withTagging]
    exact h.links.trans (List.prefix_append _ _).isInfix
  · intro t ht
    have hmem : t ∈ db.tagsOf T (linkTo T v t) := by simp [h.alone t ht]
    rw [tagsOf_withTagging_of_le U u r T rfl (db.id_le t (List.mem_filter.1 hmem).1), h.alone t ht]

theorem withTaggings (U : Tenant) (u : Version) : ∀ (rs : List TagRecord) {db : Database}, db.Stands T v rows →
    (db.withTaggings U u rs).Stands T v rows
  | [], _, h => h
  | r :: rs, _, h => (h.withTagging U u r).withTaggings U u rs

theorem on_infix (h : db.Stands T v rows) : rows <:+: db.on T v := by
  obtain ⟨pre, post, hlinks⟩ := h.links
  have hrows : (rows.map (linkTo T v)).flatMap (db.tagsOf T) = rows := by
    rw [List.flatMap_map, List.flatMap_congr h.alone, List.flatMap_singleton']
  refine ⟨pre.flatMap (db.tagsOf T), post.flatMap (db.tagsOf T), ?_⟩
  rw [on_eq, ← hlinks, List.flatMap_append, List.flatMap_append, hrows]

/-- What is found by the id of such a row is that row, if a version can be told. -/
theorem taggingById {t : TagRow} (h : db.Stands T v rows) (ht : t ∈ rows) : ∃ l : LinkRow,
    db.taggingById T t.id = (do return some (← taggingOf t, ← readVersion 4 l.version)) := by
  have halone := h.alone t ht
  have hfind : db.tags.find? (fun u => u.id == t.id && u.tenant == .int T) = some t := by
    have hp : (fun u : TagRow => u.id == t.id && u.tenant == .int T) =
        fun u => u.tenant == .int T && Cell.int t.id == .int u.id := by
      funext u
      rw [Bool.eq_iff_iff]
      simp only [Bool.and_eq_true, beq_iff_eq, Cell.int.injEq]
      exact ⟨fun he => ⟨he.2, he.1.symm⟩, fun he => ⟨he.2.symm, he.1⟩⟩
    rw [hp, ← List.head?_filter]
    exact congrArg List.head? halone
  have hlink : linkTo T v t ∈ db.linksOf T t.id := by
    have hmem := h.links.subset (List.mem_map_of_mem ht)
    simp only [linksOn, List.mem_reverse, List.mem_filter] at hmem
    simp only [linksOf, linkIndex_getD, linksFor, List.mem_reverse, List.mem_filter]
    exact ⟨⟨hmem.1, beq_self_eq_true _⟩, beq_self_eq_true _⟩
  obtain ⟨l, ls, hls⟩ := List.exists_cons_of_ne_nil (List.ne_nil_of_mem hlink)
  refine ⟨l, ?_⟩
  rw [Database.taggingById, hfind, hls]
  rfl

end Stands

theorem linksOn_withTaggings (T : Tenant) (v : Version) : ∀ (rs : List TagRecord) (db : Database),
    (db.withTaggings T v rs).linksOn T v = db.linksOn T v ++ (rowsAfter T db.lastId rs).map (linkTo T v)
  | [], db => (List.append_nil _).symm
  | r :: rs, db => by
    rw [withTaggings_cons, linksOn_withTaggings T v rs, linksOn_withTagging, if_pos ⟨rfl, rfl⟩, lastId_withTagging,
      List.append_assoc]
    rfl

theorem stands_withTagging (T : Tenant) (v : Version) (r : TagRecord) (db : Database) :
    (db.withTagging T v r).Stands T v (rowsAfter T db.lastId [r]) := by
  refine ⟨?_, fun t ht => ?_⟩
  · rw [linksOn_withTagging, if_pos ⟨rfl, rfl⟩]
    exact (List.suffix_append _ _).isInfix
  · rw [List.mem_singleton.1 ht]
    exact tagsOf_withTagging_new T v db r

/-- **New tags stand on their version by links of their own**, even where a link was there before that meets them. -/
theorem stands_withTaggings (T : Tenant) (v : Version) (rs : List TagRecord) (db : Database) :
    (db.withTaggings T v rs).Stands T v (rowsAfter T db.lastId rs) := by
  constructor
  · rw [linksOn_withTaggings]
    exact (List.suffix_append _ _).isInfix
  · induction rs generalizing db with
    | nil => exact nofun
    | cons r rs ih =>
      intro t ht
      rcases List.mem_cons.1 ht with rfl | ht
      · exact ((stands_withTagging T v r db).withTaggings T v rs).alone _ (List.mem_singleton_self _)
      · refine ih (db.withTagging T v r) t ?_
        rwa [lastId_withTagging]

/-- Among more tags that are put on the version at once, these stand together. -/
theorem stands_part (T : Tenant) (v : Version) (pre rs post : List TagRecord) (db : Database) :
    (db.withTaggings T v (pre ++ rs ++ post)).Stands T v (rowsAfter T (db.lastId + pre.length) rs) := by
  have h := stands_withTaggings T v rs (db.withTaggings T v pre)
  rw [lastId_withTaggings] at h
  rw [withTaggings_append, withTaggings_append]
  exact h.withTaggings T v post

end Database

/-! ## Records that are carried along -/

theorem TagRow.right_unique_isRecord : Relator.RightUnique TagRow.IsRecord := by
  rintro t ⟨n, a, i⟩ ⟨n', a', i'⟩ hr hs
  obtain rfl : n = n' := hr.name.trans hs.name.symm
  obtain rfl : a = a' := hr.author.trans hs.author.symm
  obtain rfl : i = i' := Except.ok.inj (hr.taggedAt.symm.trans hs.taggedAt)
  rfl

/-- What a report tells of a tag, its number and its place apart. -/
def Tagging.record (x : Tagging) : TagRecord := ⟨x.name, x.author, x.taggedAt⟩

theorem TagRow.IsTagging.isRecord {path : Option String} {t : TagRow} {x : Tagging} (h : t.IsTagging path x) :
    t.IsRecord x.record := ⟨h.name, h.author, h.taggedAt⟩

namespace Store

variable {st : Store} {f g h : File} {v w u : Version} {rs : List TagRecord}

/-- Whatever is read of the version has the records in it one after another, and so has the list of its tags.  What is
found by the id of one of them is that tag, wherever it may be said to be. -/
structure Returns (st : Store) (f : File) (v : Version) (rs : List TagRecord) : Prop where
  records : ∀ xs, (f.run (st.records v)).1 = .ok xs → rs <:+: xs
  taggings : ∀ ts, (f.run (st.taggings v)).1 = .ok ts → ∃ new, new <:+: ts ∧ new.map Tagging.record = rs ∧
    ∀ x ∈ new, ∀ y, (f.run (st.taggingById x.id)).1 = .ok y → ∃ path, y = some { x with path := path }

/-- From a version in one file to a version in another by copies that succeed: what is on a version may be copied to
another, and stays where it is whatever is copied. -/
inductive Trail (st : Store) (g : File) (v : Version) : File → Version → Prop
  | here : Trail st g v g v
  | copied {h k : File} {w u : Version} : Trail st g v h w → h.run (st.copyTags w u) = (.ok (), k) → Trail st g v k u
  | stayed {h k : File} {w x u : Version} : Trail st g v h w → h.run (st.copyTags x u) = (.ok (), k) → Trail st g v k w

/-- The records stand on the version, in rows that are read so. -/
def Holds (st : Store) (f : File) (v : Version) (rs : List TagRecord) : Prop :=
  ∃ rows, (f.view st.connection).Stands st.tenant v rows ∧ List.Forall₂ TagRow.IsRecord rows rs

theorem Holds.records_infix (h : st.Holds f v rs) (hb : f.isBlocked st.connection = false) {xs : List TagRecord}
    (hxs : (f.run (st.records v)).1 = .ok xs) : rs <:+: xs := by
  obtain ⟨rows, hrows, hrs⟩ := h
  obtain ⟨ws, hws, hrows'⟩ := infix_of_forall₂ ((records_ok_iff hb v xs).1 hxs) hrows.on_infix
  rwa [List.right_unique_forall₂' TagRow.right_unique_isRecord hrs hrows']

theorem Holds.returns (h : st.Holds f v rs) (hb : f.isBlocked st.connection = false) : st.Returns f v rs := by
  refine ⟨fun xs => h.records_infix hb, fun ts hts => ?_⟩
  obtain ⟨rows, hrows, hrs⟩ := h
  obtain ⟨new, hnew, hrows'⟩ := infix_of_forall₂ ((taggings_ok_iff hb v ts).1 hts) hrows.on_infix
  refine ⟨new, hnew, ?_, fun x hx y hy => ?_⟩
  · have hrecords : List.Forall₂ TagRow.IsRecord rows (new.map Tagging.record) :=
      List.forall₂_map_right_iff.2 (hrows'.imp fun t x htx => htx.isRecord)
    exact List.right_unique_forall₂' TagRow.right_unique_isRecord hrecords hrs
  · obtain ⟨t, ht, htx⟩ := exists_of_mem_right hrows' hx
    obtain ⟨l, hfind⟩ := hrows.taggingById ht
    rw [run_taggingById hb, htx.id, hfind, htx.taggingOf] at hy
    cases hl : Database.readVersion 4 l.version with
    | error e =>
      rw [hl] at hy
      cases hy
    | ok w =>
      rw [hl] at hy
      cases hy
      exact ⟨_, rfl⟩

/-- **What a version holds it goes on to hold**, whatever is put on any version. -/
theorem Holds.of_put (h : st.Holds f v rs) {ss : List TagRecord} (hg : f.run (st.addTags u ss) = (.ok (), g)) :
    st.Holds g v rs := by
  obtain ⟨hl, ha⟩ := addTags_ok hg
  obtain ⟨rows, hrows, hrs⟩ := h
  refine ⟨rows, ?_, hrs⟩
  rw [File.view_of_put ha hl]
  exact hrows.withTaggings st.tenant u ss

/-- **What is put on a version is held there**, each part of it. -/
theorem holds_of_put {ss : List TagRecord} (hs : rs <:+: ss) (hg : f.run (st.addTags v ss) = (.ok (), g)) :
    st.Holds g v rs := by
  obtain ⟨hl, ha⟩ := addTags_ok hg
  obtain ⟨pre, post, rfl⟩ := hs
  have hrows := Database.stands_part st.tenant v pre rs post (f.view st.connection)
  rw [← File.view_of_put ha hl] at hrows
  exact ⟨_, hrows, Database.records_rowsAfter st.tenant _ rs⟩

theorem isLocked_of_addTags (hg : f.run (st.addTags v rs) = (.ok (), g)) : g.isLocked st.connection = false := by
  obtain ⟨hl, ha⟩ := addTags_ok hg
  exact (File.isLocked_of_put ha _).trans hl

/-- **Records are held all along a trail.** -/
theorem Trail.holds (ht : st.Trail g v h w) (hl : g.isLocked st.connection = false) (hg : st.Holds g v rs) :
    h.isLocked st.connection = false ∧ st.Holds h w rs := by
  induction ht with
  | here => exact ⟨hl, hg⟩
  | copied _ hcopy ih =>
    obtain ⟨hl, hh⟩ := ih
    -- what the copy has read has the records in it, and all of that is put on the other version
    obtain ⟨xs, hxs, hadd⟩ := copyTags_ok hcopy
    exact ⟨isLocked_of_addTags hadd, holds_of_put (hh.records_infix (File.isBlocked_of_isLocked hl) hxs) hadd⟩
  | stayed _ hcopy ih =>
    obtain ⟨hl, hh⟩ := ih
    obtain ⟨xs, -, hadd⟩ := copyTags_ok hcopy
    exact ⟨isLocked_of_addTags hadd, hh.of_put hadd⟩

/-! ### Tables of a session -/

theorem everywhere_tidy_of_addTags (hf : f.Everywhere Tidy) (hg : f.run (st.addTags v rs) = (.ok (), g)) :
    g.Everywhere Tidy := by
  obtain ⟨-, ha⟩ := addTags_ok hg
  exact ha.everywhere (File.everywhere_put hf (kept_tidy.withTaggings st.tenant v rs (hf.2 st.connection)))

theorem Trail.tidy (ht : st.Trail g v h w) (hg : g.Everywhere Tidy) : h.Everywhere Tidy := by
  induction ht with
  | here => exact hg
  | copied _ hcopy ih | stayed _ hcopy ih =>
    obtain ⟨xs, -, hadd⟩ := copyTags_ok hcopy
    exact everywhere_tidy_of_addTags ih hadd

/-- The store reads every version and every tag, and a copy puts all that is on its source at the end of its target. -/
structure Fluent (st : Store) (f : File) : Prop where
  records : ∀ v, ∃ rs, (f.run (st.records v)).1 = .ok rs
  lookups : ∃ listed found, st.Lookups f listed found
  copies : ∀ v w g, f.run (st.copyTags v w) = (.ok (), g) →
    ∃ rs, (f.run (st.records v)).1 = .ok rs ∧ st.Gains f g w rs

theorem fluent_of_tidy (ht : Tidy (f.view st.connection)) (hl : f.isLocked st.connection = false) : st.Fluent f := by
  have hb := File.isBlocked_of_isLocked hl
  refine ⟨fun v => ?_, lookups hb ht, fun v w g hg => ?_⟩
  · obtain ⟨rs, hrs⟩ := TagRow.exists_records (ht.stored_on st.tenant v)
    exact ⟨rs, (records_ok_iff hb v rs).2 hrs⟩
  · obtain ⟨rs, hrs, hadd⟩ := copyTags_ok hg
    obtain ⟨-, ha⟩ := addTags_ok hadd
    exact ⟨rs, hrs, gains ht hl ha⟩

/-- **Times last.**  Records that have been put on a version come back as they were given, their times exactly, from
that version and from every other that copies have brought them to, whatever else the tables may hold.  In a session
all these reads answer: the version has the records at its end, after those that it had before, and each copy puts all
the records of its source at the end of its target. -/
theorem times_last (hg : f.run (st.addTags v rs) = (.ok (), g)) (ht : st.Trail g v h w) :
    st.Returns h w rs ∧ ∀ (faults : List Fault) (l : Locator) (a : LocatorAccess) (now : Time.Instant)
      (seats : List Seat) (spills : Transaction → Bool) (ms : List Move),
        f = ((Session.fresh faults l a now seats spills).run ms).file → st.Gains f g v rs ∧ st.Fluent h := by
  obtain ⟨hlocked, hholds⟩ := ht.holds (isLocked_of_addTags hg) (holds_of_put (List.infix_refl rs) hg)
  refine ⟨hholds.returns (File.isBlocked_of_isLocked hlocked), ?_⟩
  rintro faults l a now seats spills ms rfl
  have hf := Session.tidy_run faults l a now seats spills ms
  obtain ⟨hl, ha⟩ := addTags_ok hg
  exact ⟨gains (hf.2 st.connection) hl ha,
    fluent_of_tidy ((ht.tidy (everywhere_tidy_of_addTags hf hg)).2 st.connection) hlocked⟩

open Session (patron dealings)
open Write (plainStore)

/-- The last nanosecond of a leap second at the end of the last year. -/
def lastMoment : Time.Instant := ⟨⟨262142, 12, 31, by decide⟩, 23, 59, 60, 999999999, by decide⟩

/-- A quarter of a second into the first year. -/
def firstMoment : Time.Instant := ⟨⟨-262143, 1, 1, by decide⟩, 0, 0, 0, 250000000, by decide⟩

/-- A copy to a version that has nothing on it is read there as its source. -/
theorem records_of_copy (h : st.Fluent f) (hnone : (f.run (st.records w)).1 = .ok [])
    (hrs : (f.run (st.records v)).1 = .ok rs) (hg : f.run (st.copyTags v w) = (.ok (), g)) :
    (g.run (st.records w)).1 = .ok rs := by
  obtain ⟨xs, hxs, hgains⟩ := h.copies v w g hg
  obtain ⟨old, hold, hread⟩ := hgains.records
  rw [hread, ← Except.ok.inj (hrs.symm.trans hxs), ← Except.ok.inj (hnone.symm.trans hold), List.nil_append]

/-- The first and the last time are put on a version, and copied from there to another and on to a third. -/
theorem limits_copied_twice : let f := (patron.run dealings).file
    let rs : List TagRecord := [⟨"p", "bob", lastMoment⟩, ⟨"p", "bob", firstMoment⟩]
    ∃ g h k, f.run (plainStore.addTags 7 rs) = (.ok (), g) ∧ g.run (plainStore.copyTags 7 8) = (.ok (), h) ∧
      h.run (plainStore.copyTags 8 9) = (.ok (), k) ∧ (h.run (plainStore.records 8)).1 = .ok rs ∧
      plainStore.Returns k 9 rs ∧ plainStore.Fluent k := by
  intro f rs
  let g := (f.run (plainStore.addTags 7 rs)).2
  let h := (g.run (plainStore.addTags 8 rs)).2
  let k := (h.run (plainStore.addTags 9 rs)).2
  have hg : f.run (plainStore.addTags 7 rs) = (.ok (), g) := rfl
  have hf : f = ((Session.fresh [⟨.tagInsert "bad", .statement, "no"⟩] .empty .map Write.someTime
      [⟨1, .maxId, true⟩]).run dealings).file := rfl
  obtain ⟨-, hsession⟩ := times_last hg .here
  obtain ⟨hgains, hfluent⟩ := hsession _ _ _ _ _ _ _ hf
  have hseven : (g.run (plainStore.records 7)).1 = .ok rs := by
    obtain ⟨old, hold, hread⟩ := hgains.records
    have hnone : (f.run (plainStore.records 7)).1 = .ok [] := rfl
    rw [hread, ← Except.ok.inj (hnone.symm.trans hold), List.nil_append]
  have hh : g.run (plainStore.copyTags 7 8) = (.ok (), h) := by
    rw [run_copyTags, hseven]
    rfl
  have hcopy : (h.run (plainStore.records 8)).1 = .ok rs := records_of_copy hfluent rfl hseven hh
  have hk : h.run (plainStore.copyTags 8 9) = (.ok (), k) := by
    rw [run_copyTags, hcopy]
    rfl
  obtain ⟨hreturns, hsession⟩ := times_last hg ((Trail.here.copied hh).copied hk)
  exact ⟨g, h, k, hg, hh, hk, hcopy, hreturns, (hsession _ _ _ _ _ _ _ hf).2⟩

end Store
end VersionTags
