import Mathlib.Data.List.Forall2
import Mathlib.Data.List.ProdSigma
import VersionTags.Proofs.Store.Effect
import VersionTags.Proofs.Store.Read
/-!
# One list behind the reads of a version

The reads of a version are views of one list: the pairs of a link and a tag that belong together, on the version and of
the tenant, in the order in which the links were put in (`Database.joined`).  Each read picks from the list by a test of
its own and reports the tags picked.  A removal picks by the same tests, answers how many pairs it picked, and leaves
the list without the tags picked (`Store.views_joined`).

Nothing is asked of the tables.  A tag may have several links and a link none or several tags, and a value that is no
integer belongs to no tag.
-/
namespace VersionTags

/-- The link puts the tag on the version, and both belong to the tenant. -/
def LinkRow.joins (l : LinkRow) (T : Tenant) (v : Version) (t : TagRow) : Bool :=
  l.tag == .int t.id && t.tenant == .int T && l.tenant == .int T && l.version.same (.int v)

/-- The links on the version with the tags that they name, the earliest link first. -/
def Database.joined (db : Database) (T : Tenant) (v : Version) : List (LinkRow × TagRow) :=
  (db.links.reverse ×ˢ db.tags).filter fun p => p.1.joins T v p.2

namespace Database

variable (db : Database) (T : Tenant) (v : Version)

theorem filter_product {α β : Type} (p : α → Bool) (q : β → Bool) (ys : List β) : ∀ xs : List α,
    xs.filter p ×ˢ ys.filter q = (xs ×ˢ ys).filter fun z => p z.1 && q z.2
  | [] => rfl
  | x :: xs => by
    have ih := filter_product p q ys xs
    have hx : ((ys.map fun y => (x, y)).filter fun z => p z.1 && q z.2) =
        if p x then (ys.filter q).map fun y => (x, y) else [] := by
      rw [List.filter_map]
      cases hp : p x <;> simp [Function.comp_def, hp]
    rw [List.product_cons, List.filter_append, hx, ← ih]
    cases hp : p x <;> simp [hp, List.product_cons]

theorem joined_of_link (l : LinkRow) :
    ((db.tags.map fun t => (l, t)).filter fun p => p.1.joins T v p.2).map Prod.snd =
      if l.tenant == .int T && l.version.same (.int v) then db.tagsOf T l else [] := by
  rw [List.filter_map, List.map_map]
  simp only [Function.comp_def, List.map_id', tagsOf, LinkRow.joins]
  cases l.tenant == .int T <;> cases l.version.same (.int v) <;> simp [Bool.and_comm]

/-- **The tags on a version are those of the list**, in its order. -/
theorem on_eq_joined : db.on T v = (db.joined T v).map Prod.snd := by
  rw [on_eq, linksOn, ← List.filter_reverse, joined]
  induction db.links.reverse with
  | nil => rfl
  | cons l ls ih =>
    rw [List.product_cons, List.filter_append, List.map_append, ← ih, joined_of_link, List.filter_cons]
    cases l.tenant == .int T && l.version.same (.int v) <;> simp

/-- A tag with two links on a version is there twice. -/
example : ((ofRows [⟨1, "a", "b", "", .int 0⟩] [⟨.int 1, .int 7, .int 0⟩, ⟨.int 1, .text "7", .int 0⟩,
    ⟨.int 1, .int 7, .int 0⟩]).joined 0 7).map (fun p => p.2.id) = [1, 1] := by
  decide

theorem mem_on {db : Database} {T : Tenant} {v : Version} {t : TagRow} (ht : t ∈ db.on T v) :
    t ∈ db.tags ∧ t.tenant = .int T := by
  rw [on_eq, List.mem_flatMap] at ht
  obtain ⟨l, -, hl⟩ := ht
  simp only [tagsOf, List.mem_filter, Bool.and_eq_true, beq_iff_eq] at hl
  exact ⟨hl.1, hl.2.1⟩

/-- **A deletion takes out of the list the tags of its tenant with the ids**, and no others. -/
theorem joined_without_of (U : Tenant) (ids : List TagId) : (db.without U ids).joined T v =
    (db.joined T v).filter fun p => !(p.2.tenant == .int U && ids.contains p.2.id) := by
  rw [joined, joined, links_without, tags_without, ← List.filter_reverse, filter_product, List.filter_filter,
    List.filter_filter]
  refine List.filter_congr fun p _ => ?_
  cases hj : p.1.joins T v p.2 with
  | false => simp
  | true =>
    obtain ⟨⟨⟨hid, ht⟩, hl⟩, -⟩ : ((p.1.tag = .int p.2.id ∧ p.2.tenant = .int T) ∧ p.1.tenant = .int T) ∧
        p.1.version.same (.int v) = true := by
      simpa [LinkRow.joins] using hj
    simp [hid, ht, hl, Cell.integer?]

theorem joined_without (ids : List TagId) :
    (db.without T ids).joined T v = (db.joined T v).filter fun p => !ids.contains p.2.id := by
  rw [joined_without_of]
  refine List.filter_congr fun p hp => ?_
  have hj : p.1.joins T v p.2 = true := (List.mem_filter.1 hp).2
  simp only [LinkRow.joins, Bool.and_eq_true, beq_iff_eq] at hj
  rw [hj.1.1.2, beq_self_eq_true, Bool.true_and]

end Database

/-! ## Reports of rows -/

theorem Database.recordOf_eq (t : TagRow) :
    recordOf t = (readTime 2 t).map fun i => ⟨t.name, t.author, i⟩ := by
  unfold recordOf
  cases readTime 2 t <;> rfl

theorem Database.taggingOf_eq (t : TagRow) :
    taggingOf t = (readTime 3 t).map fun i => ⟨t.id, t.name, t.author, i, none⟩ := by
  unfold taggingOf
  cases readTime 3 t <;> rfl

namespace TagRow

/-- The record tells what the row holds. -/
structure IsRecord (t : TagRow) (r : TagRecord) : Prop where
  name : r.name = t.name
  author : r.author = t.author
  taggedAt : Time.readStored t.time = .ok r.taggedAt

/-- The tagging, with this path, tells what the row holds. -/
structure IsTagging (path : Option String) (t : TagRow) (x : Tagging) : Prop where
  id : x.id = t.id
  name : x.name = t.name
  author : x.author = t.author
  taggedAt : Time.readStored t.time = .ok x.taggedAt
  path : x.path = path

theorem recordOf_ok {t : TagRow} {r : TagRecord} : Database.recordOf t = .ok r ↔ t.IsRecord r := by
  rw [Database.recordOf_eq, Database.readTime]
  rcases r with ⟨n, a, i⟩
  constructor
  · intro h
    cases ht : Time.readStored t.time <;> rw [ht] at h <;> cases h
    exact ⟨rfl, rfl, ht⟩
  · rintro ⟨rfl, rfl, ht⟩
    simp only [ht]
    rfl

theorem taggingOf_ok {path : Option String} {t : TagRow} {x : Tagging} :
    (Database.taggingOf t).map (fun x => { x with path }) = .ok x ↔ t.IsTagging path x := by
  rw [Database.taggingOf_eq, Database.readTime]
  rcases x with ⟨j, n, a, i, q⟩
  constructor
  · intro h
    cases ht : Time.readStored t.time <;> rw [ht] at h <;> cases h
    exact ⟨rfl, rfl, rfl, ht, rfl⟩
  · rintro ⟨rfl, rfl, rfl, ht, rfl⟩
    simp only [ht]
    rfl

theorem IsTagging.taggingOf {path : Option String} {t : TagRow} {x : Tagging} (h : t.IsTagging path x) :
    Database.taggingOf t = .ok { x with path := none } := by
  rw [Database.taggingOf_eq, Database.readTime, h.taggedAt, ← h.id, ← h.name, ← h.author]
  rfl

end TagRow

theorem mapM_ok_iff {ε α β : Type} {g : α → Except ε β} : ∀ {xs : List α} {ys : List β},
    xs.mapM g = .ok ys ↔ List.Forall₂ (fun x y => g x = .ok y) xs ys
  | [], ys => by
    rw [List.forall₂_nil_left_iff]
    constructor
    · intro h
      cases h
      rfl
    · rintro rfl
      rfl
  | x :: xs, ys => by
    have ih := @mapM_ok_iff ε α β g xs
    rw [List.mapM_cons, List.forall₂_cons_left_iff]
    cases hx : g x with
    | error e => exact ⟨nofun, fun ⟨_, _, hy, _⟩ => nomatch hy⟩
    | ok y =>
      constructor
      · intro h
        change (xs.mapM g).map (y :: ·) = .ok ys at h
        cases hm : xs.mapM g <;> rw [hm] at h <;> cases h
        exact ⟨y, _, rfl, ih.1 hm, rfl⟩
      · rintro ⟨_, zs, ⟨⟩, hz, rfl⟩
        change (xs.mapM g).map (y :: ·) = _
        rw [ih.2 hz]
        rfl

theorem map_mapM {ε α β γ : Type} (g : α → Except ε β) (k : β → γ) : ∀ xs : List α,
    (xs.mapM g).map (List.map k) = xs.mapM fun x => (g x).map k
  | [] => rfl
  | x :: xs => by
    rw [List.mapM_cons, List.mapM_cons, ← map_mapM g k xs]
    cases g x with
    | error e => rfl
    | ok y => cases xs.mapM g <;> rfl

/-! ## Removals -/

namespace Write

variable {w : Write} {st : Store} {now : Time.Instant} {v : Version} {pick : TagRow → Bool}

/-- The version that a removal works on, and the test by which it picks tags there. -/
def removal? : Write → Option (Version × (TagRow → Bool))
  | .remove v n => some (v, fun t => Text.sameFold t.name n)
  | .removeBy v n a => some (v, fun t => Text.sameFold t.name n && t.author == a)
  | .purge v => some (v, fun _ => true)
  | _ => none

theorem takeOut_picks {ro : Bool} {db db' : Database} {x : Answer} (name : Option String) (a : AuthorFilter) (t : Task)
    (hp : ∀ u : TagRow, ((match name with | some n => Text.sameFold u.name n | none => true) && a.admits u.author) =
      pick u)
    (h : blaming t ((do return .number (← st.takeOut ro v name a) : Statement Answer) db) = .ok (x, db')) :
    x = .number ((db.on st.tenant v).countP pick : Nat) ∧
      db' = db.without st.tenant (((db.on st.tenant v).filter pick).map TagRow.id) := by
  have hi : db.idsToRemove st.tenant v name a = ((db.on st.tenant v).filter pick).map TagRow.id :=
    congrArg (List.map TagRow.id) (List.filter_congr fun u _ => hp u)
  cases hs : (do return .number (← st.takeOut ro v name a) : Statement Answer) db <;> rw [hs] at h <;> cases h
  obtain ⟨n, db₁, h₁, h₂⟩ := Statement.bind_ok hs
  cases h₂
  obtain ⟨rfl, rfl⟩ := Store.takeOut_ok h₁
  rw [hi, List.length_map, ← List.countP_eq_length_filter]
  exact ⟨rfl, rfl⟩

/-- The three removals are one statement, with a name and an author or without. -/
theorem on_removal (st : Store) (now : Time.Instant) (hw : w.removal? = some (v, pick)) : ∃ name a,
    (∀ u : TagRow,
      ((match name with | some n => Text.sameFold u.name n | none => true) && a.admits u.author) = pick u) ∧
    ∀ ro db, w.on st ro now db =
      blaming (w.task st) ((do return .number (← st.takeOut ro v name a) : Statement Answer) db) := by
  cases w with
  | remove v n =>
    cases hw
    exact ⟨some n, .any, fun u => Bool.and_true _, fun _ _ => rfl⟩
  | removeBy v n a =>
    cases hw
    exact ⟨some n, .exactly a, fun u => rfl, fun _ _ => rfl⟩
  | purge v =>
    cases hw
    exact ⟨none, .any, fun u => rfl, fun _ _ => rfl⟩
  | _ => cases hw

/-- **A removal that succeeds** answers how many tags it picked, and deletes them. -/
theorem removal_ok (hw : w.removal? = some (v, pick)) {ro : Bool} {db db' : Database} {x : Answer}
    (h : w.on st ro now db = .ok (x, db')) :
    x = .number ((db.on st.tenant v).countP pick : Nat) ∧
      db' = db.without st.tenant (((db.on st.tenant v).filter pick).map TagRow.id) := by
  obtain ⟨name, a, hp, ho⟩ := on_removal st now hw
  rw [ho] at h
  exact takeOut_picks name a _ hp h

end Write

/-! ## The views -/

theorem File.run_bind_pure {ε α β : Type} (f : File) (a : ExceptT ε (StateM File) α) (k : α → β) :
    (f.run (a >>= fun x => pure (k x))).1 = (f.run a).1.map k := by
  rw [File.run_bind]
  rcases f.run a with ⟨e | x, g⟩ <;> rfl

namespace Store

variable {st : Store} {f : File} {v : Version}

/-- What the reads and the removals of a version come to, by the list of its links and tags. -/
structure Views (st : Store) (f : File) (v : Version) (J : List (LinkRow × TagRow)) : Prop where
  tags : (f.run (st.tags v)).1 = .ok (J.map fun p => p.2.name)
  records (rs : List TagRecord) :
    (f.run (st.records v)).1 = .ok rs ↔ List.Forall₂ (fun p r => p.2.IsRecord r) J rs
  taggings (ts : List Tagging) :
    (f.run (st.taggings v)).1 = .ok ts ↔ List.Forall₂ (fun p t => p.2.IsTagging (st.locator.path? v) t) J ts
  /-- The name is taken byte for byte. -/
  taggingsNamed (n : String) (a : AuthorFilter) (ts : List Tagging) :
    (f.run (st.taggingsNamed v n a)).1 = .ok ts ↔ List.Forall₂ (fun p t => p.2.IsTagging (st.locator.path? v) t)
      (J.filter fun p => p.2.name == n && a.admits p.2.author) ts
  sublist (n : String) (a : AuthorFilter) (ts : List Tagging) :
    (f.run (st.taggings v)).1 = .ok ts →
      (f.run (st.taggingsNamed v n a)).1 = .ok (ts.filter fun t => t.name == n && a.admits t.author)
  countTag (n : String) : (f.run (st.countTag v n)).1 = .ok (J.countP fun p => Text.sameFold p.2.name n)
  hasTag (n a : String) :
    (f.run (st.hasTag n v a)).1 = .ok (decide (∃ p ∈ J, Text.sameFold p.2.name n = true ∧ p.2.author = a))
  /-- A removal that succeeds answers how many pairs it picks, and leaves the others. -/
  removal (w : Write) (pick : TagRow → Bool) (now : Time.Instant) (x : Answer) :
    w.removal? = some (v, pick) → (f.run (w.perform st now)).1 = .ok x →
      x = .number (J.countP fun p => pick p.2 : Nat) ∧
      (((f.run (w.perform st now)).2.view st.connection).joined st.tenant v =
        J.filter fun p => !((J.filter fun q => pick q.2).any fun q => q.2.id == p.2.id)) ∧
      ∀ p ∈ ((f.run (w.perform st now)).2.view st.connection).joined st.tenant v, pick p.2 = false

section

variable {α : Type} (hb : f.isBlocked st.connection = false)
include hb

theorem run_ask_of_sight (t : Task) (q : Database → Except Failure α) :
    (f.run (st.ask t q)).1 = (q (f.view st.connection)).mapError (.storage t) := by
  rw [run_ask, File.sight, hb]
  rfl

theorem run_look_of_sight (t : Task) (q : Database → α) :
    (f.run (st.look t q)).1 = .ok (q (f.view st.connection)) :=
  run_ask_of_sight hb t fun db => .ok (q db)

theorem run_ask_ok (t : Task) (q : Database → Except Failure α) (x : α) :
    (f.run (st.ask t q)).1 = .ok x ↔ q (f.view st.connection) = .ok x := by
  rw [run_ask_of_sight hb]
  cases q (f.view st.connection) <;> simp [Except.mapError]

/-- Taggings of rows, given the path of their version. -/
theorem run_withPath_ok (t : Task) (rows : Database → List TagRow) (ts : List Tagging) :
    (f.run (do return st.withPath v (← st.ask t fun db => (rows db).mapM Database.taggingOf))).1 = .ok ts ↔
      List.Forall₂ (TagRow.IsTagging (st.locator.path? v)) (rows (f.view st.connection)) ts := by
  have hm : ∀ e : Except Failure (List Tagging),
      (e.mapError (Error.storage t)).map (st.withPath v) = .ok ts ↔ e.map (st.withPath v) = .ok ts := by
    rintro (e | x)
    · exact ⟨nofun, nofun⟩
    · exact ⟨fun h => by cases h; rfl, fun h => by cases h; rfl⟩
  rw [File.run_bind_pure, run_ask_of_sight hb, hm]
  change Except.map (List.map fun t : Tagging => { t with path := st.locator.path? v }) _ = _ ↔ _
  rw [map_mapM, mapM_ok_iff]
  simp only [TagRow.taggingOf_ok]

end

theorem views_removal {w : Write} {pick : TagRow → Bool} {now : Time.Instant} {x : Answer}
    (hw : w.removal? = some (v, pick)) (hx : (f.run (w.perform st now)).1 = .ok x) :
    let J := (f.view st.connection).joined st.tenant v
    let J' := ((f.run (w.perform st now)).2.view st.connection).joined st.tenant v
    x = .number (J.countP fun p => pick p.2 : Nat) ∧
      (J' = J.filter fun p => !((J.filter fun q => pick q.2).any fun q => q.2.id == p.2.id)) ∧
      ∀ p ∈ J', pick p.2 = false := by
  intro J J'
  obtain ⟨g, hg, ha⟩ := w.run_perform st now f
  rw [hg] at hx
  rcases ho : w.outcome st now f with b | ⟨y, db⟩ <;> rw [ho] at hx ha <;> cases hx
  obtain ⟨hl, hon⟩ := Write.outcome_ok ho
  obtain ⟨hn, hdb⟩ := Write.removal_ok hw hon
  have hv : (f.run (w.perform st now)).2.view st.connection = db := by
    rw [hg, ha.view]
    exact File.view_put db hl
  have hpicked : (((f.view st.connection).on st.tenant v).filter pick).map TagRow.id =
      (J.filter fun q => pick q.2).map fun q => q.2.id := by
    rw [Database.on_eq_joined, List.filter_map, List.map_map]
    rfl
  have hJ' : J' = J.filter fun p => !((J.filter fun q => pick q.2).any fun q => q.2.id == p.2.id) := by
    show Database.joined _ _ _ = _
    rw [hv, hdb, Database.joined_without, hpicked]
    refine List.filter_congr fun p _ => ?_
    rw [List.contains_eq_any_beq, List.any_map]
    simp only [Function.comp_def, BEq.comm]
  refine ⟨?_, hJ', fun p hp => ?_⟩
  · rw [hn, Database.on_eq_joined, List.countP_map]
    rfl
  · rw [hJ'] at hp
    obtain ⟨hm, hnot⟩ := List.mem_filter.1 hp
    -- a pair that is picked would be met by its own id
    by_contra hc
    have hpick : pick p.2 = true := by simpa using hc
    have hself : ((J.filter fun q => pick q.2).any fun q => q.2.id == p.2.id) = true :=
      List.any_eq_true.2 ⟨p, List.mem_filter.2 ⟨hm, hpick⟩, beq_self_eq_true _⟩
    rw [hself] at hnot
    cases hnot

end Store

/-- The version of a read that views the list. -/
def Read.viewed? : Read → Option Version
  | .exists _ v _ => some v
  | .tags v => some v
  | .records v => some v
  | .count v _ => some v
  | .tagging v _ _ => some v
  | .taggings v => some v
  | _ => none

/-- **All reads of a version are views of one list**, and so are its removals, whatever rows the tables hold.  A store
that cannot read fails at all of them. -/
theorem Store.views_joined (st : Store) (f : File) (v : Version) :
    if f.isBlocked st.connection then
      (∀ r : Read, r.viewed? = some v → ∃ t, (f.run (r.perform st)).1 = .error (.storage t .locked)) ∧
        ∀ (w : Write) (pick : TagRow → Bool) (now : Time.Instant), w.removal? = some (v, pick) →
          ∃ t, (f.run (w.perform st now)).1 = .error (.storage t .locked)
    else st.Views f v ((f.view st.connection).joined st.tenant v) := by
  split
  · rename_i hb
    constructor
    · intro r hr
      have hs : f.sight st.connection = .error .locked := if_pos hb
      rw [Read.run_perform, hs]
      cases r with
      | paths ns => cases hr
      | byId i => cases hr
      | counts v page => cases hr
      | stats => cases hr
      | _ => exact ⟨_, rfl⟩
    · intro w pick now hw
      have hl : f.isLocked st.connection = true := by
        by_contra h
        rw [File.isBlocked_of_isLocked (Bool.eq_false_iff.2 h)] at hb
        cases hb
      rw [w.run_perform_of_isLocked st now hl]
      cases w with
      | add n v a => cases hw
      | addMany v rs => cases hw
      | copy v w => cases hw
      | _ => exact ⟨_, rfl⟩
  · rename_i hb
    replace hb : f.isBlocked st.connection = false := Bool.eq_false_iff.2 hb
    have htaggings : ∀ ts, (f.run (st.taggings v)).1 = .ok ts ↔ List.Forall₂
        (fun p t => p.2.IsTagging (st.locator.path? v) t) ((f.view st.connection).joined st.tenant v) ts := by
      intro ts
      have h := st.run_withPath_ok (v := v) hb (.readTaggings (st.describe v)) (fun db => db.on st.tenant v) ts
      rw [Database.on_eq_joined, List.forall₂_map_left_iff] at h
      exact h
    have hnamed : ∀ n a ts, (f.run (st.taggingsNamed v n a)).1 = .ok ts ↔ List.Forall₂
        (fun p t => p.2.IsTagging (st.locator.path? v) t) (((f.view st.connection).joined st.tenant v).filter fun p =>
          p.2.name == n && a.admits p.2.author) ts := by
      intro n a ts
      have h := st.run_withPath_ok (v := v) hb (.readTagging n (st.describe v) a)
        (fun db => (db.on st.tenant v).filter fun t => t.name == n && a.admits t.author) ts
      rw [Database.on_eq_joined, List.filter_map, List.forall₂_map_left_iff] at h
      exact h
    exact {
      tags := by
        rw [Store.tags, run_look_of_sight hb, Database.names, Database.on_eq_joined, List.map_map]
        rfl
      records rs := by
        rw [Store.records, run_ask_ok hb, Database.records, mapM_ok_iff, Database.on_eq_joined,
          List.forall₂_map_left_iff]
        simp only [TagRow.recordOf_ok]
      taggings := htaggings
      taggingsNamed := hnamed
      sublist n a ts h := by
        rw [hnamed]
        refine List.rel_filter (fun p t ht => ?_) ((htaggings ts).1 h)
        show _ = true ↔ _ = true
        rw [ht.name, ht.author]
      countTag n := by
        rw [Store.countTag, run_look_of_sight hb, Database.countNamed, Database.on_eq_joined, List.countP_map]
        rfl
      hasTag n a := by
        rw [Store.hasTag, run_look_of_sight hb, Database.hasTag, Database.on_eq_joined, List.any_map]
        congr 1
        rw [Bool.eq_iff_iff]
        simp
      removal w pick now x hw hx := views_removal hw hx }

end VersionTags
