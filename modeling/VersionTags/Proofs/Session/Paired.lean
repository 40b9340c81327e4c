import Mathlib.Algebra.BigOperators.Group.Finset.Basic
import Mathlib.Data.List.Forall2
import VersionTags.Proofs.Session.Run
/-!
# Each tag has one link

No constraint ties the two tables together.  They are kept together by the writes alone: `Paired` holds of every file
that was filled by them, in the committed tables and in those that a transaction is working on (`Session.paired_run`).

It is not kept by itself.  What every write keeps is that the tables stand in step, row by row, under descending ids
(`Aligned`).
-/
namespace VersionTags

/-- The tags have ids of their own, each tag has one link, for its own tenant, and each link has a tag. -/
structure Paired (db : Database) : Prop where
  distinct : (db.tags.map TagRow.id).Nodup
  linked : ∀ t ∈ db.tags, ∃ l, db.links.filter (fun l => l.tag == .int t.id) = [l] ∧ l.tenant = t.tenant
  held : ∀ l ∈ db.links, ∃ t ∈ db.tags, l.tag = .int t.id

/-- The link row puts the tag row on a version, for the tenant of the tag. -/
def TagRow.On (t : TagRow) (l : LinkRow) : Prop := l.tag = .int t.id ∧ l.tenant = t.tenant ∧ ∃ v, l.version = .int v

/-- The tables stand in step, and their ids descend. -/
structure Aligned (db : Database) : Prop where
  descending : db.tags.Pairwise fun t u => u.id < t.id
  inStep : List.Forall₂ TagRow.On db.tags db.links

theorem aligned_empty : Aligned .empty := ⟨.nil, .nil⟩

/-- **New taggings and removals keep the tables in step.** -/
theorem kept_aligned : Kept Aligned where
  withTagging db T v r h := by
    refine ⟨List.pairwise_cons.2 ⟨fun t ht => ?_, h.descending⟩, .cons ⟨rfl, rfl, v, rfl⟩ h.inStep⟩
    exact Int.lt_add_one_of_le (db.id_le t ht)
  without db T ids h := by
    refine ⟨h.descending.filter _, List.rel_filter (fun t l hl => ?_) h.inStep⟩
    obtain ⟨ht, hT, -⟩ := hl
    simp [ht, hT, Cell.integer?]

/-! ## Rows in step -/

theorem exists_tag {ts : List TagRow} {ls : List LinkRow} (h : List.Forall₂ TagRow.On ts ls) :
    ∀ l ∈ ls, ∃ t ∈ ts, t.On l := by
  induction h with
  | nil => simp
  | @cons t l ts ls ht _ ih =>
    intro k hk
    rcases List.mem_cons.1 hk with rfl | hk
    · exact ⟨t, List.mem_cons_self, ht⟩
    · obtain ⟨u, hu, huk⟩ := ih k hk
      exact ⟨u, List.mem_cons_of_mem t hu, huk⟩

theorem exists_link {ts : List TagRow} {ls : List LinkRow} (h : List.Forall₂ TagRow.On ts ls)
    (hd : ts.Pairwise fun t u => u.id < t.id) :
    ∀ t ∈ ts, ∃ l, ls.filter (fun l => l.tag == .int t.id) = [l] ∧ l.tenant = t.tenant := by
  induction h with
  | nil => simp
  | @cons t l ts ls ht hts ih =>
    obtain ⟨hlt, hd⟩ := List.pairwise_cons.1 hd
    intro u hu
    rcases List.mem_cons.1 hu with rfl | hu
    · have hn : ls.filter (fun l => l.tag == .int u.id) = [] := by
        rw [List.filter_eq_nil_iff]
        intro k hk
        obtain ⟨w, hw, hwk⟩ := exists_tag hts k hk
        simp only [hwk.1, beq_iff_eq, Cell.int.injEq]
        exact Int.ne_of_lt (hlt w hw)
      exact ⟨l, by simp [ht.1, hn], ht.2.1⟩
    · obtain ⟨k, hk, hT⟩ := ih hd u hu
      have hne : (l.tag == .int u.id) = false := by
        simp only [ht.1, beq_eq_false_iff_ne, ne_eq, Cell.int.injEq]
        exact (Int.ne_of_lt (hlt u hu)).symm
      exact ⟨k, by simp only [List.filter_cons, hne, hk, Bool.false_eq_true, ↓reduceIte], hT⟩

theorem Aligned.paired {db : Database} (h : Aligned db) : Paired db where
  distinct := by
    rw [List.Nodup, List.pairwise_map]
    exact h.descending.imp fun hlt => (Int.ne_of_lt hlt).symm
  linked := exists_link h.inStep h.descending
  held l hl := by
    obtain ⟨t, ht, hk⟩ := exists_tag h.inStep l hl
    exact ⟨t, ht, hk.1⟩

/-! ## Counting rows in step -/

namespace Database

def versionsOf (db : Database) (T : Tenant) : List Version :=
  (db.links.filter fun l => l.tenant == .int T).filterMap fun l => l.version.integer?

end Database

namespace Aligned

variable {db : Database} {T : Tenant}

theorem map_version (h : Aligned db) (T : Tenant) :
    (db.links.filter fun l => l.tenant == .int T).map LinkRow.version = (db.versionsOf T).map .int := by
  have hv : ∀ l ∈ db.links.filter fun l => l.tenant == .int T, ∃ v, l.version = .int v := by
    intro l hl
    obtain ⟨t, -, hk⟩ := exists_tag h.inStep l (List.mem_filter.1 hl).1
    exact hk.2.2
  unfold Database.versionsOf
  generalize db.links.filter (fun l => l.tenant == .int T) = ls at hv
  induction ls with
  | nil => rfl
  | cons l ls ih =>
    obtain ⟨v, hl⟩ := hv l List.mem_cons_self
    have hs := ih fun k hk => hv k (List.mem_cons_of_mem l hk)
    simp [hl, hs, Cell.integer?]

theorem countP_tags (h : Aligned db) (T : Tenant) :
    db.tags.countP (fun t => t.tenant == .int T) = (db.versionsOf T).length := by
  have hm := congrArg List.length (h.map_version T)
  simp only [List.length_map] at hm
  rw [← hm, ← List.countP_eq_length_filter]
  have hs := h.inStep
  generalize db.tags = ts at hs
  generalize db.links = ls at hs
  induction hs with
  | nil => rfl
  | cons ht _ ih => simp only [List.countP_cons, ih, ht.2.1]

/-- A link of the tenant has just one tag of the tenant. -/
theorem length_tagsOf (h : Aligned db) {l : LinkRow} (hl : l ∈ db.links) (hT : l.tenant = .int T) :
    (db.tagsOf T l).length = 1 := by
  obtain ⟨t, ht, hk⟩ := exists_tag h.inStep l hl
  have hp : ∀ u ∈ db.tags, (u.tenant == .int T && l.tag == .int u.id) = (u == t) := by
    intro u hu
    rw [Bool.eq_iff_iff]
    simp only [hk.1, Bool.and_eq_true, beq_iff_eq, Cell.int.injEq]
    constructor
    · rintro ⟨-, hid⟩
      exact List.inj_on_of_nodup_map h.paired.distinct hu ht hid.symm
    · rintro rfl
      exact ⟨hk.2.1.symm.trans hT, rfl⟩
  unfold Database.tagsOf
  rw [List.filter_congr hp, ← List.count_eq_length_filter]
  exact List.count_eq_one_of_mem h.paired.distinct.of_map ht

theorem same_int (v w : Version) : (Cell.int w).same (.int v) = (w == v) := by
  rw [Bool.eq_iff_iff]
  simp only [Cell.same, Cell.le, Bool.and_eq_true, decide_eq_true_eq, beq_iff_eq]
  exact ⟨fun h => Int.le_antisymm h.1 h.2, fun h => ⟨Int.le_of_eq h, Int.le_of_eq h.symm⟩⟩

theorem length_linksOn (h : Aligned db) (T : Tenant) (v : Version) :
    (db.linksOn T v).length = (db.versionsOf T).count v := by
  have hm := congrArg (List.countP fun c => c.same (.int v)) (h.map_version T)
  rw [List.countP_map, List.countP_map, List.countP_filter] at hm
  rw [Database.linksOn, List.length_reverse, ← List.countP_eq_length_filter]
  refine (List.countP_congr fun l _ => ?_).trans (hm.trans (List.countP_congr fun w _ => ?_))
  · simp [and_comm]
  · simp [same_int]

/-- A version has as many names as the tenant has links on it. -/
theorem length_names (h : Aligned db) (T : Tenant) (v : Version) :
    (db.names T v).length = (db.versionsOf T).count v := by
  have ho : ∀ l ∈ db.linksOn T v, (db.tagsOf T l).length = 1 := by
    intro l hl
    simp only [Database.linksOn, List.mem_reverse, List.mem_filter, Bool.and_eq_true, beq_iff_eq] at hl
    exact h.length_tagsOf hl.1 hl.2.1
  rw [← h.length_linksOn, Database.names, List.length_map, Database.on_eq, List.length_flatMap,
    List.map_congr_left ho]
  simp

end Aligned

theorem size_ofList_eq_card {α : Type} [DecidableEq α] [Hashable α] (xs : List α) :
    (Std.HashSet.ofList xs).size = xs.toFinset.card := by
  have hn : (Std.HashSet.ofList xs).toList.Nodup := by
    have hd := Std.HashSet.distinct_toList (m := Std.HashSet.ofList xs)
    simpa [List.Nodup] using hd
  rw [← Std.HashSet.length_toList, ← List.toFinset_card_of_nodup hn]
  congr 1
  ext x
  simp [Std.HashSet.mem_toList, Std.HashSet.mem_ofList]

/-- The statistics tally with the names on the versions. -/
structure Tally (s : Stats) (names : Version → List String) : Prop where
  taggings : s.taggings = s.tags
  versions : ∃ vs : Finset Version, (∀ v, v ∈ vs ↔ names v ≠ []) ∧ s.tags = ∑ v ∈ vs, (names v).length ∧
    s.versions = vs.card

theorem Aligned.tally {db : Database} (h : Aligned db) (T : Tenant) : Tally (db.stats T) (db.names T) where
  taggings := by
    have hm := congrArg List.length (h.map_version T)
    rw [List.length_map, List.length_map] at hm
    exact hm.trans (h.countP_tags T).symm
  versions := by
    refine ⟨(db.versionsOf T).toFinset, fun v => ?_, ?_, ?_⟩
    · rw [List.mem_toFinset, ← List.count_pos_iff, ← h.length_names, List.length_pos_iff]
    · rw [Finset.sum_congr rfl fun v _ => h.length_names T v, List.sum_toFinset_count_eq_length]
      exact h.countP_tags T
    · have hc : (db.links.filter fun l => l.tenant == .int T).map (fun l => l.version.canonical) =
          (db.versionsOf T).map .int := by
        have hm := congrArg (List.map Cell.canonical) (h.map_version T)
        rw [List.map_map, List.map_map] at hm
        exact hm
      have hi : ((db.versionsOf T).map Cell.int).toFinset = (db.versionsOf T).toFinset.image .int := by
        ext c
        simp
      show (Std.HashSet.ofList (List.map _ _)).size = _
      rw [hc, size_ofList_eq_card, hi, Finset.card_image_of_injective _ fun _ _ => Cell.int.inj]

/-! ## Runs from an empty file -/

/-- A session on an empty file. -/
def Session.fresh (faults : List Fault) (l : Locator) (a : LocatorAccess) (now : Time.Instant) (seats : List Seat)
    (spills : Transaction → Bool := fun _ => false) : Session :=
  ⟨.ofDatabase .empty spills, faults, l, a, now, seats⟩

/-- **Whatever the stores of a session do, each tag has one link and each link has a tag**, in the committed tables and
in those that any connection sees, and the statistics of a store tally with the names it reads, unless it cannot
read. -/
theorem Session.paired_run (faults : List Fault) (l : Locator) (a : LocatorAccess) (now : Time.Instant)
    (seats : List Seat) (spills : Transaction → Bool) (ms : List Move) :
    let f := ((Session.fresh faults l a now seats spills).run ms).file
    f.Everywhere Paired ∧ ∀ st : Store,
      if f.isBlocked st.connection then
        (f.run st.stats).1 = .error (.storage (.collectStats st.tenant) .locked) ∧
          ∀ v, (f.run (st.tags v)).1 = .error (.storage (.readTags (st.describe v)) .locked)
      else ∃ (s : Stats) (names : Version → List String), (f.run st.stats).1 = .ok s ∧ s.tenant = st.tenant ∧
        (∀ v, (f.run (st.tags v)).1 = .ok (names v)) ∧ Tally s names := by
  intro f
  have hf : f.Everywhere Aligned := Session.everywhere_run kept_aligned ms (File.everywhere_ofDatabase aligned_empty)
  refine ⟨⟨hf.1.paired, fun c => (hf.2 c).paired⟩, fun st => ?_⟩
  have hs : (f.run st.stats).1 = Task.answer (.collectStats st.tenant) (f.sight st.connection) fun db =>
      .ok (db.stats st.tenant) := by
    exact congrArg Prod.fst (Store.run_ask f st _ _)
  have ht : ∀ v, (f.run (st.tags v)).1 = Task.answer (.readTags (st.describe v)) (f.sight st.connection) fun db =>
      .ok (db.names st.tenant v) := by
    intro v
    exact congrArg Prod.fst (Store.run_ask f st _ _)
  split
  · rename_i hb
    have hg : f.sight st.connection = .error .locked := if_pos hb
    rw [hg] at hs
    refine ⟨hs, fun v => ?_⟩
    rw [ht, hg]
    rfl
  · rename_i hb
    have hg : f.sight st.connection = .ok (f.view st.connection) := if_neg hb
    rw [hg] at hs
    refine ⟨_, fun v => (f.view st.connection).names st.tenant v, hs, rfl, fun v => ?_, (hf.2 _).tally st.tenant⟩
    rw [ht, hg]
    rfl

end VersionTags
