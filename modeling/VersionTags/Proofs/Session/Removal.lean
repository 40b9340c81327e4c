import VersionTags.Proofs.Session.Conservation
/-!
# Removals delete what they name

A removal finds its tags by the links on a version and deletes rows by ids, without a look at the version.  That it
deletes nothing but the tags that it names, and nothing on another version, rests on each tag having one link
(`Aligned.clears_cut`).  So does the count: the numbers that two removals answer add up to the number of tags that go,
whichever is first (`Session.removals_exact`).
-/
namespace VersionTags

namespace Selection

/-- The tag is one of the tenant's on the version and passes the test. -/
def names (s : Selection) (db : Database) (t : TagRow) : Bool :=
  s.pick t && t.tenant == .int s.tenant && db.links.contains ⟨.int t.id, .int s.version, .int s.tenant⟩

/-- The tables have lost the tags that are named, and their links. -/
structure Clears (s : Selection) (db db' : Database) : Prop where
  tags : db'.tags = db.tags.filter fun t => !s.names db t
  links : db'.links = db.links.filter fun l => !db.tags.any fun t => s.names db t && l.tag == .int t.id
  lastId : db'.lastId = db.lastId
  /-- Other versions and other tenants keep their links and their tags. -/
  others : ∀ U u, U ≠ s.tenant ∨ u ≠ s.version → db'.joined U u = db.joined U u

end Selection

namespace Aligned

variable {db : Database} {s : Selection}

theorem cut (h : Aligned db) (s : Selection) : Aligned (s.cut db) := kept_aligned.without db _ _ h

theorem mem_on_iff (h : Aligned db) {T : Tenant} {v : Version} {t : TagRow} :
    t ∈ db.on T v ↔ t ∈ db.tags ∧ t.tenant = .int T ∧ ⟨.int t.id, .int v, .int T⟩ ∈ db.links := by
  have hv : ∀ l ∈ db.links, l.version.same (.int v) = true ↔ l.version = .int v := by
    intro l hl
    obtain ⟨-, -, -, -, w, hw⟩ := exists_tag h.inStep l hl
    rw [hw, same_int, beq_iff_eq, Cell.int.injEq]
  simp only [Database.on_eq, Database.linksOn, Database.tagsOf, List.mem_flatMap, List.mem_reverse, List.mem_filter,
    Bool.and_eq_true, beq_iff_eq]
  constructor
  · rintro ⟨l, ⟨hl, hT, hs⟩, ht, htT, hid⟩
    obtain ⟨tag, version, tenant⟩ := l
    rw [hv _ hl] at hs
    cases hT
    cases hs
    cases hid
    exact ⟨ht, htT, hl⟩
  · rintro ⟨ht, hT, hl⟩
    exact ⟨_, ⟨hl, rfl, (hv _ hl).2 rfl⟩, ht, hT, rfl⟩

theorem mem_picked_iff (h : Aligned db) {t : TagRow} : t ∈ s.picked db ↔ t ∈ db.tags ∧ s.names db t = true := by
  rw [Selection.picked, List.mem_filter, h.mem_on_iff, Selection.names]
  simp only [Bool.and_eq_true, beq_iff_eq, List.contains_iff_mem]
  constructor
  · rintro ⟨⟨ht, hT, hl⟩, hp⟩
    exact ⟨ht, ⟨hp, hT⟩, hl⟩
  · rintro ⟨ht, ⟨hp, hT⟩, hl⟩
    exact ⟨⟨ht, hT, hl⟩, hp⟩

theorem eq_of_id (h : Aligned db) {t u : TagRow} (ht : t ∈ db.tags) (hu : u ∈ db.tags) (hid : t.id = u.id) : t = u :=
  List.inj_on_of_nodup_map h.paired.distinct ht hu hid

/-- The tags that go are those that are named. -/
theorem takes_eq (h : Aligned db) (s : Selection) {t : TagRow} (ht : t ∈ db.tags) :
    s.takes db t.tenant t.id = s.names db t := by
  rw [Bool.eq_iff_iff, Selection.takes_iff]
  constructor
  · rintro ⟨-, u, hu, hid⟩
    obtain rfl := h.eq_of_id (Selection.mem_picked hu).1 ht hid
    exact (h.mem_picked_iff.1 hu).2
  · intro hn
    have hp := h.mem_picked_iff.2 ⟨ht, hn⟩
    exact ⟨(Selection.mem_picked hp).2, t, hp, rfl⟩

theorem eq_of_tag (h : Aligned db) {l k : LinkRow} (hl : l ∈ db.links) (hk : k ∈ db.links) (hid : l.tag = k.tag) :
    l = k :=
  List.inj_on_of_nodup_map (List.pairwise_map.2 h.links_apart) hl hk hid

/-- **A removal deletes what it names**: the tags and their links, and nothing else. -/
theorem clears_cut (h : Aligned db) (s : Selection) : s.Clears db (s.cut db) where
  tags := by
    rw [Selection.tags_cut]
    refine List.filter_congr fun t ht => ?_
    rw [h.takes_eq s ht]
  links := by
    rw [Selection.links_cut]
    refine List.filter_congr fun l hl => ?_
    obtain ⟨t, ht, hid, hT, -⟩ := exists_tag h.inStep l hl
    have hn : (db.tags.any fun u => s.names db u && l.tag == .int u.id) = s.names db t := by
      rw [Bool.eq_iff_iff, List.any_eq_true]
      simp only [hid, Bool.and_eq_true, beq_iff_eq, Cell.int.injEq]
      constructor
      · rintro ⟨u, hu, hn, he⟩
        rwa [h.eq_of_id ht hu he]
      · exact fun hn => ⟨t, ht, hn, rfl⟩
    rw [hn, hid, hT, ← h.takes_eq s ht]
    rfl
  lastId := s.lastId_cut db
  others U u hne := by
    rw [Selection.joined_cut, List.filter_eq_self]
    rintro ⟨l, t⟩ hp
    obtain ⟨hm, hj⟩ := List.mem_filter.1 hp
    obtain ⟨hl, ht⟩ := List.mem_product.1 hm
    obtain ⟨⟨⟨hid, htU⟩, -⟩, hu⟩ : ((l.tag = .int t.id ∧ t.tenant = .int U) ∧ l.tenant = .int U) ∧
        l.version.same (.int u) = true := by
      simpa [LinkRow.joins] using hj
    rw [h.takes_eq s ht, Bool.not_eq_true', Bool.eq_false_iff]
    intro hn
    simp only [Selection.names, Bool.and_eq_true, beq_iff_eq, List.contains_iff_mem] at hn
    obtain ⟨⟨-, htT⟩, hk⟩ := hn
    -- the tag has no other link than the one by which it is named
    obtain rfl := h.eq_of_tag (List.mem_reverse.1 hl) hk hid
    obtain rfl : U = s.tenant := Cell.int.inj (htU.symm.trans htT)
    rw [same_int, beq_iff_eq] at hu
    exact hne.elim (fun hU => hU rfl) fun hv => hv hu.symm

theorem length_picked (h : Aligned db) (s : Selection) : (s.picked db).length = db.tags.countP (s.names db) := by
  rw [Selection.picked, ← (h.perm_picked s.tenant s.version s.pick).length_eq, List.countP_eq_length_filter]
  exact congrArg List.length (List.filter_congr fun t ht => h.takes_eq s ht)

theorem length_cut (h : Aligned db) (s : Selection) :
    ((s.cut db).tags.length + (s.picked db).length : Int) = db.tags.length := by
  have hc := h.countP_removed (T := s.tenant) s.version s.pick (p := fun _ => true) fun _ _ => rfl
  simp only [List.countP_true] at hc
  rw [List.countP_eq_length_filter] at hc
  exact congrArg Int.ofNat hc

/-- The numbers that two removals answer add up to the number of tags that go. -/
theorem length_picked_comm (h : Aligned db) (s s' : Selection) :
    ((s'.picked db).length + (s.picked (s'.cut db)).length : Int) =
      (s.picked db).length + (s'.picked (s.cut db)).length := by
  have h₁ := h.length_cut s
  have h₂ := (h.cut s).length_cut s'
  have h₃ := h.length_cut s'
  have h₄ := (h.cut s').length_cut s
  rw [Selection.cut_comm] at h₄
  omega

end Aligned

/-- **Removals delete what they name.**  Whatever the stores of a session have done, a removal that succeeds leaves both
tables without the tags that it names and without their links, and answers how many they are.  Once more, it answers 0
and changes nothing.  It makes no difference to whether another removal succeeds, and in either order the two leave the
same tables and answer numbers of the same sum. -/
theorem Session.removals_exact (faults : List Fault) (l : Locator) (a : LocatorAccess) (now : Time.Instant)
    (seats : List Seat) (spills : Transaction → Bool) (ms : List Move) :
    let f := ((Session.fresh faults l a now seats spills).run ms).file
    ∀ (st : Store) (w : Write) (s : Selection) (now : Time.Instant) (x : Answer) (g : File),
      w.selection? st = some s → f.run (w.perform st now) = (.ok x, g) →
      let db := f.view st.connection
      x = .number (db.tags.countP (s.names db)) ∧
      (∃ db', s.Clears db db' ∧ g.Alike (f.put db')) ∧
      (∀ now', ∃ h, g.run (w.perform st now') = (.ok (.number 0), h) ∧ h.Alike g) ∧
      ∀ (st' : Store) (w' : Write) (s' : Selection) (now' : Time.Instant),
        st.faults = st'.faults → w'.selection? st' = some s' →
        ((∃ y h, g.run (w'.perform st' now') = (.ok y, h)) ↔ ∃ y g', f.run (w'.perform st' now') = (.ok y, g')) ∧
        ∀ y h, g.run (w'.perform st' now') = (.ok y, h) → ∃ (m n m' n' : Int) (g' h' : File),
          x = .number m ∧ y = .number n ∧
          f.run (w'.perform st' now') = (.ok (.number n'), g') ∧ g'.run (w.perform st now) = (.ok (.number m'), h') ∧
          h'.Alike h ∧ n' + m' = m + n := by
  intro f st w s now x g hw hx db
  have hf : f.Everywhere Aligned := Session.everywhere_run kept_aligned ms (File.everywhere_ofDatabase aligned_empty)
  have hal : Aligned db := hf.2 st.connection
  obtain ⟨hn, hg⟩ := Write.run_of_selection hw hx
  refine ⟨hal.length_picked s ▸ hn, ⟨_, hal.clears_cut s, hg⟩, Write.removal_again hw hx,
    fun st' w' s' now' hst hw' => ⟨Write.succeeds_after hw hw' hst hx, fun y h hy => ?_⟩⟩
  obtain ⟨hm, hn, g', h', hz, hu, hend⟩ := Write.removals_commute hw hw' hst hx hy
  exact ⟨_, _, _, _, g', h', hm, hn, hz, hu, hend, hal.length_picked_comm s s'⟩

namespace Session

open Write (plainStore someTime)

/-- Two tags of one name are removed before the version is purged, or after it.  A purge that comes first finds three
tags. -/
theorem purge_in_either_order : let f := (patron.run dealings).file
    ∃ (n m' : Int) (g h g' h' : File),
      f.run ((Write.removeBy 1 "n" "alice").perform plainStore someTime) = (.ok (.number 2), g) ∧
      g.run ((Write.purge 1).perform plainStore someTime) = (.ok (.number n), h) ∧
      f.run ((Write.purge 1).perform plainStore someTime) = (.ok (.number 3), g') ∧
      g'.run ((Write.removeBy 1 "n" "alice").perform plainStore someTime) = (.ok (.number m'), h') ∧
      h'.Alike h ∧ 3 + m' = 2 + n := by
  intro f
  have hfree : f.isLocked 0 = false := by decide +kernel
  have hopen : f.readOnly = false := by decide +kernel
  have hnamed : ((f.view 0).on 1 1).countP (fun t => Text.sameFold t.name "n" && t.author == "alice") = 2 := by
    rw [Database.on_eq]
    decide +kernel
  have hall : ((f.view 0).on 1 1).countP (fun _ => true) = 3 := by
    rw [Database.on_eq]
    decide +kernel
  obtain ⟨g, hg, -⟩ := Write.run_of_removal (.removeBy 1 "n" "alice") plainStore someTime rfl nofun hfree hopen
  obtain ⟨e, he, -⟩ := Write.run_of_removal (.purge 1) plainStore someTime rfl nofun hfree hopen
  have hg2 : f.run ((Write.removeBy 1 "n" "alice").perform plainStore someTime) = (.ok (.number 2), g) :=
    hg.trans (congrArg (fun n : Nat => (Except.ok (Answer.number n), g)) hnamed)
  have he3 : f.run ((Write.purge 1).perform plainStore someTime) = (.ok (.number 3), e) :=
    he.trans (congrArg (fun n : Nat => (Except.ok (Answer.number n), e)) hall)
  obtain ⟨-, -, -, h⟩ := removals_exact [⟨.tagInsert "bad", .statement, "no"⟩] .empty .map someTime [⟨1, .maxId, true⟩]
    (fun _ => false) dealings plainStore (.removeBy 1 "n" "alice") _ someTime (.number 2) g rfl hg2
  obtain ⟨hiff, hboth⟩ := h plainStore (.purge 1) _ someTime rfl rfl
  obtain ⟨y, k, hy⟩ := hiff.2 ⟨_, e, he3⟩
  obtain ⟨m, n, m', n', g', h', hm, rfl, hz, hu, hend, hsum⟩ := hboth y k hy
  have hz3 := hz.symm.trans he3
  cases hm
  cases hz3
  exact ⟨n, m', g, k, _, h', hg2, hy, hz, hu, hend, hsum⟩

end Session
end VersionTags
