import VersionTags.Proofs.Session.Removal
import VersionTags.Proofs.Store.Gains
/-!
# Lists and lookups

The list of a version goes from its links to their tags, and the lookup by an id goes from the tag to its first link and
on to the version.  Whatever is listed is found, and whatever is found is listed on just one version, once
(`Session.lists_and_lookups`).  This rests on each tag having one link.  The path is the one thing that can differ: a
lookup reports none for a placeholder.
-/
namespace VersionTags

theorem filter_eq_singleton {α : Type} [DecidableEq α] {xs : List α} (hn : xs.Nodup) {a : α} (ha : a ∈ xs)
    {p : α → Bool} (hp : ∀ x ∈ xs, p x = true ↔ x = a) : xs.filter p = [a] := by
  have hb : xs.filter p = xs.filter (· == a) := by
    refine List.filter_congr fun x hx => ?_
    rw [Bool.eq_iff_iff, hp x hx, beq_iff_eq]
  rw [hb, List.filter_beq, List.count_eq_one_of_mem hn ha]
  rfl

theorem exists_of_mem_right {α β : Type} {R : α → β → Prop} {xs : List α} {ys : List β} (h : List.Forall₂ R xs ys)
    {y : β} (hy : y ∈ ys) : ∃ x ∈ xs, R x y := by
  induction h with
  | nil => cases hy
  | @cons x z xs zs hxz _ ih =>
    rcases List.mem_cons.1 hy with rfl | hy
    · exact ⟨x, List.mem_cons_self, hxz⟩
    · obtain ⟨w, hw, hwy⟩ := ih hy
      exact ⟨w, List.mem_cons_of_mem x hw, hwy⟩

/-! ## From a tag to its version -/

namespace Aligned

variable {db : Database} {T : Tenant} {v w : Version} {t : TagRow} {i : TagId}

theorem nodup_links (h : Aligned db) : db.links.Nodup :=
  h.links_apart.imp fun hne he => hne (congrArg LinkRow.tag he)

theorem find?_of_on (h : Aligned db) (ht : t ∈ db.on T v) :
    db.tags.find? (fun u => u.id == t.id && u.tenant == .int T) = some t := by
  obtain ⟨hm, hT⟩ := Database.mem_on ht
  rw [← List.head?_filter, filter_eq_singleton h.nodup_tags hm]
  · rfl
  · intro u hu
    rw [Bool.and_eq_true, beq_iff_eq, beq_iff_eq]
    constructor
    · exact fun he => h.eq_of_id hu hm he.1
    · rintro rfl
      exact ⟨rfl, hT⟩

theorem linksOf_of_mem (h : Aligned db) (hl : (⟨.int i, .int v, .int T⟩ : LinkRow) ∈ db.links) :
    db.linksOf T i = [⟨.int i, .int v, .int T⟩] := by
  rw [Database.linksOf, Database.linkIndex_getD, Database.linksFor, List.filter_filter,
    filter_eq_singleton h.nodup_links hl]
  · rfl
  · intro k hk
    rw [Bool.and_eq_true, beq_iff_eq, beq_iff_eq]
    constructor
    · rintro ⟨hid, -⟩
      obtain ⟨t, -, htag, -⟩ := exists_tag h.inStep k hk
      rw [htag] at hid
      refine h.eq_of_tag hk hl (htag.trans ?_)
      exact congrArg Cell.int (Option.some.inj hid)
    · rintro rfl
      exact ⟨rfl, rfl⟩

/-- **A tag that is listed on a version is found there by its id.** -/
theorem taggingById_of_on (h : Aligned db) (ht : t ∈ db.on T v) :
    db.taggingById T t.id = (Database.taggingOf t).map fun x => some (x, v) := by
  have hl := h.linksOf_of_mem (h.mem_on_iff.1 ht).2.2
  rw [Database.taggingById, h.find?_of_on ht, hl]
  show (do return some (← Database.taggingOf t, ← Database.readVersion 4 (.int v))) = _
  cases Database.taggingOf t <;> rfl

/-- A tag with the id is listed on some version, or none is found. -/
theorem listed_or_none (h : Aligned db) (T : Tenant) (i : TagId) :
    (∃ v, ∃ t ∈ db.on T v, t.id = i) ∨ db.taggingById T i = .ok none := by
  cases hf : db.tags.find? fun u => u.id == i && u.tenant == .int T with
  | none =>
    right
    rw [Database.taggingById, hf]
  | some t =>
    left
    -- a tag that is there has a link, and that is on some version
    have hm := List.mem_of_find?_eq_some hf
    have hp := List.find?_some hf
    rw [Bool.and_eq_true, beq_iff_eq, beq_iff_eq] at hp
    obtain ⟨l, hfilter, hlT⟩ := h.paired.linked t hm
    have hl : l ∈ db.links ∧ l.tag = .int t.id := by
      have := List.mem_filter.1 (hfilter ▸ List.mem_singleton_self l)
      exact ⟨this.1, eq_of_beq this.2⟩
    obtain ⟨-, -, -, -, v, hv⟩ := exists_tag h.inStep l hl.1
    have hrow : l = ⟨.int t.id, .int v, .int T⟩ := by
      cases l
      simp_all
    exact ⟨v, t, h.mem_on_iff.2 ⟨hm, hp.2, hrow ▸ hl.1⟩, hp.1⟩

/-- A tag is listed on one version alone. -/
theorem version_unique (h : Aligned db) {u : TagRow} (ht : t ∈ db.on T v) (hu : u ∈ db.on T w) (hid : u.id = t.id) :
    w = v ∧ u = t := by
  obtain ⟨hm, -, hl⟩ := h.mem_on_iff.1 ht
  obtain ⟨hm', -, hl'⟩ := h.mem_on_iff.1 hu
  have hlink := h.eq_of_tag hl' hl (congrArg Cell.int hid)
  exact ⟨Cell.int.inj (congrArg LinkRow.version hlink), h.eq_of_id hm' hm hid⟩

variable {path path' : Option String} {ts ts' : List Tagging}

theorem nodup_ids (h : Aligned db) (hts : List.Forall₂ (TagRow.IsTagging path) (db.on T v) ts) :
    (ts.map Tagging.id).Nodup := by
  rw [TagRow.ids_of_taggings hts]
  exact (h.nodup_on T v).map_on fun t ht u hu hid => (h.version_unique hu ht hid).2

theorem version_of_listed (h : Aligned db) (hts : List.Forall₂ (TagRow.IsTagging path) (db.on T v) ts)
    (hts' : List.Forall₂ (TagRow.IsTagging path') (db.on T w) ts') {x y : Tagging} (hx : x ∈ ts) (hy : y ∈ ts')
    (hid : y.id = x.id) : w = v := by
  obtain ⟨t, ht, htx⟩ := exists_of_mem_right hts hx
  obtain ⟨u, hu, huy⟩ := exists_of_mem_right hts' hy
  exact (h.version_unique ht hu (by rw [← htx.id, ← huy.id, hid])).1

end Aligned

namespace Store

variable {st : Store} {f : File} {v : Version} {t : TagRow} {x : Tagging}

theorem run_taggingById (hb : f.isBlocked st.connection = false) (i : TagId) : (f.run (st.taggingById i)).1 =
    (((f.view st.connection).taggingById st.tenant i).mapError (.storage (.readTaggingById i))).map
      (Option.map (Read.located st)) := by
  rw [taggingById, File.run_bind, run_ask, File.sight, hb]
  simp only [Bool.false_eq_true, ↓reduceIte, Task.answer]
  rcases (f.view st.connection).taggingById st.tenant i with e | _ | ⟨y, w⟩ <;> rfl

/-- **What is listed on a version is found by its id**, but for the path of a placeholder. -/
theorem taggingById_of_listed (hb : f.isBlocked st.connection = false) (h : Aligned (f.view st.connection))
    (ht : t ∈ (f.view st.connection).on st.tenant v) (hx : t.IsTagging (st.locator.path? v) x) :
    (f.run (st.taggingById x.id)).1 = .ok (some (if 0 < v then x else { x with path := none })) := by
  have hfind := h.taggingById_of_on ht
  rw [← hx.id, hx.taggingOf] at hfind
  rw [run_taggingById hb, hfind]
  show Except.ok (some (Read.located st ({ x with path := none }, v))) = _
  by_cases hv : 0 < v
  · rw [if_pos hv, Read.located, Version.isResolvable, decide_eq_true hv, if_pos rfl, ← hx.path]
  · rw [if_neg hv, Read.located, Version.isResolvable, decide_eq_false hv]
    rfl

/-- What a store lists on the versions, and what it finds by the ids. -/
structure Lookups (st : Store) (f : File) (listed : Version → List Tagging) (found : TagId → Option Tagging) :
    Prop where
  lists : ∀ v, (f.run (st.taggings v)).1 = .ok (listed v)
  finds : ∀ i, (f.run (st.taggingById i)).1 = .ok (found i)
  found_of_listed : ∀ v, 0 < v → ∀ t ∈ listed v, found t.id = some t
  /-- Among the tags of the version with its name and its author a tag stands once. -/
  named_once : ∀ v, 0 < v → ∀ t ∈ listed v,
    ∃ ts, (f.run (st.taggingsNamed v t.name (.exactly t.author))).1 = .ok ts ∧ ts.count t = 1
  /-- A tag that is found is listed once, on one version, as it was found but for the path of a placeholder. -/
  listed_of_found : ∀ i t, found i = some t → ∃ w u, (listed w).filter (fun x => x.id == i) = [u] ∧
    t = (if 0 < w then u else { u with path := none }) ∧ ∀ w', (∃ x ∈ listed w', x.id = i) → w' = w

/-- **A store that can read has lists and lookups that agree.** -/
theorem lookups (hb : f.isBlocked st.connection = false) (h : Tidy (f.view st.connection)) :
    ∃ listed found, st.Lookups f listed found := by
  have hal := h.toAligned
  have hlist := fun v => TagRow.exists_taggings (st.locator.path? v) (h.stored_on st.tenant v)
  choose listed hlisted using hlist
  have htaggings := fun v => (taggings_ok_iff hb v _).2 (hlisted v)
  -- a tag that is listed is found, and whatever is found is listed
  have hfind : ∀ v, ∀ x ∈ listed v, (f.run (st.taggingById x.id)).1 =
      .ok (some (if 0 < v then x else { x with path := none })) := by
    intro v x hx
    obtain ⟨t, ht, htx⟩ := exists_of_mem_right (hlisted v) hx
    exact taggingById_of_listed hb hal ht htx
  have hlook : ∀ i, (∃ v, ∃ x ∈ listed v, x.id = i) ∨ (f.run (st.taggingById i)).1 = .ok none := by
    intro i
    rcases hal.listed_or_none st.tenant i with ⟨v, t, ht, hid⟩ | hnone
    · obtain ⟨x, hx, htx⟩ := exists_of_mem_right (hlisted v).flip ht
      exact .inl ⟨v, x, hx, htx.id.trans hid⟩
    · exact .inr (by rw [run_taggingById hb, hnone]; rfl)
  have hany : ∀ i, ∃ x, (f.run (st.taggingById i)).1 = .ok x := by
    intro i
    rcases hlook i with ⟨v, x, hx, rfl⟩ | hnone
    · exact ⟨_, hfind v x hx⟩
    · exact ⟨none, hnone⟩
  choose found hfound using hany
  have hids := fun v => hal.nodup_ids (hlisted v)
  have hof : ∀ v, ∀ x ∈ listed v, found x.id = some (if 0 < v then x else { x with path := none }) :=
    fun v x hx => Except.ok.inj ((hfound x.id).symm.trans (hfind v x hx))
  refine ⟨listed, found, htaggings, hfound, fun v hv t ht => ?_, fun v hv t ht => ?_, fun i t hi => ?_⟩
  · rw [hof v t ht, if_pos hv]
  · have hviews := st.views_joined f v
    rw [hb, if_neg Bool.false_ne_true] at hviews
    refine ⟨_, hviews.sublist t.name (.exactly t.author) _ (htaggings v), ?_⟩
    rw [List.count_filter (by simp [AuthorFilter.admits])]
    exact List.count_eq_one_of_mem (hids v).of_map ht
  · rcases hlook i with ⟨w, u, hu, rfl⟩ | hnone
    · refine ⟨w, u, ?_, Option.some.inj (hi.symm.trans (hof w u hu)), fun w' hw' => ?_⟩
      · refine filter_eq_singleton (hids w).of_map hu fun x hx => ?_
        rw [beq_iff_eq]
        exact ⟨fun hid => List.inj_on_of_nodup_map (hids w) hx hu hid, fun he => he ▸ rfl⟩
      · obtain ⟨x, hx, hid⟩ := hw'
        exact hal.version_of_listed (hlisted w) (hlisted w') hu hx hid
    · rw [hfound, hi] at hnone
      cases hnone

theorem run_taggings_of_isBlocked (hb : f.isBlocked st.connection = true) (v : Version) :
    (f.run (st.taggings v)).1 = .error (.storage (.readTaggings (st.describe v)) .locked) := by
  have hs : f.sight st.connection = .error .locked := if_pos hb
  rw [taggings, File.run_bind_pure, run_ask, hs]
  rfl

theorem run_taggingById_of_isBlocked (hb : f.isBlocked st.connection = true) (i : TagId) :
    (f.run (st.taggingById i)).1 = .error (.storage (.readTaggingById i) .locked) := by
  have hs : f.sight st.connection = .error .locked := if_pos hb
  rw [taggingById, File.run_bind, run_ask, hs]
  rfl

end Store

/-- **Lists and lookups agree.**  Whatever the stores of a session have done, a store that can read finds by its id each
tag that it lists on a version, with the same report, and once among the tags there with its name and its author.  And a
tag that it finds by an id is listed on just one version, once, with the same report but for the path of a
placeholder. -/
theorem Session.lists_and_lookups (faults : List Fault) (l : Locator) (a : LocatorAccess) (now : Time.Instant)
    (seats : List Seat) (spills : Transaction → Bool) (ms : List Move) :
    let f := ((Session.fresh faults l a now seats spills).run ms).file
    ∀ st : Store,
      if f.isBlocked st.connection then
        (∀ v, (f.run (st.taggings v)).1 = .error (.storage (.readTaggings (st.describe v)) .locked)) ∧
          ∀ i, (f.run (st.taggingById i)).1 = .error (.storage (.readTaggingById i) .locked)
      else ∃ listed found, st.Lookups f listed found := by
  intro f st
  have htidy := (Session.tidy_run faults l a now seats spills ms).2 st.connection
  split
  · rename_i hb
    exact ⟨Store.run_taggings_of_isBlocked hb, Store.run_taggingById_of_isBlocked hb⟩
  · rename_i hb
    exact Store.lookups (Bool.eq_false_iff.2 hb) htidy

namespace Session

open Write (someTime plainStore)

def guidedStore : Store := { plainStore with locator := .ofList [(1, "/a")] }

/-- A tag that is listed with its path is found with it. -/
theorem tag_found_as_listed : let f := (patron.run dealings).file
    let t : Tagging := ⟨3, "m", "bob", someTime, some "/a"⟩
    (∃ ts, (f.run (guidedStore.taggings 1)).1 = .ok ts ∧ t ∈ ts) ∧
      (f.run (guidedStore.taggingById 3)).1 = .ok (some t) := by
  intro f t
  have hon : (f.view 0).on 1 1 = [⟨1, "n", "alice", someTime.storedText, .int 1⟩,
      ⟨2, "N", "alice", someTime.storedText, .int 1⟩, ⟨3, "m", "bob", someTime.storedText, .int 1⟩] := by
    rw [Database.on_eq]
    rfl
  have hread := Time.readStored_storedText someTime
  have hts : (f.run (guidedStore.taggings 1)).1 = .ok [⟨1, "n", "alice", someTime, some "/a"⟩,
      ⟨2, "N", "alice", someTime, some "/a"⟩, t] := by
    have hon' : (f.view guidedStore.connection).on guidedStore.tenant 1 = _ := hon
    rw [Store.taggings_ok_iff rfl, hon']
    exact .cons ⟨rfl, rfl, rfl, hread, rfl⟩ (.cons ⟨rfl, rfl, rfl, hread, rfl⟩ (.cons ⟨rfl, rfl, rfl, hread, rfl⟩ .nil))
  have hagree := lists_and_lookups [⟨.tagInsert "bad", .statement, "no"⟩] .empty .map someTime [⟨1, .maxId, true⟩]
    (fun _ => false) dealings guidedStore
  obtain ⟨listed, found, h⟩ := hagree
  have ht : t ∈ listed 1 := by
    rw [Except.ok.inj ((h.lists 1).symm.trans hts)]
    simp
  refine ⟨⟨_, hts, by simp⟩, ?_⟩
  exact (h.finds 3).trans (congrArg Except.ok (h.found_of_listed 1 (by decide) t ht))

end Session
end VersionTags
