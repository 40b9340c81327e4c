import Mathlib.Data.List.Sort
import VersionTags.Proofs.Session.Paired
import VersionTags.Proofs.Store.Resolution
/-!
# The search by names

A search looks for the tags with any of the names, in any case, goes from them to the versions they are on, and from
those to paths.  What it answers depends on the set of lowercase forms alone, not on how the names are listed
(`Store.search_finds`).  It is the list of the paths of all versions that resolve and bear such a tag, in ascending
order of the versions, where a path that several versions share stands at the first of them (`Database.Finds`).
-/
namespace VersionTags

/-! ## Each value once -/

theorem nodup_eraseDups {α : Type} [BEq α] [LawfulBEq α] : ∀ xs : List α, xs.eraseDups.Nodup
  | [] => List.nodup_nil
  | x :: xs => by
    rw [List.eraseDups_cons, List.nodup_cons, List.mem_eraseDups]
    exact ⟨by simp, nodup_eraseDups _⟩
termination_by xs => xs.length
decreasing_by exact Nat.lt_succ_of_le (List.length_filter_le _ _)

theorem eraseDupsBy_map {α β : Type} (g : α → β) (r : β → β → Bool) : ∀ xs : List α,
    (xs.map g).eraseDupsBy r = (xs.eraseDupsBy fun a b => r (g a) (g b)).map g
  | [] => rfl
  | x :: xs => by
    rw [List.map_cons, List.eraseDupsBy_cons, List.eraseDupsBy_cons, List.filter_map, eraseDupsBy_map g r _,
      List.map_cons]
    rfl
termination_by xs => xs.length
decreasing_by exact Nat.lt_succ_of_le (List.length_filter_le _ _)

namespace Database

/-- The tag is on the version: a link puts it there, and both belong to the tenant.  The link meets the tag by the
integer that it holds, however that is kept. -/
structure Bears (db : Database) (T : Tenant) (v : Version) (t : TagRow) : Prop where
  mem : t ∈ db.tags
  tenant : t.tenant = .int T
  linked : ∃ l ∈ db.links, l.tenant = .int T ∧ l.tag.integer? = some t.id ∧ l.version = .int v

/-- The version bears a tag with one of the names, in any case. -/
def BearsAny (db : Database) (T : Tenant) (names : List String) (v : Version) : Prop :=
  ∃ t, db.Bears T v t ∧ Text.lowercase t.name ∈ names.map Text.lowercase

/-- The paths of the versions that resolve and bear a tag with one of the names, in ascending order of the versions,
each path at its first version. -/
def Finds (db : Database) (T : Tenant) (l : Locator) (names : List String) (ps : List String) : Prop :=
  ∃ vs : List Version, vs.Pairwise (· < ·) ∧ (∀ v, v ∈ vs ↔ 0 < v ∧ (l.path? v).isSome = true ∧ db.BearsAny T names v) ∧
    ps = (vs.filterMap l.path?).eraseDups

variable {db : Database} {T : Tenant} {l : Locator} {names names' ps ps' : List String}

theorem mem_found {c : Cell} : (c ∈ (db.tagsNamed T names).flatMap fun t =>
      (((db.linkIndex T).getD t.id []).map LinkRow.version).reverse) ↔
    ∃ t ∈ db.tags, t.tenant = .int T ∧ Text.lowercase t.name ∈ names.map Text.lowercase ∧
      ∃ k ∈ db.links, k.tenant = .int T ∧ k.tag.integer? = some t.id ∧ k.version = c := by
  simp only [List.mem_flatMap, tagsNamed, List.mem_mergeSort, List.mem_reverse, linkIndex_getD, linksFor, List.mem_map,
    List.mem_filter, Bool.and_eq_true, beq_iff_eq, List.contains_iff_mem]
  constructor
  · rintro ⟨t, ⟨ht, hT, hn⟩, k, ⟨⟨hk, hkT⟩, hid⟩, hc⟩
    exact ⟨t, ht, hT, hn, k, hk, hkT, hid, hc⟩
  · rintro ⟨t, ht, hT, hn, k, hk, hkT, hid, hc⟩
    exact ⟨t, ⟨ht, hT, hn⟩, k, ⟨⟨hk, hkT⟩, hid⟩, hc⟩

theorem exists_map_int : ∀ cs : List Cell, (∀ c ∈ cs, ∃ v, c = .int v) → ∃ vs : List Version, cs = vs.map .int
  | [], _ => ⟨[], rfl⟩
  | c :: cs, h => by
    obtain ⟨v, rfl⟩ := h c List.mem_cons_self
    obtain ⟨vs, rfl⟩ := exists_map_int cs fun d hd => h d (List.mem_cons_of_mem _ hd)
    exact ⟨v :: vs, rfl⟩

/-- Versions each once, in ascending order. -/
def sorted (vs : List Version) : List Version := vs.eraseDups.mergeSort fun a b => decide (a ≤ b)

theorem mem_sorted {v : Version} {vs : List Version} : v ∈ sorted vs ↔ v ∈ vs := by
  rw [sorted, List.mem_mergeSort, List.mem_eraseDups]

theorem pairwise_sorted (vs : List Version) : (sorted vs).Pairwise (· < ·) := by
  have htrans : ∀ a b c : Version, decide (a ≤ b) = true → decide (b ≤ c) = true → decide (a ≤ c) = true := by
    simp only [decide_eq_true_eq]
    exact fun _ _ _ => Int.le_trans
  have htotal : ∀ a b : Version, (decide (a ≤ b) || decide (b ≤ a)) = true := by
    simp only [Bool.or_eq_true, decide_eq_true_eq]
    exact Int.le_total
  have hle : (sorted vs).Pairwise fun a b => decide (a ≤ b) = true := List.pairwise_mergeSort htrans htotal _
  have hne : (sorted vs).Nodup := (List.mergeSort_perm _ _).nodup_iff.2 (nodup_eraseDups vs)
  exact (hle.and hne).imp fun h => lt_of_le_of_ne (of_decide_eq_true h.1) h.2

/-- Cells that hold versions are sorted as the versions are. -/
theorem sorted_cells (vs : List Version) :
    ((vs.map Cell.int).eraseDupsBy Cell.same).mergeSort Cell.le = (sorted vs).map Cell.int := by
  have hsame : (fun a b : Version => (Cell.int a).same (.int b)) = fun a b => a == b := by
    funext a b
    exact Aligned.same_int b a
  have hmap : (sorted vs).map Cell.int = (vs.eraseDups.map Cell.int).mergeSort Cell.le :=
    List.map_mergeSort fun a _ b _ => rfl
  rw [hmap, eraseDupsBy_map, hsame]
  rfl

/-- **The versions that a search finds ascend**, and are those that bear a tag with one of the names. -/
theorem versionsWithAny_ok (hv : ∀ k ∈ db.links, k.tenant = .int T → ∃ v, k.version = .int v) (names : List String) :
    ∃ vs, db.versionsWithAny T names = .ok vs ∧ vs.Pairwise (· < ·) ∧ ∀ v, v ∈ vs ↔ db.BearsAny T names v := by
  obtain ⟨ws, hws⟩ := exists_map_int ((db.tagsNamed T names).flatMap fun t =>
      (((db.linkIndex T).getD t.id []).map LinkRow.version).reverse) fun c hc => by
    obtain ⟨t, -, -, -, k, hk, hT, -, rfl⟩ := mem_found.1 hc
    exact hv k hk hT
  refine ⟨sorted ws, ?_, pairwise_sorted ws, fun v => ?_⟩
  · show (List.mergeSort (List.eraseDupsBy _ _) _).mapM _ = _
    rw [hws, sorted_cells, mapM_ok_iff, List.forall₂_map_left_iff, List.forall₂_same]
    exact fun v _ => rfl
  · have hc : v ∈ ws ↔ Cell.int v ∈ ws.map Cell.int := by simp
    rw [mem_sorted, hc, ← hws, mem_found]
    constructor
    · rintro ⟨t, ht, hT, hn, hk⟩
      exact ⟨t, ⟨ht, hT, hk⟩, hn⟩
    · rintro ⟨t, ⟨ht, hT, hk⟩, hn⟩
      exact ⟨t, ht, hT, hn, hk⟩

theorem BearsAny.congr (h : ∀ x, x ∈ names.map Text.lowercase ↔ x ∈ names'.map Text.lowercase) {v : Version} :
    db.BearsAny T names v ↔ db.BearsAny T names' v :=
  exists_congr fun t => and_congr_right fun _ => h (Text.lowercase t.name)

theorem bearsAny_perm (h : names.Perm names') {v : Version} : db.BearsAny T names v ↔ db.BearsAny T names' v :=
  BearsAny.congr fun _ => (h.map Text.lowercase).mem_iff

theorem bearsAny_append {ns ns' : List String} {v : Version} :
    db.BearsAny T (ns ++ ns') v ↔ db.BearsAny T ns v ∨ db.BearsAny T ns' v := by
  simp only [BearsAny, List.map_append, List.mem_append, and_or_left, exists_or]

namespace Finds

/-- **What is found depends on the lowercase forms of the names alone.** -/
theorem congr (h : ∀ x, x ∈ names.map Text.lowercase ↔ x ∈ names'.map Text.lowercase) (hf : db.Finds T l names ps) :
    db.Finds T l names' ps := by
  obtain ⟨vs, hvs, hmem, rfl⟩ := hf
  refine ⟨vs, hvs, fun v => ?_, rfl⟩
  rw [hmem, BearsAny.congr h]

theorem unique (hf : db.Finds T l names ps) (hf' : db.Finds T l names ps') : ps = ps' := by
  obtain ⟨vs, hvs, hmem, rfl⟩ := hf
  obtain ⟨ws, hws, hmem', rfl⟩ := hf'
  -- two lists that ascend and have the same members are one
  have hnodup : ∀ {us : List Version}, us.Pairwise (· < ·) → us.Nodup := fun h => h.imp fun hlt => Int.ne_of_lt hlt
  have hperm : vs.Perm ws :=
    (List.perm_ext_iff_of_nodup (hnodup hvs) (hnodup hws)).2 fun v => (hmem v).trans (hmem' v).symm
  rw [hperm.eq_of_pairwise (fun a b _ _ hab hba => absurd hab (Int.lt_asymm hba)) hvs hws]

theorem mem_iff (hf : db.Finds T l names ps) {p : String} :
    p ∈ ps ↔ ∃ v, 0 < v ∧ l.path? v = some p ∧ db.BearsAny T names v := by
  obtain ⟨vs, -, hmem, rfl⟩ := hf
  rw [List.mem_eraseDups, List.mem_filterMap]
  constructor
  · rintro ⟨v, hv, hp⟩
    obtain ⟨hpos, -, hb⟩ := (hmem v).1 hv
    exact ⟨v, hpos, hp, hb⟩
  · rintro ⟨v, hpos, hp, hb⟩
    exact ⟨v, (hmem v).2 ⟨hpos, by rw [hp]; rfl, hb⟩, hp⟩

theorem nodup (hf : db.Finds T l names ps) : ps.Nodup := by
  obtain ⟨vs, -, -, rfl⟩ := hf
  exact nodup_eraseDups _

theorem of_nil (hf : db.Finds T l [] ps) : ps = [] := by
  rw [List.eq_nil_iff_forall_not_mem]
  intro p hp
  obtain ⟨v, -, -, t, -, hn⟩ := hf.mem_iff.1 hp
  exact List.not_mem_nil hn

end Finds
end Database

namespace Store

variable {st : Store} {f : File} {names : List String}

theorem finds_pathsOf {vs : List Version} {db : Database} (hvs : vs.Pairwise (· < ·))
    (hmem : ∀ v, v ∈ vs ↔ db.BearsAny st.tenant names v) :
    db.Finds st.tenant st.locator names (Read.pathsOf st vs) := by
  rw [Read.pathsOf_eq]
  refine ⟨(vs.filter Version.isResolvable).filter fun v => (st.locator.path? v).isSome,
    (hvs.filter _).filter _, fun v => ?_, ?_⟩
  · simp only [List.mem_filter, hmem, Version.isResolvable, decide_eq_true_eq]
    exact ⟨fun h => ⟨h.1.2, h.2, h.1.1⟩, fun h => ⟨⟨h.2.2, h.1⟩, h.2.1⟩⟩
  · have hfound : ∀ us : List Version, (us.filter fun v => (st.locator.path? v).isSome).filterMap st.locator.path? =
        us.filterMap st.locator.path? := by
      intro us
      rw [List.filterMap_filter]
      refine List.filterMap_congr fun v _ => ?_
      cases st.locator.path? v <;> rfl
    rw [hfound]

/-- **A search answers what there is to find.** -/
theorem pathsWithAny_ok (st : Store) (hb : f.isBlocked st.connection = false)
    (hv : ∀ k ∈ (f.view st.connection).links, k.tenant = .int st.tenant → ∃ v, k.version = .int v)
    (hn : names.length < maxValues) : ∃ ps, (f.run (st.pathsWithAny names)).1 = .ok ps ∧
      (f.view st.connection).Finds st.tenant st.locator names ps := by
  obtain ⟨vs, hvs, hasc, hmem⟩ := Database.versionsWithAny_ok hv names
  refine ⟨Read.pathsOf st vs, ?_, finds_pathsOf hasc hmem⟩
  by_cases hnil : names = []
  · subst hnil
    rw [(finds_pathsOf hasc hmem).of_nil]
    rfl
  · rw [pathsWithAny]
    simp only [if_neg hnil, if_neg (Nat.not_le.2 hn)]
    show (f.run (st.ask (.findPaths names) _ >>= fun vs => pure (Read.pathsOf st vs))).1 = _
    rw [File.run_bind_pure, run_ask_of_sight hb, hvs]
    rfl

/-- What a search for these names comes to: these paths. -/
structure Search (st : Store) (f : File) (names ps : List String) : Prop where
  answer : (f.run (st.pathsWithAny names)).1 = .ok ps
  finds : (f.view st.connection).Finds st.tenant st.locator names ps
  nodup : ps.Nodup
  /-- It makes no difference whether the map is asked or a function. -/
  access : ∀ a : LocatorAccess, (f.run (pathsWithAny { st with access := a } names)).1 = .ok ps
  /-- Nor does it in what order the names are listed, how often, or in what case. -/
  respelled : ∀ names' : List String, names'.length < maxValues →
    (∀ x, x ∈ names.map Text.lowercase ↔ x ∈ names'.map Text.lowercase) →
    (f.run (st.pathsWithAny names')).1 = .ok ps
  /-- When the names are searched for in two parts, the same paths are found. -/
  union : ∀ ns ns' : List String, names.Perm (ns ++ ns') → ∃ qs rs, (f.run (st.pathsWithAny ns)).1 = .ok qs ∧
    (f.run (st.pathsWithAny ns')).1 = .ok rs ∧ ∀ p, p ∈ ps ↔ p ∈ qs ∨ p ∈ rs

/-- **A search finds the paths of all versions that resolve and bear a tag with one of the names**, where the tenant's
links are on versions that are integers.  For no name it finds none, and a store that cannot read fails for any
other. -/
theorem search_finds (st : Store) (f : File)
    (hv : ∀ k ∈ (f.view st.connection).links, k.tenant = .int st.tenant → ∃ v, k.version = .int v) (names : List String)
    (hn : names.length < maxValues) :
    (names = [] → (f.run (st.pathsWithAny names)).1 = .ok []) ∧
      if f.isBlocked st.connection then
        names ≠ [] → (f.run (st.pathsWithAny names)).1 = .error (.storage (.findPaths names) .locked)
      else ∃ ps, st.Search f names ps := by
  refine ⟨fun hnil => by rw [hnil]; rfl, ?_⟩
  split
  · rename_i hb
    intro hne
    rw [pathsWithAny]
    simp only [if_neg hne, if_neg (Nat.not_le.2 hn)]
    show (f.run (st.ask (.findPaths names) _ >>= fun vs => pure (Read.pathsOf st vs))).1 = _
    rw [File.run_bind_pure, run_ask, File.sight, if_pos hb]
    rfl
  · rename_i hb
    have hopen : f.isBlocked st.connection = false := Bool.eq_false_iff.2 hb
    obtain ⟨ps, hps, hfinds⟩ := pathsWithAny_ok st hopen hv hn
    refine ⟨ps, hps, hfinds, hfinds.nodup, fun a => ?_, fun names' hn' hsame => ?_, fun ns ns' hperm => ?_⟩
    · obtain ⟨qs, hqs, hfinds'⟩ := pathsWithAny_ok { st with access := a } hopen hv hn
      rw [hqs, hfinds.unique hfinds']
    · obtain ⟨qs, hqs, hfinds'⟩ := pathsWithAny_ok st hopen hv hn'
      rw [hqs, (hfinds.congr hsame).unique hfinds']
    · have hlen : ns.length + ns'.length = names.length := by rw [hperm.length_eq, List.length_append]
      obtain ⟨qs, hqs, hfirst⟩ := pathsWithAny_ok st hopen hv (show ns.length < maxValues by omega)
      obtain ⟨rs, hrs, hsecond⟩ := pathsWithAny_ok st hopen hv (show ns'.length < maxValues by omega)
      refine ⟨qs, rs, hqs, hrs, fun p => ?_⟩
      rw [hfinds.mem_iff, hfirst.mem_iff, hsecond.mem_iff]
      simp only [Database.bearsAny_perm hperm, Database.bearsAny_append, and_or_left, exists_or]

open Write (plainStore)

/-- A store with one path for two versions, and one for a placeholder. -/
def sharingStore : Store := { plainStore with locator := .ofList [(0, "/ghost"), (5, "/b"), (6, "/a"), (7, "/b")] }

/-- Tables with a name in two cases, on a placeholder as well. -/
def sharingTables : Database :=
  .ofRows [⟨1, "Draft", "alice", "", .int 1⟩, ⟨2, "draft", "bob", "", .int 1⟩, ⟨3, "final", "alice", "", .int 1⟩]
    [⟨.int 1, .int 7, .int 1⟩, ⟨.int 2, .int 0, .int 1⟩, ⟨.int 2, .int 5, .int 1⟩, ⟨.int 3, .int 6, .int 1⟩]

theorem links_sharingTables : sharingTables.links =
    [⟨.int 3, .int 6, .int 1⟩, ⟨.int 2, .int 5, .int 1⟩, ⟨.int 2, .int 0, .int 1⟩, ⟨.int 1, .int 7, .int 1⟩] := rfl

theorem bearsAny_sharingTables (v : Version) :
    sharingTables.BearsAny 1 ["DRAFT", "final"] v ↔ v = 6 ∨ v = 5 ∨ v = 0 ∨ v = 7 := by
  constructor
  · rintro ⟨t, ⟨-, -, l, hl, -, -, hlv⟩, -⟩
    simp only [links_sharingTables, List.mem_cons, List.not_mem_nil, or_false] at hl
    rcases hl with rfl | rfl | rfl | rfl <;> cases hlv <;> decide
  · have hbears : ∀ t ∈ sharingTables.tags, ∀ l ∈ sharingTables.links, l.tag = .int t.id → l.version = .int v →
        sharingTables.BearsAny 1 ["DRAFT", "final"] v := by
      intro t ht l hl hid hlv
      have hall : ∀ t ∈ sharingTables.tags,
          t.tenant = .int 1 ∧ Text.lowercase t.name ∈ ["DRAFT", "final"].map Text.lowercase := by
        decide +kernel
      have hown : ∀ l ∈ sharingTables.links, l.tenant = .int 1 := by decide
      exact ⟨t, ⟨ht, (hall t ht).1, l, hl, hown l hl, by rw [hid]; rfl, hlv⟩, (hall t ht).2⟩
    rintro (rfl | rfl | rfl | rfl)
    · exact hbears _ List.mem_cons_self _ List.mem_cons_self rfl rfl
    · exact hbears ⟨2, "draft", "bob", "", .int 1⟩ (by decide) ⟨.int 2, .int 5, .int 1⟩ (by decide) rfl rfl
    · exact hbears ⟨2, "draft", "bob", "", .int 1⟩ (by decide) ⟨.int 2, .int 0, .int 1⟩ (by decide) rfl rfl
    · exact hbears ⟨1, "Draft", "alice", "", .int 1⟩ (by decide) ⟨.int 1, .int 7, .int 1⟩ (by decide) rfl rfl

/-- Names in another case find both versions of one path, at the first of them, and not the placeholder. -/
theorem search_in_other_case : sharingStore.Search (.ofDatabase sharingTables) ["DRAFT", "final"] ["/b", "/a"] := by
  have hv : ∀ k ∈ sharingTables.links, k.tenant = .int sharingStore.tenant → ∃ v, k.version = .int v := by
    intro k hk _
    simp only [links_sharingTables, List.mem_cons, List.not_mem_nil, or_false] at hk
    rcases hk with rfl | rfl | rfl | rfl <;> exact ⟨_, rfl⟩
  have hfinds : sharingTables.Finds 1 sharingStore.locator ["DRAFT", "final"] ["/b", "/a"] := by
    refine ⟨[5, 6, 7], by decide, fun v => ?_, by decide +kernel⟩
    rw [bearsAny_sharingTables]
    constructor
    · intro hm
      simp only [List.mem_cons, List.not_mem_nil, or_false] at hm
      rcases hm with rfl | rfl | rfl <;> decide +kernel
    · rintro ⟨hpos, -, rfl | rfl | rfl | rfl⟩
      · decide
      · decide
      · cases hpos
      · decide
  obtain ⟨-, ps, h⟩ := search_finds sharingStore (.ofDatabase sharingTables) hv ["DRAFT", "final"] (by decide)
  obtain rfl : ps = ["/b", "/a"] := h.finds.unique hfinds
  exact h

end Store
end VersionTags
