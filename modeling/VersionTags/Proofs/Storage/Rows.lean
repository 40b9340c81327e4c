import VersionTags.Storage.Query
import VersionTags.Proofs.Store.Effect
/-!
# The rows of one tenant

Two databases may hold the same rows of a tenant and differ in all others, in their ids as well (`Database.SameRows`).
No query of the tenant tells them apart, since each goes through the tenant's rows of both tables only, in whatever way
it goes.  A change by the tenant keeps them so, and a change by another tenant keeps the tenant's rows.
-/
namespace VersionTags.Database

def tagsFor (db : Database) (T : Tenant) : List TagRow := db.tags.filter fun t => t.tenant == .int T

def linksFor (db : Database) (T : Tenant) : List LinkRow := db.links.filter fun l => l.tenant == .int T

/-- Two databases hold the same rows of the tenant, in the same order. -/
structure SameRows (T : Tenant) (a b : Database) : Prop where
  tags : a.tagsFor T = b.tagsFor T
  links : a.linksFor T = b.linksFor T

/-! ## Queries by the tenant's rows -/

section

variable (db : Database) (T : Tenant)

theorem linksOn_eq (v : Version) :
    db.linksOn T v = ((db.linksFor T).filter fun l => l.version.same (.int v)).reverse := by
  simp [linksOn, linksFor, List.filter_filter, Bool.and_comm]

theorem tagsOf_eq (l : LinkRow) : db.tagsOf T l = (db.tagsFor T).filter fun t => l.tag == .int t.id := by
  simp [tagsOf, tagsFor, List.filter_filter, Bool.and_comm]

theorem linkIndex_getD (id : TagId) :
    (db.linkIndex T).getD id [] = (db.linksFor T).filter fun l => l.tag.integer? == some id := by
  rw [linkIndex, index_getD, linksFor, List.filter_filter]
  refine List.filter_congr fun l _ => ?_
  cases hl : l.tenant == .int T <;> simp

theorem tagsNamed_eq (names : List String) : db.tagsNamed T names =
    ((db.tagsFor T).filter fun t => (names.map Text.lowercase).contains (Text.lowercase t.name)).mergeSort fun t u =>
      decide (t.name < u.name) || t.name == u.name && decide (t.id ≤ u.id) := by
  simp [tagsNamed, tagsFor, List.filter_filter, Bool.and_comm]

theorem find?_tag (id : TagId) :
    db.tags.find? (fun t => t.id == id && t.tenant == .int T) = (db.tagsFor T).find? fun t => t.id == id := by
  rw [tagsFor, List.find?_filter]
  congr 1
  funext t
  rw [Bool.eq_iff_iff]
  simp [and_comm]

theorem stats_eq : db.stats T = ⟨T, (db.tagsFor T).length, (db.linksFor T).length,
    (Std.HashSet.ofList ((db.linksFor T).map fun l => l.version.canonical)).size⟩ := by
  simp [stats, tagsFor, linksFor, List.countP_eq_length_filter]

/-- What is left of the rows of a tenant is told by the rows of the tenant. -/
theorem tagsFor_keepTags (keep : TagRow → Bool) : (db.keepTags keep).tagsFor T = (db.tagsFor T).filter keep := by
  simp only [tagsFor, keepTags, List.filter_filter, Bool.and_comm]

theorem linksFor_keepLinks (keep : LinkRow → Bool) : (db.keepLinks keep).linksFor T = (db.linksFor T).filter keep := by
  simp only [linksFor, keepLinks, List.filter_filter, Bool.and_comm]

theorem tagsFor_id (id : TagId) : (db.tags.filter fun t => t.tenant == .int T && t.id == id) =
    (db.tagsFor T).filter fun t => t.id == id := by
  simp only [tagsFor, List.filter_filter, Bool.and_comm]

end

namespace SameRows

variable {T : Tenant} {a b c : Database}

theorem refl (T : Tenant) (a : Database) : SameRows T a a := ⟨rfl, rfl⟩

theorem symm (h : SameRows T a b) : SameRows T b a := ⟨h.tags.symm, h.links.symm⟩

theorem trans (h : SameRows T a b) (h' : SameRows T b c) : SameRows T a c :=
  ⟨h.tags.trans h'.tags, h.links.trans h'.links⟩

theorem on (h : SameRows T a b) (v : Version) : a.on T v = b.on T v := by
  have ht : a.tagsOf T = b.tagsOf T := by
    funext l
    rw [tagsOf_eq, tagsOf_eq, h.tags]
  rw [on_eq, on_eq, linksOn_eq, linksOn_eq, h.links, ht]

theorem names (h : SameRows T a b) (v : Version) : a.names T v = b.names T v := by
  unfold Database.names
  rw [h.on]

theorem counts (h : SameRows T a b) (v : Version) : a.counts T v = b.counts T v := by
  unfold Database.counts
  rw [h.names]

theorem countsPage (h : SameRows T a b) (v : Version) (p : Page) : a.countsPage T v p = b.countsPage T v p := by
  unfold Database.countsPage
  rw [h.counts]

theorem records (h : SameRows T a b) (v : Version) : a.records T v = b.records T v := by
  unfold Database.records
  rw [h.on]

theorem idsToRemove (h : SameRows T a b) (v : Version) (name : Option String) (x : AuthorFilter) :
    a.idsToRemove T v name x = b.idsToRemove T v name x := by
  unfold Database.idsToRemove
  rw [h.on]

theorem versionsWithAny (h : SameRows T a b) (names : List String) :
    a.versionsWithAny T names = b.versionsWithAny T names := by
  have hn : a.tagsNamed T names = b.tagsNamed T names := by rw [tagsNamed_eq, tagsNamed_eq, h.tags]
  have hl : ∀ id, (a.linkIndex T).getD id [] = (b.linkIndex T).getD id [] := by
    intro id
    rw [linkIndex_getD, linkIndex_getD, h.links]
  simp only [Database.versionsWithAny, hn, hl]

theorem taggingById (h : SameRows T a b) (id : TagId) : a.taggingById T id = b.taggingById T id := by
  unfold Database.taggingById linksOf
  rw [find?_tag, find?_tag, linkIndex_getD, linkIndex_getD, h.tags, h.links]

theorem stats (h : SameRows T a b) : a.stats T = b.stats T := by
  rw [stats_eq, stats_eq, h.tags, h.links]

theorem keepTags (h : SameRows T a b) (keep : TagRow → Bool) : SameRows T (a.keepTags keep) (b.keepTags keep) :=
  ⟨by rw [tagsFor_keepTags, tagsFor_keepTags, h.tags], h.links⟩

theorem keepLinks (h : SameRows T a b) (keep : LinkRow → Bool) : SameRows T (a.keepLinks keep) (b.keepLinks keep) :=
  ⟨h.tags, by rw [linksFor_keepLinks, linksFor_keepLinks, h.links]⟩

/-! ## Changes by another tenant -/

variable {U : Tenant}

theorem of_withTagging (hU : U ≠ T) (db : Database) (v : Version) (r : TagRecord) :
    SameRows T (db.withTagging U v r) db := by
  constructor <;> simp [tagsFor, linksFor, hU]

theorem of_withTaggings (hU : U ≠ T) (v : Version) : ∀ (rs : List TagRecord) (db : Database),
    SameRows T (db.withTaggings U v rs) db
  | [], db => refl T db
  | r :: rs, db => (of_withTaggings hU v rs (db.withTagging U v r)).trans (of_withTagging hU db v r)

theorem of_without (hU : U ≠ T) (db : Database) (ids : List TagId) : SameRows T (db.without U ids) db where
  tags := by
    refine (tagsFor_keepTags _ T _).trans (List.filter_eq_self.2 fun t ht => ?_)
    have hT : t.tenant = .int T := eq_of_beq (List.mem_filter.1 ht).2
    simp [hT, hU.symm]
  links := by
    refine (linksFor_keepLinks db T _).trans (List.filter_eq_self.2 fun l hl => ?_)
    have hT : l.tenant = .int T := eq_of_beq (List.mem_filter.1 hl).2
    simp [hT, hU.symm]

end SameRows
end VersionTags.Database
