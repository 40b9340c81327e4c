import Std.Data.HashMap
import VersionTags.Tag
import VersionTags.Storage.Cell
/-!
# The tables

Two tables hold everything.  A tag row is a tag with its tenant; a link row puts a tag on a version and has a tenant
of its own.  The latest row stands first, so that a row is put in at the front.  `lastId` is the greatest id a tag row
has ever had, and at least 0, so that an id is never given twice; no row has a greater one.

A read of a tenant goes through the tables in one of two ways, both in the order in which the links were put in.
`Database.on` starts from the links of a version and goes to the tags that they name, and `Database.linksOf` starts
from a tag and goes to its links.  A link names the tag whose id it holds; the least of all ids is also met, from the
side of the tag, when it is kept as a real number.

Both go by an index that is made once for a read, so that a read takes a time in proportion to the rows.
-/
namespace VersionTags

structure TagRow where
  id : TagId
  name : String
  author : String
  time : String
  tenant : Cell
  deriving DecidableEq, Repr

structure LinkRow where
  tag : Cell
  version : Cell
  tenant : Cell
  deriving DecidableEq, Repr

structure Database where
  tags : List TagRow
  links : List LinkRow
  lastId : Int
  lastId_nonneg : 0 ≤ lastId
  id_le : ∀ t ∈ tags, t.id ≤ lastId
  deriving DecidableEq, Repr

namespace Database

def empty : Database := ⟨[], [], 0, Int.le_refl 0, by simp⟩

/-! ## Reading -/

/-- Rows by the ids they have, each id with its rows in their order. -/
def index {α : Type} (id? : α → Option TagId) (rows : List α) : Std.HashMap TagId (List α) :=
  rows.foldr (fun r m =>
    match id? r with
    | some id => m.alter id fun rs => some (r :: rs.getD [])
    | none => m) ∅

theorem index_getD {α : Type} (id? : α → Option TagId) (rows : List α) (id : TagId) :
    (index id? rows).getD id [] = rows.filter fun r => id? r == some id := by
  induction rows with
  | nil => simp [index]
  | cons r rows ih =>
    have step : index id? (r :: rows) = match id? r with
      | some j => (index id? rows).alter j fun rs => some (r :: rs.getD [])
      | none => index id? rows := rfl
    rw [step, List.filter_cons]
    cases h : id? r with
    | none => simp [ih]
    | some j =>
      by_cases hj : j = id
      · subst hj
        simp [← ih, Std.HashMap.getD_eq_getD_getElem?]
      · simp [Std.HashMap.getD_alter, hj, ih]

/-- The tenant's tag rows by id. -/
def tagIndex (db : Database) (T : Tenant) : Std.HashMap TagId (List TagRow) :=
  index (fun t => if t.tenant == .int T then some t.id else none) db.tags

/-- The tenant's link rows by the id of their tag, the latest first. -/
def linkIndex (db : Database) (T : Tenant) : Std.HashMap TagId (List LinkRow) :=
  index (fun l => if l.tenant == .int T then l.tag.integer? else none) db.links

/-- The tag rows of the tenant that a link names. -/
def tagsOf (db : Database) (T : Tenant) (l : LinkRow) : List TagRow :=
  db.tags.filter fun t => t.tenant == .int T && l.tag == .int t.id

/-- The tenant's links on a version. -/
def linksOn (db : Database) (T : Tenant) (v : Version) : List LinkRow :=
  (db.links.filter fun l => l.tenant == .int T && l.version.same (.int v)).reverse

/-- The tenant's tags on a version, in the order of their links. -/
def on (db : Database) (T : Tenant) (v : Version) : List TagRow :=
  let tags := db.tagIndex T
  (db.linksOn T v).flatMap fun l =>
    match l.tag with
    | .int id => tags.getD id []
    | _ => []

/-- The tenant's links of a tag. -/
def linksOf (db : Database) (T : Tenant) (id : TagId) : List LinkRow := ((db.linkIndex T).getD id []).reverse

theorem on_eq (db : Database) (T : Tenant) (v : Version) : db.on T v = (db.linksOn T v).flatMap (db.tagsOf T) := by
  have step : (fun l : LinkRow => match l.tag with
      | .int id => (db.tagIndex T).getD id []
      | _ => []) = db.tagsOf T := by
    funext l
    unfold tagsOf
    cases h : l.tag with
    | int id =>
      simp only [tagIndex, index_getD]
      congr 1
      funext t
      by_cases ht : t.tenant = .int T
      · rw [Bool.eq_iff_iff]
        simp [ht, @eq_comm _ t.id id]
      · simp [ht]
    | _ => simp
  rw [← step]
  rfl

/-! ## Changing -/

/-- The tables with one more tag row under its own id. -/
def withTag (db : Database) (t : TagRow) : Database where
  tags := t :: db.tags
  links := db.links
  lastId := max db.lastId t.id
  lastId_nonneg := Int.le_trans db.lastId_nonneg (Int.le_max_left _ _)
  id_le := by
    intro u hu
    rcases List.mem_cons.1 hu with hu | hu
    · rw [hu]
      exact Int.le_max_right _ _
    · exact Int.le_trans (db.id_le u hu) (Int.le_max_left _ _)

/-- The tables with only those tag rows that satisfy `keep`. -/
def keepTags (db : Database) (keep : TagRow → Bool) : Database where
  tags := db.tags.filter keep
  links := db.links
  lastId := db.lastId
  lastId_nonneg := db.lastId_nonneg
  id_le t ht := db.id_le t (List.mem_filter.1 ht).1

/-- The tables with only those link rows that satisfy `keep`. -/
def keepLinks (db : Database) (keep : LinkRow → Bool) : Database := { db with links := db.links.filter keep }

/-- The tables with one more link row. -/
def withLink (db : Database) (l : LinkRow) : Database := { db with links := l :: db.links }

/-- Tables filled with given rows, one after another. -/
def ofRows (tags : List TagRow) (links : List LinkRow) : Database :=
  links.foldl withLink (tags.foldl withTag empty)

end Database
end VersionTags
