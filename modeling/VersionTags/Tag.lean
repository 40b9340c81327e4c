import VersionTags.Time.Instant
/-!
# Tags on resource versions

A resource has immutable versions, each with a number of its own.  A tag is one event: somebody gave a version a name
at a time.  Nothing is merged, so the same name can be on a version many times.  Every tag belongs to a tenant.
-/
namespace VersionTags

/-- The number of a version of a resource. -/
abbrev Version := Int

/-- The number of a tag, given by the store. -/
abbrev TagId := Int

/-- The owner of tags, who sees no one else's. -/
abbrev Tenant := Int

/-- The owner of tags that are written without a tenant. -/
def superTenant : Tenant := -1234

/-- Versions below one are placeholders and stand for no resource. -/
def Version.isResolvable (v : Version) : Bool := decide (0 < v)

/-- A tag to be written. -/
structure TagRecord where
  name : String
  author : String
  taggedAt : Time.Instant
  deriving DecidableEq

/-- A tag as it is reported, with the path of the version it is on where that is known. -/
structure Tagging where
  id : TagId
  name : String
  author : String
  taggedAt : Time.Instant
  path : Option String
  deriving DecidableEq

/-- How many tags of a version have the name. -/
structure TagCount where
  name : String
  count : Nat
  deriving DecidableEq, Repr

/-- Whose tags are looked up. -/
inductive AuthorFilter where
  | any
  | exactly (author : String)
  deriving DecidableEq, Repr

def AuthorFilter.author : AuthorFilter → Option String
  | .any => none
  | .exactly a => some a

def AuthorFilter.ofOption : Option String → AuthorFilter
  | none => .any
  | some a => .exactly a

def AuthorFilter.describe : AuthorFilter → String
  | .any => "any author"
  | .exactly a => a

def AuthorFilter.admits (f : AuthorFilter) (author : String) : Bool :=
  match f with
  | .any => true
  | .exactly a => author == a

/-- Row counts of one tenant. -/
structure Stats where
  tenant : Tenant
  tags : Nat
  taggings : Nat
  versions : Nat
  deriving DecidableEq, Repr

/-- How a store learns the id of the tag row it has just inserted. -/
inductive KeyStrategy where
  /-- The insertion returns it. -/
  | generatedKeys
  /-- It is the greatest id in the table. -/
  | maxId
  deriving DecidableEq, Repr

def KeyStrategy.name : KeyStrategy → String
  | .generatedKeys => "generated-keys"
  | .maxId => "max-id"

end VersionTags
