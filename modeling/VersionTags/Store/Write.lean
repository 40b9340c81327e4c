import VersionTags.Store.Basic
/-!
# Writing and removing tags

Every write is one `File.writeScope`: it happens as a whole or not at all.  A removal takes each tag it names, with
all the tenant's links of that tag, and answers how many rows of the version it named.
-/
namespace VersionTags.Store

/-- Inserts a tag row and learns its id, by the store's strategy. -/
def insertTag (s : Store) (r : TagRecord) : Action TagId := do
  match s.strategy with
  | .generatedKeys => File.execute s.connection (Statement.insertTag s.faults true s.tenant r)
  | .maxId =>
    let _ ← File.execute s.connection (Statement.insertTag s.faults false s.tenant r)
    File.query s.connection Database.greatestId

/-- Inserts a tag row and the link that puts it on the version, and answers the id. -/
def insertTagging (s : Store) (v : Version) (r : TagRecord) : Action TagId := do
  let id ← s.insertTag r
  File.execute s.connection (Statement.insertLink s.faults s.tenant id v)
  return id

/-- Puts one tag on a version, dated `now`, and answers its id. -/
def addTag (s : Store) (now : Time.Instant) (name : String) (v : Version) (author : String) : Operation TagId :=
  run (.addTag name (s.describe v) author) (File.writeScope s.connection (s.insertTagging v ⟨name, author, now⟩))

/-- Puts all the tags on a version, or none. -/
def addTags (s : Store) (v : Version) (rs : List TagRecord) : Operation Unit :=
  run (.addTags (s.describe v)) (File.writeScope s.connection (rs.forM fun r => discard (s.insertTagging v r)))

/-- The tags of a version as records, for copying. -/
def records (s : Store) (v : Version) : Operation (List TagRecord) :=
  s.ask (.readTags (s.describe v)) fun db => db.records s.tenant v

/-- Puts the tags of one version on another as new tags. -/
def copyTags (s : Store) (source target : Version) : Operation Unit := do
  let rs ← s.records source
  s.addTags target rs

/-- Tags belong to versions, not to paths, so moving a resource changes nothing. -/
def moveTags (_ : Store) (_source _target : Version) : Operation Unit := return ()

/-- Deletes a tag by its id, after the tenant's links of it. -/
def deleteTag (s : Store) (id : TagId) : Action Unit := do
  File.execute s.connection (Statement.deleteLinks s.tenant id)
  File.execute s.connection (Statement.deleteTag s.faults s.tenant id)

/-- Removes what is named on a version, one tag after another, and answers how many rows that was. -/
def removeMatching (s : Store) (v : Version) (name : Option String) (a : AuthorFilter) : Action Nat :=
  File.writeScope s.connection do
    let ids ← File.query s.connection fun db => .ok (db.idsToRemove s.tenant v name a)
    ids.forM s.deleteTag
    return ids.length

/-- Removes the tags of a version with the name, in any case. -/
def removeTag (s : Store) (v : Version) (name : String) : Operation Nat :=
  run (.removeTag name (s.describe v)) (s.removeMatching v (some name) .any)

/-- Removes the tags of a version with the name, in any case, that the author gave. -/
def removeTagBy (s : Store) (v : Version) (name author : String) : Operation Nat :=
  run (.removeTagBy name (s.describe v) author) (s.removeMatching v (some name) (.exactly author))

/-- Removes all tags of a version. -/
def purge (s : Store) (v : Version) : Operation Nat := run (.purge v) (s.removeMatching v none .any)

/-! ## Transactions of the caller -/

/-- Opens a transaction; the writes that follow are part of it. -/
def beginTransaction (s : Store) : Operation Unit := run .beginTransaction (File.begin s.connection)

def commit (s : Store) : Operation Unit := run .commitTransaction (File.commit s.connection)

def rollback (s : Store) : Operation Unit := run .rollBackTransaction (File.rollback s.connection)

end VersionTags.Store
