import VersionTags.Tag
/-!
# From versions to paths

A `Locator` says under which path a version is found now.  `Locator.paths` looks up many versions at once in the map
itself, and `pathsBy` does the same through any function that looks up one; the two agree.
-/
namespace VersionTags

/-- A map from versions to paths: no version occurs twice. -/
structure Locator where
  entries : List (Version × String)
  nodup : (entries.map Prod.fst).Nodup
  deriving DecidableEq, Repr

/-- Resolves many versions one by one.  Versions without a path are left out, and none occurs twice. -/
def pathsBy (path? : Version → Option String) (vs : List Version) : List (Version × String) :=
  vs.eraseDups.filterMap fun v => (path? v).map fun p => (v, p)

namespace Locator

def empty : Locator := ⟨[], List.nodup_nil⟩

/-- The path of a version. -/
def path? (l : Locator) (v : Version) : Option String := l.entries.lookup v

theorem nodup_without (l : Locator) (v : Version) :
    ((l.entries.filter fun e => e.1 != v).map Prod.fst).Nodup :=
  l.nodup.sublist (List.filter_sublist.map Prod.fst)

theorem not_mem_without (l : Locator) (v : Version) :
    v ∉ (l.entries.filter fun e => e.1 != v).map Prod.fst := by
  simp

/-- The map without a version. -/
def erase (l : Locator) (v : Version) : Locator := ⟨l.entries.filter fun e => e.1 != v, l.nodup_without v⟩

/-- The map with a path for a version in place of any it had. -/
def insert (l : Locator) (v : Version) (p : String) : Locator where
  entries := l.entries.filter (fun e => e.1 != v) ++ [(v, p)]
  nodup := by
    rw [List.map_append]
    refine List.nodup_append.2 ⟨l.nodup_without v, by simp, fun a ha b hb hab => ?_⟩
    rw [hab, List.mem_singleton.1 hb] at ha
    exact l.not_mem_without v ha

def ofList (es : List (Version × String)) : Locator := es.foldl (fun l e => l.insert e.1 e.2) empty

def size (l : Locator) : Nat := l.entries.length

def isEmpty (l : Locator) : Bool := l.size == 0

/-- Resolves many versions against the map. -/
def paths (l : Locator) (vs : List Version) : List (Version × String) :=
  vs.eraseDups.filterMap fun v => l.entries.find? fun e => e.1 == v

/-- The entries in the order of their versions. -/
def sorted (l : Locator) : List (Version × String) := l.entries.mergeSort fun a b => decide (a.1 ≤ b.1)

end Locator

/-- How a store reaches the paths: the map itself, or a function that looks up one version. -/
inductive LocatorAccess where
  | map
  | function
  deriving DecidableEq, Repr

def Locator.resolve (l : Locator) : LocatorAccess → List Version → List (Version × String)
  | .map => l.paths
  | .function => pathsBy l.path?

end VersionTags
