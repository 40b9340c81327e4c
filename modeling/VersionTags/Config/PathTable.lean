/-!
# Tables of paths

A configuration keeps paths under version numbers as they are written.  A `PathTable` holds the pairs in strictly
ascending order of their keys, so that no key stands twice; of two pairs with one key the later takes the place of the
earlier.
-/
namespace VersionTags

/-- The order of keys, by code points. -/
abbrev KeyLt (a b : String × String) : Prop := a.1 < b.1

structure PathTable where
  entries : List (String × String)
  sorted : entries.Pairwise KeyLt
  deriving DecidableEq, Repr

namespace PathTable

def empty : PathTable := ⟨[], .nil⟩

/-- Puts a pair where its key belongs. -/
def insertSorted (p : String × String) : List (String × String) → List (String × String)
  | [] => [p]
  | q :: rest =>
    if p.1 < q.1 then p :: q :: rest
    else if q.1 < p.1 then q :: insertSorted p rest
    else p :: rest

theorem mem_of_mem_insertSorted {p x : String × String} {l : List (String × String)} (h : x ∈ insertSorted p l) :
    x = p ∨ x ∈ l := by
  induction l with
  | nil => simpa [insertSorted] using h
  | cons q rest ih =>
    rw [insertSorted] at h
    split at h
    · simpa using h
    · split at h
      · rcases List.mem_cons.1 h with rfl | h
        · simp
        · rcases ih h with rfl | h <;> simp [*]
      · rcases List.mem_cons.1 h with rfl | h <;> simp [*]

theorem sorted_insertSorted (p : String × String) {l : List (String × String)} (h : l.Pairwise KeyLt) :
    (insertSorted p l).Pairwise KeyLt := by
  induction l with
  | nil => simp [insertSorted]
  | cons q rest ih =>
    have hq := List.pairwise_cons.1 h
    rw [insertSorted]
    split
    · rename_i hpq
      refine List.pairwise_cons.2 ⟨fun x hx => ?_, h⟩
      rcases List.mem_cons.1 hx with rfl | hx
      · exact hpq
      · exact String.lt_trans hpq (hq.1 x hx)
    · rename_i hpq
      split
      · rename_i hqp
        refine List.pairwise_cons.2 ⟨fun x hx => ?_, ih hq.2⟩
        rcases mem_of_mem_insertSorted hx with rfl | hx
        · exact hqp
        · exact hq.1 x hx
      · rename_i hqp
        have heq : p.1 = q.1 := String.le_antisymm (String.not_lt.1 hqp) (String.not_lt.1 hpq)
        refine List.pairwise_cons.2 ⟨fun x hx => ?_, hq.2⟩
        rw [KeyLt, heq]
        exact hq.1 x hx

/-- The table with a path under a key, in place of any it had. -/
def insert (t : PathTable) (key path : String) : PathTable :=
  ⟨insertSorted (key, path) t.entries, sorted_insertSorted _ t.sorted⟩

def ofList (ps : List (String × String)) : PathTable := ps.foldl (fun t p => t.insert p.1 p.2) empty

end PathTable
end VersionTags
