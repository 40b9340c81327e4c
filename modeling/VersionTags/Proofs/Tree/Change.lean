import VersionTags.FileTree
/-!
# What is done to a tree

`FileTree.run` runs what is done to a tree and may fail on the way.  Two trees are the same when they have the same
nodes at all places, whatever has been put there and taken away.
-/
namespace VersionTags.FileTree

variable {ε α β : Type} {p : Place}

@[simp] theorem node?_root (t : FileTree) : t.node? "" = some .directory := rfl

theorem node?_put (t : FileTree) (hp : p ≠ "") (n : Node) (q : Place) :
    (t.put p n).node? q = if q = p then some n else t.node? q := by
  unfold node? put
  by_cases hq : q = ""
  · rw [if_pos hq, if_neg (hq ▸ Ne.symm hp), if_pos hq]
  · rw [if_neg hq, if_neg hq, Std.HashMap.getElem?_insert]
    simp only [beq_iff_eq, @eq_comm _ q p]

theorem node?_erase (t : FileTree) (hp : p ≠ "") (q : Place) :
    (t.erase p).node? q = if q = p then none else t.node? q := by
  unfold node? erase
  by_cases hq : q = ""
  · rw [if_pos hq, if_neg (hq ▸ Ne.symm hp), if_pos hq]
  · rw [if_neg hq, if_neg hq, Std.HashMap.getElem?_erase]
    simp only [beq_iff_eq, @eq_comm _ q p]

/-- Two trees are the same at every place. -/
structure Same (t u : FileTree) : Prop where
  current : u.current = t.current
  node : ∀ q, u.node? q = t.node? q

theorem Same.refl (t : FileTree) : t.Same t := ⟨rfl, fun _ => rfl⟩

/-- What an action on a tree comes to, and the tree that it leaves. -/
def run (t : FileTree) (a : ExceptT ε (StateM FileTree) α) : Except ε α × FileTree := StateT.run (ExceptT.run a) t

@[simp] theorem run_pure (t : FileTree) (x : α) : t.run (pure x : ExceptT ε (StateM FileTree) α) = (.ok x, t) := rfl

@[simp] theorem run_throw (t : FileTree) (e : ε) :
    t.run (throw e : ExceptT ε (StateM FileTree) α) = (.error e, t) := rfl

@[simp] theorem run_get (t : FileTree) : t.run (get : ExceptT ε (StateM FileTree) FileTree) = (.ok t, t) := rfl

theorem run_lift (t : FileTree) (r : Except ε α) : t.run (liftM r : ExceptT ε (StateM FileTree) α) = (r, t) := by
  cases r <;> rfl

theorem run_bind (t : FileTree) (a : ExceptT ε (StateM FileTree) α) (k : α → ExceptT ε (StateM FileTree) β) :
    t.run (a >>= k) = match t.run a with
      | (.ok x, u) => u.run (k x)
      | (.error e, u) => (.error e, u) := by
  show (match (StateT.run (ExceptT.run a) t : Except ε α × FileTree) with
    | (r, u) => StateT.run (ExceptT.bindCont k r) u : Except ε β × FileTree) = _
  unfold run
  rcases StateT.run (ExceptT.run a) t with ⟨r | x, u⟩ <;> rfl

theorem run_bind_ok {t u : FileTree} {a : ExceptT ε (StateM FileTree) α} {k : α → ExceptT ε (StateM FileTree) β} {y : β}
    (h : t.run (a >>= k) = (.ok y, u)) : ∃ x v, t.run a = (.ok x, v) ∧ v.run (k x) = (.ok y, u) := by
  rw [run_bind] at h
  rcases ha : t.run a with ⟨e | x, v⟩ <;> rw [ha] at h
  · cases h
  · exact ⟨x, v, rfl, h⟩

end VersionTags.FileTree
