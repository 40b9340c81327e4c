import VersionTags.Config.File
import VersionTags.Proofs.Tree.Change
import VersionTags.Store.Open
/-!
# Another database in the same file

Where a file gets another database and the journal beside it goes, all paths lead to where they led, but for those that
led to the journal.  So the place of the file, other files and a configuration are found as before.
-/
namespace VersionTags.FileTree

open OpenDatabase (journal)

variable {t u v : FileTree} {p q : Place} {m n : Node}

/-! ## Where paths lead -/

theorem follow_cons {s : String} {ns : List String} (h : t.follow p m (s :: ns) = .ok (.there q n)) :
    ∃ m', t.node? (next p s) = some m' ∧ t.follow (next p s) m' ns = .ok (.there q n) := by
  unfold follow at h
  by_cases hd : m = .directory
  · by_cases hl : maxName < s.utf8ByteSize
    · simp [hd, hl] at h
    cases hm : t.node? (next p s) with
    | some m' => exact ⟨m', rfl, by simpa [hd, hl, hm] using h⟩
    | none =>
      simp only [hd, hl, hm, ne_eq, not_true_eq_false, ↓reduceIte] at h
      split at h <;> cases h
  · simp [hd] at h

/-- Steps to a node spell its place. -/
theorem place_of_follow : ∀ (ns : List String) {p : Place} {m : Node}, t.follow p m ns = .ok (.there q n) →
    ns.foldl next p = q
  | [], p, m, h => by
    cases h
    rfl
  | s :: ns, p, m, h => by
    obtain ⟨m', -, h'⟩ := follow_cons h
    exact place_of_follow ns h'

/-- The node that steps lead to is that of the tree, unless there are no steps. -/
theorem node_of_follow : ∀ (ns : List String) {p : Place} {m : Node}, t.follow p m ns = .ok (.there q n) →
    t.node? q = some n ∨ q = p ∧ n = m
  | [], p, m, h => by
    cases h
    exact .inr ⟨rfl, rfl⟩
  | s :: ns, p, m, h => by
    obtain ⟨m', hm, h'⟩ := follow_cons h
    rcases node_of_follow ns h' with hn | ⟨rfl, rfl⟩
    · exact .inl hn
    · exact .inl hm

theorem resolve_eq (t : FileTree) (p : String) : t.resolve p = match t.locate p with
    | .error e => .error e
    | .ok (.there q n) => if p.endsWith "/" ∧ n ≠ .directory then .error .notADirectory else .ok (.there q n)
    | .ok (.free q) => .ok (.free q) := by
  unfold resolve
  rcases t.locate p with e | ⟨q, n⟩ | q <;> rfl

theorem resolve_of_at? {p : String} (h : t.at? p = some n) : ∃ q, t.resolve p = .ok (.there q n) := by
  unfold at? at h
  split at h
  · cases h
    exact ⟨_, ‹_›⟩
  · cases h

theorem load_of_none {p : String} (h : t.at? p = none) : Config.load t p = .ok none := by
  unfold Config.load pathExists
  rw [h]
  rfl

theorem load_congr {p : String} (h : u.resolve p = t.resolve p) : Config.load u p = Config.load t p := by
  unfold Config.load pathExists at? readText
  rw [h]

/-- The path leads to a node at the place. -/
def LeadsTo (t : FileTree) (p : String) (q : Place) : Prop := ∃ n, t.locate p = .ok (.there q n)

/-! ## Replaced databases -/

/-- A tree with another database at a place, from which the journal beside it may be gone. -/
structure Replaced (place : Place) (old new : Database) (t u : FileTree) : Prop where
  current : u.current = t.current
  before : t.node? place = some (.database old)
  after : u.node? place = some (.database new)
  noted : u.node? (journal place) = t.node? (journal place) ∨
    u.node? (journal place) = none ∧ t.node? (journal place) ≠ some .directory
  rest : ∀ q, q ≠ place → q ≠ OpenDatabase.journal place → u.node? q = t.node? q

namespace Replaced

variable {place : Place} {old new : Database}

/-- A node stays, or it is the database that was replaced. -/
def Turned (old new : Database) (m n : Node) : Prop := n = m ∨ m = .database old ∧ n = .database new

theorem Turned.directory_iff {m n : Node} (h : Turned old new m n) : n = .directory ↔ m = .directory := by
  rcases h with rfl | ⟨rfl, rfl⟩
  · rfl
  · exact ⟨nofun, nofun⟩

/-- Where a path leads in the second tree that leads to a spot of the first. -/
inductive Became (place : Place) (old new : Database) : Spot → Spot → Prop where
  | there (q : Place) {m n : Node} (h : Turned old new m n) : Became place old new (.there q m) (.there q n)
  | gone {m : Node} (h : m ≠ .directory) : Became place old new (.there (journal place) m) (.free (journal place))
  | free (q : Place) : Became place old new (.free q) (.free q)

theorem place_ne (h : Replaced place old new t u) : place ≠ "" := by
  rintro rfl
  have hb := h.before
  rw [node?_root] at hb
  cases hb

theorem node_some (h : Replaced place old new t u) (hq : t.node? q = some m) :
    (∃ n, u.node? q = some n ∧ Turned old new m n) ∨ q = journal place ∧ m ≠ .directory ∧ u.node? q = none := by
  by_cases hp : q = place
  · subst hp
    cases h.before.symm.trans hq
    exact .inl ⟨_, h.after, .inr ⟨rfl, rfl⟩⟩
  by_cases hb : q = journal place
  · subst hb
    rcases h.noted with hs | ⟨hn, hd⟩
    · exact .inl ⟨m, hs.trans hq, .inl rfl⟩
    · exact .inr ⟨rfl, fun hm => hd (hm ▸ hq), hn⟩
  · exact .inl ⟨m, (h.rest q hp hb).trans hq, .inl rfl⟩

theorem node_none (h : Replaced place old new t u) (hq : t.node? q = none) : u.node? q = none := by
  have hp : q ≠ place := by
    rintro rfl
    cases h.before.symm.trans hq
  by_cases hb : q = journal place
  · subst hb
    rcases h.noted with hs | ⟨hn, -⟩
    · exact hs.trans hq
    · exact hn
  · exact (h.rest q hp hb).trans hq

/-- **Steps lead to where they led**, except that the file beside may be gone.  Steps that led nowhere still do, and
those that were not found are not found. -/
theorem follow (h : Replaced place old new t u) : ∀ (ns : List String) {p : Place} {m n : Node},
    Turned old new m n →
    match t.follow p m ns with
    | .ok s => ∃ s', u.follow p n ns = .ok s' ∧ Became place old new s s'
    | .error e => ∃ e', u.follow p n ns = .error e' ∧ (e = .notFound → e' = .notFound)
  | [], p, m, n, hm => ⟨_, rfl, .there p hm⟩
  | s :: ns, p, m, n, hm => by
    -- both ways stand at one place, at nodes of which one turned into the other
    unfold FileTree.follow
    by_cases hd : m = .directory
    · have hd' : n = .directory := hm.directory_iff.2 hd
      subst hd hd'
      simp only [ne_eq, not_true_eq_false, ↓reduceIte]
      by_cases hl : maxName < s.utf8ByteSize
      · simp only [if_pos hl]
        exact ⟨_, rfl, nofun⟩
      simp only [if_neg hl]
      cases hq : t.node? (next p s) with
      | none =>
        rw [h.node_none hq]
        by_cases hn : ns = []
        · simp only [if_pos hn]
          exact ⟨_, rfl, .free _⟩
        · simp only [if_neg hn]
          exact ⟨_, rfl, fun _ => rfl⟩
      | some m' =>
        rcases h.node_some hq with ⟨n', hn', ht⟩ | ⟨hb, hf, hn⟩
        · rw [hn']
          exact h.follow ns ht
        · rw [hn]
          -- a file is gone: it was the end of the way, or the way was wrong
          cases ns with
          | nil =>
            rw [hb]
            exact ⟨_, rfl, .gone hf⟩
          | cons s' ns =>
            have he : t.follow (next p s) m' (s' :: ns) = .error .notADirectory := by
              unfold FileTree.follow
              rw [if_pos hf]
            simp only [he]
            exact ⟨_, rfl, nofun⟩
    · rw [if_pos hd, if_pos (mt hm.directory_iff.1 hd)]
      exact ⟨_, rfl, nofun⟩

theorem settle (h : Replaced place old new t u) : ∀ (ns : List String) {p q : Place},
    OpenDatabase.settle t p ns = .ok q → OpenDatabase.settle u p ns = .ok q
  | [], p, q, hq => hq
  | s :: ns, p, q, hq => by
    unfold OpenDatabase.settle at hq ⊢
    simp only at hq ⊢
    split at hq
    · rw [if_pos ‹_›]
      exact h.settle ns hq
    rw [if_neg ‹_›]
    split at hq
    · cases hq
    rw [if_neg ‹_›]
    have hf := h.follow (Path.steps (next p s)) (p := "") (m := .directory) (.inl rfl)
    split at hq
    · rename_i s₁ he
      rw [he] at hf
      obtain ⟨s', hs', -⟩ := hf
      rw [hs']
      exact h.settle ns hq
    · rename_i he
      rw [he] at hf
      obtain ⟨e', he', hn⟩ := hf
      rw [he', hn rfl]
      exact h.settle ns hq
    · cases hq

theorem place? (h : Replaced place old new t u) {path : String} (hp : OpenDatabase.place? t path = some q) :
    OpenDatabase.place? u path = some q := by
  unfold OpenDatabase.place? at hp ⊢
  rw [h.current]
  cases hs : OpenDatabase.settle t (if Path.isAbsolute path then "" else t.current) (Path.steps path) with
  | error e => rw [hs] at hp; cases hp
  | ok p =>
    rw [hs] at hp
    rw [h.settle _ hs]
    exact hp

/-! ## Paths that do not lead to the journal -/

theorem locate (h : Replaced place old new t u) (p : String) :
    match t.locate p with
    | .ok s => ∃ s', u.locate p = .ok s' ∧ Became place old new s s'
    | .error _ => ∃ e', u.locate p = .error e' := by
  unfold FileTree.locate locateSteps
  rw [h.current]
  by_cases hn : p.contains '\x00' = true
  · simp only [if_pos hn]
    exact ⟨_, rfl⟩
  by_cases he : p = ""
  · simp only [if_neg hn, if_pos he]
    exact ⟨_, rfl⟩
  by_cases hl : maxPath < p.utf8ByteSize
  · simp only [if_neg hn, if_neg he, if_pos hl]
    exact ⟨_, rfl⟩
  -- what is checked before the first step does not depend on the tree
  simp only [if_neg hn, if_neg he, if_neg hl]
  have hf := h.follow (Path.steps p) (p := if Path.isAbsolute p then "" else t.current) (m := .directory) (.inl rfl)
  cases hs : t.follow (if Path.isAbsolute p then "" else t.current) .directory (Path.steps p) with
  | ok s =>
    rw [hs] at hf
    exact hf
  | error e =>
    rw [hs] at hf
    obtain ⟨e', he', -⟩ := hf
    exact ⟨e', he'⟩

/-- **A path that does not lead to the journal leads to the same node**, but for the database that was replaced. -/
theorem resolve_there (h : Replaced place old new t u) {p : String} (hj : ¬t.LeadsTo p (journal place))
    (hr : t.resolve p = .ok (.there q m)) : ∃ n, u.resolve p = .ok (.there q n) ∧ Turned old new m n := by
  have hl := h.locate p
  rw [resolve_eq] at hr
  rw [resolve_eq]
  cases hs : t.locate p with
  | error e => rw [hs] at hr; cases hr
  | ok s =>
    rw [hs] at hr hl
    obtain ⟨s', hs', hb⟩ := hl
    rw [hs']
    cases hb with
    | free q' => cases hr
    | gone hm => exact absurd ⟨_, hs⟩ hj
    | there q' ht =>
      simp only [ne_eq, ht.directory_iff] at hr ⊢
      split at hr
      · cases hr
      · rw [if_neg ‹_›]
        cases hr
        exact ⟨_, rfl, ht⟩

theorem at?_none (h : Replaced place old new t u) {p : String} (ha : t.at? p = none) : u.at? p = none := by
  have hl := h.locate p
  unfold at? at ha ⊢
  rw [resolve_eq] at ha ⊢
  cases hs : t.locate p with
  | error e =>
    rw [hs] at hl
    obtain ⟨e', he'⟩ := hl
    rw [he']
  | ok s =>
    rw [hs] at ha hl
    obtain ⟨s', hs', hb⟩ := hl
    rw [hs']
    cases hb with
    | free q' => rfl
    | gone hm => rfl
    | @there q' m' n' ht =>
      simp only [ne_eq, ht.directory_iff] at ha ⊢
      by_cases hd : p.endsWith "/" = true ∧ ¬m' = .directory
      · rw [if_pos hd]
      · rw [if_neg hd] at ha
        cases ha

theorem pathExists (h : Replaced place old new t u) {p : String} (hj : ¬t.LeadsTo p (journal place))
    (hp : t.pathExists p = true) : u.pathExists p = true := by
  unfold FileTree.pathExists at hp ⊢
  obtain ⟨m, hm⟩ := Option.isSome_iff_exists.1 hp
  obtain ⟨q, hr⟩ := resolve_of_at? hm
  obtain ⟨n, hn, -⟩ := h.resolve_there hj hr
  rw [at?, hn]
  rfl

/-- **A configuration loads as before.** -/
theorem load (h : Replaced place old new t u) {p : String} (hj : ¬t.LeadsTo p (journal place)) {found : Option Config}
    (hc : Config.load t p = .ok found) : Config.load u p = .ok found := by
  cases ha : t.at? p with
  | none =>
    rw [load_of_none ha] at hc
    rw [load_of_none (h.at?_none ha), hc]
  | some m =>
    obtain ⟨q, hr⟩ := resolve_of_at? ha
    obtain ⟨n, hn, rfl | ⟨rfl, -⟩⟩ := h.resolve_there hj hr
    · rw [load_congr (hn.trans hr.symm), hc]
    · -- a database is no text
      rw [Config.load, FileTree.pathExists, ha, readText, hr] at hc
      cases hc

/-! ## Changes -/

theorem refl {db : Database} (h : t.node? place = some (.database db)) : Replaced place db db t t :=
  ⟨rfl, h, h, .inl rfl, fun _ _ _ => rfl⟩

theorem same (h : Replaced place old new t u) (hs : u.Same v) : Replaced place old new t v where
  current := hs.current.trans h.current
  before := h.before
  after := (hs.node place).trans h.after
  noted := by
    rw [hs.node]
    exact h.noted
  rest q hq hq' := (hs.node q).trans (h.rest q hq hq')

/-- A change of the tables takes away the journal. -/
theorem changed (h : Replaced place old new t u) (hd : t.node? (journal place) ≠ some .directory) (db : Database) :
    Replaced place old db t ((u.erase (journal place)).put place (.database db)) := by
  have hj : journal place ≠ "" := by simp [journal]
  have hne : journal place ≠ place := by simp [journal]
  refine ⟨h.current, h.before, ?_, .inr ⟨?_, hd⟩, fun q hq hq' => ?_⟩
  · rw [node?_put _ h.place_ne, if_pos rfl]
  · rw [node?_put _ h.place_ne, if_neg hne, node?_erase _ hj, if_pos rfl]
  · rw [node?_put _ h.place_ne, if_neg hq, node?_erase _ hj, if_neg hq', h.rest q hq hq']

end Replaced
end VersionTags.FileTree
