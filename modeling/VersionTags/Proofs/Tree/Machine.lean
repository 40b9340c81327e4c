import VersionTags.Proofs.Store.Reopen
import VersionTags.Proofs.Tree.Written
/-!
# Machines on which nothing was done

The steps of a given path are computed by `Path.cut`, and with them what the path leads to.  This is done here for two
machines: one with a root directory and no more, on which the database `/d` is opened, and one with the usual
directories and devices.
-/
namespace VersionTags

/-! ## Paths on given texts -/

namespace Path

open String.Pos.Raw (extract)

/-- The parts of a text between slashes, where fewer characters are left than so many. -/
def cut (s : String) : Nat → String.Pos.Raw → String.Pos.Raw → List String → Option (List String)
  | 0, _, _, _ => none
  | n + 1, b, i, parts =>
    if i.atEnd s then some (extract s b i :: parts).reverse
    else if i.get s == '/' then cut s n (i.next s) (i.next s) (extract s b ((i.next s).unoffsetBy ⟨1⟩) :: parts)
    else cut s n b (i.next s) parts

theorem splitOnAux_of_cut {s : String} {l : List String} : ∀ (n : Nat) {b i : String.Pos.Raw} {parts : List String},
    cut s n b i parts = some l → s.splitOnAux "/" b i 0 parts = l
  | n + 1, b, i, parts, h => by
    have hget : String.Pos.Raw.get "/" 0 = '/' := by decide
    have hnext : String.Pos.Raw.next "/" 0 = ⟨1⟩ := by decide
    have hend : String.Pos.Raw.atEnd "/" ⟨1⟩ = true := by decide
    have hstay : i.unoffsetBy 0 = i := rfl
    unfold cut at h
    rw [String.splitOnAux, hget]
    simp only [hnext, hend, hstay, ↓reduceIte]
    split at h
    · rw [if_pos ‹_›]
      exact Option.some.inj h
    rw [if_neg ‹_›]
    split at h
    · rw [if_pos ‹_›]
      exact splitOnAux_of_cut n h
    · rw [if_neg ‹_›]
      exact splitOnAux_of_cut n h

/-- The steps of a path, which can be computed on a given text. -/
theorem steps_of_cut {p : String} (n : Nat) {l : List String}
    (h : (cut p n 0 0 []).map (List.filter (· != "")) = some l) : Path.steps p = l := by
  obtain ⟨parts, hp, rfl⟩ := Option.map_eq_some_iff.1 h
  have hs : ("/" == "") = false := by decide
  rw [Path.steps, String.splitOn, hs]
  exact congrArg (List.filter (· != "")) (splitOnAux_of_cut n hp)

theorem names_of_steps {p : String} {l : List String} (hs : steps p = l) (hd : p.startsWith "." = false) :
    names p = l.filter (· != ".") := by
  rw [names, hs, hd]
  rfl

end Path

namespace FileTree

variable {t : FileTree}

/-- A path from the root leads where its steps lead. -/
theorem locate_of_steps {p : String} {l : List String} (hs : Path.steps p = l) (ha : Path.isAbsolute p = true)
    (h0 : p.contains '\x00' = false) (hp : p ≠ "") (hl : ¬maxPath < p.utf8ByteSize) :
    t.locate p = t.follow "" .directory l := by
  rw [locate, locateSteps, hs, ha, h0, if_neg Bool.false_ne_true, if_neg hp, if_neg hl, if_pos rfl]

/-- A single step from the root leads to the node of the name, or to the free name. -/
theorem follow_one (t : FileTree) {n : String} (h : ¬maxName < n.utf8ByteSize) :
    t.follow "" .directory [n] = match t.node? (next "" n) with
      | some m => .ok (.there (next "" n) m)
      | none => .ok (.free (next "" n)) := by
  rw [follow, if_neg fun hd => hd rfl, if_neg h]
  cases t.node? (next "" n) <;> rfl

theorem locate_root (t : FileTree) : t.locate "/" = .ok (.there "" .directory) :=
  locate_of_steps (p := "/") (l := []) (Path.steps_of_cut 2 (by decide)) (by simp [Path.isAbsolute]) (by simp)
    (by decide) (by decide)

theorem pathExists_root (t : FileTree) : t.pathExists "/" = true := by
  rw [pathExists, at?, resolve_eq, locate_root]
  simp

/-! ## The machine with the usual directories -/

end FileTree

/-! ## The machine with nothing on it, and its database -/

namespace Site

open FileTree (node?_put node?_erase follow follow_one locate locate_of_steps)
open OpenDatabase (journal journal_ne openAt)

variable {t : FileTree}

/-- A machine with a root directory and no more. -/
def bareTree : FileTree := { nodes := ∅, current := "" }

/-- The machine once the database `/d` has been opened. -/
def filedTree : FileTree :=
  ((bareTree.put "/d" (.text "")).erase (journal "/d")).put "/d" (.database Database.empty)

/-- The machine on which the database `/d` has these tables. -/
def filledTree (db : Database) : FileTree := (filedTree.erase (journal "/d")).put "/d" (.database db)

theorem node?_bareTree (q : Place) : bareTree.node? q = if q = "" then some .directory else none := by
  unfold FileTree.node? bareTree
  split
  · rfl
  · exact Std.HashMap.getElem?_empty

theorem node?_filedTree (q : Place) :
    filedTree.node? q = if q = "/d" then some (.database Database.empty) else bareTree.node? q := by
  have hd : "/d" ≠ "" := by decide
  unfold filedTree
  rw [node?_put _ hd, node?_erase _ (journal_ne _), node?_put _ hd]
  by_cases hq : q = "/d"
  · rw [if_pos hq, if_pos hq]
  · rw [if_neg hq, if_neg hq, if_neg hq]
    by_cases hj : q = journal "/d"
    · rw [if_pos hj, hj, node?_bareTree]
      rfl
    · rw [if_neg hj]

theorem bareTree_c : bareTree.node? "/c" = none := by
  rw [node?_bareTree]
  rfl

theorem filedTree_c : filedTree.node? "/c" = none := by
  rw [node?_filedTree, bareTree_c]
  rfl

theorem filledTree_c (db : Database) : (filledTree db).node? "/c" = none := by
  rw [filledTree, node?_put _ (by decide), node?_erase _ (journal_ne _), filedTree_c, if_neg (by decide)]
  split <;> rfl

theorem filledTree_d (db : Database) : (filledTree db).node? "/d" = some (.database db) := by
  rw [filledTree, node?_put _ (by decide), if_pos rfl]

theorem follow_d (t : FileTree) : t.follow "" .directory (Path.steps "/d") = match t.node? "/d" with
    | some m => .ok (.there "/d" m)
    | none => .ok (.free "/d") := by
  rw [Path.steps_of_cut (l := ["d"]) 3 (by decide)]
  exact follow_one t (by decide)

theorem place?_d (t : FileTree) : OpenDatabase.place? t "/d" = some "/d" := by
  have hs : Path.steps "/d" = ["d"] := Path.steps_of_cut 3 (by decide)
  have ha : Path.isAbsolute "/d" = true := by simp [Path.isAbsolute]
  obtain ⟨s, hf⟩ : ∃ s, t.follow "" .directory (Path.steps "/d") = .ok s := by
    rw [follow_d]
    cases t.node? "/d" <;> exact ⟨_, rfl⟩
  have hn : FileTree.next "" "d" = "/d" := by decide
  rw [OpenDatabase.place?, ha, hs, if_pos rfl, OpenDatabase.settle_cons _ (by decide) (by decide), hn, hf]
  rfl

theorem locate_c (h : t.node? "/c" = none) : t.locate "/c" = .ok (.free "/c") := by
  have hf := follow_one t (n := "c") (by decide)
  have hn : FileTree.next "" "c" = "/c" := by decide
  rw [hn, h] at hf
  rw [locate_of_steps (l := ["c"]) (Path.steps_of_cut 3 (by decide)) (by simp [Path.isAbsolute]) (by simp) (by decide)
    (by decide)]
  exact hf

theorem load_c (h : t.node? "/c" = none) : Config.load t "/c" = .ok none := by
  refine FileTree.load_of_none ?_
  rw [FileTree.at?, FileTree.resolve_eq, locate_c h]

theorem parent_d : Path.parent "/d" = some "/" := by
  have ha : Path.isAbsolute "/d" = true := by simp [Path.isAbsolute]
  have hs : Path.steps "/d" = ["d"] := Path.steps_of_cut 3 (by decide)
  rw [Path.parent, Path.names_of_steps hs (by simp), ha]
  rfl

theorem readAddress_d : OpenDatabase.readAddress "/d" = .ok (.ofPath "/d") := by
  have h0 : "/d".contains '\x00' = false := by simp
  have hs : ¬"/d".startsWith Address.scheme = true := mt String.startsWith_string_iff.1 (by decide)
  rw [OpenDatabase.readAddress, OpenDatabase.nulPosition?, h0, Address.read, if_neg hs]
  rfl

/-- Every address that leads to `/d` makes the database there. -/
theorem openAt_bareTree {text p : String} (ha : OpenDatabase.readAddress text = .ok (.ofPath p))
    (hf : (Address.ofPath p).hasFile = true) (hp : OpenDatabase.place? bareTree p = some "/d") :
    openAt text bareTree = (.ok ⟨some "/d", Database.empty, false⟩, filedTree) := by
  refine OpenDatabase.openAt_new ha hf hp ?_ (by decide) ?_ ?_
  · rw [follow_d, node?_bareTree]
    rfl
  · rw [node?_bareTree]
    rfl
  · rw [node?_bareTree]
    rfl

/-! ## An address that goes below the database and up again -/

/-- An address whose path first goes below the file and then up again. -/
def climbing : String := "file:d%2fx%2f.."

theorem readAddress_climbing : OpenDatabase.readAddress climbing = .ok (.ofPath "d/x/..") := by
  have h0 : climbing.contains '\x00' = false := by simp [climbing]
  have hs : climbing.startsWith Address.scheme = true := String.startsWith_string_iff.2 (by decide)
  have hb : (Text.toBytes climbing).drop Address.scheme.utf8ByteSize =
      ['d', '%', '2', 'f', 'x', '%', '2', 'f', '.', '.'].map Char.toNat := by decide +kernel
  rw [OpenDatabase.readAddress, OpenDatabase.nulPosition?, h0, Address.read, if_pos hs, hb]
  rfl

theorem ensureDirectory_climbing (t : FileTree) : Config.ensureDirectory climbing t = (.ok (), t) := by
  have ha : Path.isAbsolute climbing = false := by simp [Path.isAbsolute, climbing]
  have hs : Path.steps climbing = [climbing] := Path.steps_of_cut 16 (by decide)
  have hp : Path.parent climbing = some "" := by
    rw [Path.parent, Path.names_of_steps hs (by simp [climbing]), ha]
    rfl
  rw [Config.ensureDirectory, hp]
  rfl

/-- The last step comes back to the place of the file, unless the way below it is blocked. -/
theorem place?_climbing (hc : t.current = "") : OpenDatabase.place? t "d/x/.." =
    match t.follow "" .directory (Path.steps "/d/x") with
    | .ok _ => some "/d"
    | .error .notFound => some "/d"
    | .error _ => none := by
  have ha : Path.isAbsolute "d/x/.." = false := by simp [Path.isAbsolute]
  have hs : Path.steps "d/x/.." = ["d", "x", ".."] := Path.steps_of_cut 7 (by decide)
  have hd : FileTree.next "" "d" = "/d" := by decide
  have hx : FileTree.next "/d" "x" = "/d/x" := by decide
  have hup : OpenDatabase.settle t "/d/x" [".."] = .ok "/d" := by
    have hnext : FileTree.next "/d/x" ".." = "/d" := by decide
    simp [OpenDatabase.settle, hnext]
  obtain ⟨r, hr⟩ : ∃ r, t.follow "" .directory (Path.steps "/d") = .ok r := by
    rw [follow_d]
    cases t.node? "/d" <;> exact ⟨_, rfl⟩
  rw [OpenDatabase.place?, ha, hs, hc, if_neg Bool.false_ne_true,
    OpenDatabase.settle_cons _ (by decide) (by decide), hd, hr]
  dsimp only
  rw [OpenDatabase.settle_cons _ (by decide) (by decide), hx, hup]
  rcases t.follow "" .directory (Path.steps "/d/x") with e | r
  · cases e <;> decide
  · rfl

theorem follow_below (t : FileTree) : t.follow "" .directory (Path.steps "/d/x") = match t.node? "/d" with
    | some m => t.follow "/d" m ["x"]
    | none => .error .notFound := by
  have hs : Path.steps "/d/x" = ["d", "x"] := Path.steps_of_cut 5 (by decide)
  have hd : FileTree.next "" "d" = "/d" := by decide
  rw [hs, follow, if_neg (by simp), if_neg (by decide), hd]
  cases t.node? "/d" <;> rfl

theorem openAt_climbing : openAt climbing bareTree = (.ok ⟨some "/d", Database.empty, false⟩, filedTree) := by
  refine openAt_bareTree readAddress_climbing (by decide) ?_
  rw [place?_climbing rfl, follow_below, node?_bareTree]
  rfl

/-- Once the file is there, the address does not lead to it. -/
theorem openAt_climbing_file (hc : t.current = "") {db : Database} (h : t.node? "/d" = some (.database db)) :
    ∃ err, openAt climbing t = (.error err, t) := by
  refine ⟨.storage (.openFile climbing) (.cannotOpen climbing), ?_⟩
  have hf : (Address.ofPath "d/x/..").hasFile = true := by decide
  have hp : OpenDatabase.place? t (Address.ofPath "d/x/..").path = none := by
    refine (place?_climbing hc).trans ?_
    rw [follow_below, h]
    rfl
  unfold OpenDatabase.openAt OpenDatabase.openFile
  rw [readAddress_climbing]
  simp only [hf, ↓reduceIte, hp]

end Site
end VersionTags
