import VersionTags.Proofs.Storage.Scope
import VersionTags.Proofs.Store.Settled
import VersionTags.Proofs.Tree.Replaced
/-!
# Files opened again

A file that has been opened once is opened again with whatever tables it has got since, and opening it changes nothing
(`OpenDatabase.reopened`).  For this the path has to lead to the file once it is there.
-/
namespace VersionTags.OpenDatabase

open FileTree (Same Replaced)

variable {a : Address} {place : Place} {t u v : FileTree} {x : Holding} {o : OpenDatabase} {text : String}

theorem makeTables_ok (h : t.run (makeTables place) = (.ok o, u)) :
    o = ⟨some place, Database.empty, false⟩ ∧ u = (t.erase (journal place)).put place (.database Database.empty) := by
  unfold makeTables at h
  simp only [FileTree.run_bind, FileTree.run_get] at h
  split at h
  · simp at h
  · simp at h
  · simp only [FileTree.run_bind, run_look] at h
    split at h
    · simp at h
    split at h
    · simp at h
    · cases h
      exact ⟨rfl, rfl⟩

/-- A file has been entered, and it is entered alike again when it holds other tables. -/
structure Entered (a : Address) (place : Place) (x : Holding) (o : OpenDatabase) (t u : FileTree) : Prop where
  placed : o.place = some place
  node : (∀ db, x = .tables db → t.node? place = some (.database db)) → u.node? place = some (.database o.tables)
  noted : o.readOnly = true ∨ a.isMarked = true ∨ u.node? (journal place) ≠ some .directory
  again : ∀ (v : FileTree) (db : Database), Replaced place o.tables db u v →
    ∃ v', v.run (enter a (.tables db) place) = (.ok ⟨some place, db, o.readOnly⟩, v') ∧ v.Same v'

variable {y : Holding} {w : Bool}

/-- What there is to show once the tables are in the file, be it that they were there or that they were made. -/
theorem entered_of_settled (hs : Settled a place x y w t u)
    (hb : ∀ q ∈ [log place, logIndex place, lock place], v.node? q = u.node? q)
    (ho : o = ⟨some place, o.tables, !w⟩)
    (hn : (∀ db, x = .tables db → t.node? place = some (.database db)) → v.node? place = some (.database o.tables))
    (hq : Silent a place v) : Entered a place x o t v := by
  refine ⟨by rw [ho], hn, ?_, fun v' db hv => ?_⟩
  · rcases hq with hi | hm | hq
    · exact .inl (by rw [ho, hs.frozen hi]; rfl)
    · exact .inr (.inl hm)
    · refine .inr (.inr fun hd => ?_)
      rw [hd] at hq
      rcases hq with hq | hq | hq <;> cases hq
  · have hb' : ∀ q ∈ [log place, logIndex place, lock place], v'.node? q = u.node? q := fun q hq' =>
      (hv.rest q (not_file place q hq').1 (not_file place q hq').2).trans (hb q hq')
    have hq' : Silent a place v' := by
      rcases hv.noted with hj | ⟨hj, -⟩
      · unfold Silent
        rwa [hj]
      · exact .inr (.inr (.inl (by rw [hj]; rfl)))
    obtain ⟨v'', hv'', hsame⟩ := hs.again v' db hb' hq'
    refine ⟨v'', ?_, hsame⟩
    unfold enter
    rw [FileTree.run_bind, hv'', ho]
    rfl

theorem entered_of_made (hp : place ≠ "") (hs : Settled a place x y true t u)
    (h : u.run (makeTables place) = (.ok o, v)) : Entered a place x o t v := by
  obtain ⟨rfl, rfl⟩ := makeTables_ok h
  refine entered_of_settled hs (fun q hq => ?_) rfl (fun _ => ?_) (.inr (.inr (.inl ?_)))
  · obtain ⟨hne, hne'⟩ := not_file place q hq
    rw [FileTree.node?_put _ hp, if_neg hne, FileTree.node?_erase _ (journal_ne place), if_neg hne']
  · rw [FileTree.node?_put _ hp, if_pos rfl]
  · rw [FileTree.node?_put _ hp, if_neg (journal_ne_self place), FileTree.node?_erase _ (journal_ne place), if_pos rfl]
    rfl

theorem enter_ok (hp : place ≠ "") (h : t.run (enter a x place) = (.ok o, u)) : Entered a place x o t u := by
  obtain ⟨⟨y, w⟩, t₁, h₁, h₂⟩ := FileTree.run_bind_ok h
  have hs := settleBeside_ok h₁
  cases y with
  | nothing =>
    cases w with
    | true => exact entered_of_made hp hs h₂
    | false => cases h₂
  | tables db =>
    obtain ⟨rfl, hn, hq⟩ := hs.tables db rfl
    cases h₂
    exact entered_of_settled hs (fun _ _ => rfl) rfl (fun hx => hn.trans (hx db rfl)) hq
  | other form =>
    cases form with
    | bare changeable sound =>
      cases w <;> cases changeable <;> cases sound <;> try cases h₂
      exact entered_of_made hp hs h₂
    | _ => cases h₂

/-! ## Opening -/

theorem doing_eq (x : Handling OpenDatabase) (t : FileTree) :
    doing x t = ((t.run x).1.mapError (Error.storage .setUpTables), (t.run x).2) := by
  have hrun : x.run.run t = t.run x := rfl
  unfold doing
  rw [hrun]
  rcases t.run x with ⟨e | o, u⟩ <;> rfl

theorem doing_ok {x : Handling OpenDatabase} : doing x t = (.ok o, u) ↔ t.run x = (.ok o, u) := by
  rw [doing_eq]
  rcases t.run x with ⟨e | p, v⟩
  · constructor <;> intro h <;> cases h
  · constructor <;> intro h <;> cases h <;> rfl

theorem openAt_eq (ha : readAddress text = .ok a) (hf : a.hasFile = true)
    (hp : place? t a.path = some place) (hm : ∀ p, a.modeOf = some p → t.pathExists p = true) {n : Node}
    (hl : t.follow "" .directory (Path.steps place) = .ok (.there place n)) (hn : n ≠ .directory) :
    openAt text t = doing (enter a n.holding place) t := by
  have hm' : (a.modeOf.any fun p => !t.pathExists p) = false := by
    cases hc : a.modeOf with
    | none => rfl
    | some p => simp [hm p hc]
  unfold openAt openFile
  simp only [ha, hf, hp, hm', hl, ↓reduceIte, Bool.false_eq_true]

theorem settle_cons {p : Place} {n : String} (ns : List String) (hn : ¬(n = "." ∨ n = ".."))
    (hl : (FileTree.next p n).utf8ByteSize ≤ maxStep) : settle t p (n :: ns) =
      match t.follow "" .directory (Path.steps (FileTree.next p n)) with
      | .ok _ => settle t (FileTree.next p n) ns
      | .error .notFound => settle t (FileTree.next p n) ns
      | .error e => .error e :=
  (if_neg hn).trans (if_neg (Nat.not_lt.2 hl))

theorem place?_ne {path : String} (h : place? t path = some place) : place ≠ "" := by
  rintro rfl
  unfold place? at h
  cases hs : settle t (if Path.isAbsolute path then "" else t.current) (Path.steps path) with
  | error e => rw [hs] at h; cases h
  | ok p =>
    rw [hs] at h
    change (if p = "" ∨ maxPath < p.utf8ByteSize then none else some p) = some "" at h
    split at h
    · cases h
    · rename_i hp
      cases h
      exact hp (.inl rfl)

/-- **A new database** is made at a place where there is nothing, nor anything beside it. -/
theorem openAt_new {p : String} (ha : readAddress text = .ok (.ofPath p)) (hf : (Address.ofPath p).hasFile = true)
    (hp : place? t p = some place) (hl : t.follow "" .directory (Path.steps place) = .ok (.free place))
    (hn : (FileTree.lastName (journal place)).utf8ByteSize ≤ FileTree.maxName)
    (hj : t.node? (journal place) = none) (hg : t.node? (log place) = none) : openAt text t =
      (.ok ⟨some place, Database.empty, false⟩,
        ((t.put place (.text "")).erase (journal place)).put place (.database Database.empty)) := by
  have hne := place?_ne hp
  have hjournal : (t.put place (.text "")).node? (journal place) = none := by
    rw [FileTree.node?_put _ hne, if_neg (journal_ne_self place), hj]
  have hlog : (t.put place (.text "")).node? (log place) = none := by
    rw [FileTree.node?_put _ hne, if_neg (not_file place _ (by simp)).1, hg]
  have hbeside : (t.put place (.text "")).run (settleBeside (.ofPath p) .nothing place) =
      (.ok (.nothing, true), t.put place (.text "")) := by
    rw [run_settleBeside_of_not_marked rfl rfl, FileTree.run_bind, run_settleJournal, hjournal]
    dsimp only [Beside.ofNode]
    rw [FileTree.run_bind, run_settleLog, hlog]
    rfl
  have htables : (t.put place (.text "")).run (makeTables place) =
      (.ok ⟨some place, Database.empty, false⟩,
        ((t.put place (.text "")).erase (journal place)).put place (.database Database.empty)) := by
    unfold makeTables
    rw [FileTree.run_bind, FileTree.run_get]
    dsimp only
    rw [FileTree.node?_put _ hne, if_pos rfl]
    simp only [FileTree.run_bind, run_look, hjournal, if_neg (Nat.not_lt.2 hn)]
    rfl
  have henter : (t.put place (.text "")).run (enter (.ofPath p) .nothing place) =
      (t.put place (.text "")).run (makeTables place) := by
    unfold enter
    rw [FileTree.run_bind, hbeside]
    rfl
  unfold openAt openFile
  rw [ha]
  simp only [hf, ↓reduceIte, show place? t (Address.ofPath p).path = some place from hp, hl]
  exact doing_ok.2 (henter.trans htables)

theorem database_of_holding {n : Node} {db : Database} (h : n.holding = .tables db) : n = .database db := by
  have hb : ∀ bytes, Holding.ofBytes bytes ≠ .tables db := by
    intro bytes
    unfold Holding.ofBytes
    split <;> exact nofun
  cases n with
  | database d => cases h; rfl
  | text s => exact absurd h (hb _)
  | binary bytes => exact absurd h (hb _)
  | _ => cases h

/-- **A database whose file is opened.**  What holds of the tree then is enough to open the file again, whatever
tables it gets. -/
theorem openAt_ok (ha : readAddress text = .ok a) (h : openAt text t = (.ok o, u))
    (hp : o.place = some place) (hs : (Path.steps place).foldl FileTree.next "" = place) :
    a.hasFile = true ∧ ∃ x t₁, Entered a place x o t₁ u ∧
      ∀ db, x = .tables db → t₁.node? place = some (.database db) := by
  unfold openAt at h
  rw [ha] at h
  by_cases hf : a.hasFile = true
  · refine ⟨hf, ?_⟩
    simp only [hf, ↓reduceIte, openFile] at h
    split at h
    · cases h
    rename_i p hpl
    split at h
    · cases h
    have hne := place?_ne hpl
    split at h
    · cases h
    · cases h
    · rename_i q n hd hl
      rw [doing_ok] at h
      have he := enter_ok hne h
      cases he.placed.symm.trans hp
      refine ⟨_, _, he, fun db hx => ?_⟩
      obtain rfl : q = place := (FileTree.place_of_follow _ hl).symm.trans hs
      rcases FileTree.node_of_follow _ hl with hn | ⟨he', -⟩
      · rw [hn, database_of_holding hx]
      · exact absurd he' hne
    · split at h
      · rw [doing_ok] at h
        have he := enter_ok hne h
        cases he.placed.symm.trans hp
        exact ⟨_, _, he, nofun⟩
      · cases h
  · simp only [hf, Bool.false_eq_true, ↓reduceIte] at h
    split at h
    · cases h
    · cases h
      cases hp

/-- The address leads to the file at a place. -/
structure Names (a : Address) (place : Place) (t : FileTree) : Prop where
  settles : place? t a.path = some place
  leads : ∃ n, t.follow "" .directory (Path.steps place) = .ok (.there place n)
  modeOf : ∀ p, a.modeOf = some p → t.pathExists p = true ∧ ¬t.LeadsTo p (journal place)

theorem Names.spelled (h : Names a place t) : (Path.steps place).foldl FileTree.next "" = place := by
  obtain ⟨n, hn⟩ := h.leads
  exact FileTree.place_of_follow _ hn

/-- **A file that was opened is opened again with the tables it has got**, and nothing changes by that. -/
theorem reopened (ha : readAddress text = .ok a) (h : openAt text t = (.ok o, u)) (hp : o.place = some place)
    (hu : Names a place u) {db : Database} (hv : Replaced place o.tables db u v) :
    ∃ v', openAt text v = (.ok ⟨some place, db, o.readOnly⟩, v') ∧ v.Same v' := by
  obtain ⟨hf, x, t₁, he, -⟩ := openAt_ok ha h hp hu.spelled
  obtain ⟨v', hv', hsame⟩ := he.again v db hv
  obtain ⟨n, hn⟩ := hu.leads
  refine ⟨v', ?_, hsame⟩
  -- the place is the last step of the way, and so neither gone nor the journal
  have hfollow : v.follow "" .directory (Path.steps place) = .ok (.there place (.database db)) := by
    have hfl := hv.follow (Path.steps place) (p := "") (m := .directory) (.inl rfl)
    rw [hn] at hfl
    obtain ⟨s, hs, hb⟩ := hfl
    generalize hq : Spot.there place n = s₀ at hb
    cases hb with
    | free q => cases hq
    | gone hm =>
      injection hq with hq _
      exact absurd hq.symm (journal_ne_self place)
    | @there q m m' ht =>
      injection hq with hq _
      subst hq
      rcases FileTree.node_of_follow _ hs with hm | ⟨hq', -⟩
      · cases hv.after.symm.trans hm
        exact hs
      · exact absurd hq' hv.place_ne
  rw [openAt_eq ha hf (hv.place? hu.settles) (fun p hm => hv.pathExists (hu.modeOf p hm).2 (hu.modeOf p hm).1) hfollow
    nofun, doing_ok]
  exact hv'

end VersionTags.OpenDatabase
