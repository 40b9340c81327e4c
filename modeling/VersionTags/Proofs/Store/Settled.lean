import VersionTags.Proofs.Tree.Change
import VersionTags.Store.Open
/-!
# What is beside a file, settled again

Before a file is read its journal is undone, its log is cleared away, and its lock is looked at.  Once that has been
done there is nothing left to do: settling all this again ends alike and changes nothing, as long as the journal notes
nothing and the log, its index and the lock are as they were left.
-/
namespace VersionTags.OpenDatabase

open FileTree (Same)

variable {a : Address} {place : Place} {t u v : FileTree} {x y : Holding} {w : Bool} {db : Database} {o : OpenDatabase}

@[simp] theorem run_look (t : FileTree) (p : Place) : t.run (look p) = (.ok (Beside.ofNode (t.node? p)), t) := rfl

theorem journal_ne (p : Place) : journal p ≠ "" := by simp [journal]

theorem journal_ne_self (p : Place) : journal p ≠ p := by simp [journal]

theorem log_ne (p : Place) : log p ≠ "" := by simp [log]

theorem logIndex_ne (p : Place) : logIndex p ≠ "" := by simp [logIndex]

theorem log_ne_logIndex (p : Place) : log p ≠ logIndex p := by simp [log, logIndex]

theorem not_log (p : Place) : ∀ q ∈ [p, journal p, lock p], q ≠ log p ∧ q ≠ logIndex p := by
  simp [journal, log, logIndex, lock, @eq_comm _ p]

theorem not_file (p : Place) : ∀ q ∈ [log p, logIndex p, lock p], q ≠ p ∧ q ≠ journal p := by
  simp [journal, log, logIndex, lock]

/-! ## The log -/

theorem run_clearLog (t : FileTree) (a : Address) (place : Place) : t.run (clearLog a place) =
    if a.canShare = false then (.error .cannotOpenBeside, t)
    else if Beside.ofNode (t.node? (logIndex place)) = .directory then (.ok false, t)
    else if a.isReadOnly then (.ok false, t.put (logIndex place) freshIndex)
    else (.ok true, (t.erase (log place)).erase (logIndex place)) := by
  unfold clearLog
  cases a.canShare with
  | false => rfl
  | true =>
    simp only [FileTree.run_bind, run_look, Bool.not_true, Bool.false_eq_true, Bool.true_eq_false, ↓reduceIte]
    split
    · rfl
    · split <;> rfl

theorem run_settleLog (t : FileTree) (a : Address) (h : Holding) (place : Place) : t.run (settleLog a h place) =
    match Beside.ofNode (t.node? (log place)), h with
    | .directory, .nothing => (.error (.disk .deleting), t)
    | .directory, _ => (.error .cannotOpenBeside, t)
    | .absent, _ => (.ok !a.isReadOnly, t)
    | .empty, _ => (.ok !a.isReadOnly, t)
    | _, .nothing => (.ok !a.isReadOnly, t.erase (log place))
    | _, _ => t.run (clearLog a place) := by
  unfold settleLog
  rw [FileTree.run_bind, run_look]
  cases Beside.ofNode (t.node? (log place)) <;> cases h <;> rfl

/-- The log beside a file has been settled, and it is settled alike again. -/
structure LogSettled (a : Address) (place : Place) (w : Bool) (t u : FileTree) : Prop where
  frame : ∀ q, q ≠ log place → q ≠ logIndex place → u.node? q = t.node? q
  again : ∀ (v : FileTree) (db : Database), v.node? (log place) = u.node? (log place) →
    v.node? (logIndex place) = u.node? (logIndex place) →
      ∃ v', v.run (settleLog a (.tables db) place) = (.ok w, v') ∧ v.Same v'

theorem LogSettled.frame_of_mem (h : LogSettled a place w t u) :
    ∀ q ∈ [place, journal place, lock place], u.node? q = t.node? q := fun q hq =>
  h.frame q (not_log place q hq).1 (not_log place q hq).2

theorem settled_of_still
    (hl : Beside.ofNode (t.node? (log place)) = .absent ∨ Beside.ofNode (t.node? (log place)) = .empty) :
    LogSettled a place (!a.isReadOnly) t t := by
  refine ⟨fun _ _ _ => rfl, fun v db hv _ => ⟨v, ?_, .refl v⟩⟩
  rw [run_settleLog, hv]
  rcases hl with hl | hl <;> rw [hl]

theorem settled_of_erased : LogSettled a place (!a.isReadOnly) t (t.erase (log place)) := by
  have hgone : (t.erase (log place)).node? (log place) = none := by
    rw [FileTree.node?_erase _ (log_ne place), if_pos rfl]
  have hstill : LogSettled a place (!a.isReadOnly) (t.erase (log place)) (t.erase (log place)) :=
    settled_of_still (.inl (by rw [hgone]; rfl))
  refine ⟨fun q hq _ => ?_, hstill.again⟩
  rw [FileTree.node?_erase _ (log_ne place), if_neg hq]

theorem settled_of_cleared (h : t.run (clearLog a place) = (.ok w, u))
    (hl : ∀ (v : FileTree) (db : Database), v.node? (log place) = t.node? (log place) →
      v.run (settleLog a (.tables db) place) = v.run (clearLog a place)) : LogSettled a place w t u := by
  rw [run_clearLog] at h
  by_cases hs : a.canShare = false
  · rw [if_pos hs] at h
    cases h
  by_cases hi : Beside.ofNode (t.node? (logIndex place)) = .directory
  · rw [if_neg hs, if_pos hi] at h
    cases h
    refine ⟨fun _ _ _ => rfl, fun v db hv hv' => ⟨v, ?_, .refl v⟩⟩
    rw [hl v db hv, run_clearLog, if_neg hs, hv', if_pos hi]
  by_cases hr : a.isReadOnly = true
  · rw [if_neg hs, if_neg hi, if_pos hr] at h
    cases h
    refine ⟨fun q _ hq => ?_, fun v db hv hv' => ⟨v.put (logIndex place) freshIndex, ?_, rfl, fun q => ?_⟩⟩
    · simp [FileTree.node?_put, logIndex_ne, hq]
    · rw [FileTree.node?_put _ (logIndex_ne place), if_neg (log_ne_logIndex place)] at hv
      rw [FileTree.node?_put _ (logIndex_ne place), if_pos rfl] at hv'
      rw [hl v db hv, run_clearLog, if_neg hs, hv', if_neg nofun, if_pos hr]
    · -- the index is as it was made the first time
      rw [FileTree.node?_put _ (logIndex_ne place), if_pos rfl] at hv'
      by_cases hq : q = logIndex place
      · rw [hq, FileTree.node?_put _ (logIndex_ne place), if_pos rfl, hv']
      · rw [FileTree.node?_put _ (logIndex_ne place), if_neg hq]
  · rw [if_neg hs, if_neg hi, if_neg hr] at h
    cases h
    have hgone : ((t.erase (log place)).erase (logIndex place)).node? (log place) = none := by
      simp [FileTree.node?_erase, log_ne, logIndex_ne]
    have hstill : LogSettled a place (!a.isReadOnly) ((t.erase (log place)).erase (logIndex place))
        ((t.erase (log place)).erase (logIndex place)) :=
      settled_of_still (.inl (by rw [hgone]; rfl))
    rw [Bool.eq_false_iff.2 hr] at hstill
    refine ⟨fun q hq hq' => ?_, hstill.again⟩
    simp [FileTree.node?_erase, log_ne, logIndex_ne, hq, hq']

theorem settleLog_ok (h : t.run (settleLog a x place) = (.ok w, u)) : LogSettled a place w t u := by
  rw [run_settleLog] at h
  cases hl : Beside.ofNode (t.node? (log place)) with
  | directory =>
    rw [hl] at h
    cases x <;> cases h
  | absent =>
    rw [hl] at h
    cases h
    exact settled_of_still (.inl hl)
  | empty =>
    rw [hl] at h
    cases h
    exact settled_of_still (.inr hl)
  | _ =>
    have hc : ∀ (v : FileTree) (db : Database), v.node? (log place) = t.node? (log place) →
        v.run (settleLog a (.tables db) place) = v.run (clearLog a place) := by
      intro v db hv
      rw [run_settleLog, hv, hl]
    rw [hl] at h
    cases x with
    | nothing =>
      cases h
      exact settled_of_erased
    | _ => exact settled_of_cleared h hc

/-! ## The journal -/

/-- A journal that notes nothing. -/
def Quiet (b : Beside) : Prop := b = .absent ∨ b = .empty ∨ b = .finished

theorem run_cutTo (t : FileTree) (n : Nat) (x : Holding) (place : Place) : t.run (cutTo n x place) =
    if n = 0 then (.ok .nothing, t.put place (.text ""))
    else match x with
      | .tables db =>
        if Header.countOf pageBytes n < t.disk.pages db then
          (.ok (.other .malformed), t.put place (.binary Header.cutShort))
        else (.ok x, t)
      | _ => (.ok x, t) := by
  unfold cutTo
  split
  · rfl
  · cases x with
    | tables db =>
      rw [FileTree.run_bind, FileTree.run_get]
      dsimp only
      split <;> rfl
    | _ => rfl

theorem cutTo_ok {n : Nat} (h : t.run (cutTo n x place) = (.ok (.tables db), u)) : x = .tables db ∧ u = t := by
  rw [run_cutTo] at h
  split at h
  · cases h
  · cases x with
    | tables db' =>
      dsimp only at h
      split at h
      · cases h
      · cases h
        exact ⟨rfl, rfl⟩
    | _ => cases h

theorem run_settleJournal (t : FileTree) (a : Address) (x : Holding) (place : Place) :
    t.run (settleJournal a x place) = match Beside.ofNode (t.node? (journal place)), x with
      | .finished, .nothing => (.ok x, if a.isReadOnly then t else t.erase (journal place))
      | .pending _, .nothing => (.ok x, if a.isReadOnly then t else t.erase (journal place))
      | .directory, .nothing => (.ok x, t)
      | .directory, _ => (.error (.disk .reading), t)
      | .pending length, _ =>
        if a.isReadOnly then (.error .pendingJournal, t)
        else match length with
          | some n => (t.erase (journal place)).run (cutTo n x place)
          | none => (.ok x, t.erase (journal place))
      | _, _ => (.ok x, t) := by
  unfold settleJournal
  rw [FileTree.run_bind, run_look]
  cases Beside.ofNode (t.node? (journal place)) with
  | pending l =>
    cases hr : a.isReadOnly <;> cases x <;> cases l <;> rfl
  | _ => cases hr : a.isReadOnly <;> cases x <;> rfl

theorem run_settleJournal_of_quiet (hq : Quiet (Beside.ofNode (t.node? (journal place)))) (a : Address)
    (db : Database) : t.run (settleJournal a (.tables db) place) = (.ok (.tables db), t) := by
  rw [run_settleJournal]
  rcases hq with hq | hq | hq <;> rw [hq]

/-- Tables that are left once the journal is settled are those that the file held. -/
theorem settleJournal_ok (h : t.run (settleJournal a x place) = (.ok (.tables db), u)) :
    x = .tables db ∧ u.node? place = t.node? place ∧ Quiet (Beside.ofNode (u.node? (journal place))) := by
  rw [run_settleJournal] at h
  cases hb : Beside.ofNode (t.node? (journal place)) with
  | pending l =>
    have hx : x = .tables db ∧ u = t.erase (journal place) := by
      rw [hb] at h
      cases x with
      | nothing => cases h
      | _ =>
        dsimp only at h
        split at h
        · cases h
        cases l with
        | none =>
          obtain ⟨hx, hu⟩ := Prod.mk.inj h
          exact ⟨Except.ok.inj hx, hu.symm⟩
        | some n => exact cutTo_ok h
    rw [hx.2, FileTree.node?_erase _ (journal_ne place), if_neg (journal_ne_self place).symm,
      FileTree.node?_erase _ (journal_ne place), if_pos rfl]
    exact ⟨hx.1, rfl, .inl rfl⟩
  | directory =>
    rw [hb] at h
    cases x <;> cases h
  | absent =>
    rw [hb] at h
    cases h
    exact ⟨rfl, rfl, .inl hb⟩
  | empty =>
    rw [hb] at h
    cases h
    exact ⟨rfl, rfl, .inr (.inl hb)⟩
  | finished =>
    rw [hb] at h
    cases x <;> cases h
    exact ⟨rfl, rfl, .inr (.inr hb)⟩

/-! ## All that is beside a file -/

theorem mark_ok (h : t.run (mark place) = (.ok (), u)) :
    u = t ∧ ∀ v : FileTree, v.node? (lock place) = t.node? (lock place) → v.run (mark place) = (.ok (), v) := by
  unfold mark at h ⊢
  by_cases hl : FileTree.maxName < (FileTree.lastName (lock place)).utf8ByteSize
  · simp [hl] at h
  · simp only [hl, FileTree.run_bind, FileTree.run_get, ↓reduceIte] at h ⊢
    cases hn : (t.node? (lock place)).isSome with
    | true => simp [hn] at h
    | false =>
      simp only [hn, Bool.false_eq_true, ↓reduceIte, FileTree.run_pure] at h
      cases h
      exact ⟨rfl, fun v hv => by simp [hv, hn]⟩

/-- Nothing is undone when the file is opened: its journal is not looked at, or notes nothing. -/
def Silent (a : Address) (place : Place) (t : FileTree) : Prop :=
  a.immutable = true ∨ a.isMarked = true ∨ Quiet (Beside.ofNode (t.node? (journal place)))

/-- What is beside a file has been settled, and it is settled alike again as long as the journal is silent. -/
structure Settled (a : Address) (place : Place) (x y : Holding) (w : Bool) (t u : FileTree) : Prop where
  tables : ∀ db, y = .tables db → x = .tables db ∧ u.node? place = t.node? place ∧ Silent a place u
  frozen : a.immutable = true → w = false
  again : ∀ (v : FileTree) (db : Database), (∀ q ∈ [log place, logIndex place, lock place], v.node? q = u.node? q) →
    Silent a place v → ∃ v', v.run (settleBeside a (.tables db) place) = (.ok (.tables db, w), v') ∧ v.Same v'

theorem settled_of_immutable (hi : a.immutable = true) (t : FileTree) (x : Holding) :
    Settled a place x x false t t where
  tables db hx := ⟨hx, rfl, .inl hi⟩
  frozen _ := rfl
  again v db _ _ := by
    refine ⟨v, ?_, .refl v⟩
    simp [settleBeside, hi]

theorem run_settleBeside_of_marked (hi : a.immutable = false) (hm : a.isMarked = true) :
    t.run (settleBeside a x place) = t.run (do mark place; return (x, ← settleLog a x place)) := by
  unfold settleBeside
  rw [hi, hm]
  rfl

theorem settled_of_marked (hi : a.immutable = false) (hm : a.isMarked = true)
    (h : t.run (settleBeside a x place) = (.ok (y, w), u)) : Settled a place x y w t u := by
  rw [run_settleBeside_of_marked hi hm] at h
  obtain ⟨_, t₁, h₁, h⟩ := FileTree.run_bind_ok h
  obtain ⟨w', t₂, h₂, h⟩ := FileTree.run_bind_ok h
  cases h
  obtain ⟨rfl, hmark⟩ := mark_ok h₁
  have hlog := settleLog_ok h₂
  have hother := hlog.frame_of_mem
  refine ⟨fun db hx => ⟨hx, hother place (by simp), .inr (.inl hm)⟩, fun hi' => absurd (hi.symm.trans hi') nofun,
    fun v db hv _ => ?_⟩
  obtain ⟨v', hv', hs⟩ := hlog.again v db (hv _ (by simp)) (hv _ (by simp))
  have hlock := (hv (lock place) (by simp)).trans (hother (lock place) (by simp))
  refine ⟨v', ?_, hs⟩
  rw [run_settleBeside_of_marked hi hm, FileTree.run_bind, hmark v hlock]
  simp only [FileTree.run_bind, hv', FileTree.run_pure]

theorem run_settleBeside_of_not_marked (hi : a.immutable = false) (hm : a.isMarked = false) :
    t.run (settleBeside a x place) =
      t.run (do let y ← settleJournal a x place; return (y, ← settleLog a y place)) := by
  unfold settleBeside
  rw [hi, hm]
  rfl

theorem settled_of_not_marked (hi : a.immutable = false) (hm : a.isMarked = false)
    (h : t.run (settleBeside a x place) = (.ok (y, w), u)) : Settled a place x y w t u := by
  rw [run_settleBeside_of_not_marked hi hm] at h
  obtain ⟨y', t₁, h₁, h⟩ := FileTree.run_bind_ok h
  obtain ⟨w', t₂, h₂, h⟩ := FileTree.run_bind_ok h
  cases h
  have hlog := settleLog_ok h₂
  refine ⟨fun db hx => ?_, fun hi' => absurd (hi.symm.trans hi') nofun, fun v db hv hq => ?_⟩
  · rw [hx] at h₁
    obtain ⟨hx', hn, hq⟩ := settleJournal_ok h₁
    unfold Silent
    rw [hlog.frame_of_mem place (by simp), hlog.frame_of_mem (journal place) (by simp)]
    exact ⟨hx', hn, .inr (.inr hq)⟩
  · obtain ⟨v', hv', hs⟩ := hlog.again v db (hv _ (by simp)) (hv _ (by simp))
    have hquiet : Quiet (Beside.ofNode (v.node? (journal place))) := by simpa [Silent, hi, hm] using hq
    refine ⟨v', ?_, hs⟩
    rw [run_settleBeside_of_not_marked hi hm, FileTree.run_bind, run_settleJournal_of_quiet hquiet]
    simp only [FileTree.run_bind, hv', FileTree.run_pure]

/-- **What is beside a file is settled alike again.** -/
theorem settleBeside_ok (h : t.run (settleBeside a x place) = (.ok (y, w), u)) : Settled a place x y w t u := by
  cases hi : a.immutable with
  | true =>
    simp only [settleBeside, hi, ↓reduceIte, FileTree.run_pure, Prod.mk.injEq, Except.ok.injEq] at h
    obtain ⟨⟨rfl, rfl⟩, rfl⟩ := h
    exact settled_of_immutable hi t x
  | false =>
    cases hm : a.isMarked with
    | true => exact settled_of_marked hi hm h
    | false => exact settled_of_not_marked hi hm h

end VersionTags.OpenDatabase
