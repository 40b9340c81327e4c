import VersionTags.Proofs.Session.Bracket
import VersionTags.Proofs.Store.Strategy
/-!
# Sessions whose stores learn ids in different ways

Of two sessions that differ in the ways their stores learn ids, and of two runs of them that differ in the moves that
choose one, every other move has the same answer and leaves the same file (`Session.strategies_agree`).  The one
exception is a plain insertion that finds no id left inside a transaction.
-/
namespace VersionTags

/-- The seat with the choice to have ids returned. -/
def Seat.generated (seat : Seat) : Seat := { seat with strategy := .generatedKeys }

theorem Seat.generated_inj {seat seat' : Seat} :
    seat.generated = seat'.generated ↔ seat.tenant = seat'.tenant ∧ seat.paginated = seat'.paginated := by
  simp [generated]

/-- The step chooses a way to learn ids, or asks for the one in force. -/
def Step.isChoice : Step → Bool
  | .setStrategy _ => true
  | .strategy => true
  | _ => false

theorem Step.isAside_of_isChoice {x : Step} (hx : x.isChoice = true) : x.isAside = true := by
  cases x <;> first | rfl | cases hx

theorem Read.inquiry_generated (r : Read) (st : Store) : r.inquiry st.generated = r.inquiry st := by
  cases r <;> rfl

namespace Session

variable {s s' : Session} {m : Move}

/-- Two sessions are the same but for their files, their clocks and the ways their stores learn ids. -/
structure Akin (s s' : Session) : Prop where
  faults : s.faults = s'.faults
  locator : s.locator = s'.locator
  access : s.access = s'.access
  seats : s.seats.map Seat.generated = s'.seats.map Seat.generated

namespace Akin

theorem refl (s : Session) : Akin s s := ⟨rfl, rfl, rfl, rfl⟩

theorem symm (h : Akin s s') : Akin s' s := ⟨h.faults.symm, h.locator.symm, h.access.symm, h.seats.symm⟩

theorem trans {u : Session} (h : Akin s s') (h' : Akin s' u) : Akin s u :=
  ⟨h.faults.trans h'.faults, h.locator.trans h'.locator, h.access.trans h'.access, h.seats.trans h'.seats⟩

theorem seat (h : Akin s s') (i : Nat) : s.seats[i]?.map Seat.generated = s'.seats[i]?.map Seat.generated := by
  rw [← List.getElem?_map, h.seats, List.getElem?_map]

theorem store {seat seat' : Seat} (h : Akin s s') (hs : seat.generated = seat'.generated) (i : Nat) :
    (s.store i seat).generated = (s'.store i seat').generated := by
  obtain ⟨ht, hp⟩ := Seat.generated_inj.1 hs
  simp only [Session.store, Store.generated, h.faults, h.locator, h.access, ht, hp]

theorem setSeat {seat seat' : Seat} (h : Akin s s') (hs : seat.generated = seat'.generated) (i : Nat) :
    Akin (s.setSeat i seat) (s'.setSeat i seat') := by
  refine ⟨h.faults, h.locator, h.access, ?_⟩
  simp only [Session.setSeat, List.map_set, h.seats, hs]

end Akin

/-- A choice changes nothing else. -/
theorem akin_choice (s : Session) (hx : m.step.isChoice = true) : Akin s (s.move m).2 ∧ (s.move m).2.file = s.file := by
  obtain ⟨i, now, x⟩ := m
  rcases hs : s.seats[i]? with _ | seat
  · rw [move_of_none hs]
    exact ⟨.refl s, rfl⟩
  refine ⟨?_, move_aside hs (Step.isAside_of_isChoice hx)⟩
  rw [move_of_seat hs]
  cases x with
  | setStrategy text =>
    simp only [step, operation, adjust]
    cases KeyStrategy.parse text with
    | error e => exact ⟨rfl, rfl, rfl, rfl⟩
    | ok k =>
      -- the seat is what it was, but for the choice
      refine ⟨rfl, rfl, rfl, ?_⟩
      simp only [setSeat, List.map_set]
      have hg : (s.seats.map Seat.generated)[i]? = some seat.generated := by rw [List.getElem?_map, hs]; rfl
      obtain ⟨hi, he⟩ := List.getElem?_eq_some_iff.1 hg
      have hset := List.set_getElem_self hi
      rw [he] at hset
      exact hset.symm
  | strategy => exact ⟨rfl, rfl, rfl, rfl⟩
  | _ => cases hx

/-- The same answer, and sessions that are the same but for what a plain insertion may have ended. -/
def Follow (s s' : Session) (m : Move) : Prop :=
  (s.move m).1 = (s'.move m).1 ∧ Akin (s.move m).2 (s'.move m).2 ∧
    ((s.move m).2.file = (s'.move m).2.file ↔ (s.RunsOut m ↔ s'.RunsOut m))

theorem follow_of_not_runsOut (hn : ¬s.RunsOut m) (hn' : ¬s'.RunsOut m) (ha : (s.move m).1 = (s'.move m).1)
    (hk : Akin (s.move m).2 (s'.move m).2) (hf : (s.move m).2.file = (s'.move m).2.file) : Follow s s' m :=
  ⟨ha, hk, iff_of_true hf (iff_of_false hn hn')⟩

theorem not_runsOut (hw : m.step.write? = none) (s : Session) : ¬s.RunsOut m := fun h => write?_of_writes h hw

theorem follow_command {i : Nat} {now : Time.Instant} {seat seat' : Seat} {x : Step} {t : Task} {a : Action Unit}
    (h : Akin s s') (hf : s.file = s'.file) (hs : s.seats[i]? = some seat) (hs' : s'.seats[i]? = some seat')
    (hw : x.write? = none)
    (hx : ∀ (s : Session) (seat : Seat), s.step i seat x = s.operate (do Store.run t a; return .done)) :
    Follow s s' ⟨i, now, x⟩ := by
  have hm : s.move ⟨i, now, x⟩ = _ := move_command hs fun s => hx s seat
  have hm' : s'.move ⟨i, now, x⟩ = _ := move_command hs' fun s => hx s seat'
  rw [← hf] at hm'
  rcases hr : s.file.run a with ⟨e | ⟨⟩, g⟩ <;> rw [hr] at hm hm'
  · refine follow_of_not_runsOut (not_runsOut hw s) (not_runsOut hw s') ?_ ?_ ?_ <;> rw [hm, hm']
    exact ⟨h.faults, h.locator, h.access, h.seats⟩
  · refine follow_of_not_runsOut (not_runsOut hw s) (not_runsOut hw s') ?_ ?_ ?_ <;> rw [hm, hm']
    exact ⟨h.faults, h.locator, h.access, h.seats⟩

theorem follow_aside {i : Nat} {now : Time.Instant} {seat seat' : Seat} {x : Step} (h : Akin s s')
    (hf : s.file = s'.file) (hs : s.seats[i]? = some seat) (hs' : s'.seats[i]? = some seat')
    (hg : seat.generated = seat'.generated) (ha : x.isAside = true) (hx : x.isChoice = false) :
    Follow s s' ⟨i, now, x⟩ := by
  have hw := Step.write?_of_isAside ha
  obtain ⟨ht, hp⟩ := Seat.generated_inj.1 hg
  have hk : Akin { s with clock := now } { s' with clock := now } := ⟨h.faults, h.locator, h.access, h.seats⟩
  have hstep : ({ s with clock := now }.step i seat x).1 = ({ s' with clock := now }.step i seat' x).1 ∧
      Akin ({ s with clock := now }.step i seat x).2 ({ s' with clock := now }.step i seat' x).2 := by
    have hl := h.locator
    cases x with
    | move v w => exact ⟨rfl, hk⟩
    | setTenant t =>
      have hs : { seat with tenant := t }.generated = { seat' with tenant := t }.generated :=
        Seat.generated_inj.2 ⟨rfl, hp⟩
      exact ⟨rfl, hk.setSeat hs i⟩
    | tenant => exact ⟨congrArg (fun t => Except.ok (Answer.number t)) ht, hk⟩
    | setPath v p =>
      refine ⟨congrArg (fun l : Locator => Except.ok (Answer.number (l.insert v p).size)) hl, ?_⟩
      exact ⟨h.faults, congrArg (fun l : Locator => l.insert v p) hl, h.access, h.seats⟩
    | deletePath v =>
      refine ⟨congrArg (fun l : Locator => Except.ok (Answer.text (l.path? v))) hl, ?_⟩
      exact ⟨h.faults, congrArg (fun l : Locator => l.erase v) hl, h.access, h.seats⟩
    | setPaginated on =>
      have hs : { seat with paginated := on }.generated = { seat' with paginated := on }.generated :=
        Seat.generated_inj.2 ⟨ht, rfl⟩
      exact ⟨rfl, hk.setSeat hs i⟩
    | setWait ms => exact ⟨rfl, hk⟩
    | setStrategy text => cases hx
    | strategy => cases hx
    | _ => cases ha
  have hfile : (s.move ⟨i, now, x⟩).2.file = (s'.move ⟨i, now, x⟩).2.file := by
    rw [move_aside hs ha, move_aside hs' ha, hf]
  refine follow_of_not_runsOut (not_runsOut hw s) (not_runsOut hw s') ?_ ?_ hfile <;>
    rw [move_of_seat hs, move_of_seat hs']
  · exact congrArg some hstep.1
  · exact hstep.2

/-- **A move that is no choice does the same in both sessions.** -/
theorem follow (h : Akin s s') (hf : s.file = s'.file) (hx : m.step.isChoice = false) : Follow s s' m := by
  obtain ⟨i, now, x⟩ := m
  have hseat := h.seat i
  rcases hs : s.seats[i]? with _ | seat <;> rcases hs' : s'.seats[i]? with _ | seat' <;> rw [hs, hs'] at hseat
  · -- there is no such store
    have hn : ∀ u : Session, u.seats[i]? = none → ¬u.RunsOut ⟨i, now, x⟩ := by
      rintro u hu ⟨seat, w, hw, -⟩
      cases hu.symm.trans hw
    refine follow_of_not_runsOut (hn s hs) (hn s' hs') ?_ ?_ ?_ <;> rw [move_of_none hs, move_of_none hs']
    · exact h
    · exact hf
  · cases hseat
  · cases hseat
  have hg : seat.generated = seat'.generated := Option.some.inj hseat
  cases x.kind with
  | write w =>
    obtain ⟨ha, hl⟩ := Write.run_strategy (h.store hg i) w now s.file
    have hr : s.RunsOut ⟨i, now, w.step⟩ ↔ _ := writes_iff hs w
    have hr' : s'.RunsOut ⟨i, now, w.step⟩ ↔ _ := writes_iff hs' w
    rw [Follow, hr, hr', move_write hs, move_write hs', ← hf]
    exact ⟨congrArg some ha, ⟨h.faults, h.locator, h.access, h.seats⟩, hl⟩
  | read r =>
    refine follow_of_not_runsOut (not_runsOut r.write?_step s) (not_runsOut r.write?_step s') ?_ ?_ ?_ <;>
      rw [move_read hs, move_read hs']
    · show some ((r.inquiry (s.store i seat)).on _) = some ((r.inquiry (s'.store i seat')).on _)
      rw [← r.inquiry_generated, h.store hg i, r.inquiry_generated, hf]
    · exact ⟨h.faults, h.locator, h.access, h.seats⟩
    · exact hf
  | begin => exact follow_command h hf hs hs' rfl fun s seat => s.step_begin i seat
  | commit => exact follow_command h hf hs hs' rfl fun s seat => s.step_commit i seat
  | rollback => exact follow_command h hf hs hs' rfl fun s seat => s.step_rollback i seat
  | aside ha => exact follow_aside h hf hs hs' hg ha hx

/-! ## Runs -/

/-- What a run answers to the moves that are no choices. -/
def answers (s : Session) (ms : List Move) : List (Move × Option (Except Error Answer)) :=
  (s.transcript ms).filter fun p => !p.1.step.isChoice

theorem answers_of_choice (hx : m.step.isChoice = true) (s : Session) (ms : List Move) :
    s.answers (m :: ms) = (s.move m).2.answers ms :=
  List.filter_cons_of_neg (by simp [hx])

theorem answers_of_not_choice (hx : m.step.isChoice = false) (s : Session) (ms : List Move) :
    s.answers (m :: ms) = (m, (s.move m).1) :: (s.move m).2.answers ms :=
  List.filter_cons_of_pos (by simp [hx])

/-- Two runs have the same moves but for choices. -/
def SameMoves (ms ms' : List Move) : Prop :=
  ms.filter (fun m => !m.step.isChoice) = ms'.filter fun m => !m.step.isChoice

theorem SameMoves.of_choice {ms ms' : List Move} (h : SameMoves (m :: ms) ms') (hx : m.step.isChoice = true) :
    SameMoves ms ms' := by
  rwa [SameMoves, List.filter_cons_of_neg (by simp [hx])] at h

theorem SameMoves.symm {ms ms' : List Move} (h : SameMoves ms ms') : SameMoves ms' ms := Eq.symm h

theorem SameMoves.of_not_choice {m' : Move} {ms ms' : List Move} (h : SameMoves (m :: ms) (m' :: ms'))
    (hx : m.step.isChoice = false) (hx' : m'.step.isChoice = false) : m = m' ∧ SameMoves ms ms' := by
  rw [SameMoves, List.filter_cons_of_pos (by simp [hx]), List.filter_cons_of_pos (by simp [hx'])] at h
  exact List.cons.inj h

/-- **Two runs with the same moves but for choices have the same answers and leave the same file**, unless a plain
insertion finds no id left inside a transaction. -/
theorem run_of_akin : ∀ (ms ms' : List Move) {s s' : Session}, Akin s s' → s.file = s'.file → SameMoves ms ms' →
    s.Never RunsOut ms → s'.Never RunsOut ms' →
    s.answers ms = s'.answers ms' ∧ (s.run ms).file = (s'.run ms').file
  | [], [], _, _, _, hf, _, _, _ => ⟨rfl, hf⟩
  | [], m' :: ms', s, s', h, hf, hm, hn, hn' => by
    cases hx' : m'.step.isChoice with
    | true =>
      obtain ⟨hk, hsame⟩ := akin_choice s' hx'
      rw [answers_of_choice hx']
      exact run_of_akin [] ms' (h.trans hk) (hf.trans hsame.symm) (hm.symm.of_choice hx').symm hn hn'.2
    | false => simp [SameMoves, hx'] at hm
  | m :: ms, ms', s, s', h, hf, hm, hn, hn' => by
    cases hx : m.step.isChoice with
    | true =>
      obtain ⟨hk, hsame⟩ := akin_choice s hx
      rw [answers_of_choice hx]
      exact run_of_akin ms ms' (hk.symm.trans h) (hsame.trans hf) (hm.of_choice hx) hn.2 hn'
    | false =>
      cases ms' with
      | nil => simp [SameMoves, hx] at hm
      | cons m' ms' =>
        cases hx' : m'.step.isChoice with
        | true =>
          obtain ⟨hk, hsame⟩ := akin_choice s' hx'
          rw [answers_of_choice hx']
          exact run_of_akin (m :: ms) ms' (h.trans hk) (hf.trans hsame.symm) (hm.symm.of_choice hx').symm hn hn'.2
        | false =>
          obtain ⟨rfl, hrest⟩ := hm.of_not_choice hx hx'
          obtain ⟨ha, hk, hl⟩ := follow h hf hx
          have hsame := hl.2 (iff_of_false hn.1 hn'.1)
          obtain ⟨hans, hfile⟩ := run_of_akin ms ms' hk hsame hrest hn.2 hn'.2
          rw [answers_of_not_choice hx, answers_of_not_choice hx, ha, hans]
          exact ⟨rfl, hfile⟩
termination_by ms ms' => ms.length + ms'.length

/-- **Stores answer and write the same however they learn ids.**  Of two sessions that differ only in that, a move has
the same answer, and leaves the same file just when a plain insertion finds no id left inside a transaction in both or
in neither; and runs of them agree that differ in choices besides.  The id that a store learns is that of the row it
inserted, whatever else there is in the tables. -/
theorem strategies_agree (s s' : Session) (h : Akin s s') (hf : s.file = s'.file) :
    (∀ m : Move, m.step.isChoice = false → Follow s s' m) ∧
      (∀ ms ms' : List Move, SameMoves ms ms' → s.Never RunsOut ms → s'.Never RunsOut ms' →
        s.answers ms = s'.answers ms' ∧ (s.run ms).file = (s'.run ms').file) ∧
      ∀ (st : Store) (f g : File) (r : TagRecord) (id : TagId), f.run (st.insertTag r) = (.ok id, g) →
        (g.view st.connection).tags =
            ⟨id, r.name, r.author, r.taggedAt.storedText, .int st.tenant⟩ :: (f.view st.connection).tags ∧
          (∀ t ∈ (f.view st.connection).tags, t.id < id) ∧ (g.view st.connection).greatestId = .ok id :=
  ⟨fun _ hx => follow h hf hx, fun ms ms' hm hn hn' => run_of_akin ms ms' h hf hm hn hn',
    fun _ _ _ _ _ hi => Store.id_of_insertTag hi⟩

/-- The answer says that no id is left. -/
def isFull : Option (Except Error Answer) → Bool
  | some (.error (.storage _ .full)) => true
  | _ => false

theorem isFull_of_runsOut (h : s.RunsOut m) : isFull (s.move m).1 = true := by
  obtain ⟨i, now, x⟩ := m
  obtain ⟨seat, w, hs, hx, b, ho, hb, -⟩ := h
  dsimp only at hs hx ho
  subst hx
  obtain ⟨g, hg, -⟩ := w.run_perform (s.store i seat) now s.file
  rw [move_write hs, hg, ho, Write.report, hb]
  rfl

theorem never_runsOut : ∀ (ms : List Move) {s : Session}, (∀ p ∈ s.transcript ms, isFull p.2 = false) →
    s.Never RunsOut ms
  | [], _, _ => trivial
  | m :: ms, s, h => by
    rw [transcript, List.forall_mem_cons] at h
    refine ⟨fun hr => ?_, never_runsOut ms h.2⟩
    cases h.1.symm.trans (isFull_of_runsOut hr)

open Write (someTime plainStore)

/-- The pair of stores with the ways to learn ids the other way round. -/
def swapped : Session := { pair with seats := [⟨1, .generatedKeys, true⟩, ⟨1, .maxId, true⟩] }

/-- A rolled back tag gives its id back, and both stores put another; on the way both choose anew. -/
def choosing : List Move :=
  [opening, ⟨0, someTime, .add "n" 1 "alice"⟩, ⟨1, someTime, .setStrategy "max-id"⟩, ⟨0, someTime, .rollback⟩,
    ⟨1, someTime, .add "m" 1 "bob"⟩, ⟨0, someTime, .setStrategy "generated-keys"⟩, ⟨0, someTime, .add "p" 1 "alice"⟩,
    ⟨1, someTime, .tags 1⟩]

/-- The same without a choice. -/
def settled : List Move := choosing.filter fun m => !m.step.isChoice

/-- The stores of the pair choose anew and those of the swapped one do not; answers and tables are the same.  And where
another tenant has the greatest id, a store that asks for it learns its own. -/
theorem pair_agrees_with_swapped :
    Akin pair swapped ∧ choosing ≠ settled ∧ pair.answers choosing = swapped.answers settled ∧
      (pair.run choosing).file = (swapped.run settled).file ∧
      (pair.run choosing).file.committed.tags.map (fun t => (t.id, t.name)) = [(2, "p"), (1, "m")] ∧
      ((Store.mixedFile.run (plainStore.insertTag ⟨"z", "carol", someTime⟩)).2.view 0).greatestId = .ok 3 := by
  have hk : Akin pair swapped := ⟨rfl, rfl, rfl, rfl⟩
  have hm : SameMoves choosing settled := rfl
  obtain ⟨-, hrun, hid⟩ := strategies_agree pair swapped hk rfl
  have hn : pair.Never RunsOut choosing := never_runsOut choosing (by decide +kernel)
  have hn' : swapped.Never RunsOut settled := never_runsOut settled (by decide +kernel)
  obtain ⟨hans, hfile⟩ := hrun choosing settled hm hn hn'
  have hz : Store.mixedFile.run (plainStore.insertTag ⟨"z", "carol", someTime⟩) = (.ok 3, _) := rfl
  exact ⟨hk, by decide, hans, hfile, by decide +kernel, (hid plainStore _ _ _ 3 hz).2.2⟩

/-- **A choice changes what a later commit answers and what is left**: with ids returned the insertion that finds none
left fails alone, and after a choice to ask for the greatest one it ends the transaction. -/
theorem choice_changes_commit :
    let s : Session := { brink with seats := [⟨1, .generatedKeys, true⟩] }
    let k : Move := ⟨0, someTime, .add "k" 1 "alice"⟩
    let choose : Move := ⟨0, someTime, .setStrategy "max-id"⟩
    let full : Move := ⟨0, someTime, .add "full" 1 "alice"⟩
    let commit : Move := ⟨0, someTime, .commit⟩
    SameMoves [opening, k, choose, full, commit] [opening, k, full, commit] ∧
      ((s.run [opening, k, full]).move commit).1 = some (.ok .done) ∧
      ((s.run [opening, k, choose, full]).move commit).1 =
        some (.error (.storage .commitTransaction .noTransactionToCommit)) ∧
      (s.run [opening, k, full, commit]).file.committed.tags.map TagRow.name = ["k", "x"] ∧
      (s.run [opening, k, choose, full, commit]).file.committed.tags.map TagRow.name = ["x"] :=
  ⟨rfl, rfl, rfl, rfl, rfl⟩

end Session
end VersionTags
