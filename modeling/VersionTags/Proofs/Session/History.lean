import Mathlib.Data.List.Induction
import VersionTags.Proofs.Session.Run
/-!
# The course of a run

What is said of a run as it goes on: how its moves were answered (`Session.transcript`), that no move of it had a
property (`Session.Never`), and that none had one since a move that had another (`Session.Since`).  A property is asked
of a move in the state in which the move is made.
-/
namespace VersionTags.Session

theorem run_append (s : Session) (ms ms' : List Move) : s.run (ms ++ ms') = (s.run ms).run ms' := List.foldl_append

theorem run_concat (s : Session) (ms : List Move) (m : Move) : s.run (ms ++ [m]) = ((s.run ms).move m).2 :=
  s.run_append ms [m]

/-! ## What a move comes to -/

section

variable {s : Session} {i : Nat} {seat : Seat}

theorem move_of_seat {m : Move} (h : s.seats[m.seat]? = some seat) :
    s.move m = (some ({ s with clock := m.now }.step m.seat seat m.step).1,
      ({ s with clock := m.now }.step m.seat seat m.step).2) := by
  simp only [move, h]

theorem move_of_none {m : Move} (h : s.seats[m.seat]? = none) : s.move m = (none, s) := by
  simp only [move, h]

theorem move_write (h : s.seats[i]? = some seat) (now : Time.Instant) (w : Write) : s.move ⟨i, now, w.step⟩ =
    (some (s.file.run (w.perform (s.store i seat) now)).1,
      { s with clock := now, file := (s.file.run (w.perform (s.store i seat) now)).2 }) := by
  rw [move_of_seat h, step_write]
  rfl

theorem move_read (h : s.seats[i]? = some seat) (now : Time.Instant) (r : Read) : s.move ⟨i, now, r.step⟩ =
    (some ((r.inquiry (s.store i seat)).on (s.file.sight i)), { s with clock := now }) := by
  rw [move_of_seat h, step_read, operate_eq, Read.run_perform]
  rfl

theorem move_aside (h : s.seats[i]? = some seat) {now : Time.Instant} {x : Step} (hx : x.isAside = true) :
    (s.move ⟨i, now, x⟩).2.file = s.file := by
  rw [move_of_seat h, file_aside _ i seat hx]

theorem move_command {now : Time.Instant} {x : Step} {t : Task} {a : Action Unit}
    (h : s.seats[i]? = some seat)
    (hx : ∀ s : Session, s.step i seat x = s.operate (do Store.run t a; return .done)) :
    s.move ⟨i, now, x⟩ = match s.file.run a with
      | (.ok (), g) => (some (.ok .done), { s with clock := now, file := g })
      | (.error e, g) => (some (.error (.storage t e)), { s with clock := now, file := g }) := by
  rw [move_of_seat h, hx, operate_eq, run_command]
  dsimp only
  rcases s.file.run a with ⟨e | ⟨⟩, g⟩ <;> rfl

theorem move_begin (h : s.seats[i]? = some seat) (now : Time.Instant) :
    s.move ⟨i, now, .begin⟩ = match s.file.writer with
      | some (owner, _) =>
        (some (.error (.storage .beginTransaction (if owner = i then .nestedTransaction else .locked))),
          { s with clock := now })
      | none => (some (.ok .done), { s with
          clock := now, file := { s.file with writer := some (i, ⟨s.file.committed, [], []⟩) } }) := by
  rw [move_command h fun s => s.step_begin i seat, File.run_begin]
  rcases s.file.writer with _ | ⟨owner, t⟩ <;> rfl

theorem move_commit (h : s.seats[i]? = some seat) (now : Time.Instant) :
    s.move ⟨i, now, .commit⟩ =
      if s.file.isAutocommit i then
        (some (.error (.storage .commitTransaction .noTransactionToCommit)), { s with clock := now })
      else (some (.ok .done), { s with
        clock := now, file := { s.file with committed := s.file.view i, writer := none } }) := by
  rw [move_command h fun s => s.step_commit i seat, File.run_commit, File.isAutocommit, File.view]
  cases s.file.transaction? i <;> rfl

theorem move_rollback (h : s.seats[i]? = some seat) (now : Time.Instant) :
    s.move ⟨i, now, .rollback⟩ =
      if s.file.isAutocommit i then
        (some (.error (.storage .rollBackTransaction .noTransactionToRollBack)), { s with clock := now })
      else (some (.ok .done), { s with clock := now, file := { s.file with writer := none } }) := by
  rw [move_command h fun s => s.step_rollback i seat, File.run_rollback, File.isAutocommit]
  cases s.file.transaction? i <;> rfl

/-- What a move makes of the file. -/
inductive Changes (s : Session) (m : Move) : File → Prop where
  | kept : Changes s m s.file
  | written {seat : Seat} {w : Write} (hs : s.seats[m.seat]? = some seat) (hx : m.step = w.step) :
    Changes s m (s.file.run (w.perform (s.store m.seat seat) m.now)).2
  | begun (hx : m.step = .begin) (hw : s.file.writer = none) :
    Changes s m { s.file with writer := some (m.seat, ⟨s.file.committed, [], []⟩) }
  | committed (hx : m.step = .commit) (ha : s.file.isAutocommit m.seat = false)
    (hok : (s.move m).1 = some (.ok .done)) :
    Changes s m { s.file with committed := s.file.view m.seat, writer := none }
  | rolledBack (hx : m.step = .rollback) (ha : s.file.isAutocommit m.seat = false) :
    Changes s m { s.file with writer := none }

theorem changes_move (s : Session) (m : Move) : s.Changes m (s.move m).2.file := by
  obtain ⟨i, now, x⟩ := m
  rcases hs : s.seats[i]? with _ | seat
  · rw [move_of_none hs]
    exact .kept
  cases x.kind with
  | write w =>
    rw [move_write hs]
    exact .written hs rfl
  | read r =>
    rw [move_read hs]
    exact .kept
  | begin =>
    rw [move_begin hs]
    split
    · exact .kept
    · exact .begun rfl ‹_›
  | commit =>
    have hm := move_commit hs now
    cases ha : s.file.isAutocommit i with
    | true =>
      rw [hm, ha, if_pos rfl]
      exact .kept
    | false =>
      rw [ha, if_neg Bool.false_ne_true] at hm
      rw [hm]
      exact .committed rfl ha (by rw [hm])
  | rollback =>
    rw [move_rollback hs]
    cases ha : s.file.isAutocommit i with
    | true => exact .kept
    | false => exact .rolledBack rfl ha
  | aside hx =>
    rw [move_aside hs hx]
    exact .kept

end

/-! ## Properties of runs -/

/-- The moves of a run with their answers. -/
def transcript (s : Session) : List Move → List (Move × Option (Except Error Answer))
  | [] => []
  | m :: ms => (m, (s.move m).1) :: (s.move m).2.transcript ms

def Never (P : Session → Move → Prop) (s : Session) : List Move → Prop
  | [] => True
  | m :: ms => ¬P s m ∧ (s.move m).2.Never P ms

/-- A move of the run had the first property, and no later one the second. -/
def Since (P Q : Session → Move → Prop) (s : Session) (ms : List Move) : Prop :=
  ∃ pre m post, ms = pre ++ m :: post ∧ P (s.run pre) m ∧ (s.run (pre ++ [m])).Never Q post

variable {P Q : Session → Move → Prop}

theorem never_append (s : Session) : ∀ ms ms' : List Move,
    s.Never P (ms ++ ms') ↔ s.Never P ms ∧ (s.run ms).Never P ms'
  | [], ms' => by simp [Never, run]
  | m :: ms, ms' => by
    have ih := (s.move m).2.never_append ms ms'
    simp only [List.cons_append, Never, ih, and_assoc]
    rfl

theorem never_concat (s : Session) (ms : List Move) (m : Move) :
    s.Never P (ms ++ [m]) ↔ s.Never P ms ∧ ¬P (s.run ms) m := by
  rw [never_append]
  simp [Never]

theorem Never.mono {H : Session → Prop} (hk : ∀ s m, H s → H (s.move m).2) : ∀ {ms : List Move} {s : Session},
    s.Never P ms → H s → (∀ s, H s → ∀ m ∈ ms, Q s m → P s m) → s.Never Q ms
  | [], _, _, _, _ => trivial
  | m :: _, s, h, hs, hq => ⟨fun hm => h.1 (hq s hs m List.mem_cons_self hm),
      h.2.mono hk (hk s m hs) fun s hs k hm => hq s hs k (List.mem_cons_of_mem m hm)⟩

theorem not_since_nil (s : Session) : ¬s.Since P Q [] := by
  rintro ⟨pre, m, post, h, -, -⟩
  cases pre <;> cases h

/-- **What holds since a move holds at the next** if that is such a move itself, or does not end it. -/
theorem since_concat (s : Session) (ms : List Move) (m : Move) :
    s.Since P Q (ms ++ [m]) ↔ P (s.run ms) m ∨ s.Since P Q ms ∧ ¬Q (s.run ms) m := by
  constructor
  · rintro ⟨pre, k, post, h, hk, hn⟩
    rcases List.eq_nil_or_concat post with rfl | ⟨post, l, rfl⟩
    · obtain ⟨rfl, he⟩ := List.append_inj' h rfl
      cases he
      exact .inl hk
    · rw [List.concat_eq_append, ← List.cons_append, ← List.append_assoc] at h
      obtain ⟨rfl, he⟩ := List.append_inj' h rfl
      cases he
      rw [List.concat_eq_append, never_concat, ← run_append, List.append_assoc, List.singleton_append] at hn
      exact .inr ⟨⟨pre, k, post, rfl, hk, hn.1⟩, hn.2⟩
  · rintro (hm | ⟨⟨pre, k, post, rfl, hk, hn⟩, hm⟩)
    · exact ⟨ms, m, [], rfl, hm, trivial⟩
    · refine ⟨pre, k, post ++ [m], by simp, hk, ?_⟩
      rw [never_concat, ← run_append, List.append_assoc, List.singleton_append]
      exact ⟨hn, hm⟩

/-- What one move turns on and another off holds of a run just since it was turned on. -/
theorem since_iff {s : Session} {H : Session → Prop} (h : ¬H s)
    (hm : ∀ s m, H (s.move m).2 ↔ P s m ∨ H s ∧ ¬Q s m) (ms : List Move) : H (s.run ms) ↔ s.Since P Q ms := by
  induction ms using List.reverseRecOn with
  | nil => exact iff_of_false h s.not_since_nil
  | append_singleton ms m ih => rw [run_concat, hm, since_concat, ih]

/-- What every move keeps holds at the end of a run. -/
theorem kept_run {H : Session → Prop} (hm : ∀ s m, H s → H (s.move m).2) : ∀ (ms : List Move) {s : Session},
    H s → H (s.run ms)
  | [], _, h => h
  | m :: ms, s, h => kept_run hm ms (hm s m h)

end VersionTags.Session
