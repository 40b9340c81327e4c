import VersionTags.Proofs.Session.Bracket
/-!
# A transaction around the steps of one connection

For one connection alone, and triggers that do not roll back, a transaction around its steps makes no difference to
them: each has the answer that it would have without, a commit leaves the tables that the steps alone would leave, and
a rollback those from before (`Session.bracket_transparent`).  That is so as long as the transaction lasts, and it
lasts unless a plain insertion inside it finds no id left.
-/
namespace VersionTags

/-- The step begins a transaction or ends one. -/
def Step.IsCommand (x : Step) : Prop := x = .begin ∨ x = .commit ∨ x = .rollback

instance (x : Step) : Decidable x.IsCommand := inferInstanceAs (Decidable (_ ∨ _ ∨ _))

namespace File

/-- The file inside a transaction of the connection, which works on its tables and began at others. -/
def inside (f : File) (c : Connection) (base : Database) (past : List Database) : File :=
  { f with committed := base, writer := some (c, ⟨f.committed, [], past⟩) }

variable {f g : File} {c : Connection} {base : Database} {past : List Database}

theorem inside_isAutocommit : (f.inside c base past).isAutocommit c = false := by
  simp [inside, isAutocommit, transaction?]

theorem inside_view : (f.inside c base past).view c = f.committed := by
  simp [inside, view, transaction?]

theorem inside_sight (h : f.writer = none) : (f.inside c base past).sight c = f.sight c := by
  have hi : (f.inside c base past).isBlocked c = false := isBlocked_of_writer rfl
  have hf : f.isBlocked c = false := by simp [isBlocked, h]
  rw [sight, sight, hi, hf, inside_view, view_of_none h]

theorem inside_committed (h : f.writer = none) (c : Connection) (base : Database) (past : List Database) :
    { f.inside c base past with committed := (f.inside c base past).view c, writer := none } = f := by
  rw [inside_view]
  cases f
  simp_all [inside]

theorem Alike.eq_inside (h : g.Alike (f.inside c base past)) : ∃ past', g = f.inside c base past' := by
  rcases g with ⟨k, _ | ⟨d, ⟨db, sps, past'⟩⟩, ro, sp⟩
  · simp [Alike, withoutPast, inside] at h
  · simp only [Alike, withoutPast, inside, Option.map_some, File.mk.injEq, Option.some.injEq, Prod.mk.injEq,
      Transaction.mk.injEq] at h
    obtain ⟨rfl, ⟨rfl, rfl, rfl, -⟩, rfl, rfl⟩ := h
    exact ⟨past', rfl⟩

end File

namespace Write

variable {w : Write} {st : Store} {now : Time.Instant} {f : File} {base : Database} {u : List Database}

theorem outcome_inside (w : Write) (st : Store) (now : Time.Instant) (hw : f.writer = none) (base : Database)
    (u : List Database) : w.outcome st now (f.inside st.connection base u) = w.outcome st now f := by
  have hi : (f.inside st.connection base u).isLocked st.connection = false := by simp [File.inside, File.isLocked]
  have hf : f.isLocked st.connection = false := by simp [File.isLocked, hw]
  rw [outcome, outcome, hi, hf, File.inside_view, File.view_of_none hw]
  rfl

/-- **A write does inside the transaction what it does without**, unless its refusal ends the transaction. -/
theorem run_inside (hw : f.writer = none) (he : ¬Ends (w.outcome st now f)) (base : Database) (u : List Database) :
    (f.run (w.perform st now)).2.writer = none ∧
      ∃ u', (f.inside st.connection base u).run (w.perform st now) =
        ((f.run (w.perform st now)).1, (f.run (w.perform st now)).2.inside st.connection base u') := by
  obtain ⟨g, hg, ha⟩ := w.run_perform st now f
  obtain ⟨g', hg', ha'⟩ := w.run_perform st now (f.inside st.connection base u)
  rw [outcome_inside w st now hw] at hg' ha'
  rw [hg, hg']
  rcases ho : w.outcome st now f with b | ⟨x, db⟩ <;> rw [ho] at ha ha'
  · have hr : b.refusal.reach = .statement := by
      cases hr : b.refusal.reach with
      | statement => rfl
      | transaction => exact absurd ⟨b, ho, hr⟩ he
    rw [leave, hr] at ha ha'
    obtain rfl : g = f := ha.eq_of_none hw
    obtain ⟨u', rfl⟩ := File.Alike.eq_inside ha'
    exact ⟨hw, u', rfl⟩
  · rw [leave, File.put_of_none hw] at ha
    obtain rfl : g = { f with committed := db } := ha.eq_of_none hw
    have hp : (f.inside st.connection base u).put db = { f with committed := db }.inside st.connection base u := rfl
    rw [leave, hp] at ha'
    obtain ⟨u', rfl⟩ := ha'.eq_inside
    exact ⟨hw, u', rfl⟩

end Write

namespace Session

variable {s : Session} {c : Connection} {m : Move}

def inside (s : Session) (c : Connection) (base : Database) (past : List Database) (now : Time.Instant) : Session :=
  { s with clock := now, file := s.file.inside c base past }

theorem not_loses_of_not_runsOut (hf : ∀ x ∈ s.faults, x.reach = .statement) (hn : ¬s.RunsOut m) : ¬s.Loses c m := by
  rintro ⟨-, h | h⟩
  · exact not_rollsBack hf h
  · exact hn h

/-- **Inside the transaction a move does what it does without**, unless it is a plain insertion that finds no id
left. -/
theorem move_inside {base : Database} {u : List Database} {now : Time.Instant} (hw : s.file.writer = none)
    (hf : ∀ x ∈ s.faults, x.reach = .statement) (hm : m.seat = c) (hx : ¬m.step.IsCommand)
    (hn : ¬(s.inside c base u now).RunsOut m) :
    (s.move m).2.file.writer = none ∧
      ∃ u' now', (s.inside c base u now).move m = ((s.move m).1, (s.move m).2.inside c base u' now') := by
  obtain ⟨i, t, x⟩ := m
  obtain rfl : i = c := hm
  rcases hs : s.seats[i]? with _ | seat
  · have hs' : (s.inside i base u now).seats[i]? = none := hs
    rw [move_of_none hs, move_of_none hs']
    exact ⟨hw, u, now, rfl⟩
  have hs' : (s.inside i base u now).seats[i]? = some seat := hs
  cases x.kind with
  | write w =>
    have he : ¬Write.Ends (w.outcome (s.store i seat) t s.file) := by
      intro he
      rw [← Write.outcome_inside w (s.store i seat) t hw base u] at he
      exact not_loses_of_not_runsOut (s := s.inside i base u now) hf hn
        ((loses_iff hs' File.inside_isAutocommit w).2 he)
    obtain ⟨h, u', hr⟩ := Write.run_inside hw he base u
    rw [move_write hs', move_write hs]
    exact ⟨h, u', t, congrArg (fun r => (some r.1, { s with clock := t, file := r.2 })) hr⟩
  | read r =>
    rw [move_read hs', move_read hs]
    refine ⟨hw, u, t, ?_⟩
    exact congrArg (fun v => (some ((r.inquiry (s.store i seat)).on v), s.inside i base u t)) (File.inside_sight hw)
  | begin => exact absurd (.inl rfl) hx
  | commit => exact absurd (.inr (.inl rfl)) hx
  | rollback => exact absurd (.inr (.inr rfl)) hx
  | aside ha =>
    have he : ∀ r : Session, r.file = s.file →
        { r with file := s.file.inside i base u } = r.inside i base u r.clock := by
      intro r hr
      rw [inside, hr]
    have hfile : ({ s with clock := t }.step i seat x).2.file = s.file := file_aside _ i seat ha
    have hi := { s with clock := t }.step_aside (s.file.inside i base u) i seat ha
    rw [he _ hfile] at hi
    rw [move_of_seat hs', move_of_seat hs]
    exact ⟨(congrArg File.writer hfile).trans hw, u, _, congrArg (fun r => (some r.1, r.2)) hi⟩

/-- Inside the transaction the steps of the connection have the same answers, and do to its tables what they do to the
committed ones without. -/
theorem run_inside {base : Database} : ∀ (ms : List Move) {s : Session} {u : List Database} {now : Time.Instant},
    s.file.writer = none → (∀ x ∈ s.faults, x.reach = .statement) → (∀ m ∈ ms, m.seat = c ∧ ¬m.step.IsCommand) →
    (s.inside c base u now).Never RunsOut ms →
    (s.inside c base u now).transcript ms = s.transcript ms ∧ (s.run ms).file.writer = none ∧
      ∃ u' now', (s.inside c base u now).run ms = (s.run ms).inside c base u' now'
  | [], s, u, now, hw, _, _, _ => ⟨rfl, hw, u, now, rfl⟩
  | m :: ms, s, u, now, hw, hf, hm, hn => by
    obtain ⟨hc, hx⟩ := hm m List.mem_cons_self
    obtain ⟨hw', u₁, now₁, he⟩ := move_inside hw hf hc hx hn.1
    have hr := hn.2
    rw [he] at hr
    obtain ⟨ht, hw₂, u₂, now₂, hrun⟩ := run_inside ms hw' (by rw [(s.stores_move m).2]; exact hf)
      (fun k hk => hm k (List.mem_cons_of_mem m hk)) hr
    refine ⟨?_, hw₂, u₂, now₂, ?_⟩
    · rw [transcript, transcript, he, ht]
    · show ((s.inside c base u now).move m).2.run ms = _
      rw [he]
      exact hrun

/-- **A transaction around the steps of one connection makes no difference to them.** -/
theorem bracket_transparent (s : Session) (c : Connection) (now : Time.Instant) (ms : List Move)
    (hw : s.file.writer = none) (hc : c < s.seats.length) (hf : ∀ x ∈ s.faults, x.reach = .statement)
    (hm : ∀ m ∈ ms, m.seat = c ∧ ¬m.step.IsCommand) :
    let b := s.move ⟨c, now, .begin⟩
    let t := b.2.run ms
    b.1 = some (.ok .done) ∧ (t.file.isAutocommit c = false ↔ b.2.Never RunsOut ms) ∧
      (b.2.Never RunsOut ms → b.2.transcript ms = s.transcript ms ∧ ∀ now,
        t.move ⟨c, now, .commit⟩ = (some (.ok .done), { s.run ms with clock := now }) ∧
        t.move ⟨c, now, .rollback⟩ = (some (.ok .done), { s.run ms with clock := now, file := s.file })) := by
  intro b t
  have hs : s.seats[c]? = some s.seats[c] := List.getElem?_eq_getElem hc
  have hb : b = (some (.ok .done), s.inside c s.file.committed [] now) := by
    have h := move_begin hs now
    rw [hw] at h
    exact h
  have hopen : b.2.file.isAutocommit c = false := by
    rw [hb]
    exact File.inside_isAutocommit
  have hfb : ∀ x ∈ b.2.faults, x.reach = .statement := by
    rw [hb]
    exact hf
  have hk : ∀ (u : Session) (m : Move), (∀ x ∈ u.faults, x.reach = .statement) →
      ∀ x ∈ (u.move m).2.faults, x.reach = .statement := by
    intro u m hu
    rw [(u.stores_move m).2]
    exact hu
  refine ⟨by rw [hb], ?_, fun hn => ?_⟩
  · rw [isAutocommit_run_iff_never ms fun m hms _ hx => (hm m hms).2 (.inl hx), and_iff_right hopen]
    constructor <;> intro hn
    · refine hn.mono hk hfb fun u _ m hms hr => ?_
      exact .inr ⟨(hm m hms).1, .inr hr⟩
    · refine hn.mono hk hfb fun u hu m hms hcl => ?_
      rcases hcl with ⟨-, hx, -⟩ | hl
      · exact absurd (.inr hx) (hm m hms).2
      · exact Classical.byContradiction fun hr => not_loses_of_not_runsOut hu hr hl
  · rw [hb] at hn
    obtain ⟨ht, hw', u', now', hrun⟩ := run_inside ms hw hf hm hn
    have htr : t = (s.run ms).inside c s.file.committed u' now' := by
      rw [← hrun]
      exact congrArg (fun b => b.2.run ms) hb
    have ha : t.file.isAutocommit c = false := by
      rw [htr]
      exact File.inside_isAutocommit
    obtain ⟨seat, hst⟩ := exists_seat_run ⟨_, hs⟩ ms
    have hst : t.seats[c]? = some seat := by
      rw [htr]
      exact hst
    have hset : (s.run ms).file.settings = s.file.settings :=
      kept_run (H := fun t => t.file.settings = s.file.settings) (fun t m h => (t.settings_move m).trans h) ms rfl
    refine ⟨by rw [hb, ht], fun now => ⟨?_, ?_⟩⟩
    · rw [move_commit hst, ha, if_neg Bool.false_ne_true, htr]
      have he := (s.run ms).file.inside_committed hw' c s.file.committed u'
      exact congrArg (fun f => (some (Except.ok Answer.done), { s.run ms with clock := now, file := f })) he
    · obtain ⟨hr, hsp⟩ := Prod.mk.inj hset
      have he : (⟨s.file.committed, none, (s.run ms).file.readOnly, (s.run ms).file.spills⟩ : File) = s.file := by
        rw [hr, hsp, ← hw]
      rw [move_rollback hst, ha, if_neg Bool.false_ne_true, htr]
      exact congrArg (fun f => (some (Except.ok Answer.done), { s.run ms with clock := now, file := f })) he

open Write (someTime)

/-- A session of one store on a file with two tags, whose trigger refuses tags named `bad`. -/
def patient : Session :=
  ⟨Store.mixedFile, [⟨.tagInsert "bad", .statement, "no"⟩], .empty, .map, someTime, [⟨1, .generatedKeys, true⟩]⟩

/-- The store does this and that, and a batch of it fails. -/
def errands : List Move :=
  [⟨0, someTime, .add "n" 1 "alice"⟩,
    ⟨0, someTime, .addMany 1 [⟨"m", "alice", someTime⟩, ⟨"bad", "alice", someTime⟩]⟩,
    ⟨0, someTime, .setTenant 2⟩, ⟨0, someTime, .setStrategy "max-id"⟩, ⟨0, someTime, .add "p" 1 "bob"⟩,
    ⟨0, someTime, .stats⟩]

/-- A transaction around the errands changes no answer.  Its commit leaves the tables that they leave alone, and its
rollback the file from before. -/
theorem errands_are_transparent :
    (patient.move opening).2.transcript errands = patient.transcript errands ∧
      (((patient.move opening).2.run errands).move ⟨0, someTime, .commit⟩).2.file.committed =
        (patient.run errands).file.committed ∧
      ((patient.run errands).file.committed.tags.map fun t => (t.id, t.name)) =
        [(4, "p"), (3, "n"), (2, "y"), (1, "x")] ∧
      (((patient.move opening).2.run errands).move ⟨0, someTime, .rollback⟩).2.file = patient.file := by
  obtain ⟨-, hopen, h⟩ := bracket_transparent patient 0 someTime errands rfl (by decide) (by decide) (by decide)
  have hn : (patient.move opening).2.Never RunsOut errands := hopen.1 (by decide +kernel)
  obtain ⟨ht, hend⟩ := h hn
  obtain ⟨hcommit, hrollback⟩ := hend someTime
  refine ⟨ht, ?_, by decide +kernel, ?_⟩
  · exact congrArg (fun r => r.2.file.committed) hcommit
  · exact congrArg (fun r => r.2.file) hrollback

/-- **A transaction around two insertions, the second of which finds no id left, makes a difference**: alone they leave
the tag of the first, and with a transaction around them that tag is gone and there is nothing to commit. -/
theorem bracket_loses_insertion :
    (brink.run overrun).file.committed.tags.map TagRow.name = ["k", "x"] ∧
      ((brink.run (opening :: overrun)).move ⟨0, someTime, .commit⟩).1 =
        some (.error (.storage .commitTransaction .noTransactionToCommit)) ∧
      ((brink.run (opening :: overrun)).move ⟨0, someTime, .commit⟩).2.file.committed.tags.map TagRow.name = ["x"] :=
  ⟨rfl, rfl, rfl⟩

end Session
end VersionTags
