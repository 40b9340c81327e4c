import VersionTags.Proofs.Session.Transaction
/-!
# Steps between a `begin` and its end

While a connection has a transaction open, the committed tables stay what they were at its `begin`, and so they are
again when it is rolled back or lost to a refusal.  After a loss the next write of the store is a transaction of its
own: it strays, and is committed at once.  What else the store writes is committed by its own commit alone
(`Session.bracket_kept`).
-/
namespace VersionTags

namespace Session

variable {s : Session} {c : Connection} {m : Move}

/-! ## What moves leave alone -/

/-- A session has the same number of stores, and the same triggers, all along. -/
theorem stores_aside (s : Session) (i : Nat) (seat : Seat) {x : Step} (hx : x.isAside = true) :
    (s.step i seat x).2.seats.length = s.seats.length ∧ (s.step i seat x).2.faults = s.faults := by
  cases x with
  | setTenant t => exact ⟨List.length_set, rfl⟩
  | setStrategy text =>
    simp only [step, operation, adjust]
    cases KeyStrategy.parse text with
    | error e => exact ⟨rfl, rfl⟩
    | ok k => exact ⟨List.length_set, rfl⟩
  | setPaginated on => exact ⟨List.length_set, rfl⟩
  | move v w => exact ⟨rfl, rfl⟩
  | tenant => exact ⟨rfl, rfl⟩
  | setPath v p => exact ⟨rfl, rfl⟩
  | deletePath v => exact ⟨rfl, rfl⟩
  | strategy => exact ⟨rfl, rfl⟩
  | setWait ms => exact ⟨rfl, rfl⟩
  | _ => cases hx

theorem stores_move (s : Session) (m : Move) :
    (s.move m).2.seats.length = s.seats.length ∧ (s.move m).2.faults = s.faults := by
  obtain ⟨i, now, x⟩ := m
  rcases hs : s.seats[i]? with _ | seat
  · rw [move_of_none hs]
    exact ⟨rfl, rfl⟩
  cases x.kind with
  | write w =>
    rw [move_write hs]
    exact ⟨rfl, rfl⟩
  | read r =>
    rw [move_read hs]
    exact ⟨rfl, rfl⟩
  | begin =>
    rw [move_of_seat hs]
    exact ⟨rfl, rfl⟩
  | commit =>
    rw [move_of_seat hs]
    exact ⟨rfl, rfl⟩
  | rollback =>
    rw [move_of_seat hs]
    exact ⟨rfl, rfl⟩
  | aside hx =>
    rw [move_of_seat hs]
    exact stores_aside _ i seat hx

theorem exists_seat_run (h : ∃ seat, s.seats[c]? = some seat) (ms : List Move) :
    ∃ seat, (s.run ms).seats[c]? = some seat := by
  have hl : (s.run ms).seats.length = s.seats.length :=
    kept_run (H := fun t => t.seats.length = s.seats.length) (fun t m h => (t.stores_move m).1.trans h) ms rfl
  obtain ⟨seat, hs⟩ := h
  obtain ⟨hc, -⟩ := List.getElem?_eq_some_iff.1 hs
  exact ⟨_, List.getElem?_eq_getElem (hl ▸ hc)⟩

theorem settings_move (s : Session) (m : Move) : (s.move m).2.file.settings = s.file.settings := by
  have hf := s.changes_move m
  generalize (s.move m).2.file = f at hf
  cases hf with
  | @written seat w hs hx =>
    obtain ⟨g, hg, ha⟩ := w.run_perform (s.store m.seat seat) m.now s.file
    have hs : g.settings = _ := congrArg₂ Prod.mk ha.readOnly ha.spills
    rw [hg, hs]
    rcases w.outcome (s.store m.seat seat) m.now s.file with b | ⟨x, db⟩
    · rw [Write.leave]
      cases b.refusal.reach <;> rfl
    · rw [Write.leave, File.put]
      split <;> rfl
  | _ => rfl

/-- **While a transaction is open, only its own commit changes the committed tables.** -/
theorem committed_move (ha : s.file.isAutocommit c = false) (hn : ¬s.Concludes c m) :
    (s.move m).2.file.committed = s.file.committed := by
  have hf := s.changes_move m
  generalize (s.move m).2.file = f at hf
  cases hf with
  | written hs hx => exact Write.committed_of_isAutocommit ha
  | committed hx hi hok => exact absurd ⟨File.eq_of_isAutocommit hi ha, .inl hx, .done, hok⟩ hn
  | _ => rfl

/-! ## A transaction as long as it lasts -/

/-- A connection has a transaction open on a file that was so before. -/
structure Held (f : File) (c : Connection) (s : Session) : Prop where
  isAutocommit : s.file.isAutocommit c = false
  committed : s.file.committed = f.committed
  settings : s.file.settings = f.settings

theorem Held.move {f : File} (h : Held f c s) (hn : ¬s.Closes c m) : Held f c (s.move m).2 where
  isAutocommit := (s.isAutocommit_move c m).2 (.inr ⟨h.isAutocommit, hn⟩)
  committed := (committed_move h.isAutocommit fun hc => hn (.inl hc)).trans h.committed
  settings := (s.settings_move m).trans h.settings

theorem Held.run {f : File} : ∀ (ms : List Move) {s : Session}, Held f c s → s.Never (Closes c) ms → Held f c (s.run ms)
  | [], _, h, _ => h
  | _ :: ms, _, h, hn => (h.move hn.1).run ms hn.2

/-- The file without the transaction is the file before it. -/
theorem Held.file_eq {f : File} (h : Held f c s) (hf : f.writer = none) : { s.file with writer := none } = f := by
  have hc := h.committed
  obtain ⟨hr, hs⟩ := Prod.mk.inj h.settings
  cases f
  simp_all

theorem writer_of_opens (h : s.Opens c m) : s.file.writer = none ∧ Held s.file c (s.move m).2 := by
  obtain ⟨i, now, x⟩ := m
  obtain ⟨hi, hx, ha⟩ := h
  dsimp only at hi hx
  subst hi hx
  obtain ⟨seat, hs⟩ := exists_seat_of_succeeds ha
  have hm := move_begin hs now
  rcases hw : s.file.writer with _ | ⟨owner, t⟩ <;> rw [hw] at hm
  · rw [hm]
    exact ⟨rfl, by simp [File.isAutocommit, File.transaction?], rfl, rfl⟩
  · exact absurd ha (not_succeeds (by rw [hm]))

theorem exists_seat_of_opens (h : s.Opens c m) : ∃ seat, (s.move m).2.seats[c]? = some seat := by
  obtain ⟨rfl, -, ha⟩ := h
  exact exists_seat_run (exists_seat_of_succeeds ha) [m]

theorem file_of_loses (ha : s.file.isAutocommit c = false) (h : s.Loses c m) :
    (∃ e, (s.move m).1 = some (.error e)) ∧ (s.move m).2.file = { s.file with writer := none } := by
  obtain ⟨i, now, x⟩ := m
  have hl := h
  obtain ⟨rfl, ⟨seat, w, hs, hx, -⟩ | ⟨seat, w, hs, hx, -⟩⟩ := h <;>
  · dsimp only at ha hs hx
    subst hx
    have he := (loses_iff hs ha w).1 hl
    rw [move_write hs]
    refine ⟨?_, Write.file_of_ends he⟩
    obtain ⟨b, ho, -⟩ := he
    obtain ⟨g, hg, -⟩ := w.run_perform (s.store i seat) now s.file
    refine ⟨.storage b.task b.refusal.cause, ?_⟩
    dsimp only
    rw [hg, ho]
    rfl

/-! ## Whose writes are committed -/

/-- A write of the connection's store succeeds while it has no transaction open. -/
def Strays (c : Connection) (s : Session) (m : Move) : Prop :=
  m.seat = c ∧ m.step.write? ≠ none ∧ s.Succeeds m ∧ s.file.isAutocommit c = true

end Session

namespace Journal

variable {j : Journal} {c d : Connection} {k : Call}

/-- The writes of the connection's store that are committed. -/
def doneBy (j : Journal) (c : Connection) : List Call := j.done.filter fun k => k.store.connection == c

/-- What is pending with a connection is its own. -/
def Owned (j : Journal) : Prop := ∀ d, ∀ k ∈ j.pending d, k.store.connection = d

theorem Owned.drop (h : j.Owned) (c : Connection) : (j.drop c).Owned := by
  intro d k hk
  simp only [Journal.drop] at hk
  split at hk
  · cases hk
  · exact h d k hk

theorem Owned.hold (h : j.Owned) (hc : k.store.connection = c) : (j.hold c k).Owned := by
  intro d l hl
  simp only [Journal.hold] at hl
  split at hl
  · rename_i hd
    rcases List.mem_append.1 hl with hl | hl
    · exact h d l hl
    · rw [List.mem_singleton.1 hl, hc, hd]
  · exact h d l hl

theorem doneBy_append_self (j : Journal) (h : k.store.connection = c) : (j.append k).doneBy c = j.doneBy c ++ [k] := by
  simp [doneBy, append, List.filter_append, h]

theorem doneBy_append_of_ne (j : Journal) (h : k.store.connection ≠ c) : (j.append k).doneBy c = j.doneBy c := by
  simp [doneBy, append, List.filter_append, h]

/-- A commit of another store's transaction commits nothing of this one's. -/
theorem Owned.doneBy_commit (h : j.Owned) (hd : d ≠ c) : (j.commit d).doneBy c = j.doneBy c := by
  have hp : (j.pending d).filter (fun k => k.store.connection == c) = [] := by
    rw [List.filter_eq_nil_iff]
    intro k hk
    rw [h d k hk]
    simpa using hd
  show (j.done ++ j.pending d).filter _ = _
  rw [List.filter_append, hp, List.append_nil]
  rfl

/-- What the journal notes of a move: a write that succeeded, a commit, or at most that a transaction is gone. -/
theorem noteMove_cases (j : Journal) (s : Session) (m : Move) :
    (∃ k : Call, k.store.connection = m.seat ∧ m.step.write? ≠ none ∧ s.Succeeds m ∧
        j.noteMove s m = if s.file.isAutocommit m.seat then j.append k else j.hold m.seat k) ∨
      (m.step = .commit ∧ s.Succeeds m ∧ j.noteMove s m = j.commit m.seat) ∨
      ¬(m.step.write? ≠ none ∧ s.Succeeds m) ∧ (j.noteMove s m = j ∨ j.noteMove s m = j.drop m.seat) := by
  have htidy : ∀ f : File, j.tidy f m.seat = j ∨ j.tidy f m.seat = j.drop m.seat := by
    intro f
    rw [tidy]
    split
    · exact .inr rfl
    · exact .inl rfl
  rcases hs : s.seats[m.seat]? with _ | seat
  · refine .inr (.inr ⟨fun h => ?_, .inl (by rw [noteMove, hs])⟩)
    obtain ⟨seat, hseat⟩ := Session.exists_seat_of_succeeds h.2
    cases hs.symm.trans hseat
  have hm := Session.move_of_seat hs
  rw [noteMove, hs]
  dsimp only [note]
  generalize { s with clock := m.now }.step m.seat seat m.step = r at hm
  obtain ⟨e | a, s'⟩ := r
  · have hn : ¬s.Succeeds m := Session.not_succeeds (by rw [hm])
    refine .inr (.inr ⟨fun h => hn h.2, ?_⟩)
    cases m.step.write? <;> exact htidy _
  · have hok : s.Succeeds m := ⟨a, by rw [hm]⟩
    cases hw : m.step.write? with
    | some w => exact .inl ⟨_, rfl, Option.some_ne_none w, hok, rfl⟩
    | none =>
      by_cases hc : m.step = .commit
      · exact .inr (.inl ⟨hc, hok, if_pos hc⟩)
      · refine .inr (.inr ⟨fun h => h.1 rfl, ?_⟩)
        simp only [if_neg hc]
        exact htidy _

theorem Owned.noteMove (h : j.Owned) (s : Session) (m : Move) : (j.noteMove s m).Owned := by
  rcases j.noteMove_cases s m with ⟨k, hk, -, -, hn⟩ | ⟨-, -, hn⟩ | ⟨-, hn | hn⟩ <;> rw [hn]
  · split
    · exact h
    · exact h.hold hk
  · exact h.drop m.seat
  · exact h
  · exact h.drop m.seat

/-- **A move commits a write of the store just when the write strays**, unless the store commits. -/
theorem Owned.doneBy_noteMove (h : j.Owned) (s : Session) (m : Move)
    (hm : m.seat = c → ¬(m.step = .commit ∧ s.Succeeds m)) :
    ∃ ks, (j.noteMove s m).doneBy c = j.doneBy c ++ ks ∧ (ks = [] ↔ ¬s.Strays c m) := by
  have same : (j.noteMove s m).doneBy c = j.doneBy c → ¬s.Strays c m →
      ∃ ks, (j.noteMove s m).doneBy c = j.doneBy c ++ ks ∧ (ks = [] ↔ ¬s.Strays c m) :=
    fun hd hs => ⟨[], by rw [hd, List.append_nil], iff_of_true rfl hs⟩
  rcases j.noteMove_cases s m with ⟨k, hk, hw, ha, hn⟩ | ⟨hx, ha, hn⟩ | ⟨hn, hd⟩
  · by_cases hi : m.seat = c
    · cases hf : s.file.isAutocommit c with
      | true =>
        rw [hi, hf, if_pos rfl] at hn
        refine ⟨[k], ?_, iff_of_false nofun fun hs => hs ⟨hi, hw, ha, hf⟩⟩
        rw [hn, j.doneBy_append_self (hk.trans hi)]
      | false =>
        rw [hi, hf, if_neg Bool.false_ne_true] at hn
        refine same (by rw [hn]; rfl) fun hs => ?_
        cases hs.2.2.2.symm.trans hf
    · refine same ?_ fun hs => hi hs.1
      rw [hn]
      split
      · exact j.doneBy_append_of_ne (hk ▸ hi)
      · rfl
  · have hi : m.seat ≠ c := fun hi => hm hi ⟨hx, ha⟩
    refine same ?_ fun hs => hi hs.1
    rw [hn, h.doneBy_commit hi]
  · refine same ?_ fun hs => hn ⟨hs.2.1, hs.2.2.1⟩
    rcases hd with hd | hd <;> rw [hd]
    rfl

theorem Owned.doneBy_eq_of_not_strays (h : j.Owned) {s : Session} {m : Move}
    (hm : m.seat = c → ¬(m.step = .commit ∧ s.Succeeds m)) (hs : ¬s.Strays c m) :
    (j.noteMove s m).doneBy c = j.doneBy c := by
  obtain ⟨ks, hd, hk⟩ := h.doneBy_noteMove s m hm
  rw [hd, hk.2 hs, List.append_nil]

theorem Owned.run : ∀ (ms : List Move) {j : Journal} {s : Session}, j.Owned → (s.journal j ms).Owned
  | [], _, _, h => h
  | m :: ms, _, s, h => Owned.run ms (h.noteMove s m)

theorem Owned.doneBy_run : ∀ (ms : List Move) {j : Journal} {s : Session}, j.Owned →
    (∀ m ∈ ms, m.seat = c → m.step ≠ .commit) →
    ∃ ks, (s.journal j ms).doneBy c = j.doneBy c ++ ks ∧ (ks = [] ↔ s.Never (Session.Strays c) ms)
  | [], j, _, _, _ => ⟨[], (List.append_nil _).symm, iff_of_true rfl trivial⟩
  | m :: ms, j, s, h, hm => by
    obtain ⟨ks, hk, hs⟩ := h.doneBy_noteMove s m fun hi hx => hm m List.mem_cons_self hi hx.1
    obtain ⟨ks', hk', hs'⟩ := Owned.doneBy_run ms (s := (s.move m).2) (h.noteMove s m) fun k hkm =>
      hm k (List.mem_cons_of_mem m hkm)
    refine ⟨ks ++ ks', ?_, ?_⟩
    · rw [Session.journal, hk', hk, List.append_assoc]
    · rw [List.append_eq_nil_iff, hs, hs', Session.Never]

end Journal

namespace Session

variable {s : Session} {c : Connection} {m : Move}

theorem journal_append : ∀ (ms ms' : List Move) (s : Session) (j : Journal),
    s.journal j (ms ++ ms') = (s.run ms).journal (s.journal j ms) ms'
  | [], _, _, _ => rfl
  | m :: ms, ms', s, j => journal_append ms ms' (s.move m).2 (j.noteMove s m)

/-- A session in which a connection has a transaction open that it began on a file: nothing is committed yet, a commit
leaves what the connection sees, and a rollback gives the file back, as does a refusal that ends the transaction. -/
structure Within (f : File) (c : Connection) (t : Session) : Prop where
  isAutocommit : t.file.isAutocommit c = false
  committed : t.file.committed = f.committed
  rollback : ∀ now, t.move ⟨c, now, .rollback⟩ = (some (.ok .done), { t with clock := now, file := f })
  commit : ∀ now, t.move ⟨c, now, .commit⟩ =
    (some (.ok .done), { t with clock := now, file := { f with committed := t.file.view c } })
  lost : ∀ k, t.Loses c k → (∃ e, (t.move k).1 = some (.error e)) ∧ (t.move k).2.file = f

theorem Held.never_strays {f : File} : ∀ (ms : List Move) {s : Session}, Held f c s → s.Never (Closes c) ms →
    s.Never (Strays c) ms
  | [], _, _, _ => trivial
  | _ :: ms, _, h, hn => by
    refine ⟨fun hs => ?_, (h.move hn.1).never_strays ms hn.2⟩
    cases hs.2.2.2.symm.trans h.isAutocommit

theorem Held.within {f : File} (h : Held f c s) (hf : f.writer = none) (hs : ∃ seat, s.seats[c]? = some seat) :
    Within f c s := by
  obtain ⟨seat, hs⟩ := hs
  refine ⟨h.isAutocommit, h.committed, fun now => ?_, fun now => ?_, fun k hk => ?_⟩
  · rw [move_rollback hs, h.isAutocommit, if_neg Bool.false_ne_true, h.file_eq hf]
  · rw [move_commit hs, h.isAutocommit, if_neg Bool.false_ne_true, ← h.file_eq hf]
  · rw [← h.file_eq hf]
    exact file_of_loses h.isAutocommit hk

theorem file_of_conclusion (hs : ∃ seat, s.seats[c]? = some seat) (hi : m.seat = c)
    (hx : m.step = .rollback ∨ m.step = .commit ∧ ¬s.Succeeds m) :
    (s.move m).2.file.committed = s.file.committed ∧ (s.move m).2.file.isAutocommit c = true := by
  obtain ⟨i, now, x⟩ := m
  obtain rfl : i = c := hi
  obtain ⟨seat, hs⟩ := hs
  dsimp only at hx
  rcases hx with rfl | ⟨rfl, hn⟩
  · rw [move_rollback hs]
    split
    · exact ⟨rfl, ‹_›⟩
    · exact ⟨rfl, File.isAutocommit_of_none rfl i⟩
  · have hm := move_commit hs now
    split at hm
    · rw [hm]
      exact ⟨rfl, ‹_›⟩
    · exact absurd ⟨.done, by rw [hm]⟩ hn

/-- The move commits nothing of the connection's store, and leaves nothing of it to be committed later. -/
structure Discards (c : Connection) (s : Session) (j : Journal) (m : Move) : Prop where
  committed : (s.move m).2.file.committed = s.file.committed
  doneBy : (j.noteMove s m).doneBy c = j.doneBy c
  pending : (j.noteMove s m).pending c = []

/-- **A rollback discards what the store has written, and so does a commit that fails.** -/
theorem discards {db : Database} {j : Journal} (hr : j.Records db s.file) (ho : j.Owned)
    (hs : ∃ seat, s.seats[c]? = some seat) (hi : m.seat = c)
    (hx : m.step = .rollback ∨ m.step = .commit ∧ ¬s.Succeeds m) : s.Discards c j m := by
  obtain ⟨hc, ha⟩ := file_of_conclusion hs hi hx
  refine ⟨hc, ho.doneBy_eq_of_not_strays (fun _ hn => ?_) fun hn => hn.2.1 ?_, (records_move hr m).pending_eq_nil ha⟩
  · rcases hx with hx | ⟨-, hf⟩
    · cases hx.symm.trans hn.1
    · exact hf hn.2
  · rcases hx with hx | ⟨hx, -⟩ <;> rw [hx] <;> rfl

/-- **What a store writes after its `begin` is committed by its own commit alone**, as long as no write of it succeeds
outside a transaction: each that does is committed at once, and a later rollback does not take it back.  That cannot be
before a refusal has ended the transaction.  Up to there the committed tables are those before the `begin`, whatever any
store does. -/
theorem bracket_kept (s : Session) (db : Database) (spills : Transaction → Bool)
    (hs : s.file = .ofDatabase db spills) (c : Connection) (pre : List Move) (m : Move) (h : (s.run pre).Opens c m)
    (ms : List Move)
    (hc : ∀ k ∈ ms, k.seat = c → k.step ≠ .commit ∧ k.step ≠ .rollback) :
    let opened := s.run (pre ++ [m])
    let t := s.run (pre ++ m :: ms)
    let j := s.journal .empty (pre ++ m :: ms)
    replay s.file j.done = some (.ofDatabase t.file.committed spills) ∧
      (j.doneBy c = (s.journal .empty pre).doneBy c ↔ opened.Never (Strays c) ms) ∧
      (∀ x, x.seat = c → x.step = .rollback ∨ x.step = .commit ∧ ¬t.Succeeds x → t.Discards c j x) ∧
      (opened.Never (Loses c) ms → opened.Never (Strays c) ms ∧ Within (s.run pre).file c t) := by
  intro opened t j
  have hopen : opened = ((s.run pre).move m).2 := s.run_concat pre m
  have ht : t = opened.run ms := by
    rw [hopen]
    exact s.run_append pre (m :: ms)
  have hj : j = opened.journal ((s.journal .empty pre).noteMove (s.run pre) m) ms := by
    rw [hopen]
    exact journal_append pre (m :: ms) s .empty
  have hr : j.Records db t.file := records_run (pre ++ m :: ms) (by rw [hs]; exact .empty db spills)
  have ho : (s.journal .empty pre).Owned := Journal.Owned.run pre fun _ _ hm => by cases hm
  have hoj : j.Owned := Journal.Owned.run (pre ++ m :: ms) fun _ _ hm => by cases hm
  obtain ⟨hw, h₀⟩ := writer_of_opens h
  rw [← hopen] at h₀
  have hseat : ∃ seat, t.seats[c]? = some seat := by
    rw [ht, hopen]
    exact exists_seat_run (exists_seat_of_opens h) ms
  refine ⟨?_, ?_, fun x hi hx => discards hr hoj hseat hi hx, fun hn => ?_⟩
  · rw [hs, replay_ofDatabase, hr.committed]
    rfl
  · -- the `begin` itself commits nothing
    have hb : ((s.journal .empty pre).noteMove (s.run pre) m).doneBy c = (s.journal .empty pre).doneBy c := by
      refine ho.doneBy_eq_of_not_strays (fun _ hx => ?_) fun hx => hx.2.1 ?_
      · cases h.2.1.symm.trans hx.1
      · rw [h.2.1]
        rfl
    obtain ⟨ks, hd, hks⟩ := (ho.noteMove (s.run pre) m).doneBy_run ms (s := opened) fun k hk hi => (hc k hk hi).1
    rw [← hks, hj, hd, hb]
    exact List.append_right_eq_self
  · have hcl : opened.Never (Closes c) ms := by
      refine hn.mono (H := fun _ => True) (fun _ _ _ => trivial) trivial fun u _ k hk hu => ?_
      rcases hu with ⟨hi, hx, -⟩ | hu
      · exact absurd hx (not_or.2 (hc k hk hi))
      · exact hu
    have hheld : Held (s.run pre).file c t := by
      rw [ht]
      exact h₀.run ms hcl
    exact ⟨h₀.never_strays ms hcl, hheld.within hw hseat⟩

open Write (someTime)

/-- The first store loses its transaction to a trigger, and the second puts a tag after that. -/
def mishap : List Move :=
  [⟨0, someTime, .add "n" 1 "alice"⟩, ⟨0, someTime, .add "bad" 1 "alice"⟩, ⟨1, someTime, .add "p" 1 "bob"⟩]

/-- Nothing of what the first store wrote is committed, neither after the refusal nor after a rollback. -/
theorem mishap_commits_nothing :
    strictPair.Opens 0 opening ∧ (strictPair.journal .empty (opening :: mishap)).doneBy 0 = [] ∧
      ((strictPair.run (opening :: mishap)).file.view 0).tags.map TagRow.name = ["p"] ∧
      ((strictPair.run (opening :: mishap)).move ⟨0, someTime, .rollback⟩).2.file.committed =
        (strictPair.run (opening :: mishap)).file.committed ∧
      Within strictPair.file 0 (strictPair.run (opening :: mishap.take 1)) := by
  have ho : strictPair.Opens 0 opening := ⟨rfl, rfl, .done, rfl⟩
  have hlost : (strictPair.move opening).2.Never (Loses 0) (mishap.take 1) := by
    have hn := (isAutocommit_run_iff_never (c := 0) (mishap.take 1) (s := (strictPair.move opening).2)
      (by decide)).1 rfl
    exact hn.2.mono (H := fun _ => True) (fun _ _ _ => trivial) trivial fun _ _ _ _ hl => .inr hl
  have hstray : (strictPair.move opening).2.Never (Strays 0) mishap := by
    simp only [mishap, Never, and_true]
    refine ⟨fun hs => ?_, fun hs => ?_, fun hs => ?_⟩
    · cases hs.2.2.2
    · cases hs.2.2.2
    · cases hs.1
  obtain ⟨-, hdone, hend, -⟩ := bracket_kept strictPair .empty (fun _ => false) rfl 0 [] opening ho mishap (by decide)
  obtain ⟨-, -, -, hwithin⟩ := bracket_kept strictPair .empty (fun _ => false) rfl 0 [] opening ho (mishap.take 1)
    (by decide)
  rw [List.nil_append] at hdone hend hwithin
  refine ⟨ho, hdone.2 hstray, ?_, (hend ⟨0, someTime, .rollback⟩ rfl (.inl rfl)).committed, (hwithin hlost).2⟩
  decide +kernel

/-- **A write after a refusal that ended the transaction is committed at once**, though the store has called no commit,
and its rollback fails and leaves the tag. -/
theorem write_after_refusal_is_committed :
    let t := strictPair.run [opening, ⟨0, someTime, .add "bad" 1 "alice"⟩, ⟨0, someTime, .add "k" 1 "alice"⟩]
    strictPair.Opens 0 opening ∧ strictPair.file.committed.tags = [] ∧
      t.file.committed.tags.map TagRow.name = ["k"] ∧
      (t.move ⟨0, someTime, .rollback⟩).1 =
        some (.error (.storage .rollBackTransaction .noTransactionToRollBack)) ∧
      (t.move ⟨0, someTime, .rollback⟩).2.file.committed.tags.map TagRow.name = ["k"] :=
  ⟨⟨rfl, rfl, .done, rfl⟩, rfl, rfl, rfl, rfl⟩

end Session
end VersionTags
