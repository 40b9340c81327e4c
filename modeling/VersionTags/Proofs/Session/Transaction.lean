import VersionTags.Proofs.Session.History
import VersionTags.Proofs.Session.Serial
import VersionTags.Proofs.Store.Standing
/-!
# Who has a transaction open

A store's connection has a transaction open from a `begin` of its own that succeeded, until it commits or rolls back,
or until a refusal ends it.  Two refusals do that: a trigger that rolls back, and a plain insertion inside the
transaction that finds no id left (`Session.isAutocommit_move` for one move, `Session.transactions_of_run` for a run).
No write opens a transaction or leaves a savepoint behind.
-/
namespace VersionTags

namespace Session

variable {s : Session} {c : Connection} {m : Move}

/-- The move is a write, and the property holds of its store, the file and its outcome. -/
def Writes (P : Store → File → Except Write.Blame (Answer × Database) → Prop) (s : Session) (m : Move) : Prop :=
  ∃ (seat : Seat) (w : Write), s.seats[m.seat]? = some seat ∧ m.step = w.step ∧
    P (s.store m.seat seat) s.file (w.outcome (s.store m.seat seat) m.now s.file)

/-- A trigger that rolls back refuses the write. -/
def RollsBack : Session → Move → Prop := Writes fun _ _ o => Write.RolledBack o

/-- A plain insertion inside a transaction of the store finds no id left. -/
def RunsOut : Session → Move → Prop := Writes Write.RanOut

def Succeeds (s : Session) (m : Move) : Prop := ∃ a, (s.move m).1 = some (.ok a)

/-- The store of the connection opens a transaction. -/
def Opens (c : Connection) (s : Session) (m : Move) : Prop := m.seat = c ∧ m.step = .begin ∧ s.Succeeds m

/-- The store of the connection commits or rolls back. -/
def Concludes (c : Connection) (s : Session) (m : Move) : Prop :=
  m.seat = c ∧ (m.step = .commit ∨ m.step = .rollback) ∧ s.Succeeds m

/-- The store of the connection loses its transaction to a refusal. -/
def Loses (c : Connection) (s : Session) (m : Move) : Prop := m.seat = c ∧ (s.RollsBack m ∨ s.RunsOut m)

def Closes (c : Connection) (s : Session) (m : Move) : Prop := s.Concludes c m ∨ s.Loses c m

theorem exists_seat_of_succeeds (h : s.Succeeds m) : ∃ seat, s.seats[m.seat]? = some seat := by
  obtain ⟨a, ha⟩ := h
  rcases hs : s.seats[m.seat]? with _ | seat
  · rw [move_of_none hs] at ha
    cases ha
  · exact ⟨seat, rfl⟩

theorem not_succeeds {e : Error} (h : (s.move m).1 = some (.error e)) : ¬s.Succeeds m := by
  rintro ⟨a, ha⟩
  cases h.symm.trans ha

theorem not_opens (hx : m.step ≠ .begin) : ¬s.Opens c m := fun h => hx h.2.1

theorem write?_of_writes {P : Store → File → Except Write.Blame (Answer × Database) → Prop} (h : s.Writes P m) :
    m.step.write? ≠ none := by
  obtain ⟨seat, w, -, hw, -⟩ := h
  rw [hw, Write.write?_step]
  exact nofun

theorem writes_iff {P : Store → File → Except Write.Blame (Answer × Database) → Prop} {i : Nat} {now : Time.Instant}
    {seat : Seat} (h : s.seats[i]? = some seat) (w : Write) :
    s.Writes P ⟨i, now, w.step⟩ ↔ P (s.store i seat) s.file (w.outcome (s.store i seat) now s.file) := by
  constructor
  · rintro ⟨seat', w', hs, hw, hp⟩
    cases h.symm.trans hs
    have hq := congrArg Step.write? hw
    rw [Write.write?_step, Write.write?_step] at hq
    cases hq
    exact hp
  · intro hp
    exact ⟨seat, w, h, rfl, hp⟩

theorem not_closes (hw : m.step.write? = none) (hc : m.step ≠ .commit) (hr : m.step ≠ .rollback) : ¬s.Closes c m := by
  rintro (⟨-, h | h, -⟩ | ⟨-, h | h⟩)
  · exact hc h
  · exact hr h
  · exact write?_of_writes h hw
  · exact write?_of_writes h hw

/-- No trigger rolls back where none is told to. -/
theorem not_rollsBack (hf : ∀ x ∈ s.faults, x.reach = .statement) : ¬s.RollsBack m := by
  rintro ⟨seat, w, -, -, b, msg, ho, hr⟩
  have hc := Write.cause_of_outcome ho
  rw [hr] at hc
  generalize hq : (⟨.raised msg, .transaction⟩ : Refusal) = r at hc
  cases hc with
  | trigger hx =>
    have hs := hf _ hx
    simp_all
  | _ => cases hq

theorem loses_iff {i : Nat} {now : Time.Instant} {seat : Seat} (h : s.seats[i]? = some seat)
    (ha : s.file.isAutocommit i = false) (w : Write) :
    s.Loses i ⟨i, now, w.step⟩ ↔ Write.Ends (w.outcome (s.store i seat) now s.file) := by
  rw [Write.ends_iff w (s.store i seat) now ha, Loses, RollsBack, RunsOut, writes_iff h, writes_iff h]
  exact and_iff_right rfl

theorem isAutocommit_write {i : Nat} {now : Time.Instant} {seat : Seat} (h : s.seats[i]? = some seat) (w : Write) :
    (s.move ⟨i, now, w.step⟩).2.file.isAutocommit c = false ↔
      s.file.isAutocommit c = false ∧ ¬s.Closes c ⟨i, now, w.step⟩ := by
  have hcl : ∀ d, s.Closes d ⟨i, now, w.step⟩ ↔ s.Loses d ⟨i, now, w.step⟩ := by
    intro d
    refine or_iff_right ?_
    rintro ⟨-, hx | hx, -⟩
    · exact w.step_ne.2.1 hx
    · exact w.step_ne.2.2 hx
  rw [move_write h, hcl]
  dsimp only
  by_cases he : Write.Ends (w.outcome (s.store i seat) now s.file)
  · rw [Write.file_of_ends he, File.isAutocommit_of_none rfl]
    refine iff_of_false nofun ?_
    rintro ⟨ha, hn⟩
    -- the transaction that ends is that of the connection itself
    obtain ⟨t, hw⟩ := File.writer_of_isAutocommit ha
    obtain ⟨b, ho, hr⟩ := he
    have hl : s.file.isLocked (s.store i seat).connection = false := Write.isLocked_of_transaction ho hr
    obtain rfl : c = i := by simpa [File.isLocked, hw, store] using hl
    exact hn ((loses_iff h ha w).2 ⟨b, ho, hr⟩)
  · rw [File.isAutocommit_of_standing (Write.standing_of_not_ends he)]
    refine ⟨fun ha => ⟨ha, ?_⟩, And.left⟩
    rintro ⟨hi, hl⟩
    obtain rfl : i = c := hi
    exact he ((loses_iff h ha w).1 ⟨rfl, hl⟩)

theorem isAutocommit_conclusion {i : Nat} {now : Time.Instant} {x : Step} {e : Error} {g : File}
    (hx : x = .commit ∨ x = .rollback) (hg : g.writer = none)
    (hm : s.move ⟨i, now, x⟩ = if s.file.isAutocommit i then (some (.error e), { s with clock := now })
      else (some (.ok .done), { s with clock := now, file := g })) :
    (s.move ⟨i, now, x⟩).2.file.isAutocommit c = false ↔
      s.file.isAutocommit c = false ∧ ¬s.Closes c ⟨i, now, x⟩ := by
  have hl : ¬s.Loses c ⟨i, now, x⟩ := by
    rintro ⟨-, h | h⟩ <;> rcases hx with rfl | rfl <;> exact write?_of_writes h rfl
  cases ha : s.file.isAutocommit i with
  | true =>
    rw [ha, if_pos rfl] at hm
    have hn : ¬s.Closes c ⟨i, now, x⟩ := by
      rintro (⟨-, -, h⟩ | h)
      · exact not_succeeds (by rw [hm]) h
      · exact hl h
    rw [hm]
    simp [hn]
  | false =>
    rw [ha, if_neg Bool.false_ne_true] at hm
    rw [hm, File.isAutocommit_of_none hg]
    refine iff_of_false nofun ?_
    rintro ⟨hc, hn⟩
    obtain rfl : i = c := File.eq_of_isAutocommit ha hc
    exact hn (.inl ⟨rfl, hx, .done, by rw [hm]⟩)

/-- **A move decides whether a connection has a transaction open** by whether it opens or closes one. -/
theorem isAutocommit_move (s : Session) (c : Connection) (m : Move) : (s.move m).2.file.isAutocommit c = false ↔
    s.Opens c m ∨ s.file.isAutocommit c = false ∧ ¬s.Closes c m := by
  obtain ⟨i, now, x⟩ := m
  rcases hs : s.seats[i]? with _ | seat
  · -- there is no such store
    have hm : s.move ⟨i, now, x⟩ = (none, s) := move_of_none hs
    have hn : ¬s.Succeeds ⟨i, now, x⟩ := by
      intro h
      obtain ⟨seat, hseat⟩ := exists_seat_of_succeeds h
      cases hs.symm.trans hseat
    have hw : ∀ P, ¬s.Writes P ⟨i, now, x⟩ := by
      rintro P ⟨seat, w, h, -⟩
      cases hs.symm.trans h
    have hc : ¬s.Closes c ⟨i, now, x⟩ := by
      rintro (⟨-, -, h⟩ | ⟨-, h | h⟩)
      · exact hn h
      · exact hw _ h
      · exact hw _ h
    rw [hm]
    simp [Opens, hn, hc]
  · cases x.kind with
    | write w => rw [isAutocommit_write hs, or_iff_right (not_opens w.step_ne.1)]
    | read r =>
      obtain ⟨hb, hcm, hr⟩ := r.step_ne
      have ho : ¬s.Opens c ⟨i, now, r.step⟩ := not_opens hb
      have hc : ¬s.Closes c ⟨i, now, r.step⟩ := not_closes r.write?_step hcm hr
      have hf : (s.move ⟨i, now, r.step⟩).2.file = s.file := by
        rw [move_read hs]
      rw [hf]
      simp [ho, hc]
    | begin =>
      have hc : ¬s.Closes c ⟨i, now, .begin⟩ := not_closes rfl (by simp) (by simp)
      have hm := move_begin hs now
      rcases hw : s.file.writer with _ | ⟨owner, t⟩ <;> rw [hw] at hm
      · have ho : s.Opens c ⟨i, now, .begin⟩ ↔ i = c := by
          refine ⟨And.left, fun h => ⟨h, rfl, .done, ?_⟩⟩
          rw [hm]
        rw [hm, ho]
        by_cases hi : i = c <;> simp [File.isAutocommit, File.transaction?, hw, hi]
      · have ho : ¬s.Opens c ⟨i, now, .begin⟩ := fun h => not_succeeds (by rw [hm]) h.2.2
        rw [hm]
        simp [ho, hc]
    | commit =>
      have ho : ¬s.Opens c ⟨i, now, .commit⟩ := not_opens (by simp)
      rw [isAutocommit_conclusion (.inl rfl) rfl (move_commit hs now), or_iff_right ho]
    | rollback =>
      have ho : ¬s.Opens c ⟨i, now, .rollback⟩ := not_opens (by simp)
      rw [isAutocommit_conclusion (.inr rfl) rfl (move_rollback hs now), or_iff_right ho]
    | aside hx =>
      obtain ⟨hb, hcm, hr⟩ := Step.ne_of_isAside hx
      have ho : ¬s.Opens c ⟨i, now, x⟩ := not_opens hb
      have hc : ¬s.Closes c ⟨i, now, x⟩ := not_closes (Step.write?_of_isAside hx) hcm hr
      rw [move_aside hs hx]
      simp [ho, hc]

/-- **A connection has a transaction open just since it opened one.** -/
theorem isAutocommit_run {s : Session} (h : s.file.writer = none) (c : Connection) (ms : List Move) :
    (s.run ms).file.isAutocommit c = false ↔ s.Since (Opens c) (Closes c) ms := by
  refine since_iff (H := fun s => s.file.isAutocommit c = false) ?_ (fun s m => s.isAutocommit_move c m) ms
  rw [File.isAutocommit_of_none h]
  exact nofun

/-- Without another `begin` the transaction is open as long as no move closes it. -/
theorem isAutocommit_run_iff_never : ∀ (ms : List Move) {s : Session}, (∀ m ∈ ms, m.seat = c → m.step ≠ .begin) →
    ((s.run ms).file.isAutocommit c = false ↔ s.file.isAutocommit c = false ∧ s.Never (Closes c) ms)
  | [], s, _ => by simp [run, Never]
  | m :: ms, s, hb => by
    have ho : ¬s.Opens c m := fun h => hb m List.mem_cons_self h.1 h.2.1
    have ih := isAutocommit_run_iff_never ms (s := (s.move m).2) fun k hk => hb k (List.mem_cons_of_mem m hk)
    show ((s.move m).2.run ms).file.isAutocommit c = false ↔ _
    rw [ih, isAutocommit_move, or_iff_right ho, Never, and_assoc]

/-- No savepoint is left in a transaction. -/
def Clean (s : Session) : Prop := ∀ d sps, s.file.standing = some (d, sps) → sps = []

theorem clean_move (s : Session) (m : Move) (h : s.Clean) : (s.move m).2.Clean := by
  have of_none : ∀ f : File, f.writer = none → ∀ d sps, f.standing = some (d, sps) → sps = [] := by
    intro f hw d sps hd
    rw [File.standing, hw] at hd
    cases hd
  have hf := s.changes_move m
  unfold Clean
  generalize (s.move m).2.file = f at hf
  cases hf with
  | kept => exact h
  | @written seat w hs hx =>
    by_cases he : Write.Ends (w.outcome (s.store m.seat seat) m.now s.file)
    · exact of_none _ (by rw [Write.file_of_ends he])
    · rw [Write.standing_of_not_ends he]
      exact h
  | begun =>
    intro d sps hd
    cases hd
    rfl
  | committed => exact of_none _ rfl
  | rolledBack => exact of_none _ rfl

end Session

/-- What the commands of a store come to, by the connections that have a transaction pending. -/
structure File.Heeds (f : File) (pending : Connection → Prop) (st : Store) : Prop where
  commit : pending st.connection →
    f.run st.commit = (.ok (), { f with committed := f.view st.connection, writer := none })
  commit_none : ¬pending st.connection → ∃ e : Error, f.run st.commit = (.error e, f) ∧
    e.message = "Failed to commit transaction: cannot commit - no transaction is active"
  rollback : pending st.connection → f.run st.rollback = (.ok (), { f with writer := none })
  rollback_none : ¬pending st.connection → ∃ e : Error, f.run st.rollback = (.error e, f) ∧
    e.message = "Failed to roll back transaction: cannot rollback - no transaction is active"
  begin : (∀ d, ¬pending d) →
    f.run st.beginTransaction = (.ok (), { f with writer := some (st.connection, ⟨f.committed, [], []⟩) })
  begin_pending : pending st.connection →
    f.run st.beginTransaction = (.error (.storage .beginTransaction .nestedTransaction), f)
  begin_locked : ∀ d, d ≠ st.connection → pending d →
    f.run st.beginTransaction = (.error (.storage .beginTransaction .locked), f)

theorem File.heeds {f : File} {pending : Connection → Prop} (h : ∀ c, f.isAutocommit c = false ↔ pending c)
    (st : Store) : f.Heeds pending st := by
  have hnone : ∀ {c}, ¬pending c → f.transaction? c = none := by
    intro c hn
    rw [← h, Bool.not_eq_false, isAutocommit, Option.isNone_iff_eq_none] at hn
    exact hn
  have hsome : ∀ {c}, pending c → ∃ t, f.writer = some (c, t) := fun hp => writer_of_isAutocommit ((h _).2 hp)
  refine ⟨fun hp => ?_, fun hn => ⟨.storage .commitTransaction .noTransactionToCommit, ?_, rfl⟩, fun hp => ?_,
    fun hn => ⟨.storage .rollBackTransaction .noTransactionToRollBack, ?_, rfl⟩, fun hn => ?_, fun hp => ?_,
    fun d hd hp => ?_⟩
  · obtain ⟨t, hw⟩ := hsome hp
    rw [Store.commit, Store.run_run, run_commit, transaction?_of_writer hw, view_of_writer hw]
    rfl
  · rw [Store.commit, Store.run_run, run_commit, hnone hn]
    rfl
  · obtain ⟨t, hw⟩ := hsome hp
    rw [Store.rollback, Store.run_run, run_rollback, transaction?_of_writer hw]
    rfl
  · rw [Store.rollback, Store.run_run, run_rollback, hnone hn]
    rfl
  · have hw : f.writer = none := by
      rcases hw : f.writer with _ | ⟨d, t⟩
      · rfl
      · have hd : f.isAutocommit d = false := by simp [isAutocommit, transaction?_of_writer hw]
        exact absurd ((h d).1 hd) (hn d)
    rw [Store.beginTransaction, Store.run_run, run_begin, hw]
    rfl
  · obtain ⟨t, hw⟩ := hsome hp
    rw [Store.beginTransaction, Store.run_run, run_begin, hw]
    simp only [↓reduceIte]
    rfl
  · exact (lockedOut ((h d).2 hp) (Ne.symm hd)).begin

namespace Session

/-- **Who has a transaction open, at any moment of a session.**  A connection has one just since it opened one; every
write leaves the open transaction as it stands or ends it, and no savepoint is left behind; the commands of a store
succeed just when that says so. -/
theorem transactions_of_run (db : Database) (faults : List Fault) (l : Locator) (a : LocatorAccess)
    (now : Time.Instant) (seats : List Seat) (spills : Transaction → Bool) (ms : List Move) :
    let s : Session := ⟨.ofDatabase db spills, faults, l, a, now, seats⟩
    let f := (s.run ms).file
    let pending := fun c => s.Since (Opens c) (Closes c) ms
    (∀ c, f.isAutocommit c = false ↔ pending c) ∧ (∀ d sps, f.standing = some (d, sps) → sps = []) ∧
      (∀ (w : Write) (st : Store) (now : Time.Instant), let g := (f.run (w.perform st now)).2
        g.standing = f.standing ∨ Write.Ends (w.outcome st now f) ∧ g.standing = none) ∧
      ∀ st : Store, f.Heeds pending st := by
  intro s f pending
  have hp : ∀ c, f.isAutocommit c = false ↔ pending c := fun c => isAutocommit_run rfl c ms
  have hc : (s.run ms).Clean := kept_run clean_move ms fun d sps h => by cases h
  refine ⟨hp, hc, fun w st now => ?_, File.heeds hp⟩
  by_cases he : Write.Ends (w.outcome st now f)
  · refine .inr ⟨he, ?_⟩
    rw [Write.file_of_ends he]
    rfl
  · exact .inl (Write.standing_of_not_ends he)

open Write (someTime nearlyFull plainStore strictStore)

/-- A session of two stores on an empty file, whose triggers refuse tags named `bad` and roll back. -/
def strictPair : Session :=
  ⟨.ofDatabase .empty, strictStore.faults, .empty, .map, someTime, [⟨1, .generatedKeys, true⟩, ⟨1, .maxId, true⟩]⟩

/-- The first store opens a transaction. -/
def opening : Move := ⟨0, someTime, .begin⟩

/-- The first store puts a tag inside a transaction, and then one that the trigger refuses. -/
def tripping : List Move :=
  [opening, ⟨0, someTime, .add "n" 1 "alice"⟩, ⟨0, someTime, .add "bad" 1 "alice"⟩]

/-- The first store has its transaction up to the refusal, and the second is locked out; after it the first has nothing
to commit, and the second may begin. -/
theorem strictPair_loses_transaction :
    let f := (strictPair.run (tripping.take 2)).file
    let g := (strictPair.run tripping).file
    (strictPair.Since (Opens 0) (Closes 0) (tripping.take 2) ∧
        f.run { strictStore with connection := 1 }.beginTransaction =
          (.error (.storage .beginTransaction .locked), f)) ∧
      ¬strictPair.Since (Opens 0) (Closes 0) tripping ∧
        (∃ e : Error, g.run strictStore.commit = (.error e, g) ∧
          e.message = "Failed to commit transaction: cannot commit - no transaction is active") ∧
        g.run { strictStore with connection := 1 }.beginTransaction =
          (.ok (), { g with writer := some (1, ⟨.empty, [], []⟩) }) := by
  intro f g
  obtain ⟨hf, -, -, hcf⟩ := transactions_of_run .empty strictStore.faults .empty .map someTime strictPair.seats
    (fun _ => false) (tripping.take 2)
  obtain ⟨hg, -, -, hcg⟩ := transactions_of_run .empty strictStore.faults .empty .map someTime strictPair.seats
    (fun _ => false) tripping
  have hopen := (hf 0).1 rfl
  have hnone : ∀ c, ¬strictPair.Since (Opens c) (Closes c) tripping := by
    intro c hp
    cases (hg c).2 hp
  refine ⟨⟨hopen, (hcf { strictStore with connection := 1 }).begin_locked 0 (by decide) hopen⟩, hnone 0, ?_, ?_⟩
  · exact (hcg strictStore).commit_none (hnone 0)
  · exact (hcg { strictStore with connection := 1 }).begin hnone

/-- A session of one store that inserts plainly, on a file with one id left. -/
def brink : Session := ⟨.ofDatabase nearlyFull, [], .empty, .map, someTime, [⟨1, .maxId, true⟩]⟩

/-- The store gives the last id, and then finds none left. -/
def overrun : List Move := [⟨0, someTime, .add "k" 1 "alice"⟩, ⟨0, someTime, .add "full" 1 "alice"⟩]

/-- **A transaction ends though nobody ended it and no trigger rolled back**: a plain insertion found no id left. -/
theorem exhausted_insertion_closes_transaction :
    brink.Since (Opens 0) (fun s m => s.Concludes 0 m ∨ m.seat = 0 ∧ s.RollsBack m) (opening :: overrun) ∧
      (brink.run (opening :: overrun)).file.isAutocommit 0 = true ∧
      ((brink.run (opening :: overrun)).move ⟨0, someTime, .commit⟩).1 =
        some (.error (.storage .commitTransaction .noTransactionToCommit)) := by
  refine ⟨⟨[], _, _, rfl, ⟨rfl, rfl, .done, rfl⟩, ?_, ?_, trivial⟩, rfl, rfl⟩ <;>
  · rintro (⟨-, hx | hx, -⟩ | ⟨-, hr⟩)
    · cases hx
    · cases hx
    · exact not_rollsBack (fun _ hx => absurd hx List.not_mem_nil) hr

end Session
end VersionTags
