import VersionTags.Proofs.Store.Effect
/-!
# All or nothing

A write that fails is undone as a whole.  Its rows and its ids are given back and the caller's transaction goes on, or,
where a trigger rolls back, the transaction ends and the connection is left with the committed tables.  The error is
that of the statement that was refused, never one of the clean-up.

There is one exception (`Write.failure_is_promised_iff`): a plain insertion that finds no id left takes the caller's
transaction with it.
-/
namespace VersionTags.Write

/-- What the caller of a write is promised when it is refused: after a trigger that rolls back, the committed tables
and no transaction; after anything else, every connection's tables and transaction as they were. -/
def Promised (f g : File) (c : Connection) : Refusal → Prop
  | ⟨.raised _, .transaction⟩ => g.committed = f.committed ∧ g.view c = f.committed ∧ g.isAutocommit c = true
  | _ => g.committed = f.committed ∧ ∀ d, g.view d = f.view d ∧ g.isAutocommit d = f.isAutocommit d

section

variable {f g : File} {c : Connection} {st : Store} {r : Refusal}

theorem same_of_alike (h : g.Alike f) :
    g.committed = f.committed ∧ ∀ d, g.view d = f.view d ∧ g.isAutocommit d = f.isAutocommit d :=
  ⟨h.committed, fun d => ⟨h.view d, h.isAutocommit d⟩⟩

theorem ended_of_alike (h : g.Alike (f.undo .transaction)) :
    g.committed = f.committed ∧ g.view c = f.committed ∧ g.isAutocommit c = true :=
  ⟨h.committed, h.view c, h.isAutocommit c⟩

theorem undo_of_isAutocommit (hl : f.isLocked c = false) (ha : f.isAutocommit c = true) (r : Reach) : f.undo r = f := by
  rw [File.isAutocommit_eq hl, Option.isNone_iff_eq_none] at ha
  exact File.undo_of_none ha r

/-- The promise holds of a refusal with a cause, but for an exhausted plain insertion in a transaction of the caller. -/
theorem promised_iff (hr : r.Cause st) (hg : g.Alike (f.undo r.reach)) (hl : r.cause = .full → f.isLocked c = false) :
    Promised f g c r ↔ ¬(r.cause = .full ∧ st.insertsPlainly = true ∧ f.isAutocommit c = false) := by
  cases hr with
  | @trigger x hx =>
    have hn : ¬(Failure.raised x.message = .full ∧ st.insertsPlainly = true ∧ f.isAutocommit c = false) := by simp
    refine iff_of_true ?_ hn
    cases hr : x.reach with
    | statement =>
      rw [hr] at hg
      exact same_of_alike hg
    | transaction =>
      rw [hr] at hg
      exact ended_of_alike hg
  | exhausted =>
    have hf := hl rfl
    cases hp : st.insertsPlainly with
    | false =>
      rw [hp] at hg
      exact iff_of_true (same_of_alike hg) (by simp)
    | true =>
      rw [hp] at hg
      cases ha : f.isAutocommit c with
      | true =>
        rw [undo_of_isAutocommit hf ha] at hg
        exact iff_of_true (same_of_alike hg) (by simp)
      | false =>
        -- the transaction was open and is gone
        have he := (ended_of_alike (c := c) hg).2.2
        refine iff_of_false (fun hp => ?_) (by simp)
        have hs := (hp.2 c).2
        rw [he, ha] at hs
        cases hs
  | unreadable why => exact iff_of_true (same_of_alike hg) (by simp)
  | locked => exact iff_of_true (same_of_alike hg) (by simp)
  | readOnly => exact iff_of_true (same_of_alike hg) (by simp)

end

/-- **A write that fails does nothing, or ends the transaction where a trigger asks for it.**  The failure is that of
the refused statement.  The promise fails exactly where a plain insertion inside a transaction of the caller finds no
id left, and then the transaction ends as well. -/
theorem failure_is_promised_iff (w : Write) (st : Store) (now : Time.Instant) (f : File) {e : Error} {g : File}
    (h : f.run (w.perform st now) = (.error e, g)) :
    ∃ b : Blame, w.outcome st now f = .error b ∧ b.refusal.Cause st ∧ e = .storage b.task b.refusal.cause ∧
      e.message = b.task.failed ++ ": " ++ b.refusal.cause.message ∧
      (Promised f g st.connection b.refusal ↔
        ¬(b.refusal.cause = .full ∧ st.insertsPlainly = true ∧ f.isAutocommit st.connection = false)) ∧
      (b.refusal.reach = .transaction →
        g.committed = f.committed ∧ g.view st.connection = f.committed ∧ g.isAutocommit st.connection = true) := by
  obtain ⟨g', hg, ha⟩ := run_perform w st now f
  rw [h] at hg
  obtain ⟨he, rfl⟩ := Prod.mk.inj hg
  cases ho : w.outcome st now f with
  | ok p =>
    rw [ho] at he
    cases he
  | error b =>
    rw [ho] at he ha
    have hc := cause_of_outcome ho
    cases he
    refine ⟨b, rfl, hc, rfl, rfl, promised_iff hc ha (isLocked_of_full ho), fun hr => ?_⟩
    exact ended_of_alike (by rw [← hr]; exact ha)

def someTime : Time.Instant := ⟨⟨2024, 2, 29, by decide⟩, 12, 0, 0, 0, by decide⟩

/-- A store whose triggers refuse tags named `bad` and roll back. -/
def strictStore : Store := ⟨0, 1, .generatedKeys, true, [⟨.tagInsert "bad", .transaction, "no"⟩], .empty, .map⟩

/-- An empty file on which the store has opened a transaction and put a tag. -/
def strictFile : File :=
  ((((File.ofDatabase .empty).run strictStore.beginTransaction).2).run
    ((add "n" 1 "alice").perform strictStore someTime)).2

/-- The second record of a batch trips the trigger, and the transaction goes with the tag put before it. -/
theorem batch_refused_by_trigger :
    ((strictFile.run
        ((addMany 1 [⟨"m", "alice", someTime⟩, ⟨"bad", "alice", someTime⟩]).perform strictStore someTime)).1 =
        .error (.storage (.addTags (strictStore.describe 1)) (.raised "no"))) ∧
      (strictFile.view 0).tags.length = 1 ∧
      (strictFile.run ((addMany 1 [⟨"m", "alice", someTime⟩, ⟨"bad", "alice", someTime⟩]).perform strictStore
        someTime)).2.view 0 = .empty := by
  have hr : strictFile.run ((addMany 1 [⟨"m", "alice", someTime⟩, ⟨"bad", "alice", someTime⟩]).perform strictStore
      someTime) = (.error (.storage (.addTags (strictStore.describe 1)) (.raised "no")), _) := rfl
  obtain ⟨b, ho, -, -, -, -, hend⟩ := failure_is_promised_iff _ _ _ _ hr
  have hb : (addMany 1 [⟨"m", "alice", someTime⟩, ⟨"bad", "alice", someTime⟩]).outcome strictStore someTime strictFile =
      .error ⟨.addTags (strictStore.describe 1), ⟨.raised "no", .transaction⟩⟩ := rfl
  obtain rfl := Except.error.inj (hb.symm.trans ho)
  exact ⟨rfl, rfl, (hend rfl).2.1⟩

/-- The deletions of a removal without the scope around them: the second is refused, and the first stays done. -/
example :
    let st : Store := { strictStore with faults := [⟨.tagDelete "bad", .statement, "kept"⟩] }
    let both := addMany 1 [⟨"n", "alice", someTime⟩, ⟨"bad", "alice", someTime⟩]
    let f := ((File.ofDatabase .empty).run (both.perform st someTime)).2
    let p := f.run (Store.run (.purge 1) ([1, 2].forM st.deleteTag))
    p.1.isOk = false ∧ p.2.committed.tags.map TagRow.name = ["bad"] := ⟨rfl, rfl⟩

/-! ## An exhausted id space -/

/-- Tables in which one id is left. -/
def nearlyFull : Database :=
  .ofRows [⟨Decimal.maxInt64 - 1, "x", "a", "2020-01-02 03:04:05+00:00", .int 1⟩]
    [⟨.int (Decimal.maxInt64 - 1), .int 1, .int 1⟩]

def plainStore : Store := ⟨0, 1, .maxId, true, [], .empty, .map⟩

/-- The file after the store has opened a transaction and given the last id. -/
def fullFile : File :=
  ((((File.ofDatabase nearlyFull).run plainStore.beginTransaction).2).run
    ((add "k" 1 "alice").perform plainStore someTime)).2

/-- **A plain insertion that finds no id left ends the transaction of the caller**, against the promise: the tag put
before it is gone. -/
theorem exhausted_plain_insertion_breaks_promise :
    (fullFile.view 0).tags.length = 2 ∧
      fullFile.run ((add "full" 1 "alice").perform plainStore someTime) =
        (.error (.storage (.addTag "full" (plainStore.describe 1) "alice") .full), File.ofDatabase nearlyFull) ∧
      ¬Promised fullFile (File.ofDatabase nearlyFull) 0 ⟨.full, .transaction⟩ := by
  refine ⟨rfl, rfl, fun h => ?_⟩
  cases (h.2 0).2

end VersionTags.Write
