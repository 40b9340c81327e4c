import VersionTags.Proofs.Store.Isolation
/-!
# What a write leaves open

A write leaves the open transaction as it stands, with the savepoints that were set in it, or its refusal ends the
transaction (`Write.Ends`).  Inside a transaction of the store just two refusals do that: a trigger that rolls back, and
a plain insertion that finds no id left (`Write.ends_iff`).
-/
namespace VersionTags

namespace File

variable {f g : File} {c : Connection}

/-- The connection with a transaction open, and the savepoints set in it. -/
def standing (f : File) : Option (Connection × List Database) := f.writer.map fun w => (w.1, w.2.savepoints)

theorem isAutocommit_iff_standing : f.isAutocommit c = false ↔ ∃ sps, f.standing = some (c, sps) := by
  constructor
  · intro h
    obtain ⟨t, ht⟩ := writer_of_isAutocommit h
    exact ⟨t.savepoints, by rw [standing, ht]; rfl⟩
  · rintro ⟨sps, h⟩
    obtain ⟨⟨d, t⟩, hw, he⟩ := Option.map_eq_some_iff.1 h
    cases he
    rw [isAutocommit, transaction?_of_writer hw]
    rfl

theorem isAutocommit_of_standing (h : g.standing = f.standing) : g.isAutocommit c = f.isAutocommit c := by
  cases hf : f.isAutocommit c with
  | false => rwa [isAutocommit_iff_standing, h, ← isAutocommit_iff_standing]
  | true =>
    rw [← Bool.not_eq_false, isAutocommit_iff_standing, h, ← isAutocommit_iff_standing, hf]
    exact nofun

theorem isAutocommit_of_none (h : f.writer = none) (c : Connection) : f.isAutocommit c = true := by
  rw [isAutocommit, transaction?, h]
  rfl

theorem Alike.standing (h : g.Alike f) : g.standing = f.standing := by
  have hw : ∀ e : File, e.withoutPast.standing = e.standing := by
    rintro ⟨k, _ | ⟨owner, t⟩, ro, sp⟩ <;> rfl
  rw [← hw, h, hw]

theorem Alike.eq_of_none (h : g.Alike f) (hf : f.writer = none) : g = f := by
  have hg : g.standing = none := by rw [h.standing, File.standing, hf]; rfl
  have hw : g.writer = none := Option.map_eq_none_iff.1 hg
  have hc := h.committed
  have hr := h.readOnly
  have hs := h.spills
  cases f
  cases g
  simp_all

theorem put_of_none (h : f.writer = none) (db : Database) : f.put db = { f with committed := db } := by
  rw [put, h]

theorem standing_put (f : File) (db : Database) : (f.put db).standing = f.standing := by
  rcases hw : f.writer with _ | ⟨d, t⟩
  · simp only [put, hw, standing]
  · simp only [put, hw, standing, withWorking]
    rfl

theorem committed_put (db : Database) (h : f.isAutocommit c = false) : (f.put db).committed = f.committed := by
  obtain ⟨t, hw⟩ := writer_of_isAutocommit h
  rw [put, hw]
  rfl

end File

namespace Write

variable {w : Write} {st : Store} {now : Time.Instant} {f g : File}

/-- The write is refused in a way that ends the transaction it was made in. -/
def Ends (o : Except Blame (Answer × Database)) : Prop := ∃ b, o = .error b ∧ b.refusal.reach = .transaction

/-- **Inside a transaction, just two refusals end it.** -/
theorem ends_iff (w : Write) (st : Store) (now : Time.Instant) (h : f.isAutocommit st.connection = false) :
    Ends (w.outcome st now f) ↔ RolledBack (w.outcome st now f) ∨ RanOut st f (w.outcome st now f) := by
  constructor
  · rintro ⟨b, ho, hr⟩
    have hc := cause_of_outcome ho
    rw [ho]
    obtain ⟨task, r⟩ := b
    dsimp only at hc hr
    cases hc with
    | @trigger x hx =>
      dsimp only at hr
      exact .inl ⟨_, x.message, rfl, by rw [hr]⟩
    | exhausted =>
      cases hp : st.insertsPlainly with
      | false =>
        rw [hp] at hr
        cases hr
      | true => exact .inr ⟨_, rfl, rfl, hp, h⟩
    | _ => cases hr
  · rintro (⟨b, m, ho, hr⟩ | ⟨b, ho, hf, hp, -⟩)
    · exact ⟨b, ho, by rw [hr]⟩
    · have hc := cause_of_outcome ho
      obtain ⟨task, r⟩ := b
      dsimp only at hc hf
      cases hc with
      | exhausted => exact ⟨_, ho, by simp [hp]⟩
      | _ => cases hf

/-- A refusal that ends the transaction leaves the committed tables. -/
theorem file_of_ends (h : Ends (w.outcome st now f)) : (f.run (w.perform st now)).2 = { f with writer := none } := by
  obtain ⟨b, ho, hr⟩ := h
  obtain ⟨g, hg, ha⟩ := w.run_perform st now f
  rw [ho, leave, hr] at ha
  rw [hg]
  exact ha.eq_of_none rfl

/-- **A write that does not end the transaction leaves it as it stands**, with no savepoint more and none less. -/
theorem standing_of_not_ends (h : ¬Ends (w.outcome st now f)) : (f.run (w.perform st now)).2.standing = f.standing := by
  obtain ⟨g, hg, ha⟩ := w.run_perform st now f
  rw [hg, ha.standing]
  rcases ho : w.outcome st now f with b | ⟨x, db⟩
  · have hr : b.refusal.reach = .statement := by
      cases hr : b.refusal.reach with
      | statement => rfl
      | transaction => exact absurd ⟨b, ho, hr⟩ h
    rw [leave, hr]
    rfl
  · exact f.standing_put db

theorem committed_of_isAutocommit {c : Connection} (h : f.isAutocommit c = false) :
    (f.run (w.perform st now)).2.committed = f.committed := by
  obtain ⟨g, hg, ha⟩ := w.run_perform st now f
  rw [hg, ha.committed]
  rcases w.outcome st now f with b | ⟨x, db⟩
  · rw [leave]
    cases b.refusal.reach <;> rfl
  · exact File.committed_put db h

/-- **What a write comes to where no transaction is open**: all of it, or nothing. -/
theorem run_of_none (w : Write) (st : Store) (now : Time.Instant) (hf : f.writer = none) :
    f.run (w.perform st now) = (report (w.on st f.readOnly now f.committed),
      match w.on st f.readOnly now f.committed with
      | .ok (_, db) => { f with committed := db }
      | .error _ => f) := by
  obtain ⟨g, hg, ha⟩ := w.run_perform st now f
  have ho : w.outcome st now f = w.on st f.readOnly now f.committed := by
    rw [outcome, if_neg (by simp [File.isLocked, hf]), File.view_of_none hf]
  rw [ho] at hg ha
  rw [hg]
  cases hon : w.on st f.readOnly now f.committed with
  | error b =>
    have ha' : g.Alike (f.undo b.refusal.reach) := by rwa [hon] at ha
    rw [File.undo_of_none hf] at ha'
    rw [ha'.eq_of_none hf]
  | ok p =>
    have ha' : g.Alike (f.put p.2) := by rwa [hon] at ha
    rw [File.put_of_none hf] at ha'
    rw [ha'.eq_of_none hf]

theorem writer_of_none (w : Write) (st : Store) (now : Time.Instant) (hf : f.writer = none) :
    (f.run (w.perform st now)).2.writer = none := by
  rw [w.run_of_none st now hf]
  cases w.on st f.readOnly now f.committed <;> exact hf

end Write

end VersionTags
