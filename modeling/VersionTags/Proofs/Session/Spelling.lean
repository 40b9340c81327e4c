import VersionTags.Proofs.Session.History
import VersionTags.Proofs.Store.Unreadable
import VersionTags.Proofs.Text.Lowercase
/-!
# Names in lowercase

Operations that ask for a name in any case do with its lowercase form what they do with the name itself, since the
form of the form is the form (`Text.lowercase_lowercase`).  They answer alike or fail alike, but for the name that the
error quotes, and leave the same file, whatever rows it has (`Store.spelling_free`).  So a whole session goes the same
way when all names that it asks for are in lowercase (`Session.run_lowered`).

A tag is therefore found by its name as it is stored and by the lowercase form of that, whatever case it was stored in.
-/
namespace VersionTags

open Text (lowercase)

/-! ## Names in lowercase -/

/-- The task with the names that it asks for in lowercase. -/
def Task.lowered : Task → Task
  | .findTag n r a => .findTag (lowercase n) r a
  | .countTag n r => .countTag (lowercase n) r
  | .findPaths ns => .findPaths (ns.map lowercase)
  | .removeTag n r => .removeTag (lowercase n) r
  | .removeTagBy n r a => .removeTagBy (lowercase n) r a
  | t => t

def Error.lowered : Error → Error
  | .storage t why => .storage t.lowered why
  | e => e

def Step.lowered : Step → Step
  | .exists n v a => .exists (lowercase n) v a
  | .count v n => .count v (lowercase n)
  | .paths ns => .paths (ns.map lowercase)
  | .remove v n => .remove v (lowercase n)
  | .removeBy v n a => .removeBy v (lowercase n) a
  | x => x

def Move.lowered (m : Move) : Move := { m with step := m.step.lowered }

theorem map_lowercase_map_lowercase (ns : List String) : (ns.map lowercase).map lowercase = ns.map lowercase := by
  simp

@[simp]
theorem Task.lowered_lowered (t : Task) : t.lowered.lowered = t.lowered := by
  cases t <;> simp [lowered]

@[simp]
theorem Error.lowered_lowered (e : Error) : e.lowered.lowered = e.lowered := by
  cases e <;> simp [lowered]

theorem mapError_lowered_lowered {α : Type} (r : Except Error α) :
    (r.mapError Error.lowered).mapError Error.lowered = r.mapError Error.lowered := by
  cases r <;> simp [Except.mapError]

/-! ## Tables -/

namespace Database

variable (db : Database) (T : Tenant) (v : Version) (n a : String)

theorem hasTag_lowercase : db.hasTag T v (lowercase n) a = db.hasTag T v n a := by
  simp only [hasTag, Text.sameFold_lowercase_right]

theorem countNamed_lowercase : db.countNamed T v (lowercase n) = db.countNamed T v n := by
  simp only [countNamed, Text.sameFold_lowercase_right]

theorem idsToRemove_lowercase (author : AuthorFilter) :
    db.idsToRemove T v (some (lowercase n)) author = db.idsToRemove T v (some n) author := by
  simp only [idsToRemove, Text.sameFold_lowercase_right]

theorem versionsWithAny_lowercase (ns : List String) :
    db.versionsWithAny T (ns.map lowercase) = db.versionsWithAny T ns := by
  simp only [versionsWithAny, tagsNamed, map_lowercase_map_lowercase]

end Database

/-! ## Operations -/

/-- Both operations come to the same on the file, but for the names that an error of the first one quotes: the second
quotes them in lowercase. -/
def Operation.Agree {α : Type} (f : File) (op op' : Operation α) : Prop :=
  f.run op' = ((f.run op).1.mapError Error.lowered, (f.run op).2)

namespace Store

variable {α β : Type} {st : Store} {f : File}

/-- An action does not know for what task it is done. -/
theorem agree_run (t : Task) (a : Action α) : Operation.Agree f (run t a) (run t.lowered a) := by
  unfold Operation.Agree
  rw [run_run, run_run]
  rcases f.run a with ⟨e | x, g⟩ <;> rfl

theorem agree_bind_pure {op op' : Operation α} (h : Operation.Agree f op op') (k : α → β) :
    Operation.Agree f (op >>= fun x => pure (k x)) (op' >>= fun x => pure (k x)) := by
  unfold Operation.Agree at h ⊢
  rw [File.run_bind, File.run_bind, h]
  rcases f.run op with ⟨e | x, g⟩ <;> rfl

/-- The operations that ask for a name in any case agree on a name and its lowercase form. -/
structure Respells (st : Store) (f : File) : Prop where
  hasTag : ∀ n v a, Operation.Agree f (st.hasTag n v a) (st.hasTag (lowercase n) v a)
  countTag : ∀ v n, Operation.Agree f (st.countTag v n) (st.countTag v (lowercase n))
  pathsWithAny : ∀ ns, Operation.Agree f (st.pathsWithAny ns) (st.pathsWithAny (ns.map lowercase))
  removeTag : ∀ v n, Operation.Agree f (st.removeTag v n) (st.removeTag v (lowercase n))
  removeTagBy : ∀ v n a, Operation.Agree f (st.removeTagBy v n a) (st.removeTagBy v (lowercase n) a)

theorem removeMatching_lowercase (st : Store) (v : Version) (n : String) (a : AuthorFilter) :
    st.removeMatching v (some (lowercase n)) a = st.removeMatching v (some n) a := by
  simp only [removeMatching, Database.idsToRemove_lowercase]

theorem pathsWithAny_agree (st : Store) (f : File) (ns : List String) :
    Operation.Agree f (st.pathsWithAny ns) (st.pathsWithAny (ns.map lowercase)) := by
  unfold pathsWithAny
  by_cases hnil : ns = []
  · subst hnil
    rfl
  · have hnil' : ns.map lowercase ≠ [] := by simpa using hnil
    simp only [if_neg hnil, if_neg hnil', List.length_map, Database.versionsWithAny_lowercase]
    by_cases hmany : maxValues ≤ ns.length
    · simp only [if_pos hmany]
      rfl
    · simp only [if_neg hmany]
      exact agree_bind_pure (agree_run (.findPaths ns) _) _

theorem respells (st : Store) (f : File) : st.Respells f where
  hasTag n v a := by
    unfold Store.hasTag
    simp only [Database.hasTag_lowercase]
    exact agree_run (.findTag n (st.describe v) a) _
  countTag v n := by
    unfold Store.countTag
    simp only [Database.countNamed_lowercase]
    exact agree_run (.countTag n (st.describe v)) _
  pathsWithAny := pathsWithAny_agree st f
  removeTag v n := by
    unfold Store.removeTag
    rw [removeMatching_lowercase]
    exact agree_run (.removeTag n (st.describe v)) _
  removeTagBy v n a := by
    unfold Store.removeTagBy
    rw [removeMatching_lowercase]
    exact agree_run (.removeTagBy n (st.describe v) a) _

end Store

/-! ## Tags found by their names -/

namespace Database

variable {db : Database} {T : Tenant} {v : Version} {t : TagRow} {ns : List String}

/-- A tag on a version is reached by a search for its name, in any case. -/
theorem exists_linksNamed (ht : t ∈ db.on T v) (hn : lowercase t.name ∈ ns.map lowercase) :
    ∃ l ∈ db.linksNamed T ns, l.version.same (.int v) = true := by
  obtain ⟨hm, hT⟩ := mem_on ht
  rw [on_eq, List.mem_flatMap] at ht
  obtain ⟨l, hl, ht⟩ := ht
  simp only [linksOn, List.mem_reverse, List.mem_filter, Bool.and_eq_true, beq_iff_eq] at hl
  simp only [tagsOf, List.mem_filter, Bool.and_eq_true, beq_iff_eq] at ht
  exact ⟨l, mem_linksNamed.2 ⟨hl.1, hl.2.1, t, hm, hT, by rw [ht.2.2]; rfl, hn⟩, hl.2.2⟩

end Database

namespace Store

variable {st : Store} {f : File} {v : Version} {t : TagRow} {n : String}

/-- Asked for the name, the store finds the tag on the version. -/
structure Hits (st : Store) (f : File) (v : Version) (t : TagRow) (n : String) : Prop where
  hasTag : (f.run (st.hasTag n v t.author)).1 = .ok true
  countTag : ∃ k, (f.run (st.countTag v n)).1 = .ok k ∧ 0 < k
  pathsWithAny : ∀ ns ps p, n ∈ ns → (f.run (st.pathsWithAny ns)).1 = .ok ps → 0 < v → st.locator.path? v = some p →
    p ∈ ps
  removeTag : ∀ k g, f.run (st.removeTag v n) = (.ok k, g) →
    0 < k ∧ ∀ u ∈ (g.view st.connection).on st.tenant v, Text.sameFold u.name t.name = false
  removeTagBy : ∀ k g, f.run (st.removeTagBy v n t.author) = (.ok k, g) →
    0 < k ∧ ∀ u ∈ (g.view st.connection).on st.tenant v, u.author = t.author → Text.sameFold u.name t.name = false

/-- What a removal that succeeds has found, where it picks the tag. -/
theorem removal_hits (w : Write) (now : Time.Instant) {pick : TagRow → Bool} (hw : w.removal? = some (v, pick))
    (ht : t ∈ (f.view st.connection).on st.tenant v) (hp : pick t = true) {op : Operation Nat}
    (hop : w.perform st now = op >>= fun k => pure (.number k)) {k : Nat} {g : File} (hk : f.run op = (.ok k, g)) :
    0 < k ∧ ∀ u ∈ (g.view st.connection).on st.tenant v, pick u = false := by
  have hrun : f.run (w.perform st now) = (.ok (.number k), g) := by
    rw [hop, File.run_bind, hk]
    rfl
  obtain ⟨hn, -, hleft⟩ := views_removal hw (congrArg Prod.fst hrun)
  rw [hrun] at hleft
  rw [Database.on_eq_joined, List.mem_map] at ht
  obtain ⟨q, hq, rfl⟩ := ht
  constructor
  · have hpos : 0 < ((f.view st.connection).joined st.tenant v).countP fun q => pick q.2 :=
      List.countP_pos_iff.2 ⟨q, hq, hp⟩
    have hcount := Answer.number.inj hn
    omega
  · intro u hu
    rw [Database.on_eq_joined, List.mem_map] at hu
    obtain ⟨q', hq', rfl⟩ := hu
    exact hleft q' hq'

/-- **A tag is found by every name with its lowercase form.** -/
theorem hits_of_sameFold (hb : f.isBlocked st.connection = false) (ht : t ∈ (f.view st.connection).on st.tenant v)
    (hn : Text.sameFold t.name n = true) : st.Hits f v t n := by
  have hfold : lowercase t.name = lowercase n := eq_of_beq hn
  have hother : ∀ u : TagRow, Text.sameFold u.name n = false → Text.sameFold u.name t.name = false := by
    intro u hu
    unfold Text.sameFold at hu ⊢
    rw [hfold, hu]
  constructor
  · rw [Store.hasTag, run_look_of_sight hb, Database.hasTag]
    refine congrArg Except.ok (List.any_eq_true.2 ⟨t, ht, ?_⟩)
    simp [hn]
  · refine ⟨_, run_look_of_sight hb _ _, ?_⟩
    rw [Database.countNamed, List.countP_pos_iff]
    exact ⟨t, ht, hn⟩
  · intro ns ps p hmem hps hpos hp
    rw [run_pathsWithAny hb] at hps
    split at hps
    · cases hps
    · cases hvs : (f.view st.connection).versionsWithAny st.tenant ns with
      | error e =>
        rw [hvs] at hps
        cases hps
      | ok vs =>
        rw [hvs] at hps
        cases hps
        have hv : v ∈ vs := (Database.mem_versionsWithAny hvs).2
          (Database.exists_linksNamed ht (hfold ▸ List.mem_map_of_mem hmem))
        rw [Read.pathsOf_eq, List.mem_eraseDups, List.mem_filterMap]
        exact ⟨v, List.mem_filter.2 ⟨hv, decide_eq_true hpos⟩, hp⟩
  · intro k g hk
    obtain ⟨hpos, hleft⟩ := removal_hits (.remove v n) Write.someTime rfl ht hn rfl hk
    exact ⟨hpos, fun u hu => hother u (hleft u hu)⟩
  · intro k g hk
    obtain ⟨hpos, hleft⟩ := removal_hits (.removeBy v n t.author) Write.someTime rfl ht
      (by simp [hn]) rfl hk
    refine ⟨hpos, fun u hu ha => hother u ?_⟩
    simpa [ha] using hleft u hu

/-- **Names are asked for in any case.**  A name and its lowercase form, which is its own lowercase form, come to the
same on any file, and a tag that the store can see is found by its name as it is stored and by the form of that. -/
theorem spelling_free (st : Store) (f : File) :
    (∀ n, lowercase (lowercase n) = lowercase n) ∧ st.Respells f ∧
      (f.isBlocked st.connection = false → ∀ v, ∀ t ∈ (f.view st.connection).on st.tenant v,
        st.Hits f v t t.name ∧ st.Hits f v t (lowercase t.name)) := by
  refine ⟨Text.lowercase_lowercase, st.respells f, fun hb v t ht => ⟨?_, ?_⟩⟩
  · exact hits_of_sameFold hb ht (beq_self_eq_true _)
  · exact hits_of_sameFold hb ht (by rw [Text.sameFold_lowercase_right]; exact beq_self_eq_true _)

open Write (plainStore)

/-- A tag with a sigma at the end of its name is found by the form with the final one. -/
theorem final_sigma_found :
    let t : TagRow := ⟨1, "ΟΔΟΣ", "alice", "2024-02-29 12:00:00+00:00", .int 1⟩
    plainStore.Hits (.ofDatabase (.ofRows [t] [⟨.int 1, .int 1, .int 1⟩])) 1 t "οδος" := by
  intro t
  have hlower : lowercase t.name = "οδος" := by decide +kernel
  have ht : t ∈ (Database.ofRows [t] [⟨.int 1, .int 1, .int 1⟩]).on 1 1 := by
    rw [Database.on_eq]
    decide
  obtain ⟨-, -, hfound⟩ := spelling_free plainStore (.ofDatabase (.ofRows [t] [⟨.int 1, .int 1, .int 1⟩]))
  rw [← hlower]
  exact (hfound rfl 1 t ht).2

end Store

/-! ## Sessions -/

namespace Session

variable (s : Session)

/-- **A step that asks for names in lowercase** leaves the same session as one that asks for the names, and is answered
alike but for the names that an error quotes. -/
theorem step_lowered (i : Nat) (seat : Seat) (x : Step) :
    (s.step i seat x.lowered).1.mapError Error.lowered = (s.step i seat x).1.mapError Error.lowered ∧
      (s.step i seat x.lowered).2 = (s.step i seat x).2 := by
  have hagree : ∀ {op op' : Operation Answer}, Operation.Agree s.file op op' →
      (s.operate op').1.mapError Error.lowered = (s.operate op).1.mapError Error.lowered ∧
        (s.operate op').2 = (s.operate op).2 := by
    intro op op' h
    rw [operate_eq, operate_eq, h, mapError_lowered_lowered]
    exact ⟨rfl, rfl⟩
  have h := (s.store i seat).respells s.file
  cases x with
  | «exists» n v a => exact hagree (Store.agree_bind_pure (h.hasTag n v a) Answer.flag)
  | count v n => exact hagree (Store.agree_bind_pure (h.countTag v n) fun k : Nat => Answer.number k)
  | paths ns => exact hagree (Store.agree_bind_pure (h.pathsWithAny ns) Answer.texts)
  | remove v n => exact hagree (Store.agree_bind_pure (h.removeTag v n) fun k : Nat => Answer.number k)
  | removeBy v n a => exact hagree (Store.agree_bind_pure (h.removeTagBy v n a) fun k : Nat => Answer.number k)
  | _ => exact ⟨rfl, rfl⟩

/-- The moves of a run and their answers, with all names that are asked for in lowercase. -/
def plainTranscript (ms : List Move) : List (Move × Option (Except Error Answer)) :=
  (s.transcript ms).map fun p => (p.1.lowered, p.2.map (Except.mapError Error.lowered))

theorem move_lowered (m : Move) :
    (s.move m.lowered).1.map (Except.mapError Error.lowered) = (s.move m).1.map (Except.mapError Error.lowered) ∧
      (s.move m.lowered).2 = (s.move m).2 := by
  obtain ⟨i, now, x⟩ := m
  simp only [move, Move.lowered]
  cases s.seats[i]? with
  | none => exact ⟨rfl, rfl⟩
  | some seat =>
    obtain ⟨hanswer, hsession⟩ := step_lowered { s with clock := now } i seat x
    exact ⟨congrArg some hanswer, hsession⟩

/-- **A session goes the same way with all names in lowercase.** -/
theorem run_lowered : ∀ (ms : List Move) (s : Session), s.run (ms.map Move.lowered) = s.run ms ∧
    s.plainTranscript (ms.map Move.lowered) = s.plainTranscript ms
  | [], _ => ⟨rfl, rfl⟩
  | m :: ms, s => by
    obtain ⟨hanswer, hsession⟩ := s.move_lowered m
    obtain ⟨hrun, htranscript⟩ := run_lowered ms (s.move m).2
    have hstep : m.lowered.lowered = m.lowered := by
      cases m with
      | mk seat now x => cases x <;> simp [Move.lowered, Step.lowered]
    constructor
    · show (s.move m.lowered).2.run (ms.map Move.lowered) = (s.move m).2.run ms
      rw [hsession, hrun]
    · show (m.lowered.lowered, (s.move m.lowered).1.map _) ::
          (s.move m.lowered).2.plainTranscript (ms.map Move.lowered) =
        (m.lowered, (s.move m).1.map _) :: (s.move m).2.plainTranscript ms
      rw [hstep, hanswer, hsession, htranscript]

end Session
end VersionTags
