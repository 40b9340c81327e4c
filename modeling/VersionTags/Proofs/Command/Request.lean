import VersionTags.Command.Run
import VersionTags.Proofs.Session.Run
import VersionTags.Proofs.Store.Standing
/-!
# Requests as steps of a session

Every request of the command line is a step of a session.  Answering it does to a file what the step does, and what is
printed tells the answer of the step (`Request.answer_matches`).
-/
namespace VersionTags.Request

/-- The step of a session that a request asks for. -/
def step : Request → Step
  | .add v tag author => .add tag v author
  | .copy source target => .copy source target
  | .tags v => .tags v
  | .exists v tag author => .exists tag v author
  | .count v tag => .count v tag
  | .counts v start size sortBy sortOrder =>
    .counts v (if start = none ∧ size = none ∧ sortBy = "" ∧ sortOrder = "" then .unpaginated
      else .raw (start.getD 1) (size.getD wholePage) sortBy sortOrder)
  | .taggings v => .taggings v
  | .taggingsNamed v tag author => .tagging v tag author
  | .tagging id => .byId id
  | .paths names => .paths names
  | .remove v tag => .remove v tag
  | .removeBy v tag author => .removeBy v tag author
  | .stats => .stats

def isRead : Request → Bool
  | .add _ _ _ => false
  | .copy _ _ => false
  | .remove _ _ => false
  | .removeBy _ _ _ => false
  | _ => true

/-- The JSON that tells the answer to a read.  There is none for a tagging that does not exist. -/
def json? : Request → Answer → Option Json
  | .tags _, .texts names => some (.array (names.map .string))
  | .exists _ _ _, .flag found => some (.object [("exists", .bool found)])
  | .count _ tag, .number n => some (.object [("count", .int n), ("tag", .string tag)])
  | .counts _ _ _ _ _, .counts rows total =>
    some (.object [("tags", .array (rows.map TagCount.toJson)), ("total", Json.ofOption (fun n => .int n) total)])
  | .taggings _, .taggings ts => some (.array (ts.map Tagging.toJson))
  | .taggingsNamed _ _ _, .taggings ts => some (.array (ts.map Tagging.toJson))
  | .tagging _, .tagging t => t.map Tagging.toJson
  | .paths _, .texts ps => some (.array (ps.map .string))
  | .stats, .stats s => some s.toJson
  | _, _ => none

/-- A run that ended well tells the answer to the request. -/
structure Told (r : Request) (format : Format) (x : Answer) (o : Outcome) : Prop where
  code : o.code = if x = .tagging none then 2 else 0
  out : r.isRead = true → format = .json → o.out = (r.json? x).toList.map Json.pretty

/-- How a step and a run end: with the same error, or the run tells the answer. -/
inductive Ends (x : Surroundings) (r : Request) (format : Format) :
    Except Error Answer → Except Error Reply → Prop where
  | ok {a : Answer} {reply : Reply} (h : r.Told format a (Outcome.ofReply x (.ok reply))) :
    Ends x r format (.ok a) (.ok reply)
  | error (e : Error) : Ends x r format (.error e) (.error e)

/-- What a step does and what a run does end alike on a file and leave it alike. -/
def Matches (x : Surroundings) (r : Request) (format : Format) (f : File) (op : Operation Answer)
    (op' : Operation Reply) : Prop :=
  Ends x r format (f.run op).1 (f.run op').1 ∧ (f.run op).2 = (f.run op').2

variable {x : Surroundings} {r : Request} {format : Format}

theorem matches_of_map {α : Type} (f : File) (op : Operation α) {k : α → Answer} {m : α → Reply}
    (h : ∀ y, r.Told format (k y) (Outcome.ofReply x (.ok (m y)))) :
    Matches x r format f (do return k (← op)) (do return m (← op)) := by
  unfold Matches
  rw [File.run_bind, File.run_bind]
  rcases f.run op with ⟨e | y, g⟩
  · exact ⟨.error e, rfl⟩
  · exact ⟨.ok (h y), rfl⟩

theorem told_lines {a : Answer} {ls : List Line} {j : Json} (hx : a ≠ .tagging none) (hj : r.json? a = some j)
    (h : format = .json → ls = jsonLines j) : r.Told format a (Outcome.ofReply x (.ok (.lines ls))) where
  code := by
    rw [if_neg hx]
    rfl
  out _ hf := by
    rw [h hf, hj]
    rfl

theorem matches_lines {α : Type} (f : File) (op : Operation α) {k : α → Answer} {ls : α → List Line} {j : α → Json}
    (hx : ∀ y, k y ≠ .tagging none) (hj : ∀ y, r.json? (k y) = some (j y))
    (h : format = .json → ∀ y, ls y = jsonLines (j y)) :
    Matches x r format f (do return k (← op)) (do return .lines (ls (← op))) :=
  matches_of_map f op fun y => told_lines (hx y) (hj y) fun hf => h hf y

theorem told_write {a : Answer} {reply : Reply} (hr : r.isRead = false) (hx : a ≠ .tagging none)
    (h : ∀ id, reply ≠ .noTagging id) : r.Told format a (Outcome.ofReply x (.ok reply)) where
  code := by
    rw [if_neg hx]
    cases reply with
    | noTagging id => exact absurd rfl (h id)
    | _ => rfl
  out hr' := absurd (hr.symm.trans hr') nofun

theorem matches_write {α : Type} (f : File) (op : Operation α) {k : α → Answer} {m : α → Reply} (hr : r.isRead = false)
    (hx : ∀ y, k y ≠ .tagging none) (h : ∀ y id, m y ≠ .noTagging id) :
    Matches x r format f (do return k (← op)) (do return m (← op)) :=
  matches_of_map f op fun y => told_write hr (hx y) (h y)

theorem page_request (start size : Option Int) (sortBy sortOrder : String) :
    (if start = none ∧ size = none ∧ sortBy = "" ∧ sortOrder = "" then PageChoice.unpaginated
      else .raw (start.getD 1) (size.getD wholePage) sortBy sortOrder).request =
      pageRequest start size sortBy sortOrder := by
  unfold pageRequest
  split <;> rfl

theorem matches_copy (x : Surroundings) (format : Format) (st : Store) (source target : Version) {f : File}
    (hf : f.writer = none) :
    Matches x (.copy source target) format f (do st.copyTags source target; return .done)
      ((Request.copy source target).answer x format st) := by
  have hw := (Write.copy source target).writer_of_none st x.now hf
  unfold Matches answer
  simp only [Write.perform, File.run_bind] at hw
  rw [File.run_bind, File.run_bind]
  rcases hr : f.run (st.copyTags source target) with ⟨e | ⟨⟩, g⟩
  · exact ⟨.error e, rfl⟩
  · -- the tags that the line counts are read where no transaction is open
    have hg : g.writer = none := by rwa [hr] at hw
    have hb : g.isBlocked st.connection = false := File.isBlocked_of_isLocked (by simp [File.isLocked, hg])
    dsimp only
    rw [File.run_bind, Store.tags, Store.look, Store.run_ask, File.sight, hb]
    exact ⟨.ok (told_write rfl (by simp) (by simp)), rfl⟩

theorem matches_counts (x : Surroundings) (format : Format) (st : Store) (v : Version) (start size : Option Int)
    (sortBy sortOrder : String) (f : File) :
    Matches x (.counts v start size sortBy sortOrder) format f
      (do let (rows, request) ← st.tagCounts v (← pageRequest start size sortBy sortOrder)
          return .counts rows request.rowCount)
      ((Request.counts v start size sortBy sortOrder).answer x format st) := by
  simp only [Matches, answer]
  cases pageRequest start size sortBy sortOrder with
  | error e => exact ⟨.error e, rfl⟩
  | ok request =>
    exact matches_of_map f (st.tagCounts v request) (k := fun p => .counts p.1 p.2.rowCount)
      (m := fun p => .lines (countsLines x.theme format p.1 p.2.rowCount))
      fun p => told_lines (by nofun) rfl (by rintro rfl; rfl)

theorem matches_tagging (x : Surroundings) (format : Format) (st : Store) (id : TagId) (f : File) :
    Matches x (.tagging id) format f (do return .tagging (← st.taggingById id))
      ((Request.tagging id).answer x format st) := by
  unfold Matches answer
  rw [File.run_bind, File.run_bind]
  rcases f.run (st.taggingById id) with ⟨e | t, g⟩
  · exact ⟨.error e, rfl⟩
  · cases t with
    | none => exact ⟨.ok ⟨rfl, fun _ _ => rfl⟩, rfl⟩
    | some t => exact ⟨.ok (told_lines (by nofun) rfl (by rintro rfl; rfl)), rfl⟩

/-- **A request does to a file what its step does**, and ends like it. -/
theorem answer_matches (x : Surroundings) (r : Request) (format : Format) (st : Store) {f : File} (hf : f.writer = none)
    {s : Session} (hs : s.clock = x.now) {op : Operation Answer} (ho : s.operation st r.step = some op) :
    Matches x r format f op (r.answer x format st) := by
  cases r with
  | add v tag author =>
    cases ho
    rw [hs]
    exact matches_write f (st.addTag x.now tag v author) (k := fun _ => .done) rfl (by nofun) (by nofun)
  | copy source target =>
    cases ho
    exact matches_copy x format st source target hf
  | tags v =>
    cases ho
    exact matches_lines f (st.tags v) (by nofun) (fun _ => rfl) (by rintro rfl _; rfl)
  | «exists» v tag author =>
    cases ho
    exact matches_lines f (st.hasTag tag v author) (by nofun) (fun _ => rfl) (by rintro rfl _; rfl)
  | count v tag =>
    cases ho
    exact matches_lines f (st.countTag v tag) (k := fun n => .number n) (by nofun) (fun _ => rfl) (by rintro rfl _; rfl)
  | counts v start size sortBy sortOrder =>
    cases ho
    rw [page_request]
    exact matches_counts x format st v start size sortBy sortOrder f
  | taggings v =>
    cases ho
    exact matches_lines f (st.taggings v) (by nofun) (fun _ => rfl) (by rintro rfl _; rfl)
  | taggingsNamed v tag author =>
    cases ho
    exact matches_lines f (st.taggingsNamed v tag author) (by nofun) (fun _ => rfl) (by rintro rfl _; rfl)
  | tagging id =>
    cases ho
    exact matches_tagging x format st id f
  | paths names =>
    cases ho
    exact matches_lines f (st.pathsWithAny names) (by nofun) (fun _ => rfl) (by rintro rfl _; rfl)
  | remove v tag =>
    cases ho
    exact matches_write f (st.removeTag v tag) (k := fun n => .number n) rfl (by nofun) (by nofun)
  | removeBy v tag author =>
    cases ho
    exact matches_write f (st.removeTagBy v tag author) (k := fun n => .number n) rfl (by nofun) (by nofun)
  | stats =>
    cases ho
    exact matches_lines f st.stats (by nofun) (fun _ => rfl) (by rintro rfl _; rfl)

theorem step_cases (r : Request) : (∃ w : Write, r.step = w.step) ∨ ∃ q : Read, r.step = q.step := by
  cases r with
  | add v tag author => exact .inl ⟨.add tag v author, rfl⟩
  | copy source target => exact .inl ⟨.copy source target, rfl⟩
  | remove v tag => exact .inl ⟨.remove v tag, rfl⟩
  | removeBy v tag author => exact .inl ⟨.removeBy v tag author, rfl⟩
  | tags v => exact .inr ⟨.tags v, rfl⟩
  | «exists» v tag author => exact .inr ⟨.exists tag v author, rfl⟩
  | count v tag => exact .inr ⟨.count v tag, rfl⟩
  | counts v start size sortBy sortOrder => exact .inr ⟨.counts v _, rfl⟩
  | taggings v => exact .inr ⟨.taggings v, rfl⟩
  | taggingsNamed v tag author => exact .inr ⟨.tagging v tag author, rfl⟩
  | tagging id => exact .inr ⟨.byId id, rfl⟩
  | paths names => exact .inr ⟨.paths names, rfl⟩
  | stats => exact .inr ⟨.stats, rfl⟩

/-- What a request leaves of a file without a transaction: other tables, unless it fails or nothing may be changed. -/
theorem file_of_operation {s : Session} {st : Store} {f : File} (hf : f.writer = none) {op : Operation Answer}
    (ho : s.operation st r.step = some op) : ∃ db, (f.run op).2 = { f with committed := db } ∧
      ((∃ e, (f.run op).1 = .error e) → db = f.committed) ∧ (f.readOnly = true → db = f.committed) := by
  rcases r.step_cases with ⟨w, hw⟩ | ⟨q, hq⟩
  · have hop : op = w.perform st s.clock := by
      rw [hw] at ho
      cases w <;> cases ho <;> rfl
    rw [hop, w.run_of_none st s.clock hf]
    cases hon : w.on st f.readOnly s.clock f.committed with
    | error b => exact ⟨f.committed, rfl, fun _ => rfl, fun _ => rfl⟩
    | ok p =>
      refine ⟨p.2, rfl, ?_, fun hr => ?_⟩
      · rintro ⟨e, he⟩
        cases he
      · rw [hr] at hon
        exact Write.on_of_readOnly hon
  · have hop : op = q.perform st := by
      rw [hq] at ho
      cases q <;> cases ho <;> rfl
    rw [hop, Read.run_perform]
    exact ⟨f.committed, rfl, fun _ => rfl, fun _ => rfl⟩

end VersionTags.Request
