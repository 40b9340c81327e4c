import VersionTags.Session
import VersionTags.Proofs.Storage.Scope
/-!
# What a read comes to

The ten reads of a store are values of `Read`.  A read asks for the answer of at most one query (`Read.inquiry`), so
that it comes to a function of what its connection sees and leaves the file as it is: `Read.run_perform`.
-/
namespace VersionTags

/-- The tables that a connection can read, if it can. -/
def File.sight (f : File) (c : Connection) : Except Failure Database :=
  if f.isBlocked c then .error .locked else .ok (f.view c)

/-- The answer of a query of a task, on the tables that can be read. -/
def Task.answer {α : Type} (t : Task) (sight : Except Failure Database) (q : Database → Except Failure α) :
    Except Error α :=
  match sight with
  | .ok db => (q db).mapError (.storage t)
  | .error e => .error (.storage t e)

/-- An action of a task fails with an error that names the task. -/
theorem Store.run_run {α : Type} (f : File) (t : Task) (a : Action α) :
    f.run (Store.run t a) = ((f.run a).1.mapError (.storage t), (f.run a).2) := by
  unfold Store.run File.run
  simp only [ExceptT.run_mk, StateT.run_bind]
  rcases StateT.run a.run f with ⟨e | x, g⟩ <;> rfl

theorem Store.run_ask {α : Type} (f : File) (st : Store) (t : Task) (q : Database → Except Failure α) :
    f.run (st.ask t q) = (t.answer (f.sight st.connection) q, f) := by
  unfold Store.ask File.sight Task.answer
  rw [Store.run_run, File.run_query]
  by_cases hb : f.isBlocked st.connection = true
  · simp only [if_pos hb]
    rfl
  · simp only [if_neg hb]

inductive Read where
  | exists (name : String) (v : Version) (author : String)
  | tags (v : Version)
  | records (v : Version)
  | paths (names : List String)
  | count (v : Version) (name : String)
  | tagging (v : Version) (name : String) (author : AuthorFilter)
  | taggings (v : Version)
  | byId (id : TagId)
  | counts (v : Version) (page : PageChoice)
  | stats
  deriving DecidableEq

/-- What a read has to know: nothing, or the answer of a query for a task. -/
inductive Inquiry where
  | settled (r : Except Error Answer)
  | query (t : Task) (q : Database → Except Failure Answer)

def Inquiry.on (sight : Except Failure Database) : Inquiry → Except Error Answer
  | .settled r => r
  | .query t q => t.answer sight q

namespace Read

def perform (st : Store) : Read → Operation Answer
  | .exists n v a => do return .flag (← st.hasTag n v a)
  | .tags v => do return .texts (← st.tags v)
  | .records v => do return .records (← st.records v)
  | .paths ns => do return .texts (← st.pathsWithAny ns)
  | .count v n => do return .number (← st.countTag v n)
  | .tagging v n a => do return .taggings (← st.taggingsNamed v n a)
  | .taggings v => do return .taggings (← st.taggings v)
  | .byId i => do return .tagging (← st.taggingById i)
  | .counts v page => do
    let (rows, request) ← st.tagCounts v (← page.request)
    return .counts rows request.rowCount
  | .stats => do return .stats (← st.stats)

def pathsOf (st : Store) (vs : List Version) : List String :=
  let wanted := vs.filter Version.isResolvable
  Store.distinctPaths (st.locator.resolve st.access wanted) wanted

def located (st : Store) (found : Tagging × Version) : Tagging :=
  { found.1 with path := if found.2.isResolvable then st.locator.path? found.2 else none }

/-- The counts that a request asks for, and the number of all rows where a page is served. -/
def countsOf (st : Store) (v : Version) (request : PageRequest) (db : Database) : Answer :=
  match request.page with
  | some p =>
    if st.paginated then
      let (rows, total) := db.countsPage st.tenant v p
      .counts rows (some total)
    else .counts (db.counts st.tenant v) request.rowCount
  | none => .counts (db.counts st.tenant v) request.rowCount

def inquiry (st : Store) : Read → Inquiry
  | .exists n v a => .query (.findTag n (st.describe v) a) fun db => .ok (.flag (db.hasTag st.tenant v n a))
  | .tags v => .query (.readTags (st.describe v)) fun db => .ok (.texts (db.names st.tenant v))
  | .records v => .query (.readTags (st.describe v)) fun db => (db.records st.tenant v).map .records
  | .paths ns =>
    if ns = [] then .settled (.ok (.texts []))
    else if maxValues ≤ ns.length then .settled (.error (.storage (.findPaths ns) (.tooManyNames ns.length)))
    else .query (.findPaths ns) fun db => (db.versionsWithAny st.tenant ns).map fun vs => .texts (pathsOf st vs)
  | .count v n => .query (.countTag n (st.describe v)) fun db => .ok (.number (db.countNamed st.tenant v n))
  | .tagging v n a => .query (.readTagging n (st.describe v) a) fun db =>
    (db.taggingsNamed st.tenant v n a).map fun ts => .taggings (st.withPath v ts)
  | .taggings v => .query (.readTaggings (st.describe v)) fun db =>
    (db.taggings st.tenant v).map fun ts => .taggings (st.withPath v ts)
  | .byId i => .query (.readTaggingById i) fun db =>
    (db.taggingById st.tenant i).map fun found => .tagging (found.map (located st))
  | .counts v page =>
    match page.request with
    | .ok request => .query (.countTags (st.describe v)) fun db => .ok (countsOf st v request db)
    | .error e => .settled (.error e)
  | .stats => .query (.collectStats st.tenant) fun db => .ok (.stats (db.stats st.tenant))

theorem run_ask_bind {α β : Type} (f : File) (st : Store) (t : Task) (q : Database → Except Failure α)
    {k : α → Operation β} {h : α → β} (hk : ∀ x, k x = pure (h x)) :
    f.run (st.ask t q >>= k) = (t.answer (f.sight st.connection) fun db => (q db).map h, f) := by
  rw [File.run_bind, Store.run_ask]
  unfold Task.answer
  cases f.sight st.connection with
  | error e => rfl
  | ok db => cases hq : q db <;> simp only [hq, hk] <;> rfl

theorem run_look_bind {α β : Type} (f : File) (st : Store) (t : Task) (q : Database → α) (k : α → β) :
    f.run (st.look t q >>= fun x => pure (k x)) = (t.answer (f.sight st.connection) fun db => .ok (k (q db)), f) :=
  run_ask_bind f st t (fun db => .ok (q db)) fun _ => rfl

/-- **A read comes to the answer of its inquiry on what its connection sees**, and leaves the file as it is. -/
theorem run_perform (r : Read) (st : Store) (f : File) :
    f.run (r.perform st) = ((r.inquiry st).on (f.sight st.connection), f) := by
  cases r with
  | «exists» n v a => exact run_look_bind f st _ _ Answer.flag
  | tags v => exact run_look_bind f st _ _ Answer.texts
  | records v => exact run_ask_bind f st _ _ fun _ => rfl
  | paths ns =>
    simp only [perform, Store.pathsWithAny, inquiry]
    by_cases hn : ns = []
    · simp only [hn, ↓reduceIte]
      rfl
    · by_cases hm : maxValues ≤ ns.length
      · simp only [hn, hm, ↓reduceIte]
        rfl
      · simp only [hn, hm, ↓reduceIte, bind_assoc]
        exact run_ask_bind f st _ _ fun _ => rfl
  | count v n => exact run_look_bind f st _ _ fun n : Nat => Answer.number n
  | tagging v n a =>
    simp only [perform, Store.taggingsNamed, bind_assoc]
    exact run_ask_bind f st _ _ fun _ => rfl
  | taggings v =>
    simp only [perform, Store.taggings, bind_assoc]
    exact run_ask_bind f st _ _ fun _ => rfl
  | byId i =>
    simp only [perform, Store.taggingById, bind_assoc]
    refine run_ask_bind f st _ _ fun found => ?_
    cases found <;> rfl
  | counts v page =>
    simp only [perform, inquiry]
    cases page.request with
    | error e => rfl
    | ok request =>
      show f.run (st.tagCounts v request >>= fun p => pure (Answer.counts p.1 p.2.rowCount)) =
        (Task.answer _ _ fun db => .ok (countsOf st v request db), f)
      simp only [Store.tagCounts, countsOf]
      cases request.page with
      | none =>
        simp only [bind_assoc]
        exact run_ask_bind f st _ _ fun _ => rfl
      | some p =>
        cases st.paginated with
        | true =>
          simp only [↓reduceIte, bind_assoc]
          exact run_ask_bind f st _ _ fun _ => rfl
        | false =>
          simp only [Bool.false_eq_true, ↓reduceIte, bind_assoc]
          exact run_ask_bind f st _ _ fun _ => rfl
  | stats => exact run_look_bind f st _ _ Answer.stats

end Read
end VersionTags
