import VersionTags.Proofs.Command.Request
import VersionTags.Proofs.Session.History
import VersionTags.Proofs.Tree.Machine
/-!
# The command line and the library

Runs of the program, each of which opens the database and closes it again, do what one session does with one store
that stays open (`Site.refines`).  A `Site` is a database file with a configuration as the first run finds them.  It
asks that the names by which the runs find them still lead to them once the database has been opened: that the address
leads to the file, that the configuration loads as before and is not the journal, and that the directory is there.  A
journal cannot be written where a directory stands.

Such a condition is needed.  An address that goes below the file and up again leads to the file only as long as there is
none.
-/
namespace VersionTags

open FileTree (Replaced Same)
open OpenDatabase (journal openAt)

/-- A run of the program whose arguments ask for something from the database. -/
structure Errand where
  surroundings : Surroundings
  args : List String
  invocation : Invocation
  request : Request
  understood : Invocation.ofArguments args = .ok invocation
  asks : invocation.command = .request request

namespace Errand

def run (e : Errand) (t : FileTree) : Outcome × FileTree := runProgram e.surroundings e.args t

/-- The run looks for its configuration and, given the configuration, for its database under these names. -/
def LooksAt (e : Errand) (configPath : String) (c : Config) (path : String) : Prop :=
  e.invocation.config.getD Config.defaultPath = configPath ∧ e.invocation.databasePath c = path

def tenant (c : Config) (e : Errand) : Tenant := e.invocation.tenant.getD c.tenantId

/-- The store of the session is told the tenant of the run. -/
def seating (c : Config) (e : Errand) : Move := ⟨0, e.surroundings.now, .setTenant (e.tenant c)⟩

/-- The store of the session does what the run asks for. -/
def work (e : Errand) : Move := ⟨0, e.surroundings.now, e.request.step⟩

def moves (c : Config) (e : Errand) : List Move := [e.seating c, e.work]

end Errand

/-- A database file and a configuration, as the first of several runs finds them in a tree. -/
structure Site (t : FileTree) (configPath path : String) where
  config : Config
  locator : Locator
  address : Address
  place : Place
  /-- The tree once the directory of the database is there. -/
  made : FileTree
  /-- The database as it is opened first, and the tree then. -/
  opened : OpenDatabase
  tree : FileTree
  loads : ∃ found, Config.load t configPath = .ok found ∧ found.getD Config.default = config
  keys : config.locator = .ok locator
  patient : config.wait ≤ maxWait
  makes : Config.ensureDirectory path t = (.ok (), made)
  reads : OpenDatabase.readAddress path = .ok address
  opens : openAt path made = (.ok opened, tree)
  placed : opened.place = some place
  names : OpenDatabase.Names address place tree
  loadsAgain : ∃ found, Config.load tree configPath = .ok found ∧ found.getD Config.default = config
  apart : ¬tree.LeadsTo configPath (journal place)
  inside : ∀ p, Path.parent path = some p → p = "" ∨ tree.pathExists p = true ∧ ¬tree.LeadsTo p (journal place)
  marked : address.isMarked = true → tree.node? (journal place) ≠ some .directory

namespace Site

variable {t u : FileTree} {configPath path : String} {db : Database}

/-- The file as it is opened when it holds these tables. -/
def file (S : Site t configPath path) (db : Database) : File :=
  { File.ofDatabase db with readOnly := S.opened.readOnly }

/-- A session of one store on the file, with these tables and for this tenant. -/
def sessionOn (S : Site t configPath path) (db : Database) (T : Tenant) (clock : Time.Instant) : Session :=
  ⟨S.file db, [], S.locator, .map, clock, [⟨T, S.config.strategy, S.config.paginated⟩]⟩

/-- A session of one store on the file as it is opened first. -/
def session (S : Site t configPath path) (clock : Time.Instant) : Session :=
  S.sessionOn S.opened.tables S.config.tenantId clock

/-- A tree in which a run finds the file with the tables. -/
structure Ready (S : Site t configPath path) (u : FileTree) (db : Database) : Prop where
  loads : ∃ found, Config.load u configPath = .ok found ∧ found.getD Config.default = S.config
  opens : ∃ u₁ u₂, Config.ensureDirectory path u = (.ok (), u₁) ∧
    openAt path u₁ = (.ok ⟨some S.place, db, S.opened.readOnly⟩, u₂) ∧ Replaced S.place S.opened.tables db S.tree u₂

variable (S : Site t configPath path)

theorem entered : ∃ x t₁, OpenDatabase.Entered S.address S.place x S.opened t₁ S.tree ∧
    ∀ db, x = .tables db → t₁.node? S.place = some (.database db) :=
  (OpenDatabase.openAt_ok S.reads S.opens S.placed S.names.spelled).2

theorem node : S.tree.node? S.place = some (.database S.opened.tables) := by
  obtain ⟨x, t₁, he, hx⟩ := S.entered
  exact he.node hx

theorem ready_first : S.Ready t S.opened.tables where
  loads := S.loads
  opens := by
    refine ⟨S.made, S.tree, S.makes, ?_, .refl S.node⟩
    rw [← S.placed]
    exact S.opens

/-- **A file that was opened is found again** with other tables, and finding it changes nothing. -/
theorem found_again (hu : Replaced S.place S.opened.tables db S.tree u) : Config.ensureDirectory path u = (.ok (), u) ∧
    ∃ u', openAt path u = (.ok ⟨some S.place, db, S.opened.readOnly⟩, u') ∧ u.Same u' := by
  refine ⟨?_, OpenDatabase.reopened S.reads S.opens S.placed S.names hu⟩
  unfold Config.ensureDirectory
  cases hp : Path.parent path with
  | none => rfl
  | some p =>
    rcases S.inside p hp with he | ⟨he, hj⟩
    · simp [he]
    · simp [hu.pathExists hj he]

theorem ready_again (hu : Replaced S.place S.opened.tables db S.tree u) : S.Ready u db where
  loads := by
    obtain ⟨found, hf, hc⟩ := S.loadsAgain
    exact ⟨found, hu.load S.apart hf, hc⟩
  opens := by
    obtain ⟨hd, u', ho, hs⟩ := S.found_again hu
    exact ⟨u, u', hd, ho, hu.same hs⟩

/-- Other tables can be put into the file that was found, unless it may not be changed. -/
theorem changed (hu : Replaced S.place S.opened.tables db S.tree u) (hw : S.opened.readOnly = false) (db' : Database) :
    Replaced S.place S.opened.tables db' S.tree ((u.erase (journal S.place)).put S.place (.database db')) := by
  refine hu.changed ?_ db'
  obtain ⟨x, t₁, hentered, -⟩ := S.entered
  rcases hentered.noted with h | h | h
  · cases hw.symm.trans h
  · exact S.marked h
  · exact h

end Site

theorem FileTree.run_doing {α : Type} (t : FileTree) (f : FileTree → Except Error α × FileTree) :
    t.run (Invocation.doing f) = f t := rfl

namespace Errand

variable {t u : FileTree} {configPath path : String} {db : Database} {S : Site t configPath path}

/-- What is logged goes to the errors and leaves the rest of the outcome of a run as it is. -/
theorem run_perform (e : Errand) (u : FileTree) :
    (e.run u).1.code = (Outcome.ofReply e.surroundings (u.run (e.invocation.perform e.surroundings)).1).code ∧
      (e.run u).1.out = (Outcome.ofReply e.surroundings (u.run (e.invocation.perform e.surroundings)).1).out ∧
      (e.run u).2 = (u.run (e.invocation.perform e.surroundings)).2 := by
  unfold run runProgram
  rw [e.understood]
  exact ⟨rfl, rfl, rfl⟩

/-- **A run with a configuration** opens the database, answers the request and closes it. -/
theorem perform_eq {e : Errand} {c : Config} {l : Locator} {u₁ : FileTree} (he : e.LooksAt configPath c path)
    (hc : ∃ found, Config.load u configPath = .ok found ∧ found.getD Config.default = c) (hl : c.locator = .ok l)
    (hw : c.wait ≤ maxWait) (hd : Config.ensureDirectory path u = (.ok (), u₁)) :
    u.run (e.invocation.perform e.surroundings) = match openAt path u₁ with
      | (.ok o, u₂) => o.use (e.request.answer e.surroundings e.invocation.format (e.invocation.store c l)) u₂
      | (.error err, u₂) => (.error err, u₂) := by
  obtain ⟨hconfig, hpath⟩ := he
  obtain ⟨found, hf, rfl⟩ := hc
  unfold Invocation.perform
  rw [e.asks]
  unfold Invocation.serve
  simp only [hconfig, FileTree.run_bind, FileTree.run_get, FileTree.run_lift, hf, hpath, FileTree.run_doing, hd, hl]
  rcases openAt path u₁ with ⟨err | o, u₂⟩
  · rfl
  · simp only [if_neg (Nat.not_lt.2 hw), FileTree.run_doing]

/-- What the request of a run comes to on the file with the tables. -/
def result (e : Errand) (S : Site t configPath path) (db : Database) : Except Error Reply × File :=
  (S.file db).run
    (e.request.answer e.surroundings e.invocation.format (e.invocation.store S.config S.locator))

theorem run_eq {e : Errand} (he : e.LooksAt configPath S.config path) (hu : S.Ready u db) :
    ∃ u₂, Replaced S.place S.opened.tables db S.tree u₂ ∧
      (e.run u).1.code = (Outcome.ofReply e.surroundings (e.result S db).1).code ∧
      (e.run u).1.out = (Outcome.ofReply e.surroundings (e.result S db).1).out ∧
      (e.run u).2 = if (e.result S db).2.committed = db then u₂
        else (u₂.erase (journal S.place)).put S.place (.database (e.result S db).2.committed) := by
  obtain ⟨u₁, u₂, hd, ho, hr⟩ := hu.opens
  obtain ⟨hcode, hout, htree⟩ := e.run_perform u
  have hperform := perform_eq he hu.loads S.keys S.patient hd
  rw [ho] at hperform
  rw [hperform] at hcode hout htree
  exact ⟨u₂, hr, hcode, hout, htree⟩

/-- How a run ends and what the session answers: the run tells the answer, or both have failed and nothing is told. -/
def Agrees (e : Errand) (o : Outcome) : Except Error Answer → Prop
  | .ok a => e.request.Told e.invocation.format a o
  | .error _ => o.code ≠ 0 ∧ o.out = []

theorem ofReply_error (x : Surroundings) (err : Error) :
    (Outcome.ofReply x (.error err)).code ≠ 0 ∧ (Outcome.ofReply x (.error err)).out = [] := by
  cases err <;> exact ⟨nofun, rfl⟩

theorem agrees_of_ends {e : Errand} {r : Except Error Answer} {reply : Except Error Reply} {o : Outcome}
    (h : Request.Ends e.surroundings e.request e.invocation.format r reply)
    (hcode : o.code = (Outcome.ofReply e.surroundings reply).code)
    (hout : o.out = (Outcome.ofReply e.surroundings reply).out) : e.Agrees o r := by
  cases h with
  | ok h => exact ⟨hcode.trans h.code, fun hread hj => hout.trans (h.out hread hj)⟩
  | error err =>
    obtain ⟨hne, hnil⟩ := ofReply_error e.surroundings err
    exact ⟨hcode ▸ hne, hout.trans hnil⟩

/-- The session on the file with the tables, once its store has been told the tenant of the run. -/
def seated (e : Errand) (S : Site t configPath path) (db : Database) : Session :=
  S.sessionOn db (e.tenant S.config) e.surroundings.now

theorem move_seating (e : Errand) (S : Site t configPath path) (db : Database) (T : Tenant) (clock : Time.Instant) :
    ((S.sessionOn db T clock).move (e.seating S.config)).2 = e.seated S db := rfl

/-- The store of the session does the work as the store of the run does. -/
theorem move_work (e : Errand) (S : Site t configPath path) (db : Database) : ∃ op : Operation Answer,
    (e.seated S db).operation (e.invocation.store S.config S.locator) e.request.step = some op ∧
    (e.seated S db).move e.work = (some ((S.file db).run op).1,
      { e.seated S db with file := ((S.file db).run op).2 }) := by
  obtain ⟨op, hop⟩ : ∃ op,
      (e.seated S db).operation (e.invocation.store S.config S.locator) e.request.step = some op := by
    cases e.request <;> exact ⟨_, rfl⟩
  have hseat : (e.seated S db).seats[e.work.seat]? =
      some ⟨e.tenant S.config, S.config.strategy, S.config.paginated⟩ := rfl
  have hstep : (e.seated S db).step 0 ⟨e.tenant S.config, S.config.strategy, S.config.paginated⟩ e.request.step =
      (e.seated S db).operate op := by
    have hstore : (e.seated S db).store 0 ⟨e.tenant S.config, S.config.strategy, S.config.paginated⟩ =
        e.invocation.store S.config S.locator := rfl
    rw [Session.step, hstore, hop]
  refine ⟨op, hop, ?_⟩
  rw [Session.move_of_seat hseat]
  exact congrArg (fun p => (some p.1, p.2)) hstep

/-- **One run follows one turn of the session**: it leaves the tables that the session leaves, and ends alike. -/
theorem follows {e : Errand} (he : e.LooksAt configPath S.config path) (hu : S.Ready u db) (T : Tenant)
    (clock : Time.Instant) : ∃ r db',
      ((S.sessionOn db T clock).move (e.seating S.config)).2.move e.work = (some r, e.seated S db') ∧
      Replaced S.place S.opened.tables db' S.tree (e.run u).2 ∧ e.Agrees (e.run u).1 r ∧
      ((∃ err, r = .error err) → db' = db) := by
  obtain ⟨op, hop, hmove⟩ := e.move_work S db
  obtain ⟨hends, hfile⟩ := Request.answer_matches e.surroundings e.request e.invocation.format
    (e.invocation.store S.config S.locator) (f := S.file db) rfl rfl hop
  obtain ⟨db', hdb, herr, hro⟩ := Request.file_of_operation (f := S.file db) rfl hop
  obtain ⟨u₂, hr, hcode, hout, htree⟩ := run_eq he hu
  refine ⟨_, db', ?_, ?_, ?_, herr⟩
  · rw [move_seating, hmove, hdb]
    rfl
  · have hres : (e.result S db).2.committed = db' := by
      rw [result, ← hfile, hdb]
    rw [htree, hres]
    by_cases hc : db' = db
    · rw [if_pos hc, hc]
      exact hr
    · -- a file that may not be changed has kept its tables
      rw [if_neg hc]
      exact S.changed hr (Bool.eq_false_iff.2 fun h => hc (hro h)) db'
  · exact agrees_of_ends hends hcode hout

end Errand

namespace Site

variable {t : FileTree} {configPath path : String}

/-- A tree has the tables in the file, and opening the file again finds them and changes nothing. -/
def Shows (S : Site t configPath path) (db : Database) (u : FileTree) : Prop :=
  u.node? S.place = some (.database db) ∧
    ∃ u', openAt path u = (.ok ⟨some S.place, db, S.opened.readOnly⟩, u') ∧ u.Same u'

theorem follows_all (S : Site t configPath path) : ∀ (es : List Errand) {u : FileTree} {db : Database} (T : Tenant)
    (clock : Time.Instant), S.Ready u db → (∀ e ∈ es, e.LooksAt configPath S.config path) →
    ∃ db' T' clock', S.Ready (es.foldl (fun u e => (e.run u).2) u) db' ∧
      (S.sessionOn db T clock).run (es.flatMap (Errand.moves S.config)) = S.sessionOn db' T' clock'
  | [], _, db, T, clock, hu, _ => ⟨db, T, clock, hu, rfl⟩
  | e :: es, u, db, T, clock, hu, he => by
    -- between two runs the file is ready again, with the tables of the session
    obtain ⟨r, db', hmove, htree, -⟩ := Errand.follows (he e List.mem_cons_self) hu T clock
    obtain ⟨db'', T', clock', hready, hrun⟩ := S.follows_all es (e.tenant S.config) e.surroundings.now
      (S.ready_again htree) fun d hd => he d (List.mem_cons_of_mem e hd)
    refine ⟨db'', T', clock', hready, ?_⟩
    rw [← hrun, List.flatMap_cons, Session.run_append]
    exact congrArg (fun p => (p : _ × Session).2.run _) hmove

/-- **The command line refines the library.**  After any runs of the program on one file and one configuration, a
further run leaves in the file what a turn of one session leaves, and ends alike.  The session has one store on the
file as it was opened first, which is told the tenant of each run before it does what that run asks for. -/
theorem refines (S : Site t configPath path) (clock : Time.Instant) (es : List Errand) (e : Errand)
    (he : ∀ d ∈ es ++ [e], d.LooksAt configPath S.config path) :
    let u := es.foldl (fun u d => (d.run u).2) t
    let s := (S.session clock).run (es.flatMap (Errand.moves S.config))
    ∃ r s', (s.move (e.seating S.config)).2.move e.work = (some r, s') ∧
      S.Shows s'.file.committed (e.run u).2 ∧ e.Agrees (e.run u).1 r ∧
      ((∃ err, r = .error err) → s'.file = s.file) := by
  intro u s
  obtain ⟨db, T, clock', hready, hrun⟩ := S.follows_all es S.config.tenantId clock S.ready_first fun d hd =>
    he d (List.mem_append_left _ hd)
  obtain ⟨r, db', hmove, htree, hends, herr⟩ := Errand.follows (he e (by simp)) hready T clock'
  have hs : s = S.sessionOn db T clock' := hrun
  refine ⟨r, _, by rw [hs]; exact hmove, ⟨htree.after, (S.found_again htree).2⟩, hends, fun hr => ?_⟩
  rw [hs, herr hr]
  rfl

end Site

/-! ## Two runs on a machine with nothing on it -/

namespace Site

open Write (someTime)

/-- The database `/d` with the configuration `/c`, neither of which is there at first. -/
def bareSite : Site bareTree "/c" "/d" where
  config := Config.default
  locator := Locator.empty
  address := .ofPath "/d"
  place := "/d"
  made := bareTree
  opened := ⟨some "/d", Database.empty, false⟩
  tree := filedTree
  loads := ⟨none, load_c bareTree_c, rfl⟩
  keys := rfl
  patient := by decide
  makes := by
    unfold Config.ensureDirectory
    rw [parent_d]
    simp only [FileTree.pathExists_root, or_true, ↓reduceIte]
  reads := readAddress_d
  opens := openAt_bareTree readAddress_d (by decide) (place?_d _)
  placed := rfl
  names := by
    refine ⟨place?_d _, ⟨.database Database.empty, ?_⟩, nofun⟩
    rw [follow_d, node?_filedTree]
    rfl
  loadsAgain := ⟨none, load_c filedTree_c, rfl⟩
  apart := by
    rintro ⟨n, hn⟩
    rw [locate_c filedTree_c] at hn
    cases hn
  inside := by
    intro p hp
    rw [parent_d] at hp
    cases hp
    refine .inr ⟨FileTree.pathExists_root _, ?_⟩
    rintro ⟨n, hn⟩
    rw [FileTree.locate_root] at hn
    injection hn with hn
    injection hn with hn
    exact absurd hn (by decide)
  marked := nofun

/-- One run tags a version. -/
def tagging : Errand where
  surroundings := ⟨true, ⟨false⟩, false, someTime⟩
  args := ["-c", "/c", "-d", "/d", "add", "1", "n", "--author", "a"]
  invocation := ⟨false, some "/c", some "/d", none, .text, .request (.add 1 "n" "a")⟩
  request := .add 1 "n" "a"
  understood := by decide +kernel
  asks := rfl

/-- The next run, for the tenant that was meant before, counts the tag by a name in another case. -/
def counting : Errand where
  surroundings := ⟨true, ⟨false⟩, false, someTime⟩
  args := ["-c", "/c", "-d", "/d", "-t", "-1234", "-f", "json", "count", "1", "N"]
  invocation := ⟨false, some "/c", some "/d", some (-1234), .json, .request (.count 1 "N")⟩
  request := .count 1 "N"
  understood := by decide +kernel
  asks := rfl

/-- The tag that one run has put into the file is counted by the next. -/
theorem counting_after_tagging : (counting.run (tagging.run bareTree).2).1.code = 0 ∧
    (counting.run (tagging.run bareTree).2).1.out =
      [(Json.object [("count", .int 1), ("tag", .string "N")]).pretty] := by
  obtain ⟨r, s', hmove, -, hagrees, -⟩ := bareSite.refines someTime [tagging] counting (by
    intro d hd
    rcases List.mem_cons.1 hd with rfl | hd
    · exact ⟨rfl, rfl⟩
    · cases List.mem_singleton.1 hd
      exact ⟨rfl, rfl⟩)
  let s : Session :=
    (((bareSite.session someTime).run (tagging.moves Config.default)).move (counting.seating Config.default)).2
  have hseat : s.seats[0]? = some ⟨-1234, .generatedKeys, true⟩ := by decide +kernel
  have hfree : s.file.isBlocked 0 = false := by decide +kernel
  have hcount : (s.file.view 0).countNamed (-1234) 1 "N" = 1 := by
    rw [Database.countNamed, Database.on_eq]
    decide +kernel
  have hr : some r = some (.ok (.number 1)) := by
    have hread := congrArg Prod.fst (Session.move_read hseat someTime (.count 1 "N"))
    refine (congrArg Prod.fst hmove).symm.trans (hread.trans ?_)
    rw [File.sight, hfree]
    exact congrArg (fun n : Nat => some (Except.ok (Answer.number n))) hcount
  cases hr
  exact ⟨hagrees.code, hagrees.out rfl rfl⟩

/-! ## An address that does not lead to its file any more -/

def entry : Errand where
  surroundings := ⟨true, ⟨false⟩, false, someTime⟩
  args := ["-c", "/c", "-d", climbing, "add", "1", "n", "--author", "a"]
  invocation := ⟨false, some "/c", some climbing, none, .text, .request (.add 1 "n" "a")⟩
  request := .add 1 "n" "a"
  understood := by decide +kernel
  asks := rfl

def listing : Errand where
  surroundings := ⟨true, ⟨false⟩, false, someTime⟩
  args := ["-c", "/c", "-d", climbing, "-f", "json", "tags", "1"]
  invocation := ⟨false, some "/c", some climbing, none, .json, .request (.tags 1)⟩
  request := .tags 1
  understood := by decide +kernel
  asks := rfl

theorem run_entry : (entry.run bareTree).1.code = 0 ∧ (entry.run bareTree).2.current = "" ∧
    (∃ db, (entry.run bareTree).2.node? "/d" = some (.database db)) ∧ (entry.run bareTree).2.node? "/c" = none := by
  obtain ⟨hcode, -, htree⟩ := entry.run_perform bareTree
  have hlooks : entry.LooksAt "/c" Config.default climbing := ⟨rfl, rfl⟩
  have hperform := Errand.perform_eq hlooks ⟨none, load_c bareTree_c, rfl⟩ (l := Locator.empty) rfl (by decide)
    (ensureDirectory_climbing bareTree)
  rw [openAt_climbing] at hperform
  rw [hperform] at hcode htree
  refine ⟨hcode.trans (by decide +kernel), ?_⟩
  obtain ⟨db, hdb⟩ : ∃ db, (entry.run bareTree).2 = if db = Database.empty then filedTree else filledTree db :=
    ⟨(entry.result bareSite Database.empty).2.committed, htree⟩
  rw [hdb]
  split
  · refine ⟨rfl, ⟨Database.empty, ?_⟩, filedTree_c⟩
    rw [node?_filedTree, if_pos rfl]
  · exact ⟨rfl, ⟨db, filledTree_d db⟩, filledTree_c db⟩

/-- **An address may stop leading to its file.**  This one leads there as long as there is no file, and the run that
tags a version makes one.  The next run is refused, where a session that stays open lists the tag. -/
theorem listing_refused : openAt climbing bareTree = (.ok bareSite.opened, bareSite.tree) ∧
    (entry.run bareTree).1.code = 0 ∧ (listing.run (entry.run bareTree).2).1.code ≠ 0 ∧
    (listing.run (entry.run bareTree).2).1.out = [] ∧
    (((((bareSite.session someTime).run (entry.moves Config.default)).move (listing.seating Config.default)).2).move
      listing.work).1 = some (.ok (.texts ["n"])) := by
  obtain ⟨hentry, hcurrent, ⟨db, hd⟩, hc⟩ := run_entry
  obtain ⟨err, herr⟩ := openAt_climbing_file hcurrent hd
  obtain ⟨hcode, hout, -⟩ := listing.run_perform (entry.run bareTree).2
  have hlooks : listing.LooksAt "/c" Config.default climbing := ⟨rfl, rfl⟩
  have hperform := Errand.perform_eq hlooks ⟨none, load_c hc, rfl⟩ (l := Locator.empty) rfl (by decide)
    (ensureDirectory_climbing _)
  rw [herr] at hperform
  rw [hperform] at hcode hout
  obtain ⟨hne, hnil⟩ := Errand.ofReply_error listing.surroundings err
  refine ⟨openAt_climbing, hentry, hcode ▸ hne, hout.trans hnil, ?_⟩
  let s : Session :=
    (((bareSite.session someTime).run (entry.moves Config.default)).move (listing.seating Config.default)).2
  have hseat : s.seats[0]? = some ⟨-1234, .generatedKeys, true⟩ := by decide +kernel
  have hfree : s.file.isBlocked 0 = false := by decide +kernel
  have hnames : (s.file.view 0).names (-1234) 1 = ["n"] := by
    rw [Database.names, Database.on_eq]
    decide +kernel
  refine (congrArg Prod.fst (Session.move_read hseat someTime (.tags 1))).trans ?_
  rw [File.sight, hfree]
  exact congrArg (fun ns : List String => some (Except.ok (Answer.texts ns))) hnames

end Site
end VersionTags
