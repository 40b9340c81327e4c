import Std.Data.String.ToNat
import VersionTags.Proofs.Command.Refinement
import VersionTags.Proofs.Session.Lookup
import VersionTags.Proofs.Store.Counts
import VersionTags.Proofs.Time.Stored
/-!
# What a quiet run leaves out

A run that is told to be quiet leaves its remarks out.  For most requests the answers alone still tell all that the run
has to tell.  Three requests tell something by remarks alone, when they are answered as text: a tagging by its id, the
number of all rows beside a page of counts, and that an author has given a version a tag.  Two databases that differ in
that and nothing else look the same in quiet runs, and no others do (`Invocation.quiet_tells_apart_iff`).
-/
namespace VersionTags

/-! ## Lines as text -/

namespace Line

variable {ls ls' : List Line}

/-- What lines come to on the output. -/
def text (quiet : Bool) (ls : List Line) : String := linesText (ls.filterMap (shown quiet))

@[simp] theorem text_nil (quiet : Bool) : text quiet [] = "" := rfl

@[simp] theorem text_answer (quiet : Bool) (s : String) (ls : List Line) :
    text quiet (.answer s :: ls) = s ++ "\n" ++ text quiet ls := String.join_cons

@[simp] theorem text_remark (s : String) (ls : List Line) :
    text false (.remark s :: ls) = s ++ "\n" ++ text false ls := String.join_cons

@[simp] theorem text_remark_quiet (s : String) (ls : List Line) : text true (.remark s :: ls) = text true ls := rfl

/-- All lines are answers. -/
def Plain (ls : List Line) : Prop := ∀ l ∈ ls, ∃ s, l = .answer s

/-- **A quiet run shows all lines that are answers.** -/
theorem Plain.text_eq (h : Plain ls) : text true ls = text false ls := by
  induction ls with
  | nil => rfl
  | cons l ls ih =>
    obtain ⟨s, rfl⟩ := h l List.mem_cons_self
    rw [text_answer, text_answer, ih fun l hl => h l (List.mem_cons_of_mem _ hl)]

theorem text_append (quiet : Bool) (ls ls' : List Line) : text quiet (ls ++ ls') = text quiet ls ++ text quiet ls' := by
  simp only [text, linesText, List.filterMap_append, List.map_append, String.join_append]

theorem text_singleton_answer (quiet : Bool) (s : String) : text quiet [.answer s] = s ++ "\n" := by
  rw [text_answer, text_nil, String.append_empty]

theorem text_answer_ne_empty (quiet : Bool) (s : String) (ls : List Line) : text quiet (.answer s :: ls) ≠ "" := by
  rw [text_answer, String.append_assoc]
  simp [String.append_eq_empty_iff]

end Line

/-! ## What may answer a request -/

namespace Request

/-- The lines that may be the answer to a request for something to read, from a store with the strategy.  There are none
after an error, and where there is no such tagging. -/
inductive Tells (theme : Theme) (k : KeyStrategy) (format : Format) : Request → List Line → Prop
  | nothing (r : Request) : Tells theme k format r []
  | tags (v : Version) (names : List String) : Tells theme k format (.tags v) (tagLines theme v format names)
  | exists (v : Version) (tag author : String) (found : Bool) :
    Tells theme k format (.exists v tag author) (existsLines theme v tag author format found)
  | count (v : Version) (tag : String) (n : Nat) : Tells theme k format (.count v tag) (countLines theme tag format n)
  | counts (v : Version) (start size : Option Int) (sortBy sortOrder : String) (rows : List TagCount)
    (total : Option Nat) :
    Tells theme k format (.counts v start size sortBy sortOrder) (countsLines theme format rows total)
  | taggings (v : Version) (ts : List Tagging) : Tells theme k format (.taggings v) (taggingsLines format ts)
  | taggingsNamed (v : Version) (tag : String) (author : AuthorFilter) (ts : List Tagging) :
    Tells theme k format (.taggingsNamed v tag author) (taggingsLines format ts)
  | tagging (id : TagId) (t : Tagging) : Tells theme k format (.tagging id) (taggingLines theme format t)
  | paths (names ps : List String) : Tells theme k format (.paths names) (pathsLines theme names format ps)
  | stats (s : Stats) : Tells theme k format .stats (statsLines theme k format s)

end Request

/-- The lines of a reply, none of an error. -/
def Reply.told (theme : Theme) : Except Error Reply → List Line
  | .ok (.lines ls) => ls
  | .ok (.tagged v tag _) => [theme.success s!"Tagged version {v} with '{tag}'"]
  | _ => []

theorem Outcome.out_ofReply (x : Surroundings) (r : Except Error Reply) :
    (Outcome.ofReply x r).out = (Reply.told x.theme r).filterMap (Line.shown x.quiet) := by
  rcases r with e | reply
  · cases e <;> rfl
  · cases reply <;> rfl

namespace Request

open Line (text)

variable {theme : Theme} {k : KeyStrategy} {format : Format} {r : Request} {ls ls' : List Line}

theorem tells_of_bind {α : Type} (f : File) (op : Operation α) {m : α → List Line} {theme : Theme}
    (h : ∀ y, Tells theme k format r (m y)) :
    Tells theme k format r (Reply.told theme (f.run (do return Reply.lines (m (← op)))).1) := by
  rw [File.run_bind]
  rcases f.run op with ⟨e | y, g⟩
  · exact .nothing r
  · exact h y

theorem tells_answer (x : Surroundings) (st : Store) (hr : r.isRead = true) (f : File) :
    Tells x.theme st.strategy format r (Reply.told x.theme (f.run (r.answer x format st)).1) := by
  cases r with
  | tags v => exact tells_of_bind f (st.tags v) fun y => .tags v y
  | «exists» v tag author => exact tells_of_bind f (st.hasTag tag v author) fun y => .exists v tag author y
  | count v tag => exact tells_of_bind f (st.countTag v tag) fun y => .count v tag y
  | counts v start size sortBy sortOrder =>
    simp only [answer]
    cases pageRequest start size sortBy sortOrder with
    | error e => exact .nothing _
    | ok request =>
      exact tells_of_bind f (st.tagCounts v request) (m := fun p => countsLines x.theme format p.1 p.2.rowCount)
        fun y => .counts v start size sortBy sortOrder y.1 y.2.rowCount
  | taggings v => exact tells_of_bind f (st.taggings v) fun y => .taggings v y
  | taggingsNamed v tag author =>
    exact tells_of_bind f (st.taggingsNamed v tag author) fun y => .taggingsNamed v tag author y
  | tagging id =>
    unfold answer
    rw [File.run_bind]
    rcases f.run (st.taggingById id) with ⟨e | t, g⟩
    · exact .nothing _
    · cases t with
      | none => exact .nothing _
      | some t => exact .tagging id t
  | paths names => exact tells_of_bind f (st.pathsWithAny names) fun y => .paths names y
  | stats => exact tells_of_bind f st.stats fun y => .stats y
  | _ => cases hr

/-! ## What answers and remarks tell apart -/

/-- What is told by remarks alone, when two answers to one request differ in it. -/
inductive Silenced (theme : Theme) : Request → List Line → List Line → Prop
  /-- All there is to say of a tagging. -/
  | tagging {id : TagId} {ls ls' : List Line} (differ : text false ls ≠ text false ls') :
    Silenced theme (.tagging id) ls ls'
  /-- That the tag was found, where the other run has failed. -/
  | found (v : Version) (tag author : String) :
    Silenced theme (.exists v tag author) (existsLines theme v tag author .text true) []
  | missed (v : Version) (tag author : String) :
    Silenced theme (.exists v tag author) [] (existsLines theme v tag author .text true)
  /-- The number of all rows, beside counts that look the same. -/
  | total {v : Version} {start size : Option Int} {sortBy sortOrder : String} {rows rows' : List TagCount}
    {total total' : Option Nat} (same : Report.counts rows = Report.counts rows') (differ : total ≠ total') :
    Silenced theme (.counts v start size sortBy sortOrder) (countsLines theme .text rows total)
      (countsLines theme .text rows' total')

/-- The answer to the request has no remarks in it. -/
def isPlain : Request → Bool
  | .tags _ => true
  | .count _ _ => true
  | .taggings _ => true
  | .taggingsNamed _ _ _ => true
  | _ => false

theorem plain_singleton (s : String) : Line.Plain [.answer s] := by
  intro l hl
  exact ⟨s, List.mem_singleton.1 hl⟩

theorem plain_map {α : Type} (f : α → String) (xs : List α) : Line.Plain (xs.map fun x => .answer (f x)) := by
  intro l hl
  obtain ⟨x, -, rfl⟩ := List.mem_map.1 hl
  exact ⟨f x, rfl⟩

theorem plain_taggingsLines (ts : List Tagging) : Line.Plain (taggingsLines .text ts) := by
  cases ts <;> exact plain_singleton _

theorem Tells.plain (h : Tells theme k format r ls) (hp : format = .json ∨ r.isPlain = true) : Line.Plain ls := by
  cases format with
  | json =>
    cases h with
    | nothing => exact nofun
    | _ => exact plain_singleton _
  | text =>
    have hr : r.isPlain = true := hp.resolve_left nofun
    cases h with
    | nothing => exact nofun
    | tags v names =>
      cases names with
      | nil => exact plain_singleton _
      | cons n names => exact plain_map (fun n => Icon.tag ++ " " ++ theme.style .tag n) (n :: names)
    | count v tag n => exact plain_singleton _
    | taggings v ts => exact plain_taggingsLines ts
    | taggingsNamed v tag author ts => exact plain_taggingsLines ts
    | _ => cases hr

/-- If the lines differ, they differ in quiet runs too. -/
def KeptApart (ls ls' : List Line) : Prop := text false ls ≠ text false ls' → text true ls ≠ text true ls'

theorem keptApart_iff : KeptApart ls ls' ↔ (text true ls = text true ls' → text false ls = text false ls') :=
  not_imp_not

theorem keptApart_plain (h : Line.Plain ls) (h' : Line.Plain ls') : KeptApart ls ls' := by
  rw [KeptApart, h.text_eq, h'.text_eq]
  exact id

/-- A heading before answers is all that a quiet run leaves out of them. -/
theorem text_heading (icon title : String) (h : Line.Plain ls) :
    text false (theme.heading icon title :: ls) = icon ++ " " ++ theme.style .header title ++ "\n" ++ text true ls := by
  rw [Theme.heading, Line.text_remark, h.text_eq]

theorem keptApart_paths {names : List String} (h : Tells theme k .text (.paths names) ls)
    (h' : Tells theme k .text (.paths names) ls') : KeptApart ls ls' := by
  -- no path at all is told by a line that starts with a sign of its own, and a path by one that starts with blanks
  have hempty : ∀ ps, text true (pathsLines theme names .text ps) ≠ "" := by
    rintro (_ | ⟨p, ps⟩)
    · exact Line.text_answer_ne_empty _ _ _
    · exact Line.text_answer_ne_empty _ _ _
  have hnone : ∀ p ps, text true (pathsLines theme names .text []) ≠
      text true (pathsLines theme names .text (p :: ps)) := by
    intro p ps heq
    have hhead := congrArg (fun s : String => s.toList.head?) heq
    simp [pathsLines, Theme.heading, Icon.nothing] at hhead
  rw [keptApart_iff]
  intro heq
  cases h with
  | nothing =>
    cases h' with
    | nothing => rfl
    | paths _ ps => exact absurd heq.symm (hempty ps)
  | paths _ ps =>
    cases h' with
    | nothing => exact absurd heq (hempty ps)
    | paths _ ps' =>
      cases ps with
      | nil =>
        cases ps' with
        | nil => rfl
        | cons p' ps' => exact absurd heq (hnone p' ps')
      | cons p ps =>
        cases ps' with
        | nil => exact absurd heq.symm (hnone p ps)
        | cons p' ps' =>
          have hplain : ∀ ps : List String, Line.Plain (ps.map fun p => .answer ("  " ++ theme.style .path p)) :=
            plain_map _
          simp only [pathsLines]
          rw [text_heading _ _ (hplain _), text_heading _ _ (hplain _)]
          exact congrArg _ heq

theorem keptApart_stats (h : Tells theme k .text .stats ls) (h' : Tells theme k .text .stats ls') :
    KeptApart ls ls' := by
  have hempty : ∀ s, text true (statsLines theme k .text s) ≠ "" := fun s => Line.text_answer_ne_empty _ _ _
  obtain ⟨above, habove⟩ : ∃ above, ∀ s,
      text false (statsLines theme k .text s) = above ++ text true (statsLines theme k .text s) := by
    refine ⟨text false ([theme.heading Icon.statistics "Regtags Statistics",
      theme.status Icon.database "Key strategy" k.name] ++ theme.partTitle "Rows"), fun s => ?_⟩
    rw [statsLines, Line.text_append]
    rfl
  rw [keptApart_iff]
  intro heq
  cases h with
  | nothing =>
    cases h' with
    | nothing => rfl
    | stats s => exact absurd heq.symm (hempty s)
  | stats s =>
    cases h' with
    | nothing => exact absurd heq (hempty s)
    | stats s' => rw [habove, habove, heq]

theorem keptApart_of_quiet_ne (h : text true ls ≠ text true ls') : KeptApart ls ls' := fun _ => h

theorem silenced_exists_iff {v : Version} {tag author : String} : Silenced theme (.exists v tag author) ls ls' ↔
    ls = existsLines theme v tag author .text true ∧ ls' = [] ∨
      ls = [] ∧ ls' = existsLines theme v tag author .text true := by
  constructor
  · intro h
    cases h with
    | found => exact .inl ⟨rfl, rfl⟩
    | missed => exact .inr ⟨rfl, rfl⟩
  · rintro (⟨rfl, rfl⟩ | ⟨rfl, rfl⟩)
    · exact .found v tag author
    · exact .missed v tag author

theorem keptApart_exists_iff {v : Version} {tag author : String} (h : Tells theme k .text (.exists v tag author) ls)
    (h' : Tells theme k .text (.exists v tag author) ls') :
    KeptApart ls ls' ↔ ¬Silenced theme (.exists v tag author) ls ls' := by
  have hcases : ∀ {ls}, Tells theme k .text (.exists v tag author) ls → ls = [] ∨
      ls = existsLines theme v tag author .text true ∨ ls = existsLines theme v tag author .text false := by
    intro ls h
    cases h with
    | nothing => exact .inl rfl
    | «exists» _ _ _ found =>
      cases found
      · exact .inr (.inr rfl)
      · exact .inr (.inl rfl)
  have hyes : text false (existsLines theme v tag author .text true) ≠ "" := by
    simp [existsLines, Theme.success, String.append_eq_empty_iff]
  have hquiet : text true (existsLines theme v tag author .text true) = "" := rfl
  have hno : text true (existsLines theme v tag author .text false) ≠ "" := Line.text_answer_ne_empty _ _ _
  have hcases := And.intro (hcases h) (hcases h')
  clear h h'
  rw [silenced_exists_iff, KeptApart]
  generalize existsLines theme v tag author .text true = yes at *
  generalize existsLines theme v tag author .text false = no at *
  have hyes' : yes ≠ [] := fun h => hyes (h ▸ Line.text_nil _)
  have hno' : no ≠ [] := fun h => hno (h ▸ Line.text_nil _)
  have hne : no ≠ yes := fun h => hno (h ▸ hquiet)
  obtain ⟨h | h | h, h' | h' | h'⟩ := hcases
  all_goals
    rw [h, h']
    simp [hyes, hquiet, hno, hyes', hno', hne, hyes.symm, hno.symm, hyes'.symm]

/-- The number of all rows below the counts. -/
def totalLines (theme : Theme) (total : Option Nat) : List Line :=
  total.toList.map fun n => theme.info "Total" (toString n)

theorem text_totalLines_inj {total total' : Option Nat}
    (h : text false (totalLines theme total) = text false (totalLines theme total')) : total = total' := by
  have hsome : ∀ n : Nat, text false (totalLines theme (some n)) =
      theme.style .info Icon.info ++ " " ++ theme.style .dim "Total" ++ ": " ++ toString n ++ "\n" :=
    fun n => (Line.text_remark _ _).trans (String.append_empty)
  have hempty : ∀ n : Nat, text false (totalLines theme (some n)) ≠ text false (totalLines theme none) := by
    intro n hn
    rw [hsome] at hn
    exact absurd (String.append_eq_empty_iff.1 hn).2 (by decide)
  cases total with
  | none =>
    cases total' with
    | none => rfl
    | some n => exact absurd h.symm (hempty n)
  | some n =>
    cases total' with
    | none => exact absurd h (hempty n)
    | some m =>
      rw [hsome, hsome, String.append_left_inj, String.append_right_inj] at h
      exact congrArg some (Nat.repr_injective h)

theorem silenced_counts_iff {v : Version} {start size : Option Int} {sortBy sortOrder : String} :
    Silenced theme (.counts v start size sortBy sortOrder) ls ls' ↔ ∃ rows rows' total total',
      ls = countsLines theme .text rows total ∧ ls' = countsLines theme .text rows' total' ∧
        Report.counts rows = Report.counts rows' ∧ total ≠ total' := by
  constructor
  · intro h
    cases h with
    | total same differ => exact ⟨_, _, _, _, rfl, rfl, same, differ⟩
  · rintro ⟨_, _, _, _, rfl, rfl, same, differ⟩
    exact .total same differ

theorem keptApart_counts_iff {v : Version} {start size : Option Int} {sortBy sortOrder : String}
    (h : Tells theme k .text (.counts v start size sortBy sortOrder) ls)
    (h' : Tells theme k .text (.counts v start size sortBy sortOrder) ls') :
    KeptApart ls ls' ↔ ¬Silenced theme (.counts v start size sortBy sortOrder) ls ls' := by
  have hfull : ∀ rows total, text false (countsLines theme .text rows total) =
      Report.counts rows ++ "\n" ++ text false (totalLines theme total) := fun rows total => Line.text_answer _ _ _
  have hquiet : ∀ rows total, text true (countsLines theme .text rows total) = Report.counts rows ++ "\n" := by
    rintro rows (_ | total) <;> exact Line.text_singleton_answer true _
  have hempty : ∀ rows total, text true (countsLines theme .text rows total) ≠ "" :=
    fun rows total => Line.text_answer_ne_empty _ _ _
  rw [silenced_counts_iff]
  cases h with
  | nothing =>
    refine iff_of_true ?_ (by rintro ⟨rows, -, total, -, hnil, -⟩; exact hempty rows total (hnil ▸ rfl))
    cases h' with
    | nothing => exact fun hne => absurd rfl hne
    | counts _ _ _ _ _ rows total => exact keptApart_of_quiet_ne (hempty rows total).symm
  | counts _ _ _ _ _ rows total =>
    cases h' with
    | nothing =>
      refine iff_of_true (keptApart_of_quiet_ne (hempty rows total)) ?_
      rintro ⟨-, rows', -, total', -, hnil, -⟩
      exact hempty rows' total' (hnil ▸ rfl)
    | counts _ _ _ _ _ rows' total' =>
      rw [keptApart_iff, hquiet, hquiet, hfull, hfull, String.append_left_inj]
      constructor
      · rintro hkept ⟨rows₁, rows₁', total₁, total₁', hls, hls', same, differ⟩
        -- the lines say which totals they were made with
        obtain ⟨hrows, htotal⟩ := List.cons.inj hls
        obtain ⟨hrows', htotal'⟩ := List.cons.inj hls'
        have hsame : Report.counts rows = Report.counts rows' := by
          rw [Line.answer.inj hrows, Line.answer.inj hrows', same]
        have htexts := hkept hsame
        rw [hsame, String.append_right_inj] at htexts
        refine differ ?_
        rw [← text_totalLines_inj (congrArg (text false) htotal), ← text_totalLines_inj (congrArg (text false) htotal'),
          text_totalLines_inj htexts]
      · intro hs same
        have htotal : total = total' := by
          by_contra differ
          exact hs ⟨rows, rows', total, total', rfl, rfl, same, differ⟩
        rw [same, htotal]

theorem keptApart_tagging_iff {id : TagId} (h : Tells theme k .text (.tagging id) ls)
    (h' : Tells theme k .text (.tagging id) ls') : KeptApart ls ls' ↔ ¬Silenced theme (.tagging id) ls ls' := by
  have hquiet : ∀ {ls}, Tells theme k .text (.tagging id) ls → text true ls = "" := by
    intro ls h
    cases h <;> rfl
  rw [KeptApart, hquiet h, hquiet h']
  constructor
  · rintro hkept ⟨differ⟩
    exact hkept differ rfl
  · intro hs differ
    exact absurd (.tagging differ) hs

/-- **Two answers to one request are told apart in quiet runs**, unless they differ in what remarks alone tell. -/
theorem Tells.keptApart_iff (h : Tells theme k format r ls) (h' : Tells theme k format r ls') :
    KeptApart ls ls' ↔ ¬(format = .text ∧ Silenced theme r ls ls') := by
  cases format with
  | json => exact iff_of_true (keptApart_plain (h.plain (.inl rfl)) (h'.plain (.inl rfl))) fun hs => nomatch hs.1
  | text =>
    simp only [true_and]
    cases r with
    | «exists» v tag author => exact keptApart_exists_iff h h'
    | counts v start size sortBy sortOrder => exact keptApart_counts_iff h h'
    | tagging id => exact keptApart_tagging_iff h h'
    | paths names => exact iff_of_true (keptApart_paths h h') nofun
    | stats => exact iff_of_true (keptApart_stats h h') nofun
    | tags | count | taggings | taggingsNamed =>
      exact iff_of_true (keptApart_plain (h.plain (.inr rfl)) (h'.plain (.inr rfl))) nofun
    | add | copy | remove | removeBy =>
      cases h
      cases h'
      exact iff_of_true (fun hne => absurd rfl hne) nofun

end Request

/-! ## Quiet runs -/

/-- What a run prints, where it is told to be quiet or not. -/
def printed (x : Surroundings) (args : List String) (quiet : Bool) (t : FileTree) : String :=
  linesText (runProgram { x with quiet := quiet } args t).1.out

namespace Invocation

variable {i : Invocation} {r : Request} {x : Surroundings} {args : List String} {t t' : FileTree}

/-- What is done does not depend on whether the run is quiet. -/
theorem perform_quiet (i : Invocation) (x : Surroundings) (quiet : Bool) :
    i.perform { x with quiet := quiet } = i.perform x := by
  unfold perform
  cases i.command with
  | init force => rfl
  | request r => cases r <;> rfl

/-- All lines of the reply to an invocation. -/
def told (i : Invocation) (x : Surroundings) (t : FileTree) : List Line := Reply.told x.theme (t.run (i.perform x)).1

theorem printed_eq (hi : Invocation.ofArguments args = .ok i) (quiet : Bool) (t : FileTree) :
    printed x args quiet t = Line.text quiet (i.told x t) := by
  unfold printed runProgram
  rw [hi]
  show linesText (Outcome.ofReply _ (t.run (i.perform { x with quiet := quiet })).1).out = _
  rw [perform_quiet, Outcome.out_ofReply]
  rfl

/-- The strategy of the configuration that was loaded. -/
def strategyOf : Except Error (Option Config) → KeyStrategy
  | .ok found => (found.getD Config.default).strategy
  | .error _ => Config.defaultStrategy

theorem tells_told (hr : i.command = .request r) (hread : r.isRead = true) (x : Surroundings) (t : FileTree) :
    r.Tells x.theme (strategyOf (Config.load t (i.config.getD Config.defaultPath))) i.format (i.told x t) := by
  unfold told perform
  rw [hr]
  unfold serve
  simp only [FileTree.run_bind, FileTree.run_get, FileTree.run_lift, FileTree.run_doing]
  rcases Config.load t (i.config.getD Config.defaultPath) with e | found
  · exact .nothing r
  dsimp only
  rcases Config.ensureDirectory (i.databasePath (found.getD Config.default)) t with ⟨e | ⟨⟩, t₁⟩
  · exact .nothing r
  dsimp only
  rcases (found.getD Config.default).locator with e | l
  · exact .nothing r
  dsimp only
  rcases OpenDatabase.openAt (i.databasePath (found.getD Config.default)) t₁ with ⟨e | o, t₂⟩
  · exact .nothing r
  dsimp only
  split
  · exact .nothing r
  · exact Request.tells_answer x (i.store (found.getD Config.default) l) hread _

/-- **Quiet runs tell two databases apart** that other runs tell apart, with one configuration, just where the answers
do not differ in what remarks alone tell. -/
theorem quiet_tells_apart_iff (hi : Invocation.ofArguments args = .ok i) (hr : i.command = .request r)
    (hread : r.isRead = true)
    (hc : Config.load t (i.config.getD Config.defaultPath) = Config.load t' (i.config.getD Config.defaultPath)) :
    (printed x args false t ≠ printed x args false t' → printed x args true t ≠ printed x args true t') ↔
      ¬(i.format = .text ∧ r.Silenced x.theme (i.told x t) (i.told x t')) := by
  have h := tells_told hr hread x t
  have h' := tells_told hr hread x t'
  rw [← hc] at h'
  rw [printed_eq hi, printed_eq hi, printed_eq hi, printed_eq hi]
  exact h.keptApart_iff h'

end Invocation

/-! ## Databases that look the same to quiet runs -/

namespace Site

open Write (someTime)

theorem told_of_ready {t u : FileTree} {configPath path : String} {S : Site t configPath path} {db : Database}
    {e : Errand} (he : e.LooksAt configPath S.config path) (hu : S.Ready u db) :
    e.invocation.told e.surroundings u = Reply.told e.surroundings.theme (e.result S db).1 := by
  obtain ⟨u₁, u₂, hd, ho, -⟩ := hu.opens
  have hperform := Errand.perform_eq he hu.loads S.keys S.patient hd
  rw [ho] at hperform
  rw [Invocation.told, hperform]
  rfl

theorem ready_filledTree (db : Database) : bareSite.Ready (filledTree db) db :=
  bareSite.ready_again (bareSite.changed (.refl bareSite.node) rfl db)

theorem load_filledTree (db : Database) : Config.load (filledTree db) "/c" = .ok none := load_c (filledTree_c db)

/-- Tables with a tag for each of the names, all on one version. -/
def namedTables (names : List String) : Database :=
  .ofRows (names.zipIdx.map fun n => ⟨n.2 + 1, n.1, "a", someTime.storedText, .int superTenant⟩)
    (names.zipIdx.map fun n => ⟨.int (n.2 + 1), .int 1, .int superTenant⟩)

theorem taggingById_namedTables (name : String) :
    (namedTables [name]).taggingById superTenant 1 = .ok (some (⟨1, name, "a", someTime, none⟩, 1)) := by
  have hlinks : (namedTables [name]).linksOf superTenant 1 = [⟨.int 1, .int 1, .int superTenant⟩] := by
    rw [Database.linksOf, Database.linkIndex_getD]
    rfl
  have hfind : (namedTables [name]).tags.find? (fun t => t.id == 1 && t.tenant == .int superTenant) =
      some ⟨1, name, "a", someTime.storedText, .int superTenant⟩ := rfl
  rw [Database.taggingById, hlinks, hfind]
  simp only [List.head?_cons, Database.taggingOf, Database.readTime, Time.readStored_storedText]
  rfl

/-- A run that asks for a tagging by its id. -/
def looking : Errand where
  surroundings := ⟨true, ⟨false⟩, false, someTime⟩
  args := ["-c", "/c", "-d", "/d", "tagging", "1"]
  invocation := ⟨false, some "/c", some "/d", none, .text, .request (.tagging 1)⟩
  request := .tagging 1
  understood := by decide +kernel
  asks := rfl

theorem told_looking (name : String) : looking.invocation.told looking.surroundings (filledTree (namedTables [name])) =
    Request.taggingLines ⟨false⟩ .text ⟨1, name, "a", someTime, none⟩ := by
  rw [told_of_ready (e := looking) ⟨rfl, rfl⟩ (ready_filledTree _)]
  let f : File := .ofDatabase (namedTables [name])
  let st : Store := looking.invocation.store Config.default Locator.empty
  have hfound : (f.run (st.taggingById 1)).1 = .ok (some ⟨1, name, "a", someTime, none⟩) := by
    have hview : (f.view st.connection).taggingById st.tenant 1 = .ok (some (⟨1, name, "a", someTime, none⟩, 1)) :=
      taggingById_namedTables name
    rw [Store.run_taggingById rfl, hview]
    rfl
  show Reply.told _ (f.run (Request.answer looking.surroundings .text st (.tagging 1))).1 = _
  unfold Request.answer
  rw [File.run_bind]
  rcases hrun : f.run (st.taggingById 1) with ⟨r, g⟩
  rw [hrun] at hfound
  cases hfound
  rfl

/-- **A tagging is told by remarks alone.**  Two databases have different taggings under one id.  A run that asks for
the tagging prints what it is, and a quiet run prints nothing for either. -/
theorem tagging_left_out : looking.request.isRead = true ∧
    Config.load (filledTree (namedTables ["n"])) "/c" = Config.load (filledTree (namedTables ["m"])) "/c" ∧
    printed looking.surroundings looking.args false (filledTree (namedTables ["n"])) ≠
      printed looking.surroundings looking.args false (filledTree (namedTables ["m"])) ∧
    printed looking.surroundings looking.args true (filledTree (namedTables ["n"])) = "" ∧
    printed looking.surroundings looking.args true (filledTree (namedTables ["m"])) = "" := by
  have hprinted := fun quiet db =>
    Invocation.printed_eq (x := looking.surroundings) looking.understood quiet (filledTree db)
  refine ⟨rfl, by rw [load_filledTree, load_filledTree], ?_, ?_, ?_⟩
  · rw [hprinted, hprinted, told_looking, told_looking]
    decide +kernel
  · rw [hprinted, told_looking]
    rfl
  · rw [hprinted, told_looking]
    rfl

/-- A run that asks for a page of one row. -/
def paging : Errand where
  surroundings := ⟨true, ⟨false⟩, false, someTime⟩
  args := ["-c", "/c", "-d", "/d", "counts", "1", "--count", "1"]
  invocation := ⟨false, some "/c", some "/d", none, .text, .request (.counts 1 none (some 1) "" "")⟩
  request := .counts 1 none (some 1) "" ""
  understood := by decide +kernel
  asks := rfl

theorem counts_namedTables {names : List String} {rows : List TagCount}
    (hn : (namedTables names).names superTenant 1 = names) (hr : Arranged names none rows) :
    (namedTables names).counts superTenant 1 = rows := by
  have ha := (namedTables names).arranged_counts superTenant 1
  rw [hn] at ha
  exact ha.unique hr

theorem told_paging {names : List String} {rows : List TagCount} (h : (namedTables names).counts superTenant 1 = rows) :
    paging.invocation.told paging.surroundings (filledTree (namedTables names)) =
      Request.countsLines ⟨false⟩ .text (rows.take 1) (some rows.length) := by
  rw [told_of_ready (e := paging) ⟨rfl, rfl⟩ (ready_filledTree _)]
  let f : File := .ofDatabase (namedTables names)
  let st : Store := paging.invocation.store Config.default Locator.empty
  have hpage : Request.pageRequest none (some 1) "" "" = .ok (.ofPage ⟨1, 1, none, none⟩) := by decide +kernel
  have hserved : st.countsFor 1 (.ofPage ⟨1, 1, none, none⟩) (f.view 0) =
      (rows.take 1, ⟨some ⟨1, 1, none, none⟩, some rows.length⟩) := by
    have hview : (f.view 0).counts st.tenant 1 = rows := h
    simp only [Store.countsFor, PageRequest.ofPage, Database.countsPage, hview]
    rfl
  show Reply.told _ (f.run (Request.answer paging.surroundings .text st (.counts 1 none (some 1) "" ""))).1 = _
  simp only [Request.answer]
  rw [hpage]
  show Reply.told _ (f.run (do
    let p ← st.tagCounts 1 (.ofPage ⟨1, 1, none, none⟩)
    return Reply.lines (Request.countsLines ⟨false⟩ .text p.1 p.2.rowCount))).1 = _
  rw [File.run_bind, Store.run_tagCounts]
  show Reply.told _ (Except.ok (Reply.lines (Request.countsLines ⟨false⟩ .text
    (st.countsFor 1 (.ofPage ⟨1, 1, none, none⟩) (f.view 0)).1
    (st.countsFor 1 (.ofPage ⟨1, 1, none, none⟩) (f.view 0)).2.rowCount))) = _
  rw [hserved]
  rfl

/-- The number of all rows is left out beside a page that is the same. -/
theorem total_left_out :
    printed paging.surroundings paging.args false (filledTree (namedTables ["n"])) ≠
        printed paging.surroundings paging.args false (filledTree (namedTables ["n", "p"])) ∧
      printed paging.surroundings paging.args true (filledTree (namedTables ["n"])) =
        printed paging.surroundings paging.args true (filledTree (namedTables ["n", "p"])) := by
  have hone : (namedTables ["n"]).counts superTenant 1 = [⟨"n", 1⟩] := by
    refine counts_namedTables ?_ (by decide)
    rw [Database.names, Database.on_eq]
    rfl
  have htwo : (namedTables ["n", "p"]).counts superTenant 1 = [⟨"n", 1⟩, ⟨"p", 1⟩] := by
    refine counts_namedTables ?_ (by decide)
    rw [Database.names, Database.on_eq]
    rfl
  have hload : Config.load (filledTree (namedTables ["n"])) "/c" =
      Config.load (filledTree (namedTables ["n", "p"])) "/c" := by
    rw [load_filledTree, load_filledTree]
  have h := Invocation.quiet_tells_apart_iff (x := paging.surroundings) paging.understood paging.asks rfl hload
  rw [told_paging hone, told_paging htwo] at h
  have hnot := mt h.1 (not_not.2 ⟨rfl, .total rfl (by decide)⟩)
  push Not at hnot
  exact hnot

end Site

end VersionTags
