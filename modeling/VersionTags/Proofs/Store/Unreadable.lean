import VersionTags.Proofs.Session.Copy
import VersionTags.Proofs.Session.Lookup
import VersionTags.Proofs.Storage.Order
import VersionTags.Proofs.Store.Search
/-!
# Rows that cannot be read

A table may hold texts that are no times, and versions that are no integers.  A read fails at the first such row that it
selects and would report (`Store.reports_unreadable`); what does not look at the column never fails, and a removal takes
such rows out like any others.

A search reports each version once, in the form in which it was found first.  The least integer kept as a real number is
therefore not noticed behind the integer itself.
-/
namespace VersionTags

/-! ## The first that fails -/

section

variable {ε α β : Type} {g : α → Except ε β} {e : ε}

theorem mapM_of_first {x : α} {post : List α} (hx : g x = .error e) : ∀ {pre : List α},
    (∀ y ∈ pre, ∃ z, g y = .ok z) → (pre ++ x :: post).mapM g = .error e
  | [], _ => by
    rw [List.nil_append, List.mapM_cons, hx]
    rfl
  | y :: pre, h => by
    obtain ⟨z, hz⟩ := h y List.mem_cons_self
    rw [List.cons_append, List.mapM_cons, hz, mapM_of_first hx fun w hw => h w (List.mem_cons_of_mem y hw)]
    rfl

/-- **A list is read up to the first element that cannot be.** -/
theorem mapM_error_iff {xs : List α} : xs.mapM g = .error e ↔
    ∃ pre x post, xs = pre ++ x :: post ∧ (∀ y ∈ pre, ∃ z, g y = .ok z) ∧ g x = .error e := by
  refine ⟨first_of_mapM, ?_⟩
  rintro ⟨pre, x, post, rfl, hpre, hx⟩
  exact mapM_of_first hx hpre

theorem exists_mapM_error_iff {xs : List α} : (∃ e, xs.mapM g = .error e) ↔ ∃ x ∈ xs, ∃ e, g x = .error e := by
  constructor
  · rintro ⟨e, he⟩
    obtain ⟨pre, x, post, rfl, -, hx⟩ := first_of_mapM he
    exact ⟨x, by simp, e, hx⟩
  · rintro ⟨x, hx, e, he⟩
    cases hm : xs.mapM g with
    | error e' => exact ⟨e', rfl⟩
    | ok ys =>
      -- all have been read, this one among them
      obtain ⟨y, -, hy⟩ := exists_of_mem_right (mapM_ok_iff.1 hm).flip hx
      rw [he] at hy
      cases hy

end

/-! ## Rows with times -/

/-- The first of the rows whose time cannot be read cannot be read for this reason. -/
def TagRow.FirstUnreadable (rows : List TagRow) (why : Time.ReadError) : Prop :=
  ∃ pre t post, rows = pre ++ t :: post ∧ (∀ u ∈ pre, ∃ i, Time.readStored u.time = .ok i) ∧
    Time.readStored t.time = .error why

/-- A read of these rows fails just when one of them has a time that cannot be read, which the first of them does with
the error that names its column. -/
structure FailsAt {α : Type} (rows : List TagRow) (task : Task) (column : Nat) (r : Except Error α) : Prop where
  fails : (∃ e, r = .error e) ↔ ∃ t ∈ rows, ∃ why, Time.readStored t.time = .error why
  first : ∀ e, r = .error e ↔
    ∃ why, TagRow.FirstUnreadable rows why ∧ e = .storage task (.unreadableTime column why)

theorem FailsAt.congr {α β : Type} {rows : List TagRow} {task : Task} {column : Nat} {r : Except Error α}
    {r' : Except Error β} (h : FailsAt rows task column r) (he : ∀ e, r' = .error e ↔ r = .error e) :
    FailsAt rows task column r' := by
  constructor
  · simp only [he]
    exact h.fails
  · simp only [he]
    exact h.first

/-- What is read of a row is made of its time, or fails as the time does. -/
def ReadsTime {α : Type} (column : Nat) (g : TagRow → Except Failure α) : Prop :=
  ∃ mk : TagRow → Time.Instant → α, ∀ t, g t = (Database.readTime column t).map (mk t)

namespace ReadsTime

variable {α β : Type} {column : Nat} {g : TagRow → Except Failure α}

theorem ok_iff (h : ReadsTime column g) {t : TagRow} : (∃ x, g t = .ok x) ↔ ∃ i, Time.readStored t.time = .ok i := by
  obtain ⟨mk, hg⟩ := h
  rw [hg, Database.readTime]
  cases Time.readStored t.time with
  | error why =>
    constructor
    · rintro ⟨_, ⟨⟩⟩
    · rintro ⟨_, ⟨⟩⟩
  | ok i => exact ⟨fun _ => ⟨i, rfl⟩, fun _ => ⟨mk t i, rfl⟩⟩

theorem error_iff (h : ReadsTime column g) {t : TagRow} {e : Failure} :
    g t = .error e ↔ ∃ why, Time.readStored t.time = .error why ∧ e = .unreadableTime column why := by
  obtain ⟨mk, hg⟩ := h
  rw [hg, Database.readTime]
  cases Time.readStored t.time with
  | error why =>
    constructor
    · intro he
      cases he
      exact ⟨why, rfl, rfl⟩
    · rintro ⟨_, ⟨⟩, rfl⟩
      rfl
  | ok i =>
    constructor
    · intro he
      cases he
    · rintro ⟨_, ⟨⟩, -⟩

/-- **Rows are read up to the first whose time cannot be read.** -/
theorem failsAt (h : ReadsTime column g) (rows : List TagRow) (task : Task) (k : List α → β) :
    FailsAt rows task column (((rows.mapM g).mapError (.storage task)).map k) := by
  have hr : ∀ e, ((rows.mapM g).mapError (Error.storage task)).map k = .error e ↔
      ∃ why, rows.mapM g = .error why ∧ e = .storage task why := by
    intro e
    cases rows.mapM g with
    | error why =>
      constructor
      · intro he
        cases he
        exact ⟨why, rfl, rfl⟩
      · rintro ⟨_, ⟨⟩, rfl⟩
        rfl
    | ok xs =>
      constructor
      · intro he
        cases he
      · rintro ⟨_, ⟨⟩, -⟩
  have hfirst : ∀ e, ((rows.mapM g).mapError (Error.storage task)).map k = .error e ↔
      ∃ why, TagRow.FirstUnreadable rows why ∧ e = .storage task (.unreadableTime column why) := by
    intro e
    rw [hr]
    constructor
    · rintro ⟨f, hf, rfl⟩
      obtain ⟨pre, t, post, rfl, hpre, ht⟩ := mapM_error_iff.1 hf
      obtain ⟨why, hwhy, rfl⟩ := h.error_iff.1 ht
      exact ⟨why, ⟨pre, t, post, rfl, fun u hu => h.ok_iff.1 (hpre u hu), hwhy⟩, rfl⟩
    · rintro ⟨why, ⟨pre, t, post, rfl, hpre, ht⟩, rfl⟩
      have hread : ∀ u ∈ pre, ∃ x, g u = .ok x := fun u hu => h.ok_iff.2 (hpre u hu)
      exact ⟨_, mapM_error_iff.2 ⟨pre, t, post, rfl, hread, h.error_iff.2 ⟨why, ht, rfl⟩⟩, rfl⟩
  refine ⟨?_, hfirst⟩
  constructor
  · rintro ⟨e, he⟩
    obtain ⟨why, ⟨pre, t, post, rfl, -, ht⟩, -⟩ := (hfirst e).1 he
    exact ⟨t, by simp, why, ht⟩
  · rintro ⟨t, ht, why, hwhy⟩
    obtain ⟨f, hf⟩ := exists_mapM_error_iff.2 ⟨t, ht, _, h.error_iff.2 ⟨why, hwhy, rfl⟩⟩
    exact ⟨_, (hr _).2 ⟨f, hf, rfl⟩⟩

theorem recordOf : ReadsTime 2 Database.recordOf := ⟨_, Database.recordOf_eq⟩

theorem taggingOf : ReadsTime 3 Database.taggingOf := ⟨_, Database.taggingOf_eq⟩

end ReadsTime

/-! ## Versions that are no integers -/

namespace Database

variable {db : Database} {T : Tenant} {names : List String}

/-- The links of the tenant's tags with any of the names: those of one name by the ids, and those of one tag the
earliest first. -/
def linksNamed (db : Database) (T : Tenant) (names : List String) : List LinkRow :=
  (db.tagsNamed T names).flatMap fun t => db.linksOf T t.id

theorem mem_linksNamed {l : LinkRow} : l ∈ db.linksNamed T names ↔ l ∈ db.links ∧ l.tenant = .int T ∧
    ∃ t ∈ db.tags, t.tenant = .int T ∧ l.tag.integer? = some t.id ∧
      Text.lowercase t.name ∈ names.map Text.lowercase := by
  simp only [linksNamed, tagsNamed, linksOf, linkIndex_getD, linksFor, List.mem_flatMap, List.mem_mergeSort,
    List.mem_reverse, List.mem_filter, Bool.and_eq_true, beq_iff_eq, List.contains_iff_mem]
  constructor
  · rintro ⟨t, ⟨ht, hT, hn⟩, ⟨hl, hlT⟩, hid⟩
    exact ⟨hl, hlT, t, ht, hT, hid, hn⟩
  · rintro ⟨hl, hlT, t, ht, hT, hid, hn⟩
    exact ⟨t, ⟨ht, hT, hn⟩, ⟨hl, hlT⟩, hid⟩

/-- The link has a version that is no integer, and none before it has the same version. -/
def Strays (ls : List LinkRow) (l : LinkRow) : Prop :=
  ∃ pre post, ls = pre ++ l :: post ∧ (∀ k ∈ pre, k.version.same l.version = false) ∧ ∀ v, l.version ≠ .int v

/-- The versions of the links, each once and in ascending order. -/
def versionCells (ls : List LinkRow) : List Cell := ((ls.map LinkRow.version).eraseDupsBy Cell.same).mergeSort Cell.le

theorem versionsWithAny_eq :
    db.versionsWithAny T names = (versionCells (db.linksNamed T names)).mapM (readVersion 0) := by
  unfold versionsWithAny versionCells linksNamed linksOf
  rw [List.map_flatMap]
  simp only [List.map_reverse]

theorem pairwise_versionCells (ls : List LinkRow) : (versionCells ls).Pairwise fun a b => a.le b = true := by
  have htrans : ∀ a b c : Cell, a.le b = true → b.le c = true → a.le c = true := fun _ _ _ => Cell.le_trans
  exact List.pairwise_mergeSort htrans Cell.le_total _

theorem mem_versionCells {ls : List LinkRow} {c : Cell} : c ∈ versionCells ls ↔ ∃ pre l post,
    ls = pre ++ l :: post ∧ (∀ k ∈ pre, k.version.same l.version = false) ∧ l.version = c := by
  rw [versionCells, List.mem_mergeSort, Cell.mem_eraseDupsBy]
  constructor
  · rintro ⟨pre, post, hls, hpre⟩
    obtain ⟨front, back, rfl, rfl, hback⟩ := List.map_eq_append_iff.1 hls
    obtain ⟨l, back, rfl, rfl, rfl⟩ := List.map_eq_cons_iff.1 hback
    exact ⟨front, l, back, rfl, fun k hk => hpre _ (List.mem_map_of_mem hk), rfl⟩
  · rintro ⟨pre, l, post, rfl, hpre, rfl⟩
    refine ⟨pre.map LinkRow.version, post.map LinkRow.version, by simp, ?_⟩
    simpa using hpre

theorem strays_iff {ls : List LinkRow} {c : Cell} :
    (∃ l, Strays ls l ∧ l.version = c) ↔ c ∈ versionCells ls ∧ ∀ v, c ≠ .int v := by
  rw [mem_versionCells]
  constructor
  · rintro ⟨l, ⟨pre, post, rfl, hpre, hl⟩, rfl⟩
    exact ⟨⟨pre, l, post, rfl, hpre, rfl⟩, hl⟩
  · rintro ⟨⟨pre, l, post, rfl, hpre, rfl⟩, hl⟩
    exact ⟨l, ⟨pre, post, rfl, hpre, hl⟩, rfl⟩

/-- A version that is no integer strays, unless an integer is the same. -/
theorem exists_strays {ls : List LinkRow} {l : LinkRow} (hl : l ∈ ls)
    (h : ∀ v, (Cell.int v).same l.version = false) : ∃ k, Strays ls k := by
  obtain ⟨c, hc, hsame⟩ := Cell.exists_same_of_mem (List.mem_map_of_mem (f := LinkRow.version) hl)
  have hint : ∀ v, c ≠ .int v := by
    rintro v rfl
    rw [h v] at hsame
    cases hsame
  obtain ⟨k, hk, -⟩ := strays_iff.2 ⟨List.mem_mergeSort.2 hc, hint⟩
  exact ⟨k, hk⟩

theorem readVersion_error_iff {column : Nat} {c : Cell} {e : Failure} : readVersion column c = .error e ↔
    (∀ v, c ≠ .int v) ∧ e = .notAnInteger c.typeName column "version" := by
  cases c with
  | int v => exact ⟨nofun, fun h => absurd rfl (h.1 v)⟩
  | _ =>
    constructor
    · intro h
      cases h
      exact ⟨nofun, rfl⟩
    · rintro ⟨-, rfl⟩
      rfl

theorem versionsWithAny_fails_iff :
    (∃ e, db.versionsWithAny T names = .error e) ↔ ∃ l, Strays (db.linksNamed T names) l := by
  rw [versionsWithAny_eq, exists_mapM_error_iff]
  simp only [readVersion_error_iff]
  constructor
  · rintro ⟨c, hc, -, hint, -⟩
    obtain ⟨l, hl, -⟩ := strays_iff.2 ⟨hc, hint⟩
    exact ⟨l, hl⟩
  · rintro ⟨l, hl⟩
    obtain ⟨hc, hint⟩ := strays_iff.1 ⟨l, hl, rfl⟩
    exact ⟨_, hc, _, hint, rfl⟩

/-- **A search fails at the least version that is no integer.** -/
theorem least_of_versionsWithAny {e : Failure} (h : db.versionsWithAny T names = .error e) :
    ∃ l, Strays (db.linksNamed T names) l ∧ (∀ k, Strays (db.linksNamed T names) k → l.version.le k.version = true) ∧
      e = .notAnInteger l.version.typeName 0 "version" := by
  rw [versionsWithAny_eq] at h
  obtain ⟨pre, c, post, hcells, hpre, hc⟩ := first_of_mapM h
  obtain ⟨hint, rfl⟩ := readVersion_error_iff.1 hc
  have hmem : c ∈ versionCells (db.linksNamed T names) := by
    rw [hcells]
    simp
  obtain ⟨l, hl, rfl⟩ := strays_iff.2 ⟨hmem, hint⟩
  refine ⟨l, hl, fun k hk => ?_, rfl⟩
  obtain ⟨hk, hkint⟩ := strays_iff.1 ⟨k, hk, rfl⟩
  rw [hcells, List.mem_append, List.mem_cons] at hk
  rcases hk with hk | hk | hk
  · -- what stands before it has been read
    obtain ⟨v, hv⟩ := hpre _ hk
    rw [readVersion_error_iff.2 ⟨hkint, rfl⟩] at hv
    cases hv
  · rw [hk]
    exact (Cell.le_iff _ _).2 (Preorder.le_refl _)
  · have hsorted := pairwise_versionCells (db.linksNamed T names)
    rw [hcells] at hsorted
    exact List.rel_of_pairwise_cons (List.pairwise_append.1 hsorted).2.1 hk

/-- **A search that succeeds finds the versions of its links**, however they are kept. -/
theorem mem_versionsWithAny {vs : List Version} (h : db.versionsWithAny T names = .ok vs) {v : Version} :
    v ∈ vs ↔ ∃ l ∈ db.linksNamed T names, l.version.same (.int v) = true := by
  rw [versionsWithAny_eq, mapM_ok_iff] at h
  have hread : ∀ {c : Cell} {w : Version}, readVersion 0 c = .ok w ↔ c = .int w := by
    intro c w
    cases c <;> simp [readVersion]
  constructor
  · intro hv
    obtain ⟨c, hc, hcv⟩ := exists_of_mem_right h hv
    obtain ⟨pre, l, post, hls, -, rfl⟩ := mem_versionCells.1 hc
    refine ⟨l, ?_, ?_⟩
    · rw [hls]
      simp
    · rw [hread.1 hcv]
      exact Cell.same_refl _
  · rintro ⟨l, hl, hlv⟩
    obtain ⟨c, hc, hsame⟩ := Cell.exists_same_of_mem (List.mem_map_of_mem (f := LinkRow.version) hl)
    obtain ⟨w, hw, hcw⟩ := exists_of_mem_right h.flip (List.mem_mergeSort.2 hc)
    have hvw := Cell.same_trans hsame hlv
    rw [hread.1 hcw, Aligned.same_int, beq_iff_eq] at hvw
    exact hvw ▸ hw

end Database

/-! ## What a store reports -/

namespace Store

variable {st : Store} {f g : File} {v w : Version}

/-- Nothing but the rows stands in the way of the store. -/
structure Free (st : Store) (f : File) : Prop where
  unlocked : f.isLocked st.connection = false
  writable : f.readOnly = false
  untriggered : st.faults = []

/-- The tags joined to the version, the earliest link first. -/
def rowsOn (st : Store) (f : File) (v : Version) : List TagRow :=
  ((f.view st.connection).joined st.tenant v).map Prod.snd

theorem putOne_of_room (hf : st.faults = []) {db : Database} (h : db.lastId ≠ Decimal.maxInt64) (r : TagRecord) :
    st.putOne false v r db = .ok (db.lastId + 1, db.withTagging st.tenant v r) := by
  have htag : Statement.insertTag st.faults (st.strategy == .generatedKeys) st.tenant r db = .ok (db.lastId + 1,
      db.withTag ⟨db.lastId + 1, r.name, r.author, r.taggedAt.storedText, .int st.tenant⟩) := by
    rw [Statement.insertTag, if_neg h, hf]
    rfl
  show ((Statement.insertTag st.faults (st.strategy == .generatedKeys) st.tenant r).under false db >>= fun p => _) = _
  rw [Statement.under, if_neg Bool.false_ne_true, htag, hf]
  rfl

/-- **New tags are put in where ids are left for them** and no trigger stands against them. -/
theorem putAll_of_room (hf : st.faults = []) : ∀ (rs : List TagRecord) {db : Database},
    db.lastId + rs.length ≤ Decimal.maxInt64 → st.putAll false v rs db = .ok ((), db.withTaggings st.tenant v rs)
  | [], _, _ => rfl
  | r :: rs, db, h => by
    rw [List.length_cons] at h
    have hrest : (db.withTagging st.tenant v r).lastId + rs.length ≤ Decimal.maxInt64 := by
      rw [Database.lastId_withTagging]
      omega
    have hone : discard (st.putOne false v r) db = .ok ((), db.withTagging st.tenant v r) := by
      rw [discard_eq_bind]
      show (st.putOne false v r db >>= fun p => _) = _
      rw [putOne_of_room hf (by omega)]
      rfl
    show (discard (st.putOne false v r) db >>= fun p => st.putAll false v rs p.2) = _
    rw [hone]
    exact putAll_of_room hf rs hrest

theorem addTags_of_room (h : st.Free f) {rs : List TagRecord}
    (hroom : (f.view st.connection).lastId + rs.length ≤ Decimal.maxInt64) :
    ∃ g, f.run (st.addTags v rs) = (.ok (), g) := by
  rw [addTags_isOk_iff, Puts, h.writable]
  exact ⟨h.unlocked, putAll_of_room h.untriggered rs hroom⟩

/-! ### Times -/

theorem run_records_eq (hb : f.isBlocked st.connection = false) : (f.run (st.records v)).1 =
    ((((st.rowsOn f v).mapM Database.recordOf).mapError (.storage (.readTags (st.describe v)))).map id) := by
  rw [records, run_ask_of_sight hb, Database.records, Database.on_eq_joined]
  rw [rowsOn]
  cases List.mapM Database.recordOf _ <;> rfl

theorem run_withPath_eq (hb : f.isBlocked st.connection = false) (t : Task) (rows : Database → List TagRow) :
    (f.run (do return st.withPath v (← st.ask t fun db => (rows db).mapM Database.taggingOf))).1 =
      ((((rows (f.view st.connection)).mapM Database.taggingOf).mapError (.storage t)).map (st.withPath v)) := by
  rw [File.run_bind_pure, run_ask_of_sight hb]

/-- **A copy fails at the first tag that cannot be read**, and leaves the file as it is then. -/
theorem copyTags_failsAt (h : st.Free f) (v w : Version)
    (hroom : (f.view st.connection).lastId + (st.rowsOn f v).length ≤ Decimal.maxInt64) :
    FailsAt (st.rowsOn f v) (.readTags (st.describe v)) 2 (f.run (st.copyTags v w)).1 ∧
      ∀ e g, f.run (st.copyTags v w) = (.error e, g) → g = f := by
  have hb := File.isBlocked_of_isLocked h.unlocked
  have hcopy : (∃ e, (f.run (st.records v)).1 = .error e ∧ f.run (st.copyTags v w) = (.error e, f)) ∨
      ∃ rs g, (f.run (st.records v)).1 = .ok rs ∧ f.run (st.copyTags v w) = (.ok (), g) := by
    rw [run_copyTags]
    cases hr : (f.run (st.records v)).1 with
    | error e => exact .inl ⟨e, rfl, rfl⟩
    | ok rs =>
      have hlen : (st.rowsOn f v).length = rs.length := by
        rw [records_ok_iff hb, Database.on_eq_joined] at hr
        exact hr.length_eq
      have hroom' : (f.view st.connection).lastId + rs.length ≤ Decimal.maxInt64 := by omega
      obtain ⟨g, hg⟩ := addTags_of_room (v := w) h hroom'
      exact .inr ⟨rs, g, rfl, hg⟩
  have hrecords := ReadsTime.recordOf.failsAt (st.rowsOn f v) (.readTags (st.describe v)) id
  rw [← run_records_eq hb] at hrecords
  refine ⟨hrecords.congr fun e => ?_, fun e g hg => ?_⟩
  · rcases hcopy with ⟨e', hr, hc⟩ | ⟨rs, g, hr, hc⟩
    · rw [hc, hr, Except.error.injEq, Except.error.injEq]
    · rw [hc, hr]
      exact ⟨nofun, nofun⟩
  · rcases hcopy with ⟨e', -, hc⟩ | ⟨rs, g', -, hc⟩
    · rw [hc] at hg
      cases hg
      rfl
    · rw [hc] at hg
      cases hg

/-! ### Versions -/

theorem run_pathsWithAny (hb : f.isBlocked st.connection = false) (names : List String) :
    (f.run (st.pathsWithAny names)).1 =
      if maxValues ≤ names.length then .error (.storage (.findPaths names) (.tooManyNames names.length))
      else (((f.view st.connection).versionsWithAny st.tenant names).mapError (.storage (.findPaths names))).map
        (Read.pathsOf st) := by
  by_cases hnil : names = []
  · subst hnil
    have hnone : (f.view st.connection).versionsWithAny st.tenant [] = .ok [] := by
      simp [Database.versionsWithAny, Database.tagsNamed, pure, Except.pure]
    rw [if_neg (by decide), hnone]
    rfl
  · by_cases hmany : maxValues ≤ names.length
    · simp only [pathsWithAny, if_neg hnil, if_pos hmany]
      rfl
    · simp only [pathsWithAny, if_neg hnil, if_neg hmany]
      show (f.run (st.ask (.findPaths names) _ >>= fun vs => pure (Read.pathsOf st vs))).1 = _
      rw [File.run_bind_pure, run_ask_of_sight hb]

/-- What a search comes to on rows that cannot be read.  So many names as no statement can take are refused. -/
structure FailsSearching (st : Store) (f : File) (names : List String) : Prop where
  selects : ∀ l, l ∈ (f.view st.connection).linksNamed st.tenant names ↔
    l ∈ (f.view st.connection).links ∧ l.tenant = .int st.tenant ∧ ∃ t ∈ (f.view st.connection).tags,
      t.tenant = .int st.tenant ∧ l.tag.integer? = some t.id ∧ Text.lowercase t.name ∈ names.map Text.lowercase
  fails : (∃ e, (f.run (st.pathsWithAny names)).1 = .error e) ↔ maxValues ≤ names.length ∨
    ∃ l, Database.Strays ((f.view st.connection).linksNamed st.tenant names) l
  least : ∀ e, (f.run (st.pathsWithAny names)).1 = .error e → names.length < maxValues →
    ∃ l, Database.Strays ((f.view st.connection).linksNamed st.tenant names) l ∧
      (∀ k, Database.Strays ((f.view st.connection).linksNamed st.tenant names) k →
        l.version.le k.version = true) ∧
      e = .storage (.findPaths names) (.notAnInteger l.version.typeName 0 "version")

theorem failsSearching (hb : f.isBlocked st.connection = false) (names : List String) : st.FailsSearching f names := by
  have hrun := run_pathsWithAny hb names
  refine ⟨fun l => Database.mem_linksNamed, ?_, fun e he hlt => ?_⟩
  · rw [hrun, ← Database.versionsWithAny_fails_iff]
    by_cases hmany : maxValues ≤ names.length
    · rw [if_pos hmany]
      exact iff_of_true ⟨_, rfl⟩ (.inl hmany)
    · rw [if_neg hmany, or_iff_right hmany]
      cases (f.view st.connection).versionsWithAny st.tenant names with
      | error e => exact iff_of_true ⟨_, rfl⟩ ⟨_, rfl⟩
      | ok vs => exact iff_of_false (fun ⟨_, h⟩ => nomatch h) fun ⟨_, h⟩ => nomatch h
  · rw [hrun, if_neg (Nat.not_le.2 hlt)] at he
    cases hv : (f.view st.connection).versionsWithAny st.tenant names with
    | error e' =>
      rw [hv] at he
      cases he
      obtain ⟨l, hl, hleast, rfl⟩ := Database.least_of_versionsWithAny hv
      exact ⟨l, hl, hleast, rfl⟩
    | ok vs =>
      rw [hv] at he
      cases he

/-! ### What does not look at them -/

theorem tagCounts_succeeds (hb : f.isBlocked st.connection = false) (v : Version) (request : PageRequest) :
    ∃ x, (f.run (st.tagCounts v request)).1 = .ok x := by
  have hlook : ∀ {α : Type} (q : Database → α) (k : α → List TagCount × PageRequest),
      ∃ x, (f.run (st.look (.countTags (st.describe v)) q >>= fun y => pure (k y))).1 = .ok x := by
    intro α q k
    rw [File.run_bind_pure, run_look_of_sight hb]
    exact ⟨_, rfl⟩
  unfold tagCounts
  cases request.page with
  | none => exact hlook _ _
  | some p =>
    by_cases hp : st.paginated = true
    · simp only [if_pos hp]
      exact hlook _ _
    · simp only [if_neg hp]
      exact hlook _ _

/-- What a store reports of rows that cannot be read. -/
structure Reports (st : Store) (f : File) : Prop where
  records : ∀ v, FailsAt (st.rowsOn f v) (.readTags (st.describe v)) 2 (f.run (st.records v)).1
  taggings : ∀ v, FailsAt (st.rowsOn f v) (.readTaggings (st.describe v)) 3 (f.run (st.taggings v)).1
  taggingsNamed : ∀ v n a, FailsAt ((st.rowsOn f v).filter fun t => t.name == n && a.admits t.author)
    (.readTagging n (st.describe v) a) 3 (f.run (st.taggingsNamed v n a)).1
  /-- A copy that fails writes nothing. -/
  copyTags : ∀ v w, (f.view st.connection).lastId + (st.rowsOn f v).length ≤ Decimal.maxInt64 →
    FailsAt (st.rowsOn f v) (.readTags (st.describe v)) 2 (f.run (st.copyTags v w)).1 ∧
      ∀ e g, f.run (st.copyTags v w) = (.error e, g) → g = f
  pathsWithAny : ∀ names, st.FailsSearching f names
  tags : ∀ v, ∃ ns, (f.run (st.tags v)).1 = .ok ns
  hasTag : ∀ n v a, ∃ b, (f.run (st.hasTag n v a)).1 = .ok b
  countTag : ∀ v n, ∃ k, (f.run (st.countTag v n)).1 = .ok k
  tagCounts : ∀ v request, ∃ x, (f.run (st.tagCounts v request)).1 = .ok x
  stats : ∃ x, (f.run st.stats).1 = .ok x
  /-- A removal takes the rows out that it picks, whatever stands in them. -/
  removal : ∀ (w : Write) (now : Time.Instant) (v : Version) (pick : TagRow → Bool), w.removal? = some (v, pick) →
    ∃ g, f.run (w.perform st now) = (.ok (.number ((st.rowsOn f v).countP pick : Nat)), g) ∧
      g.Alike (f.put ((f.view st.connection).without st.tenant (((st.rowsOn f v).filter pick).map TagRow.id)))

/-- **Rows that cannot be read fail only the reads that select them.** -/
theorem reports_unreadable (st : Store) (f : File) (h : st.Free f) : st.Reports f := by
  have hb := File.isBlocked_of_isLocked h.unlocked
  exact {
    records v := by
      rw [run_records_eq hb]
      exact ReadsTime.recordOf.failsAt _ _ _
    taggings v := by
      have hrun := run_withPath_eq (v := v) hb (.readTaggings (st.describe v)) fun db => db.on st.tenant v
      rw [Database.on_eq_joined] at hrun
      exact hrun ▸ ReadsTime.taggingOf.failsAt _ _ _
    taggingsNamed v n a := by
      have hrun := run_withPath_eq (v := v) hb (.readTagging n (st.describe v) a) fun db =>
        (db.on st.tenant v).filter fun t => t.name == n && a.admits t.author
      rw [Database.on_eq_joined] at hrun
      exact hrun ▸ ReadsTime.taggingOf.failsAt _ _ _
    copyTags v w hroom := copyTags_failsAt h v w hroom
    pathsWithAny names := failsSearching hb names
    tags v := ⟨_, run_look_of_sight hb _ _⟩
    hasTag n v a := ⟨_, run_look_of_sight hb _ _⟩
    countTag v n := ⟨_, run_look_of_sight hb _ _⟩
    tagCounts v request := tagCounts_succeeds hb v request
    stats := ⟨_, run_look_of_sight hb _ _⟩
    removal w now v pick hw := by
      have hf : ∀ x ∈ st.faults, ∀ n, x.on ≠ .tagDelete n := by
        rw [h.untriggered]
        nofun
      have hrun := w.run_of_removal st now hw hf h.unlocked h.writable
      rw [Database.on_eq_joined] at hrun
      exact hrun }

open Write (plainStore)

/-- Tables with times that cannot be read, of another tenant as well, and with a version that is a text. -/
def spoiltTables : Database :=
  .ofRows [⟨1, "n", "alice", "2024-02-29 12:00:00+00:00", .int 1⟩, ⟨2, "m", "bob", "yesterday", .int 1⟩,
      ⟨3, "n", "bob", "", .int 1⟩, ⟨4, "n", "carol", "", .int 2⟩]
    [⟨.int 1, .int 1, .int 1⟩, ⟨.int 2, .int 1, .int 1⟩, ⟨.int 3, .int 1, .int 1⟩, ⟨.int 4, .int 3, .int 2⟩,
      ⟨.int 1, .int 3, .int 1⟩, ⟨.int 3, .text "one", .int 1⟩]

/-- The first of two times that cannot be read is reported, and a version with a text beside it only to a search for
its tag. -/
theorem spoilt_rows_reported : let f := File.ofDatabase spoiltTables
    plainStore.Free f ∧
    (f.run (plainStore.records 1)).1 = .error (.storage (.readTags "<version 1>") (.unreadableTime 2 .invalid)) ∧
    (¬∃ e, (f.run (plainStore.records 3)).1 = .error e) ∧
    (∃ e, (f.run (plainStore.pathsWithAny ["N"])).1 = .error e) ∧
    ¬∃ e, (f.run (plainStore.pathsWithAny ["m"])).1 = .error e := by
  intro f
  have hfree : plainStore.Free f := ⟨rfl, rfl, rfl⟩
  have h := reports_unreadable plainStore f hfree
  refine ⟨hfree, ?_, ?_, ?_, ?_⟩
  · rw [(h.records 1).first]
    refine ⟨.invalid, ⟨[⟨1, "n", "alice", "2024-02-29 12:00:00+00:00", .int 1⟩], ⟨2, "m", "bob", "yesterday", .int 1⟩,
      [⟨3, "n", "bob", "", .int 1⟩], by decide, fun u hu => ?_, by decide⟩, by decide +kernel⟩
    obtain rfl := List.mem_singleton.1 hu
    exact ⟨Write.someTime, by decide +kernel⟩
  · rw [(h.records 3).fails]
    rintro ⟨t, ht, why, hwhy⟩
    have hrows : plainStore.rowsOn f 3 = [⟨1, "n", "alice", "2024-02-29 12:00:00+00:00", .int 1⟩] := by decide
    rw [hrows, List.mem_singleton] at ht
    subst ht
    have hread : Time.readStored "2024-02-29 12:00:00+00:00" = .ok Write.someTime := by decide +kernel
    rw [hread] at hwhy
    cases hwhy
  · rw [(h.pathsWithAny ["N"]).fails]
    have hl : (⟨.int 3, .text "one", .int 1⟩ : LinkRow) ∈ spoiltTables.linksNamed 1 ["N"] :=
      Database.mem_linksNamed.2 ⟨by decide, rfl, ⟨3, "n", "bob", "", .int 1⟩, by decide, rfl, rfl, by decide +kernel⟩
    exact .inr (Database.exists_strays hl fun _ => rfl)
  · rw [(h.pathsWithAny ["m"]).fails]
    rintro (hmany | ⟨l, pre, post, hls, -, hint⟩)
    · revert hmany
      decide
    · have hl : l ∈ spoiltTables.linksNamed 1 ["m"] := by
        show l ∈ (f.view plainStore.connection).linksNamed plainStore.tenant ["m"]
        rw [hls]
        simp
      obtain ⟨hl, -, t, ht, -, hid, hn⟩ := Database.mem_linksNamed.1 hl
      have hall : ∀ l ∈ spoiltTables.links, ∀ t ∈ spoiltTables.tags, l.tag.integer? = some t.id →
          Text.lowercase t.name ∈ ["m"].map Text.lowercase → l.version = .int 1 := by
        decide +kernel
      exact hint 1 (hall l hl t ht hid hn)

/-- A version that is the least integer, and the same once more as a real number. -/
def mergedTables : Database :=
  .ofRows [⟨1, "n", "alice", "2024-02-29 12:00:00+00:00", .int 1⟩]
    [⟨.int 1, .int Decimal.minInt64, .int 1⟩, ⟨.int 1, .real (-1) 63, .int 1⟩]

theorem linksNamed_mergedTables : mergedTables.linksNamed 1 ["n"] =
    [⟨.int 1, .int Decimal.minInt64, .int 1⟩, ⟨.int 1, .real (-1) 63, .int 1⟩] := by
  have htag : mergedTables.tags.filter (fun t => t.tenant == .int 1 &&
      (["n"].map Text.lowercase).contains (Text.lowercase t.name)) =
        [⟨1, "n", "alice", "2024-02-29 12:00:00+00:00", .int 1⟩] := by
    decide +kernel
  have htags : mergedTables.tagsNamed 1 ["n"] = [⟨1, "n", "alice", "2024-02-29 12:00:00+00:00", .int 1⟩] := by
    rw [Database.tagsNamed]
    simp only [htag]
    rw [List.mergeSort_singleton]
  rw [Database.linksNamed, htags, List.flatMap_singleton, Database.linksOf, Database.linkIndex_getD]
  decide

/-- **A search may succeed on a version that is no integer, and fail on none.**  A real number goes unnoticed behind the
integer that it is, and so many names as no statement can take are refused whatever the rows. -/
theorem search_fails_otherwise : let names := List.replicate maxValues "n"
    (⟨.int 1, .real (-1) 63, .int 1⟩ ∈ mergedTables.linksNamed 1 ["n"] ∧
      ((File.ofDatabase mergedTables).run (plainStore.pathsWithAny ["n"])).1 = .ok []) ∧
    Database.empty.linksNamed 1 names = [] ∧
      ((File.ofDatabase .empty).run (plainStore.pathsWithAny names)).1 =
        .error (.storage (.findPaths names) (.tooManyNames maxValues)) := by
  intro names
  have hlen : names.length = maxValues := List.length_replicate
  refine ⟨⟨?_, ?_⟩, ?_, ?_⟩
  · rw [linksNamed_mergedTables]
    simp
  · have hcells : Database.versionCells [⟨.int 1, .int Decimal.minInt64, .int 1⟩, ⟨.int 1, .real (-1) 63, .int 1⟩] =
        [.int Decimal.minInt64] := by
      have honce : [Cell.int Decimal.minInt64, .real (-1) 63].eraseDupsBy Cell.same = [.int Decimal.minInt64] := by
        decide
      rw [Database.versionCells, List.map_cons, List.map_singleton, honce, List.mergeSort_singleton]
    have hfound : mergedTables.versionsWithAny 1 ["n"] = .ok [Decimal.minInt64] := by
      rw [Database.versionsWithAny_eq, linksNamed_mergedTables, hcells]
      rfl
    have hview : (File.ofDatabase mergedTables).view plainStore.connection = mergedTables := rfl
    have htenant : plainStore.tenant = 1 := rfl
    rw [run_pathsWithAny rfl, if_neg (by decide), hview, htenant, hfound]
    rfl
  · simp [Database.linksNamed, Database.tagsNamed, Database.empty]
  · rw [run_pathsWithAny rfl, hlen, if_pos (Nat.le_refl _)]

end Store
end VersionTags
