import VersionTags.Proofs.Store.AllOrNothing
import VersionTags.Proofs.Store.Joined
import VersionTags.Proofs.Text.ByteOrder
/-!
# Counts of names

The counts of a version group its names by their bytes, while a count of one name looks at lowercase forms.  The groups
are a partition of the names, so that whatever names are asked for, their counts add up to the number of tags that have
one of them (`Database.total_counts`).  Hence a count of one name is the sum over all groups that differ from it in case
only (`Store.counts_agree`).
-/
namespace VersionTags

/-- The sum of the counts. -/
def TagCount.total (rows : List TagCount) : Nat := rows.foldr (fun c n => c.count + n) 0

/-- Whether a row stands before another in the order asked for.  Rows of equal counts stand by name. -/
def Precedes : Option (SortField × SortOrder) → TagCount → TagCount → Prop
  | none, c, d => Text.Before c.name d.name
  | some (.tagName, .asc), c, d => Text.Before c.name d.name
  | some (.tagName, .desc), c, d => Text.Before d.name c.name
  | some (.tagCount, .asc), c, d => c.count < d.count ∨ c.count = d.count ∧ Text.Before c.name d.name
  | some (.tagCount, .desc), c, d => d.count < c.count ∨ d.count = c.count ∧ Text.Before d.name c.name

instance : (order : Option (SortField × SortOrder)) → (c d : TagCount) → Decidable (Precedes order c d)
  | none, c, d => inferInstanceAs (Decidable (Text.Before c.name d.name))
  | some (.tagName, .asc), c, d => inferInstanceAs (Decidable (Text.Before c.name d.name))
  | some (.tagName, .desc), c, d => inferInstanceAs (Decidable (Text.Before d.name c.name))
  | some (.tagCount, .asc), c, d =>
    inferInstanceAs (Decidable (c.count < d.count ∨ c.count = d.count ∧ Text.Before c.name d.name))
  | some (.tagCount, .desc), c, d =>
    inferInstanceAs (Decidable (d.count < c.count ∨ d.count = c.count ∧ Text.Before d.name c.name))

theorem Precedes.asymm {order : Option (SortField × SortOrder)} {c d : TagCount} (h : Precedes order c d) :
    ¬Precedes order d c := by
  -- of two rows that go by count, the one that stands before has the lesser count or else the lesser name
  have hcount : ∀ {a b : TagCount}, (a.count < b.count ∨ a.count = b.count ∧ Text.Before a.name b.name) →
      ¬(b.count < a.count ∨ b.count = a.count ∧ Text.Before b.name a.name) := by
    rintro a b (hlt | ⟨he, hb⟩) (hgt | ⟨he', hb'⟩)
    · omega
    · omega
    · omega
    · exact hb.asymm hb'
  match order with
  | none => exact Text.Before.asymm h
  | some (.tagName, .asc) => exact Text.Before.asymm h
  | some (.tagName, .desc) => exact Text.Before.asymm h
  | some (.tagCount, .asc) => exact hcount h
  | some (.tagCount, .desc) => exact hcount h

/-- The rows are those of the distinct names, with the number of times that each occurs, in the order asked for. -/
structure Arranged (names : List String) (order : Option (SortField × SortOrder)) (rows : List TagCount) : Prop where
  ordered : rows.Pairwise (Precedes order)
  listed : ∀ n, n ∈ rows.map TagCount.name ↔ n ∈ names
  count : ∀ c ∈ rows, c.count = names.count c.name

namespace Arranged

variable {names names' : List String} {order : Option (SortField × SortOrder)} {rows : List TagCount}

theorem mem_iff (h : Arranged names order rows) {c : TagCount} :
    c ∈ rows ↔ c.name ∈ names ∧ c.count = names.count c.name := by
  refine ⟨fun hc => ⟨(h.listed _).1 (List.mem_map_of_mem hc), h.count c hc⟩, fun ⟨hn, hc⟩ => ?_⟩
  obtain ⟨d, hd, hdn⟩ := List.mem_map.1 ((h.listed _).2 hn)
  have hdc := h.count d hd
  obtain ⟨n, k⟩ := c
  obtain ⟨m, l⟩ := d
  cases hdn
  rwa [show k = l from hc.trans hdc.symm]

theorem iff_forall : Arranged names order rows ↔ rows.Pairwise (Precedes order) ∧
    (∀ c ∈ rows, c.name ∈ names ∧ c.count = names.count c.name) ∧ ∀ n ∈ names, n ∈ rows.map TagCount.name := by
  refine ⟨fun h => ⟨h.ordered, fun c hc => h.mem_iff.1 hc, fun n hn => (h.listed n).2 hn⟩, fun ⟨ho, hr, hn⟩ => ?_⟩
  refine ⟨ho, fun n => ⟨fun h => ?_, hn n⟩, fun c hc => (hr c hc).2⟩
  obtain ⟨c, hc, rfl⟩ := List.mem_map.1 h
  exact (hr c hc).1

instance : Decidable (Arranged names order rows) := decidable_of_iff' _ iff_forall

theorem count_pos (h : Arranged names order rows) {c : TagCount} (hc : c ∈ rows) : 0 < c.count := by
  rw [h.count c hc, List.count_pos_iff]
  exact (h.mem_iff.1 hc).1

/-- Names leave one arrangement in an order. -/
theorem unique {rows' : List TagCount} (h : Arranged names order rows) (h' : Arranged names order rows') :
    rows = rows' := by
  have hnodup : ∀ {rs : List TagCount}, Arranged names order rs → rs.Nodup := by
    intro rs hr
    refine hr.ordered.imp fun {c d} hp he => ?_
    rw [he] at hp
    exact hp.asymm hp
  refine List.Perm.eq_of_pairwise (fun c d _ _ hc hd => absurd hd hc.asymm) h.ordered h'.ordered ?_
  rw [List.perm_ext_iff_of_nodup (hnodup h) (hnodup h')]
  exact fun c => h.mem_iff.trans h'.mem_iff.symm

theorem of_perm (hp : names.Perm names') (h : Arranged names order rows) : Arranged names' order rows :=
  ⟨h.ordered, fun n => (h.listed n).trans hp.mem_iff, fun c hc => (h.count c hc).trans (hp.count_eq _)⟩

end Arranged

/-! ## Grouping -/

namespace Database

/-- Counting one more name adds it to the group it belongs to. -/
theorem total_countOne (p : String → Bool) (n : String) (rows : List TagCount) :
    TagCount.total ((countOne n rows).filter fun c => p c.name) =
      TagCount.total (rows.filter fun c => p c.name) + if p n then 1 else 0 := by
  cases rows with
  | nil => cases hp : p n <;> simp [countOne, hp, TagCount.total]
  | cons c rows =>
    by_cases hc : c.name = n
    · cases hp : p n <;> simp [countOne, hc, hp, TagCount.total]
      omega
    · cases hp : p n <;> simp [countOne, hc, hp, TagCount.total]
      omega

theorem arranged_countOne {n : String} {ns : List String} {rows : List TagCount} (hn : ∀ m ∈ ns, n ≤ m)
    (h : Arranged ns none rows) : Arranged (n :: ns) none (countOne n rows) := by
  cases rows with
  | nil =>
    have hns : ns = [] := List.eq_nil_iff_forall_not_mem.2 fun m hm => nomatch (h.listed m).2 hm
    subst hns
    exact ⟨List.pairwise_singleton _ _, by simp [countOne], by simp [countOne]⟩
  | cons c rows =>
    obtain ⟨hc, hrows⟩ := List.pairwise_cons.1 h.ordered
    have hle : n ≤ c.name := hn _ ((h.listed _).1 List.mem_cons_self)
    have hlater : ∀ d ∈ rows, n < d.name := fun d hd => Std.lt_of_le_of_lt hle (Text.before_iff.1 (hc d hd))
    by_cases he : c.name = n
    · -- one more of the first group
      rw [countOne, if_pos he]
      refine ⟨List.pairwise_cons.2 ⟨fun d hd => Text.before_iff.2 (hlater d hd), hrows⟩, fun m => ?_, fun d hd => ?_⟩
      · have hm := h.listed m
        rw [List.map_cons, List.mem_cons, he] at hm
        rw [List.map_cons, List.mem_cons, List.mem_cons, ← hm]
        exact ⟨fun h => h.elim .inl fun h => .inr (.inr h), fun h => h.elim .inl id⟩
      · rcases List.mem_cons.1 hd with rfl | hd
        · have hcount := h.count c List.mem_cons_self
          rw [he] at hcount
          rw [List.count_cons_self, hcount]
        · rw [List.count_cons_of_ne (String.ne_of_lt (hlater d hd)), h.count d (List.mem_cons_of_mem c hd)]
    · -- a new group before all others
      have hlt : n < c.name := Std.lt_of_le_of_ne hle (Ne.symm he)
      have hall : ∀ d ∈ c :: rows, n < d.name := by
        intro d hd
        rcases List.mem_cons.1 hd with rfl | hd
        · exact hlt
        · exact hlater d hd
      rw [countOne, if_neg he]
      refine ⟨List.pairwise_cons.2 ⟨fun d hd => Text.before_iff.2 (hall d hd), h.ordered⟩, fun m => ?_, fun d hd => ?_⟩
      · rw [List.map_cons, List.mem_cons, List.mem_cons, h.listed]
      · rcases List.mem_cons.1 hd with rfl | hd
        · have hnew : n ∉ ns := by
            intro hn
            obtain ⟨d, hd, hdn⟩ := List.mem_map.1 ((h.listed n).2 hn)
            exact String.ne_of_lt (hall d hd) hdn.symm
          rw [List.count_cons_self, List.count_eq_zero_of_not_mem hnew]
        · rw [List.count_cons_of_ne (String.ne_of_lt (hall d hd)), h.count d hd]

theorem arranged_foldr : ∀ {ns : List String}, ns.Pairwise (fun a b => a ≤ b) → Arranged ns none (ns.foldr countOne [])
  | [], _ => ⟨.nil, fun _ => Iff.rfl, nofun⟩
  | n :: ns, h => by
    obtain ⟨hn, hns⟩ := List.pairwise_cons.1 h
    exact arranged_countOne hn (arranged_foldr hns)

variable (db : Database) (T : Tenant) (v : Version)

/-- **The counts group the names on the version.** -/
theorem arranged_counts : Arranged (db.names T v) none (db.counts T v) := by
  have hs : ((db.names T v).mergeSort fun a b => decide (a ≤ b)).Pairwise fun a b => decide (a ≤ b) = true :=
    List.pairwise_mergeSort (fun a b c => by simpa using String.le_trans)
      (fun a b => by simpa using String.le_total a b) _
  have ho := arranged_foldr (hs.imp fun h => of_decide_eq_true h)
  exact ho.of_perm (List.mergeSort_perm _ _)

theorem total_foldr (p : String → Bool) : ∀ ns : List String,
    TagCount.total ((ns.foldr countOne []).filter fun c => p c.name) = ns.countP p
  | [] => rfl
  | n :: ns => by rw [List.foldr_cons, total_countOne, total_foldr p ns, List.countP_cons]

/-- **Whatever names are asked for, their counts add up to the number of tags that have one of them.** -/
theorem total_counts (p : String → Bool) :
    TagCount.total ((db.counts T v).filter fun c => p c.name) = (db.names T v).countP p := by
  rw [counts, total_foldr]
  exact (List.mergeSort_perm _ _).countP_eq p

theorem countNamed_eq (n : String) : db.countNamed T v n = (db.names T v).countP fun m => Text.sameFold m n := by
  rw [countNamed, names, List.countP_map]
  rfl

end Database

/-! ## Counts as they are read -/

namespace Store

variable (st : Store) (f : File) (v : Version)

/-- What a request for the counts is answered from the tables, and how the request comes back. -/
def countsFor (request : PageRequest) (db : Database) : List TagCount × PageRequest :=
  match request.page with
  | some p =>
    if st.paginated then
      let (rows, total) := db.countsPage st.tenant v p
      (rows, request.setRowCount total)
    else (db.counts st.tenant v, request)
  | none => (db.counts st.tenant v, request)

theorem run_tagCounts (request : PageRequest) : f.run (st.tagCounts v request) =
    ((Task.countTags (st.describe v)).answer (f.sight st.connection) fun db => .ok (st.countsFor v request db), f) := by
  unfold tagCounts countsFor
  cases request.page with
  | none => exact Read.run_look_bind f st _ _ _
  | some p =>
    cases st.paginated with
    | true => exact Read.run_look_bind f st _ _ _
    | false => exact Read.run_look_bind f st _ _ _

theorem countsFor_of_whole {request : PageRequest} (h : request.page = none ∨ st.paginated = false) (db : Database) :
    st.countsFor v request db = (db.counts st.tenant v, request) := by
  unfold countsFor
  rcases h with h | h <;> rw [h]
  cases request.page <;> rfl

/-- **The counts agree with the names and with the counts of one name.**  Where no page is served, they list each
distinct name on the version once, in the order of its bytes, with the number of times that it occurs; the count of one
name is the sum over all names listed that are the same up to case.  A store that cannot read fails at all of them. -/
theorem counts_agree :
    if f.isBlocked st.connection then
      (f.run (st.tags v)).1 = .error (.storage (.readTags (st.describe v)) .locked) ∧
        (∀ r, (f.run (st.tagCounts v r)).1 = .error (.storage (.countTags (st.describe v)) .locked)) ∧
        ∀ n, (f.run (st.countTag v n)).1 = .error (.storage (.countTag n (st.describe v)) .locked)
    else ∃ (names : List String) (rows : List TagCount),
      (f.run (st.tags v)).1 = .ok names ∧
      (∀ r : PageRequest, r.page = none ∨ st.paginated = false → (f.run (st.tagCounts v r)).1 = .ok (rows, r)) ∧
      Arranged names none rows ∧ (rows.map TagCount.name).Nodup ∧ (∀ c ∈ rows, 0 < c.count) ∧
      TagCount.total rows = names.length ∧
      ∀ n, (f.run (st.countTag v n)).1 = .ok (TagCount.total (rows.filter fun c => Text.sameFold c.name n)) := by
  have hn : ∀ n, (f.run (st.countTag v n)).1 =
      Task.answer (.countTag n (st.describe v)) (f.sight st.connection) fun db =>
        .ok (db.countNamed st.tenant v n) := fun n => congrArg Prod.fst (run_ask f st _ _)
  have ht : (f.run (st.tags v)).1 = Task.answer (.readTags (st.describe v)) (f.sight st.connection) fun db =>
      .ok (db.names st.tenant v) := congrArg Prod.fst (run_ask f st _ _)
  split
  · rename_i hb
    have hs : f.sight st.connection = .error .locked := if_pos hb
    refine ⟨?_, fun r => ?_, fun n => ?_⟩
    · rw [ht, hs]
      rfl
    · rw [run_tagCounts, hs]
      rfl
    · rw [hn, hs]
      rfl
  · rename_i hb
    have hs : f.sight st.connection = .ok (f.view st.connection) := if_neg hb
    generalize f.view st.connection = db at hs
    have ha := db.arranged_counts st.tenant v
    refine ⟨db.names st.tenant v, db.counts st.tenant v, ?_, fun r hr => ?_, ha, ?_, fun c hc => ha.count_pos hc, ?_,
      fun n => ?_⟩
    · rw [ht, hs]
      rfl
    · rw [run_tagCounts, hs, Task.answer, st.countsFor_of_whole v hr]
      rfl
    · refine List.pairwise_map.2 (ha.ordered.imp fun h he => ?_)
      exact String.ne_of_lt (Text.before_iff.1 h) he
    · have hall := db.total_counts st.tenant v fun _ => true
      rwa [List.filter_true, List.countP_true] at hall
    · rw [hn, hs, Task.answer, Database.countNamed_eq, ← Database.total_counts]
      rfl

open Write (plainStore)

/-- A file with a name in either case on a version. -/
def casedFile : File := .ofDatabase (.ofRows
  [⟨1, "n", "alice", "2024-02-29 12:00:00+00:00", .int 1⟩, ⟨2, "a", "alice", "2024-02-29 12:00:00+00:00", .int 1⟩,
    ⟨3, "N", "alice", "2024-02-29 12:00:00+00:00", .int 1⟩, ⟨4, "n", "bob", "2024-02-29 12:00:00+00:00", .int 1⟩,
    ⟨5, "a", "bob", "2024-02-29 12:00:00+00:00", .int 1⟩]
  [⟨.int 1, .int 1, .int 1⟩, ⟨.int 2, .int 1, .int 1⟩, ⟨.int 3, .int 1, .int 1⟩, ⟨.int 4, .int 1, .int 1⟩,
    ⟨.int 5, .int 1, .int 1⟩])

theorem tags_casedFile : (casedFile.run (plainStore.tags 1)).1 = .ok ["n", "a", "N", "n", "a"] := by
  rw [tags, run_look_of_sight (by decide), Database.names, Database.on_eq]
  rfl

/-- The name is listed in either case and counted in both. -/
theorem cases_listed_apart : ∃ rows,
    (casedFile.run (plainStore.tagCounts 1 .unpaginated)).1 = .ok (rows, .unpaginated) ∧
      rows = [⟨"N", 1⟩, ⟨"a", 2⟩, ⟨"n", 2⟩] ∧ (casedFile.run (plainStore.countTag 1 "N")).1 = .ok 3 := by
  have h := counts_agree plainStore casedFile 1
  rw [if_neg (by decide)] at h
  obtain ⟨names, rows, ht, hr, ha, -, -, -, hc⟩ := h
  obtain rfl := Except.ok.inj (ht.symm.trans tags_casedFile)
  have hrows : Arranged ["n", "a", "N", "n", "a"] none [⟨"N", 1⟩, ⟨"a", 2⟩, ⟨"n", 2⟩] := by decide
  obtain rfl := ha.unique hrows
  exact ⟨_, hr _ (.inl rfl), rfl, (hc "N").trans (by decide +kernel)⟩

end Store
end VersionTags
