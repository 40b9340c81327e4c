import VersionTags.Proofs.Store.Counts
/-!
# Pages of counts

A page is a part of one list: the counts in the order asked for, which the names leave no choice in.  Rows of equal
counts have an order too, so that pages of one size, one after another, are the whole list again (`Store.pages_tile`).
How many rows there are in all is said with every page, whatever the page.
-/
namespace VersionTags

/-! ## Counts in the order asked for -/

namespace Database

theorem count_le_trans (a b c : TagCount) : decide (a.count ≤ b.count) = true → decide (b.count ≤ c.count) = true →
    decide (a.count ≤ c.count) = true := by
  simpa using Nat.le_trans

theorem count_le_total (a b : TagCount) : (decide (a.count ≤ b.count) || decide (b.count ≤ a.count)) = true := by
  simpa using Nat.le_total a.count b.count

/-- Rows of one count keep their order when all are sorted by count. -/
theorem filter_mergeSort_count (rows : List TagCount) (k : Nat) :
    ((rows.mergeSort fun c d => decide (c.count ≤ d.count)).filter fun c => c.count == k) =
      rows.filter fun c => c.count == k := by
  have hp : (rows.filter fun c => c.count == k).Pairwise fun c d => decide (c.count ≤ d.count) = true := by
    refine List.pairwise_iff_forall_sublist.2 fun {c d} h => ?_
    have hc : c.count = k := by simpa using (List.mem_filter.1 (h.subset List.mem_cons_self)).2
    have hd : d.count = k := by simpa using (List.mem_filter.1 (h.subset (List.mem_cons_of_mem c List.mem_cons_self))).2
    exact decide_eq_true (Nat.le_of_eq (hc.trans hd.symm))
  have hs := (List.sublist_mergeSort count_le_trans count_le_total hp List.filter_sublist).filter fun c => c.count == k
  rw [List.filter_filter] at hs
  simp only [Bool.and_self] at hs
  exact (hs.eq_of_length ((List.mergeSort_perm rows _).filter _).length_eq.symm).symm

theorem ordered_mergeSort_count {rows : List TagCount} (h : rows.Pairwise (Precedes none)) :
    (rows.mergeSort fun c d => decide (c.count ≤ d.count)).Pairwise (Precedes (some (.tagCount, .asc))) := by
  refine List.pairwise_iff_forall_sublist.2 fun {c d} hcd => ?_
  have hle := List.pairwise_iff_forall_sublist.1 (List.pairwise_mergeSort count_le_trans count_le_total rows) hcd
  rw [decide_eq_true_eq] at hle
  rcases Nat.lt_or_eq_of_le hle with hlt | he
  · exact .inl hlt
  · -- the two are of one count and stand as they did before
    refine .inr ⟨he, List.pairwise_iff_forall_sublist.1 h ?_⟩
    have hk := hcd.filter fun a => a.count == d.count
    rw [filter_mergeSort_count, List.filter_eq_self.2 (by simp [he])] at hk
    exact hk.trans List.filter_sublist

/-- **The counts are put into the order asked for**, and nothing is lost. -/
theorem arranged_sortCounts {names : List String} {rows : List TagCount} (h : Arranged names none rows)
    (order : Option (SortField × SortOrder)) : Arranged names order (sortCounts order rows) := by
  have harrange : ∀ {o rs}, rs.Perm rows → rs.Pairwise (Precedes o) → Arranged names o rs := fun hp ho =>
    ⟨ho, fun n => (hp.map _).mem_iff.trans (h.listed n), fun c hc => h.count c (hp.mem_iff.1 hc)⟩
  have hcount := ordered_mergeSort_count h.ordered
  have hperm : (rows.mergeSort fun c d => decide (c.count ≤ d.count)).Perm rows := List.mergeSort_perm _ _
  match order with
  | none => exact h
  | some (.tagName, .asc) => exact harrange (.refl _) h.ordered
  | some (.tagName, .desc) => exact harrange (List.reverse_perm _) (List.pairwise_reverse.2 h.ordered)
  | some (.tagCount, .asc) => exact harrange hperm hcount
  | some (.tagCount, .desc) =>
    exact harrange ((List.reverse_perm _).trans hperm) (List.pairwise_reverse.2 hcount)

theorem sortCounts_desc (field : SortField) (rows : List TagCount) :
    sortCounts (some (field, .desc)) rows = (sortCounts (some (field, .asc)) rows).reverse := by
  cases field <;> rfl

theorem length_sortCounts (order : Option (SortField × SortOrder)) (rows : List TagCount) :
    (sortCounts order rows).length = rows.length := by
  match order with
  | none => rfl
  | some (.tagName, .asc) => rfl
  | some (.tagName, .desc) => exact List.length_reverse
  | some (.tagCount, .asc) => exact List.length_mergeSort _
  | some (.tagCount, .desc) => exact List.length_reverse.trans (List.length_mergeSort _)

/-- Numbers beyond 63 bits cut a page as the greatest number does, where no list is that long. -/
theorem countsPage_eq {db : Database} {T : Tenant} {v : Version} (h : (db.counts T v).length < Nat.pow 2 63)
    (p : Page) : db.countsPage T v p =
      (((sortCounts p.order? (db.counts T v)).drop (max p.start 1 - 1)).take p.count, (db.counts T v).length) := by
  have hl := length_sortCounts p.order? (db.counts T v)
  have hm : maxRows = Nat.pow 2 63 - 1 := by decide
  have hskip : ∀ {rows : List TagCount} {n}, rows.length ≤ maxRows → rows.drop (min n maxRows) = rows.drop n := by
    intro rows n hr
    rcases Nat.le_total n maxRows with hn | hn
    · rw [Nat.min_eq_left hn]
    · rw [Nat.min_eq_right hn, List.drop_eq_nil_of_le hr, List.drop_eq_nil_of_le (Nat.le_trans hr hn)]
  have hcut : ∀ {rows : List TagCount} {n}, rows.length ≤ maxRows → rows.take (min n maxRows) = rows.take n := by
    intro rows n hr
    rcases Nat.le_total n maxRows with hn | hn
    · rw [Nat.min_eq_left hn]
    · rw [Nat.min_eq_right hn, List.take_of_length_le hr, List.take_of_length_le (Nat.le_trans hr hn)]
  have hle : (sortCounts p.order? (db.counts T v)).length ≤ maxRows := by omega
  rw [countsPage, hskip hle, hcut (Nat.le_trans (by simp) hle)]
  rfl

end Database

/-! ## Pages -/

theorem flatMap_pages {α : Type} (xs : List α) (c : Nat) : ∀ k : Nat,
    ((List.range k).flatMap fun i => (xs.drop (i * c)).take c) = xs.take (k * c)
  | 0 => by simp
  | k + 1 => by
    rw [List.range_succ, List.flatMap_append, flatMap_pages xs c k, List.flatMap_singleton, Nat.succ_mul, List.take_add]

namespace Store

/-- What a store answers to requests for the counts of a version: parts of the list in the order asked for. -/
structure Pages (st : Store) (f : File) (v : Version) (names : List String)
    (list : Option (SortField × SortOrder) → List TagCount) : Prop where
  tags : (f.run (st.tags v)).1 = .ok names
  /-- The names leave one list in each order. -/
  arranged : ∀ order rows, Arranged names order rows ↔ rows = list order
  backwards : ∀ field, list (some (field, .desc)) = (list (some (field, .asc))).reverse
  /-- Where no page is asked for or served, the request comes back as it was. -/
  whole : ∀ r : PageRequest, r.page = none ∨ st.paginated = false → (f.run (st.tagCounts v r)).1 = .ok (list none, r)
  /-- A page starts at its first row, counted from 1, and the first row is meant by 0 as well. -/
  slice : st.paginated = true → (list none).length < Nat.pow 2 63 → ∀ (p : Page) (n : Option Nat),
    (f.run (st.tagCounts v ⟨some p, n⟩)).1 =
      .ok (((list p.order?).drop (max p.start 1 - 1)).take p.count, ⟨some p, some (list p.order?).length⟩)
  /-- Pages of one size follow one another without a gap. -/
  tiled : st.paginated = true → (list none).length < Nat.pow 2 63 → ∀ order c, ∃ page : Nat → List TagCount,
    (∀ (i : Nat) (p : Page) (n : Option Nat), p.start = 1 + i * c → p.count = c → p.order? = order →
      (f.run (st.tagCounts v ⟨some p, n⟩)).1 = .ok (page i, ⟨some p, some (list order).length⟩)) ∧
    ∀ k, (list order).length ≤ k * c → (List.range k).flatMap page = list order

variable (st : Store) (f : File) (v : Version)

/-- **Pages of the counts are parts of one list and tile it.**  A store that cannot read fails at every request. -/
theorem pages_tile :
    if f.isBlocked st.connection then
      ∀ r, (f.run (st.tagCounts v r)).1 = .error (.storage (.countTags (st.describe v)) .locked)
    else ∃ names list, st.Pages f v names list := by
  split
  · rename_i hb
    have hs : f.sight st.connection = .error .locked := if_pos hb
    intro r
    rw [run_tagCounts, hs]
    rfl
  · rename_i hb
    have hs : f.sight st.connection = .ok (f.view st.connection) := if_neg hb
    generalize hdb : f.view st.connection = db at hs
    have ha := db.arranged_counts st.tenant v
    have hlist : ∀ order, Arranged (db.names st.tenant v) order (Database.sortCounts order (db.counts st.tenant v)) :=
      Database.arranged_sortCounts ha
    have hslice : st.paginated = true → (db.counts st.tenant v).length < Nat.pow 2 63 → ∀ (p : Page) (n : Option Nat),
        (f.run (st.tagCounts v ⟨some p, n⟩)).1 =
          .ok (((Database.sortCounts p.order? (db.counts st.tenant v)).drop (max p.start 1 - 1)).take p.count,
            ⟨some p, some (Database.sortCounts p.order? (db.counts st.tenant v)).length⟩) := by
      intro hp hl p n
      rw [run_tagCounts, hs, Task.answer, Database.length_sortCounts]
      simp only [countsFor, hp, Database.countsPage_eq hl, ↓reduceIte]
      rfl
    refine ⟨db.names st.tenant v, fun order => Database.sortCounts order (db.counts st.tenant v), ?_,
      fun order rows => ?_, fun field => Database.sortCounts_desc field _, fun r hr => ?_, hslice,
      fun hp hl order c => ?_⟩
    · rw [tags, run_look_of_sight (Bool.eq_false_iff.2 hb), hdb]
    · exact ⟨fun h => h.unique (hlist order), fun h => h ▸ hlist order⟩
    · rw [run_tagCounts, hs, Task.answer, st.countsFor_of_whole v hr]
      rfl
    · refine ⟨fun i => ((Database.sortCounts order (db.counts st.tenant v)).drop (i * c)).take c, ?_, fun k hk => ?_⟩
      · rintro i p n hstart rfl rfl
        rw [hslice hp hl, hstart, Nat.max_eq_left (Nat.le_add_right 1 _), Nat.add_sub_cancel_left]
      · rw [flatMap_pages, List.take_of_length_le hk]

open Write (plainStore)

/-- Of two names that are given twice the greater stands first where the counts descend.  A start of 0 is the first row,
and the greatest size takes all that is left. -/
theorem equal_counts_descend :
    (casedFile.run (plainStore.tagCounts 1 (.ofPage ⟨0, 1, some .tagCount, some .desc⟩))).1 =
        .ok ([⟨"n", 2⟩], ⟨some ⟨0, 1, some .tagCount, some .desc⟩, some 3⟩) ∧
      (casedFile.run (plainStore.tagCounts 1 (.ofPage ⟨2, Decimal.maxNat64, some .tagCount, some .desc⟩))).1 =
        .ok ([⟨"a", 2⟩, ⟨"N", 1⟩], ⟨some ⟨2, Decimal.maxNat64, some .tagCount, some .desc⟩, some 3⟩) := by
  have h := pages_tile plainStore casedFile 1
  rw [if_neg (by decide)] at h
  obtain ⟨names, list, hp⟩ := h
  obtain rfl := Except.ok.inj (hp.tags.symm.trans tags_casedFile)
  have hnone : [⟨"N", 1⟩, ⟨"a", 2⟩, ⟨"n", 2⟩] = list none := (hp.arranged _ _).1 (by decide)
  have hdesc : [⟨"n", 2⟩, ⟨"a", 2⟩, ⟨"N", 1⟩] = list (some (.tagCount, .desc)) := (hp.arranged _ _).1 (by decide)
  have hs := hp.slice rfl (by rw [← hnone]; decide)
  have hfirst := hs ⟨0, 1, some .tagCount, some .desc⟩ none
  have hrest := hs ⟨2, Decimal.maxNat64, some .tagCount, some .desc⟩ none
  rw [show Page.order? _ = some (.tagCount, .desc) from rfl, ← hdesc] at hfirst hrest
  exact ⟨hfirst, hrest⟩

end Store
end VersionTags
