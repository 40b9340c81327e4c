import VersionTags.Proofs.Store.AllOrNothing
/-!
# The ids that are given

The tables remember the greatest id that they ever held, and an insertion gives the next one.  So what a change gives
ascends from above all that was there before (`Database.Grows`), and removals take nothing of that back.  Once the
greatest id there can be has been given, nothing more is put in (`Write.run_of_full`).
-/
namespace VersionTags

namespace Database

/-- The ids of the rows that a change has put in front, in the order in which they were put in. -/
def putIn (db db' : Database) : List TagId :=
  ((db'.tags.take (db'.tags.length - db.tags.length)).map TagRow.id).reverse

/-- A change that gave these ids, one after another, and put in no other row. -/
structure Grows (db db' : Database) (ids : List TagId) : Prop where
  above : ∀ id ∈ ids, db.lastId < id
  within : ∀ id ∈ ids, id ≤ db'.lastId
  ascending : ids.Pairwise (· < ·)
  lastId : db.lastId ≤ db'.lastId
  rows : ∀ t ∈ db'.tags, t ∈ db.tags ∨ t.id ∈ ids

namespace Grows

variable {a b c : Database} {is js : List TagId}

theorem refl (a : Database) : a.Grows a [] := ⟨nofun, nofun, .nil, Int.le_refl _, fun _ h => .inl h⟩

theorem trans (h : a.Grows b is) (h' : b.Grows c js) : a.Grows c (is ++ js) where
  above id hid := by
    rcases List.mem_append.1 hid with hi | hj
    · exact h.above id hi
    · exact Int.lt_of_le_of_lt h.lastId (h'.above id hj)
  within id hid := by
    rcases List.mem_append.1 hid with hi | hj
    · exact Int.le_trans (h.within id hi) h'.lastId
    · exact h'.within id hj
  ascending := List.pairwise_append.2 ⟨h.ascending, h'.ascending, fun i hi j hj =>
    Int.lt_of_le_of_lt (h.within i hi) (h'.above j hj)⟩
  lastId := Int.le_trans h.lastId h'.lastId
  rows t ht := by
    rcases h'.rows t ht with ht | ht
    · rcases h.rows t ht with ht | ht
      · exact .inl ht
      · exact .inr (List.mem_append_left _ ht)
    · exact .inr (List.mem_append_right _ ht)

/-- **Each id given is positive and above every id that was there before.** -/
theorem fresh (h : a.Grows b is) {id : TagId} (hid : id ∈ is) : 1 ≤ id ∧ ∀ t ∈ a.tags, t.id < id :=
  ⟨Int.lt_of_le_of_lt a.lastId_nonneg (h.above id hid), fun t ht => Int.lt_of_le_of_lt (a.id_le t ht) (h.above id hid)⟩

end Grows

variable (db : Database) (T : Tenant) (v : Version)

theorem grows_withTagging (r : TagRecord) : db.Grows (db.withTagging T v r) [db.lastId + 1] where
  above id hid := List.mem_singleton.1 hid ▸ Int.lt_succ db.lastId
  within id hid := List.mem_singleton.1 hid ▸ Int.le_of_eq (db.lastId_withTagging T v r).symm
  ascending := List.pairwise_singleton _ _
  lastId := by
    have h := db.lastId_withTagging T v r
    omega
  rows t ht := by
    rcases List.mem_cons.1 ht with rfl | ht
    · exact .inr List.mem_cons_self
    · exact .inl ht

theorem grows_without (ids : List TagId) : db.Grows (db.without T ids) [] where
  above := nofun
  within := nofun
  ascending := .nil
  lastId := Int.le_refl _
  rows _ ht := .inl (List.mem_filter.1 ht).1

theorem putIn_of_append {db' : Database} {new : List TagRow} (h : db'.tags = new ++ db.tags) :
    db.putIn db' = (new.map TagRow.id).reverse := by
  have hn : db'.tags.length - db.tags.length = new.length := by
    rw [h, List.length_append]
    omega
  rw [putIn, hn, h, List.take_left]

theorem exists_withTaggings : ∀ (rs : List TagRecord) (db : Database), ∃ new,
    (db.withTaggings T v rs).tags = new ++ db.tags ∧ db.Grows (db.withTaggings T v rs) (new.map TagRow.id).reverse
  | [], db => ⟨[], rfl, .refl db⟩
  | r :: rs, db => by
    obtain ⟨new, ht, hg⟩ := exists_withTaggings rs (db.withTagging T v r)
    refine ⟨new ++ [⟨db.lastId + 1, r.name, r.author, r.taggedAt.storedText, .int T⟩], ?_, ?_⟩
    · show ((db.withTagging T v r).withTaggings T v rs).tags = _
      rw [ht, tags_withTagging, List.append_assoc]
      rfl
    · rw [List.map_append, List.reverse_append]
      exact (db.grows_withTagging T v r).trans hg

theorem grows_withTaggings (rs : List TagRecord) :
    db.Grows (db.withTaggings T v rs) (db.putIn (db.withTaggings T v rs)) := by
  obtain ⟨new, ht, hg⟩ := exists_withTaggings T v rs db
  rwa [putIn_of_append db ht]

theorem putIn_without (ids : List TagId) : db.putIn (db.without T ids) = [] := by
  have hle : (db.without T ids).tags.length ≤ db.tags.length := List.length_filter_le _ _
  rw [putIn, Nat.sub_eq_zero_of_le hle]
  rfl

end Database

namespace Write

variable {w : Write} {st : Store} {ro : Bool} {now : Time.Instant} {db db' : Database} {x : Answer}

/-- **A write that succeeds gives the ids of the rows that it puts in.** -/
theorem grows_on (h : w.on st ro now db = .ok (x, db')) : db.Grows db' (db.putIn db') := by
  obtain ⟨copied, -, rfl⟩ := on_ok h
  rcases w.changed_cases st now copied db with ⟨v, rs, hc⟩ | ⟨v, name, a, hc⟩ <;> rw [hc]
  · exact db.grows_withTaggings st.tenant v rs
  · rw [db.putIn_without]
    exact db.grows_without st.tenant _

/-! ## The greatest id there can be -/

/-- What refuses an insertion when the greatest id there can be has been given. -/
def fullRefusal (st : Store) (ro : Bool) : Refusal :=
  if ro then ⟨.readOnly, .statement⟩ else ⟨.full, if st.insertsPlainly then .transaction else .statement⟩

theorem putOne_of_full (h : db.lastId = Decimal.maxInt64) (v : Version) (r : TagRecord) :
    st.putOne ro v r db = .error (fullRefusal st ro) := by
  have hi : Statement.insertTag st.faults (st.strategy == .generatedKeys) st.tenant r db =
      .error (fullRefusal st false) := by
    rw [Statement.insertTag, if_pos h, fullRefusal, Store.insertsPlainly]
    cases st.strategy <;> cases st.faults.any Fault.isTagInsert <;> rfl
  show ((Statement.insertTag st.faults (st.strategy == .generatedKeys) st.tenant r).under ro db >>= fun p => _) = _
  cases ro with
  | true => rfl
  | false =>
    rw [Statement.under, if_neg Bool.false_ne_true, hi]
    rfl

theorem putAll_of_full (h : db.lastId = Decimal.maxInt64) (v : Version) {rs : List TagRecord} (hrs : rs ≠ []) :
    st.putAll ro v rs db = .error (fullRefusal st ro) := by
  obtain ⟨r, rs, rfl⟩ := List.exists_cons_of_ne_nil hrs
  have hd : discard (st.putOne ro v r) db = .error (fullRefusal st ro) := by
    rw [Store.discard_eq_bind]
    show (st.putOne ro v r db >>= fun p => _) = _
    rw [putOne_of_full h]
    rfl
  show (discard (st.putOne ro v r) db >>= fun p => _) = _
  rw [hd]
  rfl

theorem lastId_le_putOne {v : Version} {r : TagRecord} {id : TagId} (hm : db.lastId ≤ Decimal.maxInt64)
    (h : st.putOne ro v r db = .ok (id, db')) : db'.lastId ≤ Decimal.maxInt64 := by
  have hne : db.lastId ≠ Decimal.maxInt64 := by
    intro hf
    rw [putOne_of_full hf] at h
    cases h
  obtain ⟨-, rfl⟩ := Store.putOne_ok h
  rw [Database.lastId_withTagging]
  omega

theorem lastId_le_putAll {v : Version} : ∀ {rs : List TagRecord} {db db' : Database} {u : Unit},
    db.lastId ≤ Decimal.maxInt64 → st.putAll ro v rs db = .ok (u, db') → db'.lastId ≤ Decimal.maxInt64
  | [], _, _, _, hm, h => by
    cases h
    exact hm
  | r :: rs, db, db', u, hm, h => by
    obtain ⟨⟨⟩, db₁, h₁, h⟩ := Statement.bind_ok h
    change discard (st.putOne ro v r) db = _ at h₁
    rw [Store.discard_eq_bind] at h₁
    obtain ⟨id, db₂, h₂, h₁⟩ := Statement.bind_ok h₁
    cases h₁
    exact lastId_le_putAll (lastId_le_putOne hm h₂) (show st.putAll ro v rs _ = _ from h)

/-- **No id is given beyond the greatest there can be.** -/
theorem lastId_le_on (hm : db.lastId ≤ Decimal.maxInt64) (h : w.on st ro now db = .ok (x, db')) :
    db'.lastId ≤ Decimal.maxInt64 := by
  have he : ∀ copied, w.execute st ro now copied db = .ok (x, db') → db'.lastId ≤ Decimal.maxInt64 := by
    intro copied h
    have hk := execute_ok h
    unfold execute at h
    cases hs : w.statement st ro now copied db <;> rw [hs] at h <;> cases h
    cases w with
    | add n v a =>
      obtain ⟨id, db₁, h₁, h⟩ := Statement.bind_ok hs
      cases h
      exact lastId_le_putOne hm h₁
    | addMany v rs =>
      obtain ⟨⟨⟩, db₁, h₁, h⟩ := Statement.bind_ok hs
      cases h
      exact lastId_le_putAll hm h₁
    | copy v w =>
      obtain ⟨⟨⟩, db₁, h₁, h⟩ := Statement.bind_ok hs
      cases h
      exact lastId_le_putAll hm h₁
    | _ =>
      -- a removal leaves the greatest id as it is
      rw [hk]
      exact hm
  cases w with
  | copy v w =>
    simp only [on] at h
    split at h
    · exact he _ h
    · cases h
  | _ => exact he [] h

/-- The write would put in a row, if it succeeded. -/
def Inserts (st : Store) (f : File) : Write → Prop
  | .add _ _ _ => True
  | .addMany _ rs => rs ≠ []
  | .copy v _ => (f.run (st.records v)).1 ≠ .ok []
  | _ => False

variable {f : File}

theorem on_of_full (ro : Bool) (now : Time.Instant) (h : db.lastId = Decimal.maxInt64)
    (hf : f.sight st.connection = .ok db) (hi : w.Inserts st f) :
    ∃ b, w.on st ro now db = .error b ∧ (b.refusal = fullRefusal st ro ∨ b.refusal.reach = .statement) := by
  have hall : ∀ (t : Task) v rs, rs ≠ [] →
      blaming t ((do st.putAll ro v rs; return .done : Statement Answer) db) = .error ⟨t, fullRefusal st ro⟩ := by
    intro t v rs hrs
    show blaming t (st.putAll ro v rs db >>= fun p => _) = _
    rw [putAll_of_full h v hrs]
    rfl
  cases w with
  | add n v a =>
    refine ⟨⟨.addTag n (st.describe v) a, fullRefusal st ro⟩, ?_, .inl rfl⟩
    show blaming _ (st.putOne ro v ⟨n, a, now⟩ db >>= fun p => _) = _
    rw [putOne_of_full h]
    rfl
  | addMany v rs => exact ⟨_, hall _ v rs hi, .inl rfl⟩
  | copy v u =>
    have hr : (f.run (st.records v)).1 = (db.records st.tenant v).mapError (.storage (.readTags (st.describe v))) := by
      rw [run_records, hf]
      rfl
    simp only [Inserts, hr] at hi
    simp only [on]
    cases hrec : db.records st.tenant v with
    | error e => exact ⟨_, rfl, .inr rfl⟩
    | ok rs =>
      refine ⟨_, hall _ u rs ?_, .inl rfl⟩
      rintro rfl
      rw [hrec] at hi
      exact hi rfl
  | _ => exact hi.elim

/-- **Once the greatest id there can be has been given, every insertion fails**, and leaves the file as it is, but for
one that is made plainly inside a transaction of its own connection. -/
theorem run_of_full (h : (f.view st.connection).lastId = Decimal.maxInt64) (hi : w.Inserts st f) :
    (∃ e, (f.run (w.perform st now)).1 = .error e) ∧
      (st.insertsPlainly = false ∨ f.isAutocommit st.connection = true → (f.run (w.perform st now)).2.Alike f) := by
  obtain ⟨g, hg, ha⟩ := w.run_perform st now f
  rw [hg]
  cases hl : f.isLocked st.connection with
  | true =>
    rw [outcome, if_pos hl] at ha ⊢
    have hu : f.undo (w.shutOut st f).refusal.reach = f := by
      rw [shutOut_reach]
      rfl
    rw [leave, hu] at ha
    exact ⟨⟨_, rfl⟩, fun _ => ha⟩
  | false =>
    have hs : f.sight st.connection = .ok (f.view st.connection) := by
      rw [File.sight, File.isBlocked_of_isLocked hl]
      rfl
    obtain ⟨b, ho, hb⟩ := on_of_full f.readOnly now h hs hi
    rw [outcome, hl, if_neg Bool.false_ne_true, ho] at ha ⊢
    refine ⟨⟨_, rfl⟩, fun hp => ?_⟩
    -- such a refusal undoes the statement alone, or there is no transaction to undo
    have hu : f.undo b.refusal.reach = f := by
      rcases hp with hp | hp
      · rcases hb with hb | hb
        · rw [hb, fullRefusal, hp]
          cases f.readOnly <;> rfl
        · rw [hb]
          rfl
      · exact undo_of_isAutocommit hl hp _
    rw [leave, hu] at ha
    exact ha

end Write

end VersionTags
