import Mathlib.Data.List.Nodup
import VersionTags.Proofs.Session.Paired
import VersionTags.Proofs.Session.Transparent
import VersionTags.Proofs.Store.Removal
/-!
# Conservation of tags

Where no transaction is opened, the tags of a tenant are those that its successful writes have put in, less the numbers
that its successful removals have answered (`Session.conservation`).  A removal answers how many pairs of a link and a
tag it picked.  That this is the number of tags it deletes, and of links, rests on each tag having one link.
-/
namespace VersionTags

/-! ## What a removal deletes -/

namespace Aligned

variable {db : Database} {T : Tenant} {v : Version} {pick : TagRow → Bool}

theorem map_tag (h : Aligned db) : db.links.map LinkRow.tag = db.tags.map fun t => Cell.int t.id := by
  have hs := h.inStep
  generalize db.tags = ts at hs
  generalize db.links = ls at hs
  induction hs with
  | nil => rfl
  | cons ht _ ih => rw [List.map_cons, List.map_cons, ht.1, ih]

theorem nodup_tags (h : Aligned db) : db.tags.Nodup := h.paired.distinct.of_map

theorem links_apart (h : Aligned db) : db.links.Pairwise fun l k => l.tag ≠ k.tag := by
  have hd : (db.links.map LinkRow.tag).Nodup := by
    have hi : Function.Injective Cell.int := fun _ _ => Cell.int.inj
    have hm : (db.tags.map fun t => Cell.int t.id) = (db.tags.map TagRow.id).map Cell.int := by
      rw [List.map_map]
      rfl
    rw [h.map_tag, hm]
    exact h.paired.distinct.map hi
  exact List.pairwise_map.1 hd

theorem nodup_on (h : Aligned db) (T : Tenant) (v : Version) : (db.on T v).Nodup := by
  rw [Database.on_eq, List.nodup_flatMap]
  refine ⟨fun l _ => h.nodup_tags.filter _, ?_⟩
  rw [Database.linksOn, List.pairwise_reverse]
  refine (h.links_apart.filter _).imp fun {l k} hne t hk hl => ?_
  simp only [Database.tagsOf, List.mem_filter, Bool.and_eq_true, beq_iff_eq] at hk hl
  exact hne (hl.2.2.trans hk.2.2.symm)

/-- The tags that go with a removal are those that it picked. -/
theorem perm_picked (h : Aligned db) (T : Tenant) (v : Version) (pick : TagRow → Bool) :
    (db.tags.filter fun t => t.tenant == .int T && (((db.on T v).filter pick).map TagRow.id).contains t.id).Perm
      ((db.on T v).filter pick) := by
  rw [List.perm_ext_iff_of_nodup (h.nodup_tags.filter _) ((h.nodup_on T v).filter _)]
  intro t
  simp only [List.mem_filter, Bool.and_eq_true, beq_iff_eq, List.contains_iff_mem, List.mem_map]
  constructor
  · rintro ⟨ht, hT, u, ⟨hu, hp⟩, hid⟩
    obtain rfl : u = t := List.inj_on_of_nodup_map h.paired.distinct (Database.mem_on hu).1 ht hid
    exact ⟨hu, hp⟩
  · rintro ⟨ht, hp⟩
    obtain ⟨hm, hT⟩ := Database.mem_on ht
    exact ⟨hm, hT, t, ⟨ht, hp⟩, rfl⟩

/-- **A removal deletes as many tags as it picked**, among any tags that all of the tenant's belong to. -/
theorem countP_removed (h : Aligned db) (v : Version) (pick : TagRow → Bool) {p : TagRow → Bool}
    (hp : ∀ t : TagRow, t.tenant = .int T → p t = true) :
    (db.without T (((db.on T v).filter pick).map TagRow.id)).tags.countP p + (db.on T v).countP pick =
      db.tags.countP p := by
  have hall : ((db.on T v).filter pick).countP p = (db.on T v).countP pick := by
    rw [List.countP_eq_length_filter (p := pick), List.countP_eq_length]
    exact fun t ht => hp t (Database.mem_on (List.mem_filter.1 ht).1).2
  rw [List.countP_eq_countP_filter_add db.tags p fun t =>
    t.tenant == .int T && (((db.on T v).filter pick).map TagRow.id).contains t.id,
    (h.perm_picked T v pick).countP_eq p, hall, Nat.add_comm]
  rfl

theorem length_links (h : Aligned db) : db.links.length = db.tags.length := h.inStep.length_eq.symm

end Aligned

/-! ## What a write gains and loses -/

theorem Database.countP_withTaggings {T : Tenant} {p : TagRow → Bool}
    (hp : ∀ t : TagRow, t.tenant = .int T → p t = true) (v : Version) : ∀ (rs : List TagRecord) (db : Database),
    (db.withTaggings T v rs).tags.countP p = db.tags.countP p + rs.length
  | [], _ => rfl
  | r :: rs, db => by
    have ih := countP_withTaggings hp v rs (db.withTagging T v r)
    rw [tags_withTagging, List.countP_cons_of_pos (hp _ rfl)] at ih
    rw [List.length_cons, Nat.add_comm rs.length, ← Nat.add_assoc]
    exact ih

namespace Write

/-- How many tags a write puts in when it succeeds: as many as it has records.  Those of a copy are the ones that can be
read from its source just before. -/
def gain (st : Store) (f : File) : Write → Int
  | .add _ _ _ => 1
  | .addMany _ rs => rs.length
  | .copy v _ =>
    match (f.run (st.records v)).1 with
    | .ok rs => rs.length
    | .error _ => 0
  | _ => 0

/-- The number that a removal answers. -/
def loss (x : Answer) (w : Write) : Int :=
  match w.isRemoval, x with
  | true, .number n => n
  | _, _ => 0

variable {st : Store} {f : File} {db db' : Database} {now : Time.Instant} {ro : Bool} {x : Answer}

theorem exists_removal? {w : Write} (h : w.isRemoval = true) : ∃ v pick, w.removal? = some (v, pick) := by
  cases w with
  | remove v n => exact ⟨v, _, rfl⟩
  | removeBy v n a => exact ⟨v, _, rfl⟩
  | purge v => exact ⟨v, _, rfl⟩
  | _ => cases h

/-- **What a write gains and loses is the change in the number of tags**, among any that all of the tenant's belong
to. -/
theorem balance (h : Aligned db) (hf : f.sight st.connection = .ok db) {w : Write}
    (ho : w.on st ro now db = .ok (x, db')) {p : TagRow → Bool}
    (hp : ∀ t : TagRow, t.tenant = .int st.tenant → p t = true) :
    (db'.tags.countP p : Int) = db.tags.countP p + w.gain st f - w.loss x := by
  cases hr : w.isRemoval with
  | true =>
    obtain ⟨v, pick, hw⟩ := exists_removal? hr
    obtain ⟨rfl, rfl⟩ := removal_ok hw ho
    have hc := h.countP_removed v pick hp
    have hg : w.gain st f = 0 := by
      cases w <;> first | rfl | cases hr
    have hl : w.loss (.number ((db.on st.tenant v).countP pick : Nat)) = (db.on st.tenant v).countP pick := by
      simp only [loss, hr]
    rw [hg, hl]
    omega
  | false =>
    obtain ⟨copied, hcopied, rfl⟩ := on_ok ho
    have hl : w.loss x = 0 := by simp only [loss, hr]
    rw [hl]
    cases w with
    | add n v a =>
      have hc := db.countP_withTaggings hp v [⟨n, a, now⟩]
      simp only [changed, gain, hc, List.length_singleton]
      omega
    | addMany v rs =>
      have hc := db.countP_withTaggings hp v rs
      simp only [changed, gain, hc]
      omega
    | copy v u =>
      have hg : (copy v u).gain st f = copied.length := by
        have hrec : db.records st.tenant v = .ok copied := hcopied
        simp only [gain, run_records, Task.answer, hf, hrec]
        rfl
      have hc := db.countP_withTaggings hp u copied
      simp only [changed, hg, hc]
      omega
    | _ => cases hr

end Write

/-! ## Gains and losses of a run -/

namespace Session

/-- The write of a move that succeeds on behalf of the tenant, with its store and its answer. -/
def success? (T : Tenant) (s : Session) (m : Move) : Option (Store × Write × Answer) :=
  match s.seats[m.seat]?, m.step.write?, (s.move m).1 with
  | some seat, some w, some (.ok x) => if seat.tenant = T then some (s.store m.seat seat, w, x) else none
  | _, _, _ => none

/-- How many tags of the tenant a move puts in. -/
def gained (T : Tenant) (s : Session) (m : Move) : Int :=
  match s.success? T m with
  | some (st, w, _) => w.gain st s.file
  | none => 0

/-- The number that a move answers for tags of the tenant removed. -/
def lost (T : Tenant) (s : Session) (m : Move) : Int :=
  match s.success? T m with
  | some (_, w, x) => w.loss x
  | none => 0

/-- The sum over the moves of a run. -/
def total (count : Session → Move → Int) (s : Session) : List Move → Int
  | [] => 0
  | m :: ms => count s m + (s.move m).2.total count ms

theorem total_append (count : Session → Move → Int) : ∀ (ms ms' : List Move) (s : Session),
    s.total count (ms ++ ms') = s.total count ms + (s.run ms).total count ms'
  | [], ms', s => (Int.zero_add _).symm
  | m :: ms, ms', s => by
    have ih := total_append count ms ms' (s.move m).2
    have hrun : s.run (m :: ms) = (s.move m).2.run ms := rfl
    rw [List.cons_append, total, total, ih, hrun, Int.add_assoc]

variable {s : Session} {m : Move}

theorem success?_of_not_write (h : m.step.write? = none) (T : Tenant) : s.success? T m = none := by
  unfold success?
  rw [h]
  rcases s.seats[m.seat]? with _ | seat <;> rfl

/-- What a move can do that begins and ends no transaction, while none is open: nothing to the file, or a write. -/
theorem plain_move (hw : s.file.writer = none) (hx : ¬m.step.IsCommand) :
    ((s.move m).2.file = s.file ∧ ∀ T, s.success? T m = none) ∨
      ∃ seat w x db, s.seats[m.seat]? = some seat ∧ m.step.write? = some w ∧ (s.move m).1 = some (.ok x) ∧
        w.on (s.store m.seat seat) s.file.readOnly m.now s.file.committed = .ok (x, db) ∧
        (s.move m).2.file = { s.file with committed := db } := by
  obtain ⟨i, now, step⟩ := m
  rcases hs : s.seats[i]? with _ | seat
  · refine .inl ⟨by rw [move_of_none hs], fun T => ?_⟩
    simp only [success?, hs]
  cases step.kind with
  | write w =>
    have hm := move_write hs now w
    rw [w.run_of_none (s.store i seat) now hw] at hm
    rcases ho : w.on (s.store i seat) s.file.readOnly now s.file.committed with b | ⟨x, db⟩ <;> rw [ho] at hm
    · refine .inl ⟨by rw [hm], fun T => ?_⟩
      simp only [success?, hm, Write.report]
      split <;> simp_all
    · exact .inr ⟨seat, w, x, db, rfl, w.write?_step, by rw [hm]; rfl, ho, by rw [hm]⟩
  | read r =>
    exact .inl ⟨by rw [move_read hs], success?_of_not_write r.write?_step⟩
  | begin => exact absurd (.inl rfl) hx
  | commit => exact absurd (.inr (.inl rfl)) hx
  | rollback => exact absurd (.inr (.inr rfl)) hx
  | aside ha =>
    exact .inl ⟨move_aside hs ha, success?_of_not_write (Step.write?_of_isAside ha)⟩

theorem stats_of_ne {T : Tenant} {st : Store} (hT : st.tenant ≠ T) {w : Write} {ro : Bool} {now : Time.Instant}
    {db db' : Database} {x : Answer} (ho : w.on st ro now db = .ok (x, db')) : db'.stats T = db.stats T := by
  obtain ⟨copied, -, rfl⟩ := Write.on_ok ho
  rcases w.changed_cases st now copied db with ⟨v, rs, h⟩ | ⟨v, name, a, h⟩ <;> rw [h]
  · exact (Database.SameRows.of_withTaggings hT v rs db).stats
  · exact (Database.SameRows.of_without hT db _).stats

/-- **A move changes the number of the tenant's tags by what it gains and loses.** -/
theorem conserved_move (hw : s.file.writer = none) (h : Aligned s.file.committed) (hx : ¬m.step.IsCommand)
    (T : Tenant) :
    (((s.move m).2.file.committed.stats T).tags : Int) =
      (s.file.committed.stats T).tags + s.gained T m - s.lost T m := by
  rcases plain_move hw hx with ⟨hf, hn⟩ | ⟨seat, w, x, db, hs, hm, hr, ho, hf⟩
  · rw [hf, gained, lost, hn]
    simp
  · rw [hf]
    -- a write of another tenant counts for nothing and changes none of the rows
    by_cases hT : seat.tenant = T
    · subst hT
      have hk : s.success? seat.tenant m = some (s.store m.seat seat, w, x) := by
        simp only [success?, hs, hm, hr, ↓reduceIte]
      have hg : s.file.sight m.seat = .ok s.file.committed := by
        rw [File.sight, File.isBlocked_of_isLocked (by simp [File.isLocked, hw]), File.view_of_none hw]
        rfl
      simp only [gained, lost, hk]
      exact Write.balance h hg ho fun t ht => beq_iff_eq.2 ht
    · have hk : s.success? T m = none := by simp only [success?, hs, hm, hr, if_neg hT]
      simp only [gained, lost, hk, stats_of_ne hT ho]
      omega

/-- **A run changes the number of the tenant's tags by what its moves gain and lose.** -/
theorem conserved_run : ∀ (ms : List Move) {s : Session}, s.file.writer = none → Aligned s.file.committed →
    (∀ m ∈ ms, ¬m.step.IsCommand) →
    (s.run ms).file.writer = none ∧ Aligned (s.run ms).file.committed ∧ ∀ T,
      (((s.run ms).file.committed.stats T).tags : Int) =
        (s.file.committed.stats T).tags + s.total (gained T) ms - s.total (lost T) ms
  | [], s, hw, h, _ => ⟨hw, h, fun T => by simp [total, run]⟩
  | m :: ms, s, hw, h, hx => by
    have hm := hx m List.mem_cons_self
    have hw' : (s.move m).2.file.writer = none := by
      rcases plain_move hw hm with ⟨hf, -⟩ | ⟨_, _, _, _, -, -, -, -, hf⟩ <;> rw [hf] <;> exact hw
    have h' : Aligned (s.move m).2.file.committed :=
      (everywhere_move kept_aligned ⟨h, fun c => by rwa [File.view_of_none hw]⟩ m).1
    obtain ⟨hend, hal, hc⟩ := conserved_run ms hw' h' fun k hk => hx k (List.mem_cons_of_mem m hk)
    refine ⟨hend, hal, fun T => ?_⟩
    have hstep := conserved_move hw h hm T
    have hrest := hc T
    have hrun : s.run (m :: ms) = (s.move m).2.run ms := rfl
    rw [hrun, total, total]
    omega

end Session

/-- Just so many tags have been deleted, and as many links. -/
structure Database.Loses (db db' : Database) (n : Nat) : Prop where
  tags : db'.tags.Sublist db.tags
  links : db'.links.Sublist db.links
  tagCount : db'.tags.length + n = db.tags.length
  linkCount : db'.links.length + n = db.links.length

theorem Aligned.loses {db db' : Database} (h : Aligned db) {st : Store} {w : Write} (hr : w.isRemoval = true)
    {ro : Bool} {now : Time.Instant} {x : Answer} (ho : w.on st ro now db = .ok (x, db')) :
    ∃ n : Nat, x = .number n ∧ db.Loses db' n := by
  obtain ⟨v, pick, hw⟩ := Write.exists_removal? hr
  obtain ⟨rfl, rfl⟩ := Write.removal_ok hw ho
  have hc := h.countP_removed (T := st.tenant) v pick (p := fun _ => true) fun _ _ => rfl
  simp only [List.countP_true] at hc
  have h' := kept_aligned.without db st.tenant (((db.on st.tenant v).filter pick).map TagRow.id) h
  refine ⟨_, rfl, List.filter_sublist, List.filter_sublist, hc, ?_⟩
  rw [h'.length_links, h.length_links]
  exact hc

/-- **Tags are conserved.**  Where no transaction is opened, a tenant has the tags that its successful writes have put
in, less the numbers that its successful removals have answered, and as many links.  Each of these numbers is that of
the tags deleted, and of the links. -/
theorem Session.conservation (faults : List Fault) (l : Locator) (a : LocatorAccess) (now : Time.Instant)
    (seats : List Seat) (spills : Transaction → Bool) (ms : List Move) (hm : ∀ m ∈ ms, ¬m.step.IsCommand) :
    let s := Session.fresh faults l a now seats spills
    let f := (s.run ms).file
    (∀ st : Store, ∃ x : Stats, (f.run st.stats).1 = .ok x ∧ x.tenant = st.tenant ∧ x.taggings = x.tags ∧
      (x.tags : Int) = s.total (gained st.tenant) ms - s.total (lost st.tenant) ms) ∧
    ∀ (st : Store) (w : Write) (now : Time.Instant) (x : Answer), w.isRemoval = true →
      (f.run (w.perform st now)).1 = .ok x →
      ∃ n : Nat, x = .number n ∧ f.committed.Loses (f.run (w.perform st now)).2.committed n := by
  intro s f
  obtain ⟨hw, hal, hc⟩ := conserved_run ms (s := s) rfl aligned_empty hm
  refine ⟨fun st => ?_, fun st w now x hr hx => ?_⟩
  · have hb : f.isBlocked st.connection = false :=
      File.isBlocked_of_isLocked (by simp only [File.isLocked, f, hw])
    refine ⟨f.committed.stats st.tenant, ?_, rfl, (hal.tally st.tenant).taggings, ?_⟩
    · rw [Store.stats, Store.run_look_of_sight hb, File.view_of_none hw]
    · rw [hc st.tenant]
      show (0 : Int) + _ - _ = _
      omega
  · obtain ⟨g, hg, ha⟩ := w.run_perform st now f
    rw [hg] at hx
    rcases ho : w.outcome st now f with b | ⟨y, db⟩ <;> rw [ho] at hx ha <;> cases hx
    obtain ⟨-, hon⟩ := Write.outcome_ok ho
    rw [File.view_of_none hw] at hon
    obtain ⟨n, hn, hl⟩ := hal.loses hr hon
    refine ⟨n, hn, ?_⟩
    rw [hg, ha.committed, Write.leave, File.put_of_none hw]
    exact hl

namespace Session

open Write (someTime plainStore)

/-- A session of one store on an empty file, with a trigger that refuses tags named `bad`. -/
def patron : Session := .fresh [⟨.tagInsert "bad", .statement, "no"⟩] .empty .map someTime [⟨1, .maxId, true⟩]

/-- One batch of the store is refused, and another tenant has its turn. -/
def dealings : List Move :=
  [⟨0, someTime, .add "n" 1 "alice"⟩,
    ⟨0, someTime, .addMany 1 [⟨"m", "alice", someTime⟩, ⟨"bad", "alice", someTime⟩]⟩,
    ⟨0, someTime, .addMany 1 [⟨"N", "alice", someTime⟩, ⟨"m", "bob", someTime⟩]⟩,
    ⟨0, someTime, .setTenant 2⟩, ⟨0, someTime, .add "n" 1 "alice"⟩, ⟨0, someTime, .setTenant 1⟩]

/-- At last two tags of one name in either case are removed. -/
def parting : Move := ⟨0, someTime, .removeBy 1 "n" "alice"⟩

/-- Three tags were put in and two removed, and one is left. -/
theorem dealings_leave_one :
    ∃ x : Stats, ((patron.run (dealings ++ [parting])).file.run plainStore.stats).1 = .ok x ∧ x.tags = 1 ∧
      x.taggings = 1 := by
  obtain ⟨h, -⟩ := conservation [⟨.tagInsert "bad", .statement, "no"⟩] .empty .map someTime [⟨1, .maxId, true⟩]
    (fun _ => false) (dealings ++ [parting]) (by decide)
  obtain ⟨x, hx, -, hl, hc⟩ := h plainStore
  change (x.tags : Int) =
    patron.total (gained 1) (dealings ++ [parting]) - patron.total (lost 1) (dealings ++ [parting]) at hc
  have hgained : patron.total (gained 1) dealings = 3 := by decide +kernel
  have hlost : patron.total (lost 1) dealings = 0 := by decide +kernel
  have hseat : (patron.run dealings).seats[0]? = some ⟨1, .maxId, true⟩ := by decide +kernel
  have hon : ((patron.run dealings).file.committed.on 1 1).countP
      (fun t => Text.sameFold t.name "n" && t.author == "alice") = 2 := by
    rw [Database.on_eq]
    decide +kernel
  have hanswer : ((patron.run dealings).file.run ((Write.removeBy 1 "n" "alice").perform
      ((patron.run dealings).store 0 ⟨1, .maxId, true⟩) someTime)).1 = .ok (.number 2) := by
    have hfaults : (patron.run dealings).faults = [⟨.tagInsert "bad", .statement, "no"⟩] := by decide +kernel
    have hkept : ∀ x ∈ (patron.run dealings).faults, ∀ n, x.on ≠ .tagDelete n := by
      intro x hx
      rw [hfaults, List.mem_singleton] at hx
      rw [hx]
      exact nofun
    have hfree : (patron.run dealings).file.isLocked 0 = false := by decide +kernel
    obtain ⟨g, hg, -⟩ := Write.run_of_removal (.removeBy 1 "n" "alice")
      ((patron.run dealings).store 0 ⟨1, .maxId, true⟩) someTime rfl hkept hfree (by decide +kernel)
    rw [hg]
    exact congrArg (fun n : Nat => Except.ok (Answer.number n)) hon
  have hmove := move_write hseat someTime (.removeBy 1 "n" "alice")
  rw [hanswer] at hmove
  have hlast : (patron.run dealings).success? 1 parting =
      some ((patron.run dealings).store 0 ⟨1, .maxId, true⟩, .removeBy 1 "n" "alice", .number 2) := by
    unfold success?
    have hstep : parting.step.write? = some (.removeBy 1 "n" "alice") := rfl
    have hr : ((patron.run dealings).move parting).1 = some (.ok (.number 2)) := congrArg Prod.fst hmove
    have hp : (patron.run dealings).seats[parting.seat]? = some ⟨1, .maxId, true⟩ := hseat
    rw [hp, hstep, hr]
    rfl
  have htags : (x.tags : Int) = 3 + (0 + 0) - (0 + (2 + 0)) := by
    rw [hc, total_append, total_append, hgained, hlost, total, total, total, total, gained, lost, hlast]
    rfl
  exact ⟨x, hx, by omega, by omega⟩

end Session
end VersionTags
