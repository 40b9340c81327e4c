import VersionTags.Proofs.Storage.Rows
import VersionTags.Proofs.Store.AllOrNothing
import VersionTags.Proofs.Store.Joined
/-!
# Paths of placeholders

A version below one is a placeholder and stands for no resource, though a locator may have a path for it.  The search by
names and the lookup by id keep to that: no path they report is that of a placeholder, whatever the locator says of it.
A list of the taggings of one version asks the locator without a look at the version, so that a placeholder with a path
is reported with it (`Store.placeholders_unresolved_iff`).
-/
namespace VersionTags

/-! ## Looking up many versions at once -/

theorem Locator.find?_entry (v : Version) : ∀ es : List (Version × String),
    es.find? (fun e => e.1 == v) = (es.lookup v).map fun p => (v, p)
  | [] => rfl
  | (w, p) :: es => by
    rw [List.find?_cons, List.lookup_cons]
    by_cases h : w = v
    · simp [h]
    · have hvw : (v == w) = false := beq_false_of_ne (Ne.symm h)
      have hwv : (w == v) = false := beq_false_of_ne h
      simp only [hvw, hwv, find?_entry v es]

/-- **The map itself and the function that looks up one version resolve alike.** -/
theorem Locator.resolve_eq (l : Locator) (a : LocatorAccess) (vs : List Version) :
    l.resolve a vs = pathsBy l.path? vs := by
  cases a with
  | function => rfl
  | map => exact List.filterMap_congr fun v _ => find?_entry v l.entries

theorem lookup_filterMap (path? : Version → Option String) (v : Version) : ∀ vs : List Version,
    (vs.filterMap fun w => (path? w).map fun p => (w, p)).lookup v = if v ∈ vs then path? v else none
  | [] => rfl
  | w :: vs => by
    have ih := lookup_filterMap path? v vs
    rw [List.filterMap_cons]
    by_cases h : v = w
    · subst h
      cases hp : path? v with
      | none => simp [ih, hp]
      | some p => simp
    · have hvw : (v == w) = false := beq_false_of_ne h
      cases hp : path? w with
      | none => simp [ih, h]
      | some p => simp [List.lookup_cons, ih, h, hvw]

theorem lookup_pathsBy (path? : Version → Option String) {v : Version} {vs : List Version} (h : v ∈ vs) :
    (pathsBy path? vs).lookup v = path? v := by
  rw [pathsBy, lookup_filterMap, if_pos (List.mem_eraseDups.2 h)]

/-- The paths found are those of the versions that resolve, one after another and each once. -/
theorem Read.pathsOf_eq (st : Store) (vs : List Version) :
    Read.pathsOf st vs = ((vs.filter Version.isResolvable).filterMap st.locator.path?).eraseDups := by
  rw [pathsOf, Store.distinctPaths, Locator.resolve_eq]
  congr 1
  exact List.filterMap_congr fun v hv => lookup_pathsBy _ hv

/-! ## Reports without the path of a placeholder -/

/-- Two locators have the same paths for the versions that resolve. -/
def Locator.SameAbove (l l' : Locator) : Prop := ∀ v : Version, v.isResolvable = true → l.path? v = l'.path? v

namespace Read

variable {st : Store} {f : File}

theorem pathsOf_congr {l : Locator} (h : l.SameAbove st.locator) (vs : List Version) :
    pathsOf { st with locator := l } vs = pathsOf st vs := by
  rw [pathsOf_eq, pathsOf_eq]
  congr 1
  exact List.filterMap_congr fun v hv => h v (List.mem_filter.1 hv).2

theorem located_congr {l : Locator} (h : l.SameAbove st.locator) :
    located { st with locator := l } = located st := by
  funext found
  unfold located
  cases hv : found.2.isResolvable with
  | false => rfl
  | true => simp only [h _ hv]

/-- The read looks a path up for each version that it finds. -/
def looksUp : Read → Bool
  | .paths _ => true
  | .byId _ => true
  | _ => false

/-- **What the locator has for placeholders makes no difference** to the search by names and to the lookup by id. -/
theorem run_sameAbove {r : Read} (hr : r.looksUp = true) {l : Locator} (h : l.SameAbove st.locator) :
    (f.run (r.perform { st with locator := l })).1 = (f.run (r.perform st)).1 := by
  rw [run_perform, run_perform]
  cases r with
  | paths ns => simp only [inquiry, pathsOf_congr h]
  | byId i => simp only [inquiry, located_congr h]
  | _ => cases hr

/-- The version whose taggings a read lists. -/
def listed? : Read → Option Version
  | .tagging v _ _ => some v
  | .taggings v => some v
  | _ => none

end Read

theorem Task.answer_ok {α : Type} {t : Task} {sight : Except Failure Database} {q : Database → Except Failure α} {x : α}
    (h : t.answer sight q = .ok x) : ∃ db, sight = .ok db ∧ q db = .ok x := by
  rcases sight with e | db
  · cases h
  · refine ⟨db, rfl, ?_⟩
    unfold Task.answer at h
    cases hq : q db with
    | error e => simp only [hq] at h; cases h
    | ok y => simp only [hq] at h; cases h; rfl

theorem File.sight_ok {f : File} {c : Connection} {db : Database} (h : f.sight c = .ok db) : f.view c = db := by
  unfold sight at h
  split at h <;> cases h
  rfl

/-- The version that a lookup by id reports is that of the first link of the tag. -/
theorem Database.version_of_taggingById {db : Database} {T : Tenant} {i : TagId} {x : Tagging} {w : Version}
    (h : db.taggingById T i = .ok (some (x, w))) : ∃ l, (db.linksOf T i).head? = some l ∧ l.version = .int w := by
  unfold taggingById at h
  split at h
  · rename_i t l _ hl
    refine ⟨l, hl, ?_⟩
    cases ht : taggingOf t with
    | error e => rw [ht] at h; cases h
    | ok y =>
      cases hv : l.version with
      | int u => rw [ht, hv] at h; cases h; rfl
      | _ => rw [ht, hv] at h; cases h
  · cases h

namespace Store

variable {st : Store} {f : File} {v : Version}

/-- The search by names and the lookup by id report no path because of the version, whatever path it may have. -/
structure Unreported (st : Store) (f : File) (v : Version) : Prop where
  /-- They report the same when the version has another path, or none. -/
  unnoticed : ∀ l : Locator, (∀ w, w ≠ v → l.path? w = st.locator.path? w) → ∀ r : Read, r.looksUp = true →
    (f.run (r.perform { st with locator := l })).1 = (f.run (r.perform st)).1
  /-- A path that is found is that of another version with one of the names. -/
  searched : ∀ ns ps, (f.run ((Read.paths ns).perform st)).1 = .ok (.texts ps) → ∀ p ∈ ps, ∃ ws w,
    (f.view st.connection).versionsWithAny st.tenant ns = .ok ws ∧ w ∈ ws ∧ w ≠ v ∧ st.locator.path? w = some p
  /-- A tag whose first link is on the version is found without a path. -/
  found : ∀ i x l, (f.run ((Read.byId i).perform st)).1 = .ok (.tagging (some x)) →
    ((f.view st.connection).linksOf st.tenant i).head? = some l → l.version = .int v → x.path = none

/-- What the reads that list the taggings of the version report of it. -/
def Lists (st : Store) (f : File) (v : Version) (ts : List Tagging) : Prop :=
  ∃ r : Read, r.listed? = some v ∧ (f.run (r.perform st)).1 = .ok (.taggings ts)

theorem path_of_searched {ns ps : List String} (h : (f.run ((Read.paths ns).perform st)).1 = .ok (.texts ps))
    {p : String} (hp : p ∈ ps) : ∃ ws w, (f.view st.connection).versionsWithAny st.tenant ns = .ok ws ∧ w ∈ ws ∧
      w.isResolvable = true ∧ st.locator.path? w = some p := by
  rw [Read.run_perform] at h
  dsimp only [Read.inquiry] at h
  split at h
  · cases h
    cases hp
  · split at h
    · cases h
    · obtain ⟨db, hs, hq⟩ := Task.answer_ok h
      cases hw : db.versionsWithAny st.tenant ns with
      | error e => rw [hw] at hq; cases hq
      | ok ws =>
        rw [hw] at hq
        cases hq
        rw [Read.pathsOf_eq, List.mem_eraseDups, List.mem_filterMap] at hp
        obtain ⟨w, hm, hl⟩ := hp
        obtain ⟨hm, hr⟩ := List.mem_filter.1 hm
        exact ⟨ws, w, File.sight_ok hs ▸ hw, hm, hr, hl⟩

theorem path_of_found {i : TagId} {x : Tagging} (h : (f.run ((Read.byId i).perform st)).1 = .ok (.tagging (some x))) :
    ∃ (l : LinkRow) (w : Version), ((f.view st.connection).linksOf st.tenant i).head? = some l ∧ l.version = .int w ∧
      x.path = if w.isResolvable then st.locator.path? w else none := by
  rw [Read.run_perform] at h
  obtain ⟨db, hs, hq⟩ := Task.answer_ok h
  cases hf : db.taggingById st.tenant i with
  | error e => rw [hf] at hq; cases hq
  | ok found =>
    rw [hf] at hq
    rcases found with _ | ⟨y, w⟩
    · cases hq
    · cases hq
      obtain ⟨l, hl, hv⟩ := Database.version_of_taggingById hf
      exact ⟨l, w, File.sight_ok hs ▸ hl, hv, rfl⟩

theorem path_of_listed {ts : List Tagging} (h : st.Lists f v ts) {x : Tagging} (hx : x ∈ ts) :
    x.path = st.locator.path? v := by
  obtain ⟨r, hr, h⟩ := h
  rw [Read.run_perform] at h
  have hwith : ∀ us : Except Failure (List Tagging),
      (us.map fun us => Answer.taggings (st.withPath v us)) = .ok (.taggings ts) → x.path = st.locator.path? v := by
    intro us hu
    cases us with
    | error e => cases hu
    | ok us =>
      cases hu
      obtain ⟨u, -, rfl⟩ := List.mem_map.1 hx
      rfl
  cases r with
  | tagging w n a =>
    cases hr
    obtain ⟨db, -, hq⟩ := Task.answer_ok h
    exact hwith _ hq
  | taggings w =>
    cases hr
    obtain ⟨db, -, hq⟩ := Task.answer_ok h
    exact hwith _ hq
  | _ => cases hr

/-- **No path is reported for a placeholder, unless one is given with its taggings in a list.**  The search by names and
the lookup by id report none.  The lists report none just when the locator has none, or when there is nothing to
list. -/
theorem placeholders_unresolved_iff (st : Store) (f : File) {v : Version} (hv : v ≤ 0) :
    st.Unreported f v ∧ ((∀ ts, st.Lists f v ts → ∀ x ∈ ts, x.path = none) ↔
      st.locator.path? v = none ∨ ∀ ts, st.Lists f v ts → ts = []) := by
  have hne : ∀ w : Version, w.isResolvable = true → w ≠ v := by
    rintro w hw rfl
    exact Int.not_lt.2 hv (of_decide_eq_true hw)
  refine ⟨⟨fun l hl r hr => ?_, fun ns ps h p hp => ?_, fun i x l h hl hlv => ?_⟩, fun h => ?_, fun h ts hts x hx => ?_⟩
  · exact Read.run_sameAbove hr fun w hw => hl w (hne w hw)
  · obtain ⟨ws, w, hws, hw, hr, hpath⟩ := path_of_searched h hp
    exact ⟨ws, w, hws, hw, hne w hr, hpath⟩
  · obtain ⟨k, w, hk, hkw, hpath⟩ := path_of_found h
    obtain rfl := Option.some.inj (hk.symm.trans hl)
    obtain rfl := Cell.int.inj (hkw.symm.trans hlv)
    rw [hpath, if_neg fun hr => hne w hr rfl]
  · by_cases hp : st.locator.path? v = none
    · exact .inl hp
    · -- whatever is listed has the path of the version
      refine .inr fun ts hts => List.eq_nil_iff_forall_not_mem.2 fun x hx => hp ?_
      rw [← path_of_listed hts hx]
      exact h ts hts x hx
  · rcases h with hp | hnil
    · rw [path_of_listed hts hx, hp]
    · rw [hnil ts hts] at hx
      cases hx

open Write (plainStore someTime)

/-- A store that has a path for a placeholder. -/
def hauntedStore : Store := { plainStore with locator := .ofList [(0, "ghost")] }

/-- A file with one tag, on the placeholder. -/
def hauntedFile : File := ((File.ofDatabase .empty).run ((Write.add "n" 0 "alice").perform hauntedStore someTime)).2

theorem sight_hauntedFile : hauntedFile.sight hauntedStore.connection = .ok (hauntedFile.view 0) := rfl

theorem on_hauntedFile : (hauntedFile.view 0).on hauntedStore.tenant 0 =
    [⟨1, "n", "alice", someTime.storedText, .int 1⟩] := by
  rw [Database.on_eq]
  rfl

theorem linksOf_hauntedFile : (hauntedFile.view 0).linksOf hauntedStore.tenant 1 = [⟨.int 1, .int 0, .int 1⟩] := by
  rw [Database.linksOf, Database.linkIndex_getD]
  rfl

/-- The tag on the placeholder is found by its id without the path. -/
theorem ghost_found_without_path : ∃ x,
    (hauntedFile.run ((Read.byId 1).perform hauntedStore)).1 = .ok (.tagging (some x)) ∧ x.path = none := by
  have hf : (hauntedFile.run ((Read.byId 1).perform hauntedStore)).1 =
      .ok (.tagging (some ⟨1, "n", "alice", someTime, none⟩)) := by
    simp only [Read.run_perform, Read.inquiry, Inquiry.on, sight_hauntedFile, Task.answer, Database.taggingById,
      linksOf_hauntedFile]
    decide +kernel
  exact ⟨_, hf, (placeholders_unresolved_iff hauntedStore hauntedFile (Int.le_refl 0)).1.found 1 _ _ hf
    (congrArg List.head? linksOf_hauntedFile) rfl⟩

/-- **The tag on the placeholder is listed with the path**, among all taggings and among those of its name. -/
theorem ghost_listed_with_path :
    (hauntedFile.run ((Read.taggings 0).perform hauntedStore)).1 =
        .ok (.taggings [⟨1, "n", "alice", someTime, some "ghost"⟩]) ∧
      (hauntedFile.run ((Read.tagging 0 "n" .any).perform hauntedStore)).1 =
        .ok (.taggings [⟨1, "n", "alice", someTime, some "ghost"⟩]) := by
  constructor
  · simp only [Read.run_perform, Read.inquiry, Inquiry.on, sight_hauntedFile, Task.answer, Database.taggings,
      on_hauntedFile]
    decide +kernel
  · simp only [Read.run_perform, Read.inquiry, Inquiry.on, sight_hauntedFile, Task.answer, Database.taggingsNamed,
      on_hauntedFile]
    decide +kernel

end Store
end VersionTags
