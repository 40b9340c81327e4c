import Mathlib.Data.Set.Card
import VersionTags.Config.Basic
import VersionTags.Proofs.Store.Unreadable
import VersionTags.Proofs.Text.ByteOrder
import VersionTags.Proofs.Text.Digits
import VersionTags.Proofs.Text.Words
/-!
# The paths of a configuration

The table of paths is read key by key, in the order of the bytes.  The first key that is no number of 64 bits is
reported as it is written.  Several keys may denote one number, such as `7`, ` 7`, `+7` and `07`; the greatest of them
gives the path (`Config.locator_decides`).
-/
namespace VersionTags

open Text (isBlank)

/-! ## Maps made of a list -/

namespace Locator

theorem path?_insert (l : Locator) (v w : Version) (p : String) :
    (l.insert v p).path? w = if w = v then some p else l.path? w := by
  have hnone : (l.entries.filter fun e => e.1 != v).lookup v = none := by
    rw [List.lookup_eq_none_iff]
    intro e he
    exact bne_iff_ne.2 (bne_iff_ne.1 (List.mem_filter.1 he).2).symm
  show (l.entries.filter (fun e => e.1 != v) ++ [(v, p)]).lookup w = _
  rw [List.lookup_append]
  split
  · rename_i h
    rw [h, hnone]
    simp
  · rename_i h
    have hw : (w == v) = false := beq_false_of_ne h
    have hsame : ∀ es : List (Version × String), (es.filter fun e => e.1 != v).lookup w = es.lookup w := by
      intro es
      induction es with
      | nil => rfl
      | cons e es ih =>
        rw [List.filter_cons]
        by_cases he : e.1 = v
        · rw [he, bne_self_eq_false, if_neg Bool.false_ne_true, ih, List.lookup_cons, he, hw]
        · rw [if_pos (bne_iff_ne.2 he), List.lookup_cons, List.lookup_cons, ih]
    rw [hsame, List.lookup_cons, hw]
    exact Option.or_none

/-- **Of several paths for one version the last counts.** -/
theorem path?_ofList (es : List (Version × String)) (v : Version) : (ofList es).path? v = es.reverse.lookup v := by
  induction es using List.reverseRecOn with
  | nil => rfl
  | append_singleton es e ih =>
    have hfold : ofList (es ++ [e]) = (ofList es).insert e.1 e.2 := List.foldl_concat ..
    rw [hfold, path?_insert, ih, List.reverse_append, List.reverse_singleton, List.singleton_append, List.lookup_cons]
    by_cases h : v = e.1
    · rw [if_pos h, h, beq_self_eq_true]
    · rw [if_neg h, beq_false_of_ne h]

theorem path?_eq_none_iff {l : Locator} {v : Version} : l.path? v = none ↔ v ∉ l.entries.map Prod.fst := by
  rw [path?, List.lookup_eq_none_iff]
  constructor
  · intro h hv
    obtain ⟨e, he, rfl⟩ := List.mem_map.1 hv
    exact absurd (h e he) (by simp)
  · intro h e he
    refine bne_iff_ne.2 ?_
    rintro rfl
    exact h (List.mem_map_of_mem he)

/-- The size of a map is the number of the versions that have a path. -/
theorem size_eq_ncard (l : Locator) : l.size = Set.ncard {v | l.path? v ≠ none} := by
  have hset : {v | l.path? v ≠ none} = ((l.entries.map Prod.fst).toFinset : Set Version) := by
    ext v
    simp [path?_eq_none_iff]
  rw [hset, Set.ncard_coe_finset, List.toFinset_card_of_nodup l.nodup, List.length_map, size]

end Locator

/-! ## Numbers in a text -/

namespace Decimal

variable {cs sign ds : List Char} {n : Int}

theorem readNat_eq_some_iff {m : Nat} :
    readNat ds = some m ↔ (ds ≠ [] ∧ ∀ c ∈ ds, c.isDigit = true) ∧ value ds = m := by
  unfold readNat
  split
  · rename_i h
    simpa using fun _ => ⟨h.1, List.all_eq_true.1 h.2⟩
  · rename_i h
    exact ⟨nofun, fun ⟨⟨hne, hd⟩, _⟩ => absurd ⟨hne, List.all_eq_true.2 hd⟩ h⟩

theorem readInt_minus (cs : List Char) : readInt ('-' :: cs) = (readNat cs).map fun m : Nat => -(m : Int) := by
  rw [readInt.eq_1]
  cases readNat cs <;> rfl

theorem readInt_plus (cs : List Char) : readInt ('+' :: cs) = (readNat cs).map fun m : Nat => (m : Int) := by
  rw [readInt.eq_2]
  cases readNat cs <;> rfl

theorem readInt_unsigned (hm : ∀ ds, cs ≠ '-' :: ds) (hp : ∀ ds, cs ≠ '+' :: ds) :
    readInt cs = (readNat cs).map fun m : Nat => (m : Int) := by
  rw [readInt.eq_3 _ hm hp]
  cases readNat cs <;> rfl

/-- The characters are a sign or none and then at least one digit, and write the number. -/
structure Writes (sign ds : List Char) (n : Int) : Prop where
  isSign : sign = [] ∨ sign = ['+'] ∨ sign = ['-']
  ne_nil : ds ≠ []
  isDigit : ∀ c ∈ ds, c.isDigit = true
  value_eq : n = if sign = ['-'] then -(Decimal.value ds : Int) else Decimal.value ds

theorem readInt_of_writes (h : Writes sign ds n) : readInt (sign ++ ds) = some n := by
  obtain ⟨hsign, hne, hd, rfl⟩ := h
  have hread : readNat ds = some (value ds) := readNat_eq_some_iff.2 ⟨⟨hne, hd⟩, rfl⟩
  have hhead : ∀ c cs, c.isDigit = false → ds ≠ c :: cs := by
    rintro c cs hc rfl
    rw [hd c List.mem_cons_self] at hc
    cases hc
  rcases hsign with rfl | rfl | rfl
  · -- a digit is no sign
    rw [List.nil_append, readInt_unsigned (fun cs => hhead '-' cs rfl) fun cs => hhead '+' cs rfl, hread]
    rfl
  · rw [List.singleton_append, readInt_plus, hread]
    rfl
  · rw [List.singleton_append, readInt_minus, hread]
    rfl

theorem readInt_eq_some_iff : readInt cs = some n ↔ ∃ sign ds, cs = sign ++ ds ∧ Writes sign ds n := by
  constructor
  · intro h
    by_cases hm : ∃ ds, cs = '-' :: ds
    · obtain ⟨ds, rfl⟩ := hm
      rw [readInt_minus] at h
      obtain ⟨m, hm, rfl⟩ := Option.map_eq_some_iff.1 h
      obtain ⟨⟨hne, hd⟩, rfl⟩ := readNat_eq_some_iff.1 hm
      exact ⟨['-'], ds, rfl, .inr (.inr rfl), hne, hd, (if_pos rfl).symm⟩
    · by_cases hp : ∃ ds, cs = '+' :: ds
      · obtain ⟨ds, rfl⟩ := hp
        rw [readInt_plus] at h
        obtain ⟨m, hm, rfl⟩ := Option.map_eq_some_iff.1 h
        obtain ⟨⟨hne, hd⟩, rfl⟩ := readNat_eq_some_iff.1 hm
        exact ⟨['+'], ds, rfl, .inr (.inl rfl), hne, hd, (if_neg (by decide)).symm⟩
      · rw [readInt_unsigned (not_exists.1 hm) (not_exists.1 hp)] at h
        obtain ⟨m, hm, rfl⟩ := Option.map_eq_some_iff.1 h
        obtain ⟨⟨hne, hd⟩, rfl⟩ := readNat_eq_some_iff.1 hm
        exact ⟨[], cs, rfl, .inl rfl, hne, hd, (if_neg (by decide)).symm⟩
  · rintro ⟨sign, ds, rfl, h⟩
    exact readInt_of_writes h

theorem int64?_eq_some_iff {m : Int} : int64? m = some n ↔ m = n ∧ minInt64 ≤ n ∧ n ≤ maxInt64 := by
  unfold int64?
  split
  · rename_i h
    rw [Option.some.injEq]
    constructor
    · rintro rfl
      exact ⟨rfl, h⟩
    · rintro ⟨rfl, -⟩
      rfl
  · rename_i h
    refine ⟨nofun, ?_⟩
    rintro ⟨rfl, hr⟩
    exact absurd hr h

/-- What writes a number has no blank in it. -/
theorem Writes.not_isBlank (h : Writes sign ds n) : ∀ c ∈ sign ++ ds, isBlank c = false := by
  intro c hc
  rcases List.mem_append.1 hc with hc | hc
  · rcases h.isSign with hs | hs | hs <;> rw [hs] at hc
    · cases hc
    · cases List.mem_singleton.1 hc
      decide
    · cases List.mem_singleton.1 hc
      decide
  · exact Text.not_isBlank_of_isDigit (h.isDigit c hc)

end Decimal

/-! ## Keys that denote a version -/

namespace Config

/-- The key denotes the number: between blanks there is a sign or none, then at least one digit and nothing else, and
the number is one of 64 bits. -/
structure Denotes (key : String) (n : Int) : Prop where
  text : ∃ l sign ds r : List Char, key.toList = l ++ (sign ++ ds) ++ r ∧ (∀ c ∈ l, isBlank c = true) ∧
    (∀ c ∈ r, isBlank c = true) ∧ Decimal.Writes sign ds n
  range : Decimal.minInt64 ≤ n ∧ n ≤ Decimal.maxInt64

variable {key : String} {n : Int} {c : Config} {l : Locator} {e : Error} {v : Version}

theorem readInt64_trim_iff : Decimal.readInt64 (Text.trim key) = some n ↔ Denotes key n := by
  rw [Decimal.readInt64, Text.trim, String.toList_ofList, Option.bind_eq_bind, Option.bind_eq_some_iff]
  constructor
  · rintro ⟨m, hm, hn⟩
    obtain ⟨rfl, hrange⟩ := Decimal.int64?_eq_some_iff.1 hn
    obtain ⟨sign, ds, htrim, hw⟩ := Decimal.readInt_eq_some_iff.1 hm
    obtain ⟨l, r, hkey, hl, hr⟩ := Text.exists_blanks key.toList
    rw [htrim] at hkey
    exact ⟨⟨l, sign, ds, r, hkey, hl, hr, hw⟩, hrange⟩
  · rintro ⟨⟨l, sign, ds, r, hkey, hl, hr, hw⟩, hrange⟩
    refine ⟨n, ?_, Decimal.int64?_eq_some_iff.2 ⟨rfl, hrange⟩⟩
    have hblank := hw.not_isBlank
    rw [hkey, Text.trimList_append hl hr (fun c hc => hblank c (List.mem_of_mem_head? hc))
      fun c hc => hblank c (List.mem_of_getLast? hc)]
    exact Decimal.readInt_of_writes hw

theorem readVersion_ok_iff : readVersion key = .ok n ↔ Denotes key n := by
  rw [← readInt64_trim_iff, readVersion]
  cases Decimal.readInt64 (Text.trim key) <;> simp

theorem readVersion_error_iff : readVersion key = .error e ↔
    (∀ n, ¬Denotes key n) ∧ e = .config (.badVersion key) := by
  simp only [← readInt64_trim_iff, readVersion]
  cases Decimal.readInt64 (Text.trim key) with
  | none => simp [eq_comm]
  | some m => simp

instance (key : String) (n : Int) : Decidable (Denotes key n) :=
  decidable_of_iff (Decimal.readInt64 (Text.trim key) = some n) readInt64_trim_iff

/-! ## The table of paths -/

/-- A pair of the table with the number that its key denotes. -/
def readEntry (p : String × String) : Except Error (Version × String) := do return (← readVersion p.1, p.2)

theorem readEntry_ok_iff {p : String × String} {q : Version × String} :
    readEntry p = .ok q ↔ Denotes p.1 q.1 ∧ p.2 = q.2 := by
  rw [← readVersion_ok_iff, readEntry]
  cases readVersion p.1 with
  | error e => exact ⟨nofun, fun h => nomatch h.1⟩
  | ok n =>
    show (Except.ok (n, p.2) : Except Error _) = .ok q ↔ _
    simp [Prod.ext_iff]

theorem readEntry_error_iff {p : String × String} :
    readEntry p = .error e ↔ (∀ n, ¬Denotes p.1 n) ∧ e = .config (.badVersion p.1) := by
  rw [← readVersion_error_iff, readEntry]
  cases readVersion p.1 with
  | error e' =>
    constructor <;>
      intro h
    all_goals
      cases h
      rfl
  | ok n => exact ⟨nofun, nofun⟩

theorem locator_eq (c : Config) : c.locator = (c.paths.entries.mapM readEntry).map Locator.ofList := by
  show c.paths.entries.mapM readEntry >>= (fun es => pure (Locator.ofList es)) = _
  cases c.paths.entries.mapM readEntry <;> rfl

/-- The keys of the table. -/
def keys (c : Config) : List String := c.paths.entries.map Prod.fst

/-- No key before this one is without a number, but this one is. -/
structure FirstBad (c : Config) (key : String) : Prop where
  mem : key ∈ c.keys
  bad : ∀ n, ¬Denotes key n
  first : ∀ k ∈ c.keys, (∀ n, ¬Denotes k n) → k = key ∨ Text.Before key k

/-- The key is the greatest of those that denote the version. -/
structure Latest (c : Config) (v : Version) (key : String) : Prop where
  mem : key ∈ c.keys
  denotes : Denotes key v
  last : ∀ k ∈ c.keys, Denotes k v → k = key ∨ Text.Before k key

theorem Latest.unique {key' : String} (h : c.Latest v key) (h' : c.Latest v key') : key = key' := by
  rcases h'.last key h.mem h.denotes with heq | hlt
  · exact heq
  · rcases h.last key' h'.mem h'.denotes with heq | hlt'
    · exact heq.symm
    · exact absurd hlt hlt'.asymm

theorem mem_keys {p : String × String} (h : p ∈ c.paths.entries) : p.1 ∈ c.keys := List.mem_map_of_mem h

/-- What stands before an entry of the table has a lesser key, and what stands after it a greater one. -/
theorem sorted_around {pre post : List (String × String)} {p : String × String}
    (h : c.paths.entries = pre ++ p :: post) : (∀ q ∈ pre, q.1 < p.1) ∧ ∀ q ∈ post, p.1 < q.1 := by
  have hsorted := c.paths.sorted
  rw [h] at hsorted
  obtain ⟨-, hpost, hpre⟩ := List.pairwise_append.1 hsorted
  exact ⟨fun q hq => hpre q hq p List.mem_cons_self, fun q hq => List.rel_of_pairwise_cons hpost hq⟩

/-- A key has one path. -/
theorem entry_unique {p q : String × String} (hp : p ∈ c.paths.entries) (hq : q ∈ c.paths.entries) (h : q.1 = p.1) :
    q = p := by
  obtain ⟨pre, post, hsplit⟩ := List.append_of_mem hp
  obtain ⟨hpre, hpost⟩ := sorted_around hsplit
  rw [hsplit, List.mem_append, List.mem_cons] at hq
  rcases hq with hq | rfl | hq
  · exact absurd h (ne_of_lt (hpre q hq))
  · rfl
  · exact absurd h.symm (ne_of_lt (hpost q hq))

/-- **The first key without a number is what is wrong with a table.** -/
theorem locator_error_iff : c.locator = .error e ↔ ∃ key, c.FirstBad key ∧ e = .config (.badVersion key) := by
  have hmap : c.locator = .error e ↔ c.paths.entries.mapM readEntry = .error e := by
    rw [locator_eq]
    cases c.paths.entries.mapM readEntry <;> simp [Except.map]
  rw [hmap, mapM_error_iff]
  constructor
  · rintro ⟨pre, p, post, hsplit, hpre, hp⟩
    obtain ⟨hbad, rfl⟩ := readEntry_error_iff.1 hp
    refine ⟨p.1, ⟨mem_keys (by rw [hsplit]; simp), hbad, fun k hk hkbad => ?_⟩, rfl⟩
    obtain ⟨q, hq, rfl⟩ := List.mem_map.1 hk
    rw [hsplit, List.mem_append, List.mem_cons] at hq
    rcases hq with hq | rfl | hq
    · -- the keys before it have been read
      obtain ⟨z, hz⟩ := hpre q hq
      exact absurd (readEntry_ok_iff.1 hz).1 (hkbad _)
    · exact .inl rfl
    · exact .inr (.of_lt ((sorted_around hsplit).2 q hq))
  · rintro ⟨key, h, rfl⟩
    obtain ⟨p, hp, rfl⟩ := List.mem_map.1 h.mem
    obtain ⟨pre, post, hsplit⟩ := List.append_of_mem hp
    refine ⟨pre, p, post, hsplit, fun q hq => ?_, readEntry_error_iff.2 ⟨h.bad, rfl⟩⟩
    by_contra hnone
    have hqbad : ∀ n, ¬Denotes q.1 n := fun n hn => hnone ⟨(n, q.2), readEntry_ok_iff.2 ⟨hn, rfl⟩⟩
    have hlt := (sorted_around hsplit).1 q hq
    rcases h.first q.1 (mem_keys (by rw [hsplit]; simp [hq])) hqbad with heq | hafter
    · exact absurd heq (ne_of_lt hlt)
    · exact (Text.Before.of_lt hlt).asymm hafter

/-- The table is read just where each of its keys denotes a number. -/
theorem locator_isOk_iff : (∃ l, c.locator = .ok l) ↔ ∀ key ∈ c.keys, ∃ n, Denotes key n := by
  constructor
  · rintro ⟨l, hl⟩ key hkey
    obtain ⟨p, hp, rfl⟩ := List.mem_map.1 hkey
    rw [locator_eq] at hl
    cases hm : c.paths.entries.mapM readEntry with
    | error e =>
      rw [hm] at hl
      cases hl
    | ok es =>
      obtain ⟨q, -, hq⟩ := exists_of_mem_right (mapM_ok_iff.1 hm).flip hp
      exact ⟨q.1, (readEntry_ok_iff.1 hq).1⟩
  · intro h
    cases hl : c.locator with
    | ok l => exact ⟨l, rfl⟩
    | error e =>
      obtain ⟨key, hkey, -⟩ := locator_error_iff.1 hl
      obtain ⟨n, hn⟩ := h key hkey.mem
      exact absurd hn (hkey.bad n)

theorem Denotes.unique {m : Int} (h : Denotes key n) (h' : Denotes key m) : n = m := by
  rw [← readInt64_trim_iff] at h h'
  exact Option.some.inj (h.symm.trans h')

theorem lookup_of_read {ps : List (String × String)} {es : List (Version × String)}
    (h : List.Forall₂ (fun p q => readEntry p = .ok q) ps es) (v : Version) :
    es.lookup v = (ps.find? fun p => decide (Denotes p.1 v)).map Prod.snd := by
  induction h with
  | nil => rfl
  | @cons p q ps es hpq _ ih =>
    obtain ⟨hden, hpath⟩ := readEntry_ok_iff.1 hpq
    rw [List.lookup_cons, List.find?_cons]
    by_cases hv : v = q.1
    · rw [hv, beq_self_eq_true, decide_eq_true hden]
      exact congrArg some hpath.symm
    · have hno : ¬Denotes p.1 v := fun hd => hv (hd.unique hden)
      rw [beq_false_of_ne hv, decide_eq_false hno]
      exact ih

/-- **The path of a version is that of the last key that denotes it.** -/
theorem path?_of_locator (h : c.locator = .ok l) (v : Version) :
    l.path? v = (c.paths.entries.reverse.find? fun p => decide (Denotes p.1 v)).map Prod.snd := by
  rw [locator_eq] at h
  cases hm : c.paths.entries.mapM readEntry with
  | error e =>
    rw [hm] at h
    cases h
  | ok es =>
    rw [hm] at h
    cases h
    rw [Locator.path?_ofList]
    exact lookup_of_read (List.rel_reverse (mapM_ok_iff.1 hm)) v

/-- The last key that denotes a version is the greatest, for the table is in the order of its keys. -/
theorem latest_of_find {p : String × String}
    (h : c.paths.entries.reverse.find? (fun p => decide (Denotes p.1 v)) = some p) :
    p ∈ c.paths.entries ∧ c.Latest v p.1 := by
  obtain ⟨hden, after, before, hsplit, hafter⟩ := List.find?_eq_some_iff_append.1 h
  have hentries : c.paths.entries = before.reverse ++ p :: after.reverse := by
    rw [← List.reverse_reverse c.paths.entries, hsplit]
    simp
  have hp : p ∈ c.paths.entries := by
    rw [hentries]
    simp
  refine ⟨hp, mem_keys hp, of_decide_eq_true hden, fun k hk hkv => ?_⟩
  obtain ⟨q, hq, rfl⟩ := List.mem_map.1 hk
  rw [hentries, List.mem_append, List.mem_cons] at hq
  rcases hq with hq | rfl | hq
  · exact .inr (.of_lt ((sorted_around hentries).1 q hq))
  · exact .inl rfl
  · have hno := hafter q (List.mem_reverse.1 hq)
    rw [decide_eq_true hkv] at hno
    cases hno

theorem path?_eq_some_iff (h : c.locator = .ok l) {path : String} :
    l.path? v = some path ↔ ∃ key, c.Latest v key ∧ (key, path) ∈ c.paths.entries := by
  rw [path?_of_locator h, Option.map_eq_some_iff]
  constructor
  · rintro ⟨p, hp, rfl⟩
    obtain ⟨hmem, hlatest⟩ := latest_of_find hp
    exact ⟨p.1, hlatest, hmem⟩
  · rintro ⟨key, hlatest, hmem⟩
    cases hf : c.paths.entries.reverse.find? fun p => decide (Denotes p.1 v) with
    | none =>
      have hno := List.find?_eq_none.1 hf (key, path) (List.mem_reverse.2 hmem)
      exact absurd (decide_eq_true hlatest.denotes) hno
    | some p =>
      obtain ⟨hp, hplatest⟩ := latest_of_find hf
      exact ⟨p, rfl, congrArg Prod.snd (entry_unique hmem hp (hplatest.unique hlatest))⟩

theorem path?_eq_none_iff (h : c.locator = .ok l) : l.path? v = none ↔ ∀ key ∈ c.keys, ¬Denotes key v := by
  rw [path?_of_locator h, Option.map_eq_none_iff, List.find?_eq_none]
  constructor
  · intro hnone key hkey hden
    obtain ⟨p, hp, rfl⟩ := List.mem_map.1 hkey
    exact hnone p (List.mem_reverse.2 hp) (decide_eq_true hden)
  · intro hnone p hp hden
    exact hnone p.1 (mem_keys (List.mem_reverse.1 hp)) (of_decide_eq_true hden)

/-- No two keys denote one number. -/
def Unambiguous (c : Config) : Prop := ∀ k ∈ c.keys, ∀ k' ∈ c.keys, ∀ n, Denotes k n → Denotes k' n → k = k'

/-- What the table of paths comes to. -/
structure Locates (c : Config) : Prop where
  /-- It fails just where a key is no number, and the first such key is quoted as it is written. -/
  fails : ∀ e, c.locator = .error e ↔ ∃ key, c.FirstBad key ∧ e = .config (.badVersion key)
  message : ∀ key, (Error.config (.badVersion key)).message =
    "Config error: invalid version number in [paths]: " ++ Text.quoted key
  succeeds : (∃ l, c.locator = .ok l) ↔ ∀ key ∈ c.keys, ∃ n, Denotes key n
  /-- A version has the path of the greatest key that denotes it. -/
  path : ∀ l, c.locator = .ok l → ∀ v path,
    l.path? v = some path ↔ ∃ key, c.Latest v key ∧ (key, path) ∈ c.paths.entries
  none : ∀ l, c.locator = .ok l → ∀ v, l.path? v = none ↔ ∀ key ∈ c.keys, ¬Denotes key v
  size : ∀ l, c.locator = .ok l → l.size = Set.ncard {v | ∃ key ∈ c.keys, Denotes key v}
  /-- Where no number is denoted twice, each entry is found under its number. -/
  own : c.Unambiguous → ∀ l, c.locator = .ok l → ∀ p ∈ c.paths.entries, ∃ v, Denotes p.1 v ∧ l.path? v = some p.2

/-- **A table of paths is read by the numbers that its keys denote.** -/
theorem locator_decides (c : Config) : c.Locates where
  fails _ := locator_error_iff
  message _ := rfl
  succeeds := locator_isOk_iff
  path _ h _ _ := path?_eq_some_iff h
  none _ h _ := path?_eq_none_iff h
  size l h := by
    have hpaths : ∀ v, l.path? v ≠ none ↔ ∃ key ∈ c.keys, Denotes key v := by
      intro v
      rw [Ne, path?_eq_none_iff h]
      push Not
      rfl
    rw [l.size_eq_ncard]
    exact congrArg Set.ncard (Set.ext hpaths)
  own hc l h p hp := by
    obtain ⟨v, hv⟩ := locator_isOk_iff.1 ⟨l, h⟩ p.1 (mem_keys hp)
    exact ⟨v, hv, (path?_eq_some_iff h).2
      ⟨p.1, ⟨mem_keys hp, hv, fun k hk hkv => .inl (hc k hk p.1 (mem_keys hp) v hkv hv)⟩, hp⟩⟩

/-- Of four spellings of one number the last counts; the blank and the signs stand before the digits. -/
example : (locator { default with
    paths := .ofList [("7", "a"), (" 7", "b"), ("+7", "c"), ("07", "d"), ("-0", "e")] }).map
    (fun l => (l.path? 7, l.path? 0, l.size)) = .ok (some "a", some "e", 2) := by
  decide +kernel

end Config

end VersionTags
