import VersionTags.Page
import VersionTags.Proofs.Text.Words
/-!
# Which pages can be asked for

The raw values of a request make a page when neither number is negative and each sort text is blank or spells one of
its words (`Page.ofRaw_decides`).  The words have no letter with a capital outside ASCII, so no text with another
character between its blanks is let through.
-/
namespace VersionTags

open Text (isBlank Spells IsWord)

/-! ## Sort texts -/

def SortField.words : SortField → List String
  | .tagName => ["name", "tag", "tag_name", "tagname"]
  | .tagCount => ["count", "tag_count", "tagcount"]

def SortOrder.words : SortOrder → List String
  | .asc => ["asc", "ascending"]
  | .desc => ["desc", "descending"]

/-- The letters that the words are made of, in either case. -/
def isSortLetter (c : Char) : Bool := c.isAlpha || c == '_'

theorem isSortLetter_toLower (c : Char) : isSortLetter c.toLower = isSortLetter c :=
  Text.toLower_congr (by decide +kernel) c

/-- A text asks for nothing when it is blank, and otherwise for what has a word that it spells. -/
inductive Asks {α : Type} (words : α → List String) (s : String) : Option α → Prop
  | nothing (h : ∀ c ∈ s.toList, isBlank c = true) : Asks words s none
  | word {a : α} {w : String} (hw : w ∈ words a) (h : Spells s w) : Asks words s (some a)

/-- The parser takes the words in their two lists, one after the other, and refuses the rest. -/
structure Parses {α : Type} (words : α → List String) (a b : α) (parse : String → Except Error α)
    (bad : String → BadArgument) : Prop where
  cases : ∀ x, x = a ∨ x = b
  parse_eq : ∀ s, parse s = if (words a).contains (Text.lowercase (Text.trim s)) then .ok a
    else if (words b).contains (Text.lowercase (Text.trim s)) then .ok b else .error (.invalidArgument (bad s))
  isWord : ∀ w ∈ words a ++ words b, IsWord w
  isSortLetter : ∀ w ∈ words a ++ words b, w.toList.all isSortLetter = true
  disjoint : ∀ w ∈ words a, w ∉ words b

theorem SortField.parses : Parses words .tagName .tagCount parse .sortField where
  cases := by rintro (_ | _) <;> simp
  parse_eq _ := rfl
  isWord := by decide +kernel
  isSortLetter := by decide +kernel
  disjoint := by decide +kernel

theorem SortOrder.parses : Parses words .asc .desc parse .sortOrder where
  cases := by rintro (_ | _) <;> simp
  parse_eq _ := rfl
  isWord := by decide +kernel
  isSortLetter := by decide +kernel
  disjoint := by decide +kernel

namespace Parses

variable {α : Type} {words : α → List String} {a b : α} {parse : String → Except Error α} {bad : String → BadArgument}
  {s w : String} {x : α} {e : Error}

theorem mem_words (h : Parses words a b parse bad) (hw : w ∈ words x) : w ∈ words a ++ words b := by
  rcases h.cases x with rfl | rfl <;> simp [hw]

theorem parse_ok_iff (h : Parses words a b parse bad) : parse s = .ok x ↔ ∃ w ∈ words x, Spells s w := by
  have hmem : (∃ w ∈ words x, Spells s w) ↔ Text.lowercase (Text.trim s) ∈ words x := by
    constructor
    · rintro ⟨w, hw, hs⟩
      rwa [(Text.lowercase_trim_eq_iff (h.isWord w (h.mem_words hw))).2 hs]
    · intro hw
      exact ⟨_, hw, (Text.lowercase_trim_eq_iff (h.isWord _ (h.mem_words hw))).1 rfl⟩
  rw [hmem, h.parse_eq]
  have hdisj := h.disjoint (Text.lowercase (Text.trim s))
  generalize Text.lowercase (Text.trim s) = w at hdisj
  simp only [List.contains_iff_mem]
  by_cases ha : w ∈ words a
  · have hb := hdisj ha
    rw [if_pos ha]
    rcases h.cases x with rfl | rfl
    · simp [ha]
    · have hne : a ≠ x := by
        rintro rfl
        exact hb ha
      simp [hb, hne]
  · rw [if_neg ha]
    by_cases hb : w ∈ words b
    · rw [if_pos hb]
      rcases h.cases x with rfl | rfl
      · have hne : b ≠ x := by
          rintro rfl
          exact ha hb
        simp [ha, hne]
      · simp [hb]
    · rw [if_neg hb]
      rcases h.cases x with rfl | rfl <;> simp [ha, hb]

theorem parse_error (h : Parses words a b parse bad) (he : parse s = .error e) : e = .invalidArgument (bad s) := by
  rw [h.parse_eq] at he
  split at he
  · cases he
  · split at he
    · cases he
    · exact (Except.error.inj he).symm

theorem optional_ok_iff (h : Parses words a b parse bad) {y : Option α} :
    Page.optional parse s = .ok y ↔ Asks words s y := by
  unfold Page.optional
  by_cases hs : Text.trim s = ""
  · rw [if_pos hs]
    have hblank := Text.trim_eq_empty_iff.1 hs
    constructor
    · intro hy
      cases hy
      exact .nothing hblank
    · rintro (_ | ⟨hw, hspell⟩)
      · rfl
      · exact absurd hspell (Text.not_spells_of_forall_isBlank (h.isWord _ (h.mem_words hw)) hblank)
  · rw [if_neg hs]
    constructor
    · intro hy
      cases hp : parse s with
      | error e =>
        rw [hp] at hy
        cases hy
      | ok x =>
        rw [hp] at hy
        cases hy
        obtain ⟨w, hw, hspell⟩ := h.parse_ok_iff.1 hp
        exact .word hw hspell
    · rintro (hblank | ⟨hw, hspell⟩)
      · exact absurd (Text.trim_eq_empty_iff.2 hblank) hs
      · rw [h.parse_ok_iff.2 ⟨_, hw, hspell⟩]
        rfl

theorem optional_error (h : Parses words a b parse bad) (he : Page.optional parse s = .error e) :
    e = .invalidArgument (bad s) := by
  unfold Page.optional at he
  split at he
  · cases he
  · cases hp : parse s with
    | error e' =>
      rw [hp] at he
      cases he
      exact h.parse_error hp
    | ok x =>
      rw [hp] at he
      cases he

theorem optional_error_iff (h : Parses words a b parse bad) :
    Page.optional parse s = .error e ↔ (∀ y, ¬Asks words s y) ∧ e = .invalidArgument (bad s) := by
  constructor
  · intro he
    refine ⟨fun y hy => ?_, h.optional_error he⟩
    rw [h.optional_ok_iff.2 hy] at he
    cases he
  · rintro ⟨hnone, rfl⟩
    cases ho : Page.optional parse s with
    | ok y => exact absurd (h.optional_ok_iff.1 ho) (hnone y)
    | error e => rw [h.optional_error ho]

theorem letters (h : Parses words a b parse bad) {y : Option α} (hs : Asks words s y) {c : Char} (hc : c ∈ s.toList) :
    isBlank c = true ∨ VersionTags.isSortLetter c = true := by
  cases hs with
  | nothing hblank => exact .inl (hblank c hc)
  | word hw hspell =>
    obtain ⟨l, t, r, hs, hl, hr, ht⟩ := hspell
    rw [hs, List.mem_append, List.mem_append] at hc
    rcases hc with (hc | hc) | hc
    · exact .inl (hl c hc)
    · rw [← isSortLetter_toLower]
      exact .inr (List.all_eq_true.1 (h.isSortLetter _ (h.mem_words hw)) _ (by rw [← ht]; exact List.mem_map_of_mem hc))
    · exact .inl (hr c hc)

end Parses

/-! ## Requests -/

namespace Page

/-- These values ask for the page. -/
structure Meets (start count : Int) (b o : String) (p : Page) : Prop where
  start : (p.start : Int) = start
  count : (p.count : Int) = count
  sortBy : Asks SortField.words b p.sortBy
  sortOrder : Asks SortOrder.words o p.sortOrder

/-- The first of the values that no page can be made with. -/
inductive Offends (start count : Int) (b o : String) : BadArgument → Prop
  | start (h : start < 0) : Offends start count b o (.negativeStart start)
  | count (hs : 0 ≤ start) (h : count < 0) : Offends start count b o (.negativeSize count)
  | sortBy (hs : 0 ≤ start) (hc : 0 ≤ count) (h : ∀ x, ¬Asks SortField.words b x) :
    Offends start count b o (.sortField b)
  | sortOrder (hs : 0 ≤ start) (hc : 0 ≤ count) (hb : ∃ x, Asks SortField.words b x)
    (h : ∀ x, ¬Asks SortOrder.words o x) : Offends start count b o (.sortOrder o)

variable {start count : Int} {b o : String} {p : Page} {e : Error}

/-- A request whose numbers will do comes to what its sort texts come to. -/
theorem ofRaw_of_nonneg (hs : 0 ≤ start) (hc : 0 ≤ count) : ofRaw start count b o =
    (optional SortField.parse b).bind fun field =>
      (optional SortOrder.parse o).map fun order => ⟨start.toNat, count.toNat, field, order⟩ := by
  unfold ofRaw
  rw [if_neg (Int.not_lt.2 hs), if_neg (Int.not_lt.2 hc)]
  rfl

theorem ofRaw_of_meets (h : Meets start count b o p) : ofRaw start count b o = .ok p := by
  obtain ⟨hstart, hcount, hb, ho⟩ := h
  rw [ofRaw_of_nonneg (by omega) (by omega), SortField.parses.optional_ok_iff.2 hb,
    SortOrder.parses.optional_ok_iff.2 ho, ← hstart, ← hcount]
  rfl

theorem ofRaw_of_offends {x : BadArgument} (h : Offends start count b o x) :
    ofRaw start count b o = .error (.invalidArgument x) := by
  cases h with
  | start h =>
    unfold ofRaw
    rw [if_pos h]
    rfl
  | count hs h =>
    unfold ofRaw
    rw [if_neg (Int.not_lt.2 hs), if_pos h]
    rfl
  | sortBy hs hc h =>
    rw [ofRaw_of_nonneg hs hc, SortField.parses.optional_error_iff.2 ⟨h, rfl⟩]
    rfl
  | sortOrder hs hc hb h =>
    obtain ⟨x, hx⟩ := hb
    rw [ofRaw_of_nonneg hs hc, SortField.parses.optional_ok_iff.2 hx, SortOrder.parses.optional_error_iff.2 ⟨h, rfl⟩]
    rfl

theorem meets_or_offends (start count : Int) (b o : String) :
    (∃ p, Meets start count b o p) ∨ ∃ x, Offends start count b o x := by
  by_cases hs : 0 ≤ start
  · by_cases hc : 0 ≤ count
    · by_cases hb : ∃ x, Asks SortField.words b x
      · by_cases ho : ∃ x, Asks SortOrder.words o x
        · obtain ⟨x, hx⟩ := hb
          obtain ⟨y, hy⟩ := ho
          exact .inl ⟨⟨start.toNat, count.toNat, x, y⟩, Int.toNat_of_nonneg hs, Int.toNat_of_nonneg hc, hx, hy⟩
        · exact .inr ⟨_, .sortOrder hs hc hb (not_exists.1 ho)⟩
      · exact .inr ⟨_, .sortBy hs hc (not_exists.1 hb)⟩
    · exact .inr ⟨_, .count hs (Int.not_le.1 hc)⟩
  · exact .inr ⟨_, .start (Int.not_le.1 hs)⟩

theorem ofRaw_ok_iff : ofRaw start count b o = .ok p ↔ Meets start count b o p := by
  refine ⟨fun h => ?_, ofRaw_of_meets⟩
  rcases meets_or_offends start count b o with ⟨q, hq⟩ | ⟨x, hx⟩
  · rw [ofRaw_of_meets hq] at h
    cases h
    exact hq
  · rw [ofRaw_of_offends hx] at h
    cases h

theorem ofRaw_error_iff : ofRaw start count b o = .error e ↔
    ∃ x, Offends start count b o x ∧ e = .invalidArgument x := by
  constructor
  · intro h
    rcases meets_or_offends start count b o with ⟨q, hq⟩ | ⟨x, hx⟩
    · rw [ofRaw_of_meets hq] at h
      cases h
    · rw [ofRaw_of_offends hx] at h
      cases h
      exact ⟨x, hx, rfl⟩
  · rintro ⟨x, hx, rfl⟩
    exact ofRaw_of_offends hx

/-- What a request comes to. -/
structure Decides (start count : Int) (b o : String) : Prop where
  /-- It is granted just where no number is negative and each sort text is blank or spells a word. -/
  accepts : (∃ p, ofRaw start count b o = .ok p) ↔
    0 ≤ start ∧ 0 ≤ count ∧ (∃ x, Asks SortField.words b x) ∧ ∃ y, Asks SortOrder.words o y
  page : ∀ p, ofRaw start count b o = .ok p ↔ Meets start count b o p
  offset : ∀ p, ofRaw start count b o = .ok p → (p.offset : Int) = max start 1 - 1
  letters : ∀ p, ofRaw start count b o = .ok p → ∀ c ∈ b.toList ++ o.toList, isBlank c = true ∨ isSortLetter c = true
  /-- Otherwise the first value that will not do is reported, as it was given. -/
  refuses : ∀ e, ofRaw start count b o = .error e ↔ ∃ x, Offends start count b o x ∧ e = .invalidArgument x

/-- **A page can be asked for in the words of the two lists alone**, in any case of ASCII and between any blanks. -/
theorem ofRaw_decides (start count : Int) (b o : String) : Decides start count b o where
  accepts := by
    constructor
    · rintro ⟨p, hp⟩
      obtain ⟨hstart, hcount, hb, ho⟩ := ofRaw_ok_iff.1 hp
      exact ⟨by omega, by omega, ⟨_, hb⟩, ⟨_, ho⟩⟩
    · rintro ⟨hs, hc, ⟨x, hx⟩, ⟨y, hy⟩⟩
      exact ⟨⟨start.toNat, count.toNat, x, y⟩,
        ofRaw_of_meets ⟨Int.toNat_of_nonneg hs, Int.toNat_of_nonneg hc, hx, hy⟩⟩
  page _ := ofRaw_ok_iff
  offset p hp := by
    have hstart := (ofRaw_ok_iff.1 hp).start
    unfold offset
    omega
  letters p hp c hc := by
    obtain ⟨-, -, hb, ho⟩ := ofRaw_ok_iff.1 hp
    rcases List.mem_append.1 hc with hc | hc
    · exact SortField.parses.letters hb hc
    · exact SortOrder.parses.letters ho hc
  refuses _ := ofRaw_error_iff

/-- A dotted capital is no letter of a word, though its lowercase form starts with one. -/
example : ofRaw 0 5 " Tag_Name\u2003" "" = .ok ⟨0, 5, some .tagName, none⟩ ∧
    ofRaw 1 0 "count" "ascendİng" = .error (.invalidArgument (.sortOrder "ascendİng")) := by
  decide +kernel

end Page
end VersionTags
