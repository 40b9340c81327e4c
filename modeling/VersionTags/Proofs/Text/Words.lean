import Mathlib.Data.List.TakeWhile
import VersionTags.Proofs.Text.Lowercase
import VersionTags.Text.Blank
/-!
# Words between blanks

A text is trimmed and lowered before it is compared with a word.  It is that word just where it has blanks, then a
spelling of the word in ASCII, then blanks again (`Text.lowercase_trim_eq_iff`).
-/
namespace VersionTags.Text

/-! ## Trimming -/

variable {l t r cs : List Char}

theorem trimStart_append (hl : ∀ c ∈ l, isBlank c = true) (ht : ∀ c ∈ t.head?, isBlank c = false) :
    trimStart (l ++ t) = t := by
  unfold trimStart
  rw [List.dropWhile_append_of_pos hl]
  cases t with
  | nil => rfl
  | cons c t =>
    rw [List.dropWhile_cons, ht c rfl]
    rfl

/-- **Trimming takes the blanks off both ends**, of a text that has none at its own ends. -/
theorem trimList_append (hl : ∀ c ∈ l, isBlank c = true) (hr : ∀ c ∈ r, isBlank c = true)
    (hhead : ∀ c ∈ t.head?, isBlank c = false) (hlast : ∀ c ∈ t.getLast?, isBlank c = false) :
    trimList (l ++ t ++ r) = t := by
  unfold trimList
  cases t with
  | nil =>
    have hall : ∀ c ∈ l ++ r, isBlank c = true := by
      intro c hc
      exact (List.mem_append.1 hc).elim (hl c) (hr c)
    have hnil := trimStart_append (t := []) hall (by simp)
    rw [List.append_nil] at hnil
    rw [List.append_nil, hnil]
    rfl
  | cons a t =>
    rw [List.append_assoc, trimStart_append hl (t := a :: t ++ r) hhead, List.reverse_append, trimStart_append _ _,
      List.reverse_reverse]
    · simpa using hr
    · rwa [List.head?_reverse]

/-- What is left of a text stands between blanks. -/
theorem exists_blanks (cs : List Char) : ∃ l r : List Char, cs = l ++ trimList cs ++ r ∧
    (∀ c ∈ l, isBlank c = true) ∧ ∀ c ∈ r, isBlank c = true := by
  refine ⟨cs.takeWhile isBlank, ((trimStart cs).reverse.takeWhile isBlank).reverse, ?_, ?_, ?_⟩
  · have hback : trimList cs ++ ((trimStart cs).reverse.takeWhile isBlank).reverse = trimStart cs := by
      unfold trimList
      rw [← List.reverse_append]
      unfold trimStart
      rw [List.takeWhile_append_dropWhile, List.reverse_reverse]
    rw [List.append_assoc, hback]
    unfold trimStart
    rw [List.takeWhile_append_dropWhile]
  · intro c hc
    exact List.mem_takeWhile_imp hc
  · intro c hc
    exact List.mem_takeWhile_imp (List.mem_reverse.1 hc)

theorem trimList_eq_nil_iff : trimList cs = [] ↔ ∀ c ∈ cs, isBlank c = true := by
  constructor
  · intro h
    obtain ⟨l, r, hcs, hl, hr⟩ := exists_blanks cs
    rw [h, List.append_nil] at hcs
    rw [hcs]
    intro c hc
    exact (List.mem_append.1 hc).elim (hl c) (hr c)
  · intro h
    have hnil := trimList_append (t := []) (r := []) h (by simp) (by simp) (by simp)
    simpa using hnil

/-- **Nothing is left of a text of blanks**, and only of such a text. -/
theorem trim_eq_empty_iff {s : String} : trim s = "" ↔ ∀ c ∈ s.toList, isBlank c = true := by
  rw [← trimList_eq_nil_iff, trim, ← String.toList_inj, String.toList_ofList]
  rfl

/-! ## Words -/

/-- The text is the word, in any case of ASCII, with blanks around it. -/
def Spells (s word : String) : Prop := ∃ l t r : List Char, s.toList = l ++ t ++ r ∧
  (∀ c ∈ l, isBlank c = true) ∧ (∀ c ∈ r, isBlank c = true) ∧ t.map Char.toLower = word.toList

/-- A word of plain characters, none of them blank. -/
def IsWord (word : String) : Prop := word ≠ "" ∧ ∀ c ∈ word.toList, IsPlain c ∧ isBlank c = false

instance (word : String) : Decidable (IsWord word) :=
  decidable_of_iff (word ≠ "" ∧ (word.toList.all fun c => decide (IsPlain c) && !isBlank c) = true) (by simp [IsWord])

theorem isBlank_toLower (c : Char) : isBlank c.toLower = isBlank c := toLower_congr (by decide +kernel) c

variable {s word : String}

theorem lowercase_eq_iff (hw : ∀ c ∈ word.toList, IsPlain c) :
    lowercase s = word ↔ s.toList.map Char.toLower = word.toList := by
  rw [lowercase, ← String.toList_inj, String.toList_ofList, lowerList, lowerAfter_eq_iff hw]

/-- **A trimmed text in lowercase is a word just where the text spells it.** -/
theorem lowercase_trim_eq_iff (hw : IsWord word) : lowercase (trim s) = word ↔ Spells s word := by
  rw [lowercase_eq_iff fun c hc => (hw.2 c hc).1, trim, String.toList_ofList]
  constructor
  · intro h
    obtain ⟨l, r, hs, hl, hr⟩ := exists_blanks s.toList
    exact ⟨l, trimList s.toList, r, hs, hl, hr, h⟩
  · rintro ⟨l, t, r, hs, hl, hr, ht⟩
    have hblank : ∀ c ∈ t, isBlank c = false := by
      intro c hc
      rw [← isBlank_toLower]
      exact (hw.2 _ (by rw [← ht]; exact List.mem_map_of_mem hc)).2
    rw [hs, trimList_append hl hr (fun c hc => hblank c (List.mem_of_mem_head? hc))
      fun c hc => hblank c (List.mem_of_getLast? hc), ht]

theorem not_spells_of_forall_isBlank (hw : IsWord word) (hs : ∀ c ∈ s.toList, isBlank c = true) : ¬Spells s word := by
  intro h
  rw [← lowercase_trim_eq_iff hw, trim_eq_empty_iff.2 hs] at h
  exact hw.1 h.symm

end VersionTags.Text
