import VersionTags.Text.Lowercase
/-!
# Lowercase forms

A lowercase form is its own lowercase form (`Text.lowercase_lowercase`).  No letter that the table gives is a capital
of the table, so every character of a lowercase form stays as it is, whatever stands around it; the rule for a final
sigma looks at neighbours but only at a capital sigma, and none is left.

Of the characters outside ASCII the Kelvin sign alone has a lowercase form inside it, `k`.  A word of ASCII characters
without that letter is therefore the lowercase form of its own ASCII spellings and of no other text
(`Text.lowerAfter_eq_iff`).
-/
namespace VersionTags.Text

/-! ## The table -/

namespace CaseRun

def low (r : CaseRun) : Nat := (r.first + r.shift).toNat

def high (r : CaseRun) : Nat := (r.last + r.shift).toNat

/-- The letters that the run gives, from `low` to `high`, are characters. -/
def isSound (r : CaseRun) : Bool :=
  decide (0 ≤ r.first + r.shift) && (r.high.blt 0xD800 || (0xDFFF).blt r.low && r.high.blt 0x110000)

/-- No letter that the run gives is a capital of the other run: all lie on one side of its capitals, or between
them. -/
def spares (r q : CaseRun) : Bool :=
  r.high.blt q.first || q.last.blt r.low ||
    q.step == 2 && (r.step == 2 || r.first == r.last) && (r.low + q.first) % 2 == 1

/-- The letters that the run gives are outside ASCII, or its capitals inside, or it gives `k` alone. -/
def isForeign (r : CaseRun) : Bool :=
  (127).blt r.low || r.last.blt 128 || r.first == r.last && r.low == 'k'.toNat

variable {r q : CaseRun} {n : Nat}

theorem has_iff : r.has n = true ↔ (r.first ≤ n ∧ n ≤ r.last) ∧ (n - r.first) % r.step = 0 := by
  simp [has]

theorem isValidChar_of_isSound (hr : r.isSound = true) (hn : r.has n = true) : (n + r.shift).toNat.isValidChar := by
  obtain ⟨⟨hlo, hhi⟩, -⟩ := has_iff.1 hn
  simp only [isSound, low, high, Bool.and_eq_true, Bool.or_eq_true, decide_eq_true_eq, Nat.blt_eq] at hr
  unfold Nat.isValidChar
  omega

theorem has_eq_false_of_spares (h : r.spares q = true) (hs : r.isSound = true) (hn : r.has n = true) :
    q.has (n + r.shift).toNat = false := by
  obtain ⟨⟨hlo, hhi⟩, hstep⟩ := has_iff.1 hn
  simp only [isSound, Bool.and_eq_true, decide_eq_true_eq] at hs
  rw [Bool.eq_false_iff, Ne, has_iff]
  rintro ⟨⟨hlo', hhi'⟩, hstep'⟩
  simp only [spares, low, high, Bool.and_eq_true, Bool.or_eq_true, Nat.blt_eq, beq_iff_eq] at h
  rcases h with (h | h) | ⟨⟨hq, h | h⟩, hodd⟩
  · omega
  · omega
  · rw [h] at hstep
    rw [hq] at hstep'
    omega
  · rw [hq] at hstep'
    omega

end CaseRun

/-- `İ`, which no run has. -/
def dottedRun : CaseRun := ⟨'İ'.toNat, 'İ'.toNat, 1, 0⟩

theorem spares_caseRuns : (caseRuns.all fun r => (dottedRun :: caseRuns).all r.spares) = true := by decide +kernel

theorem isSound_caseRuns : ∀ r ∈ caseRuns, r.isSound = true := by decide +kernel

theorem isForeign_caseRuns : ∀ r ∈ caseRuns, r.isForeign = true := by decide +kernel

theorem spares_of_mem {r q : CaseRun} (hr : r ∈ caseRuns) (hq : q ∈ dottedRun :: caseRuns) : r.spares q = true :=
  List.all_eq_true.1 (List.all_eq_true.1 spares_caseRuns r hr) q hq

/-! ## Code points -/

variable {n : Nat}

/-- The lowercase letter of a code point: the code point itself, or what a run gives. -/
theorem lowerCode_cases (n : Nat) : (lowerCode n = n ∧ ∀ r ∈ caseRuns, r.has n = false) ∨
    ∃ r ∈ caseRuns, r.has n = true ∧ lowerCode n = (n + r.shift).toNat := by
  unfold lowerCode
  split
  · rename_i r h
    have hn := List.find?_some h
    exact .inr ⟨r, List.mem_of_find?_eq_some h, hn, rfl⟩
  · rename_i h
    refine .inl ⟨rfl, fun r hr => ?_⟩
    simpa using List.find?_eq_none.1 h r hr

theorem lowerCode_of_forall (h : ∀ r ∈ caseRuns, r.has n = false) : lowerCode n = n := by
  rcases lowerCode_cases n with ⟨hn, -⟩ | ⟨r, hr, hn, -⟩
  · exact hn
  · rw [h r hr] at hn
    cases hn

/-- **A letter that the table gives has no other letter.** -/
theorem lowerCode_lowerCode (n : Nat) : lowerCode (lowerCode n) = lowerCode n := by
  rcases lowerCode_cases n with ⟨hn, -⟩ | ⟨r, hr, hn, hm⟩
  · rw [hn, hn]
  · rw [hm]
    apply lowerCode_of_forall
    intro q hq
    exact CaseRun.has_eq_false_of_spares (spares_of_mem hr (List.mem_cons_of_mem _ hq)) (isSound_caseRuns r hr) hn

theorem isValidChar_lowerCode (h : n.isValidChar) : (lowerCode n).isValidChar := by
  rcases lowerCode_cases n with ⟨hn, -⟩ | ⟨r, hr, hn, hm⟩
  · rwa [hn]
  · rw [hm]
    exact CaseRun.isValidChar_of_isSound (isSound_caseRuns r hr) hn

theorem lowerCode_ne_dotted (h : n ≠ 'İ'.toNat) : lowerCode n ≠ 'İ'.toNat := by
  rcases lowerCode_cases n with ⟨hn, -⟩ | ⟨r, hr, hn, hm⟩
  · rwa [hn]
  · intro heq
    have hspared := CaseRun.has_eq_false_of_spares (spares_of_mem hr List.mem_cons_self) (isSound_caseRuns r hr) hn
    rw [← hm, heq] at hspared
    cases hspared

/-- Outside ASCII only the Kelvin sign has a letter inside. -/
theorem le_lowerCode (h : 128 ≤ n) (hk : lowerCode n ≠ 'k'.toNat) : 128 ≤ lowerCode n := by
  rcases lowerCode_cases n with ⟨hn, -⟩ | ⟨r, hr, hn, hm⟩
  · rwa [hn]
  · obtain ⟨⟨hlo, hhi⟩, -⟩ := CaseRun.has_iff.1 hn
    have hforeign := isForeign_caseRuns r hr
    simp only [CaseRun.isForeign, CaseRun.low, Bool.and_eq_true, Bool.or_eq_true, Nat.blt_eq, beq_iff_eq] at hforeign
    omega

/-! ## Characters -/

/-- The character is its own lowercase form, wherever it stands. -/
def IsLower (c : Char) : Prop := c ≠ 'Σ' ∧ lowerChar c = [c]

instance (c : Char) : Decidable (IsLower c) := inferInstanceAs (Decidable (_ ∧ _))

variable {c d : Char}

theorem toNat_ofNat_lowerCode (c : Char) : (Char.ofNat (lowerCode c.toNat)).toNat = lowerCode c.toNat := by
  have hv : (lowerCode c.toNat).isValidChar := isValidChar_lowerCode c.valid
  rw [Char.ofNat, dif_pos hv]
  rfl

theorem lowerChar_of_ne (h : c ≠ 'İ') : lowerChar c = [Char.ofNat (lowerCode c.toNat)] := if_neg h

theorem isLower_of_mem_lowerChar (h : d ∈ lowerChar c) : IsLower d := by
  by_cases hc : c = 'İ'
  · subst hc
    rw [lowerChar, if_pos rfl] at h
    simp only [List.mem_cons, List.not_mem_nil, or_false] at h
    rcases h with rfl | rfl <;> decide +kernel
  · rw [lowerChar_of_ne hc, List.mem_singleton] at h
    have hd : d.toNat = lowerCode c.toNat := by rw [h, toNat_ofNat_lowerCode]
    have hfix : lowerCode d.toNat = d.toNat := by rw [hd, lowerCode_lowerCode]
    have hdotted : d ≠ 'İ' := by
      rintro rfl
      exact lowerCode_ne_dotted (fun hn => hc (Char.toNat_inj.1 hn)) hd.symm
    refine ⟨?_, ?_⟩
    · rintro rfl
      revert hfix
      decide +kernel
    · rw [lowerChar_of_ne hdotted, hfix, Char.ofNat_toNat]

theorem isLower_of_mem_lowerAfter : ∀ {cs before : List Char}, d ∈ lowerAfter before cs → IsLower d
  | c :: cs, before, h => by
    rw [lowerAfter, List.mem_append] at h
    rcases h with h | h
    · split at h
      · obtain rfl := List.mem_singleton.1 h
        split <;> decide +kernel
      · exact isLower_of_mem_lowerChar h
    · exact isLower_of_mem_lowerAfter h

theorem lowerAfter_of_isLower : ∀ {cs before : List Char}, (∀ c ∈ cs, IsLower c) → lowerAfter before cs = cs
  | [], _, _ => rfl
  | c :: cs, before, h => by
    have hc := h c List.mem_cons_self
    rw [lowerAfter, if_neg hc.1, hc.2, lowerAfter_of_isLower fun d hd => h d (List.mem_cons_of_mem _ hd)]
    rfl

/-! ## Texts -/

theorem lowerList_lowerList (cs : List Char) : lowerList (lowerList cs) = lowerList cs :=
  lowerAfter_of_isLower fun _ => isLower_of_mem_lowerAfter

/-- **A lowercase form is its own lowercase form.** -/
@[simp]
theorem lowercase_lowercase (s : String) : lowercase (lowercase s) = lowercase s := by
  unfold lowercase
  rw [String.toList_ofList, lowerList_lowerList]

@[simp]
theorem sameFold_lowercase_right (a b : String) : sameFold a (lowercase b) = sameFold a b := by
  unfold sameFold
  rw [lowercase_lowercase]

/-- A sigma is final in the one form and stays so in the form of the form. -/
example : lowercase "ΟΔΟΣ İΣ ΣK" = "οδος i\u0307ς σk" ∧ lowercase "οδος i\u0307ς σk" = "οδος i\u0307ς σk" := by
  decide +kernel

/-! ## Words of ASCII -/

/-- A character of ASCII that is the lowercase form of characters of ASCII alone. -/
def IsPlain (c : Char) : Prop := c.toNat < 128 ∧ c ≠ 'k'

instance (c : Char) : Decidable (IsPlain c) := inferInstanceAs (Decidable (_ ∧ _))

theorem lowerChar_ascii : ∀ n : Nat, n < 128 → lowerChar (Char.ofNat n) = [(Char.ofNat n).toLower] := by
  decide +kernel

theorem lowerChar_of_lt (h : c.toNat < 128) : lowerChar c = [c.toLower] := by
  simpa using lowerChar_ascii c.toNat h

theorem toLower_of_le (h : 128 ≤ c.toNat) : c.toLower = c := by
  unfold Char.toLower
  rw [dif_neg]
  rintro ⟨-, hz⟩
  have hz' : c.toNat ≤ 90 := hz
  omega

/-- What holds of the characters of ASCII as of their lowercase letters holds so of all characters. -/
theorem toLower_congr {p : Char → Bool} (hp : ∀ n : Nat, n < 128 → p (Char.ofNat n).toLower = p (Char.ofNat n))
    (c : Char) : p c.toLower = p c := by
  by_cases hc : c.toNat < 128
  · simpa using hp c.toNat hc
  · rw [toLower_of_le (Nat.le_of_not_lt hc)]

theorem ne_sigma_of_lt (h : c.toNat < 128) : c ≠ 'Σ' := by
  rintro rfl
  revert h
  decide

theorem lowerChar_of_isPlain_toLower (h : IsPlain c.toLower) : c ≠ 'Σ' ∧ lowerChar c = [c.toLower] := by
  have hc : c.toNat < 128 := by
    refine Nat.lt_of_not_le fun hle => ?_
    rw [toLower_of_le hle] at h
    exact Nat.not_le.2 h.1 hle
  exact ⟨ne_sigma_of_lt hc, lowerChar_of_lt hc⟩

theorem lowerChar_of_forall_isPlain (h : ∀ d ∈ lowerChar c, IsPlain d) : lowerChar c = [c.toLower] := by
  by_cases hc : c.toNat < 128
  · exact lowerChar_of_lt hc
  by_cases hdot : c = 'İ'
  · subst hdot
    have hmark := h '\u0307' (by decide +kernel)
    revert hmark
    decide
  · rw [lowerChar_of_ne hdot] at h
    obtain ⟨hlt, hk⟩ := h _ List.mem_cons_self
    rw [toNat_ofNat_lowerCode] at hlt
    have hne : lowerCode c.toNat ≠ 'k'.toNat := fun heq => hk (by rw [heq]; rfl)
    have hle := le_lowerCode (Nat.le_of_not_lt hc) hne
    omega

/-- **A word of plain characters is the lowercase form of its spellings in ASCII**, and of no other text. -/
theorem lowerAfter_eq_iff : ∀ {cs w before : List Char}, (∀ d ∈ w, IsPlain d) →
    (lowerAfter before cs = w ↔ cs.map Char.toLower = w)
  | [], _, _, _ => Iff.rfl
  | c :: cs, w, before, hw => by
    rw [lowerAfter, List.map_cons]
    constructor
    · rintro rfl
      by_cases hc : c = 'Σ'
      · rw [if_pos hc] at hw
        exfalso
        have hsigma := hw _ (List.mem_append_left _ (List.mem_singleton_self _))
        revert hsigma
        split <;> decide
      · rw [if_neg hc] at hw ⊢
        rw [lowerChar_of_forall_isPlain fun d hd => hw d (List.mem_append_left _ hd),
          (lowerAfter_eq_iff fun d hd => hw d (List.mem_append_right _ hd)).1 rfl]
        rfl
    · rintro rfl
      obtain ⟨hc, hlower⟩ := lowerChar_of_isPlain_toLower (hw _ List.mem_cons_self)
      rw [if_neg hc, hlower, (lowerAfter_eq_iff fun d hd => hw d (List.mem_cons_of_mem _ hd)).2 rfl]
      rfl

end VersionTags.Text
