import Mathlib.Algebra.Group.Nat.Defs
import VersionTags.Decimal
import VersionTags.Text.Blank
/-!
# Numbers and their digits

The digits written for a number denote it, with zeros in front as well (`Decimal.value_padded`), and a width that is
wide enough is kept exactly (`Decimal.length_padded`).
-/
namespace VersionTags

namespace Decimal

theorem isDigit_digitChar {d : Nat} (h : d < 10) : (digitChar d).isDigit = true := by
  revert d
  decide

theorem digitValue_digitChar {d : Nat} (h : d < 10) : digitValue (digitChar d) = d := by
  revert d
  decide

theorem value_concat (ds : List Char) (c : Char) : value (ds ++ [c]) = 10 * value ds + digitValue c := by
  simp only [value, List.foldl_append, List.foldl_cons, List.foldl_nil]

/-- **The digits of a number denote it.** -/
theorem value_digits (n : Nat) : value (digits n) = n := by
  rw [digits]
  split
  · rename_i h
    simp [value, digitValue_digitChar h]
  · rw [value_concat, value_digits (n / 10), digitValue_digitChar (by omega)]
    omega

theorem isDigit_digits (n : Nat) : ∀ c ∈ digits n, c.isDigit = true := by
  rw [digits]
  split
  · rename_i h
    simpa using isDigit_digitChar h
  · intro c hc
    rcases List.mem_append.1 hc with hc | hc
    · exact isDigit_digits (n / 10) c hc
    · obtain rfl := List.mem_singleton.1 hc
      exact isDigit_digitChar (by omega)

theorem digits_ne_nil (n : Nat) : digits n ≠ [] := by
  rw [digits]
  split <;> simp

theorem length_digits_le : ∀ {w n : Nat}, 0 < w → n < 10 ^ w → (digits n).length ≤ w
  | w + 1, n, _, h => by
    rw [digits]
    split
    · simp
    · rename_i hn
      have hw : 0 < w := by
        rcases Nat.eq_zero_or_pos w with rfl | hw
        · omega
        · exact hw
      have ih := length_digits_le hw (n := n / 10) (by omega)
      rw [List.length_append, List.length_singleton]
      omega

theorem value_zeros (ds : List Char) : ∀ k : Nat, value (List.replicate k '0' ++ ds) = value ds
  | 0 => rfl
  | k + 1 => value_zeros ds k

/-- The digits of a positive number start with no zero. -/
theorem head?_digits {n : Nat} (h : 0 < n) : (digits n).head? ≠ some '0' := by
  rw [digits]
  split
  · rename_i hn
    have hchar : ∀ d < 10, 0 < d → digitChar d ≠ '0' := by decide
    exact fun hc => hchar n hn h (Option.some.inj hc)
  · rw [List.head?_append, List.head?_eq_some_head (digits_ne_nil _), Option.some_or,
      ← List.head?_eq_some_head (digits_ne_nil _)]
    exact head?_digits (by omega)

theorem toDigits_eq_digits (n : Nat) : Nat.toDigits 10 n = digits n := by
  have hchar : ∀ d < 10, Nat.digitChar d = digitChar d := by decide
  rw [digits, Nat.toDigits_eq_if (by decide)]
  split
  · rename_i h
    rw [hchar n h]
  · rw [toDigits_eq_digits (n / 10), hchar _ (Nat.mod_lt n (by decide))]

theorem toList_toString_nat (n : Nat) : (toString n).toList = digits n := Nat.toList_repr.trans (toDigits_eq_digits n)

/-- **A whole number is printed as its digits**, with a minus sign where it has one. -/
theorem toList_toString (n : Int) : (toString n).toList = ofInt n := by
  cases n with
  | ofNat m => exact toList_toString_nat m
  | negSucc m =>
    rw [ofInt, if_pos (Int.negSucc_lt_zero m)]
    show ("-" ++ toString (m + 1)).toList = _
    rw [String.toList_append, toList_toString_nat]
    rfl

/-- A whole number starts with a digit or a minus sign. -/
theorem exists_cons_ofInt (n : Int) : ∃ c cs, ofInt n = c :: cs ∧ ∀ d, d ≠ '-' → d.isDigit = false → c ≠ d := by
  unfold ofInt
  split
  · exact ⟨'-', _, rfl, fun d hm _ => hm.symm⟩
  · obtain ⟨c, cs, hc⟩ := List.exists_cons_of_ne_nil (digits_ne_nil n.natAbs)
    have hdigit := isDigit_digits n.natAbs c (hc ▸ List.mem_cons_self)
    refine ⟨c, cs, hc, fun d _ hd => ?_⟩
    rintro rfl
    rw [hd] at hdigit
    cases hdigit

variable (w n : Nat)

/-- **A number is denoted with zeros in front as without.** -/
theorem value_padded : value (padded w n) = n := by
  rw [padded, value_zeros, value_digits]

theorem isDigit_padded : ∀ c ∈ padded w n, c.isDigit = true := by
  intro c hc
  rcases List.mem_append.1 hc with hc | hc
  · rw [(List.mem_replicate.1 hc).2]
    rfl
  · exact isDigit_digits n c hc

theorem padded_ne_nil : padded w n ≠ [] := by
  rw [padded, Ne, List.append_eq_nil_iff]
  exact fun h => digits_ne_nil n h.2

variable {w n}

/-- **A number below a power of ten is padded to the width of the power.** -/
theorem length_padded (hw : 0 < w) (h : n < 10 ^ w) : (padded w n).length = w := by
  have hl := length_digits_le hw h
  rw [padded, List.length_append, List.length_replicate]
  omega

end Decimal

theorem Text.not_isBlank_of_isDigit {c : Char} (h : c.isDigit = true) : isBlank c = false := by
  have hc : 48 ≤ c.toNat ∧ c.toNat ≤ 57 := by
    simpa [Char.isDigit, UInt32.le_iff_toNat_le] using h
  rw [Bool.eq_false_iff, isBlank, Ne, Ranges.has_iff]
  rintro ⟨r, hr, hlo, hhi⟩
  simp only [blankRanges, List.mem_cons, List.not_mem_nil, or_false] at hr
  rcases hr with rfl | rfl | rfl | rfl | rfl | rfl | rfl | rfl | rfl | rfl <;> omega

end VersionTags
