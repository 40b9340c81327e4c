import Mathlib.Algebra.Order.Field.Power
import Mathlib.Data.Prod.Lex
import Mathlib.Data.Rat.Cast.Order
import Mathlib.Data.String.Basic
import Mathlib.Tactic.NormNum
import Mathlib.Tactic.Positivity
import VersionTags.Storage.Cell
/-!
# The order of stored values

A sorted column goes by the rank of its values: the numbers by what they are, between the two that are beyond all
others, and then the texts (`Cell.le_iff`).  So the order is total, and values of one rank cannot be told apart by it
(`Cell.same_iff`).  Where each value is to be listed once, the first of those of one rank is
(`Cell.mem_eraseDupsBy`).
-/
namespace VersionTags.Cell

/-- Where a value stands in a sorted column: among its kind, by its number, by its text. -/
abbrev Rank := ℕ ×ₗ ℚ ×ₗ String

def Rank.mk (kind : ℕ) (q : ℚ) (s : String) : Rank := toLex (kind, toLex (q, s))

theorem Rank.mk_le_mk {k k' : ℕ} {q q' : ℚ} {s s' : String} :
    Rank.mk k q s ≤ Rank.mk k' q' s' ↔ k < k' ∨ k = k' ∧ (q < q' ∨ q = q' ∧ s ≤ s') := by
  rw [Rank.mk, Rank.mk, Prod.Lex.toLex_le_toLex, Prod.Lex.toLex_le_toLex]

def rank : Cell → Rank
  | infinite true => .mk 0 0 ""
  | int n => .mk 1 n ""
  | real m e => .mk 1 (m * 2 ^ e) ""
  | infinite false => .mk 2 0 ""
  | text s => .mk 3 0 s

/-- Numbers are compared by what they are. -/
theorem numberLe_iff (m₁ e₁ m₂ e₂ : Int) : numberLe m₁ e₁ m₂ e₂ = true ↔ (m₁ : ℚ) * 2 ^ e₁ ≤ (m₂ : ℚ) * 2 ^ e₂ := by
  have hscale : ∀ m e : Int, min e₁ e₂ ≤ e →
      (m : ℚ) * 2 ^ e = ((m * Int.pow 2 (e - min e₁ e₂).toNat : Int) : ℚ) * 2 ^ (min e₁ e₂) := by
    intro m e he
    have hpow : (2 : ℚ) ^ e = 2 ^ (e - min e₁ e₂).toNat * 2 ^ (min e₁ e₂) := by
      rw [← zpow_natCast, ← zpow_add₀ (by norm_num), Int.toNat_of_nonneg (by omega)]
      congr 1
      omega
    rw [hpow, ← mul_assoc]
    congr 1
    have hint : Int.pow 2 (e - min e₁ e₂).toNat = (2 : Int) ^ (e - min e₁ e₂).toNat := rfl
    rw [hint]
    push_cast
    rfl
  rw [numberLe, decide_eq_true_eq, hscale m₁ e₁ (Int.min_le_left _ _), hscale m₂ e₂ (Int.min_le_right _ _),
    mul_le_mul_iff_left₀ (by positivity), Int.cast_le]

/-- **Values are sorted by their rank.** -/
theorem le_iff (a b : Cell) : a.le b = true ↔ a.rank ≤ b.rank := by
  cases a with
  | int n =>
    cases b with
    | int k => simp [le, rank, Rank.mk_le_mk, ← le_iff_lt_or_eq]
    | real m e => simp [le, rank, Rank.mk_le_mk, numberLe_iff, ← le_iff_lt_or_eq]
    | infinite neg => cases neg <;> simp [le, rank, Rank.mk_le_mk]
    | text s => simp [le, rank, Rank.mk_le_mk]
  | real m e =>
    cases b with
    | int k => simp [le, rank, Rank.mk_le_mk, numberLe_iff, ← le_iff_lt_or_eq]
    | real m' e' => simp [le, rank, Rank.mk_le_mk, numberLe_iff, ← le_iff_lt_or_eq]
    | infinite neg => cases neg <;> simp [le, rank, Rank.mk_le_mk]
    | text s => simp [le, rank, Rank.mk_le_mk]
  | infinite neg =>
    cases b with
    | infinite neg' => cases neg <;> cases neg' <;> simp [le, rank, Rank.mk_le_mk]
    | _ => cases neg <;> simp [le, rank, Rank.mk_le_mk]
  | text s =>
    cases b with
    | infinite neg => cases neg <;> simp [le, rank, Rank.mk_le_mk]
    | _ => simp [le, rank, Rank.mk_le_mk]

variable {a b c : Cell}

theorem le_trans (hab : a.le b = true) (hbc : b.le c = true) : a.le c = true := by
  rw [le_iff] at hab hbc ⊢
  exact Preorder.le_trans _ _ _ hab hbc

theorem le_total (a b : Cell) : (a.le b || b.le a) = true := by
  rw [Bool.or_eq_true, le_iff, le_iff]
  exact LinearOrder.le_total _ _

/-- **Values are the same when they have one rank.** -/
theorem same_iff : a.same b = true ↔ a.rank = b.rank := by
  rw [same, Bool.and_eq_true, le_iff, le_iff]
  exact (le_antisymm_iff (α := Rank)).symm

theorem same_comm (a b : Cell) : a.same b = b.same a := Bool.and_comm _ _

theorem same_refl (a : Cell) : a.same a = true := same_iff.2 rfl

theorem same_trans (hab : a.same b = true) (hbc : b.same c = true) : a.same c = true := by
  rw [same_iff] at hab hbc ⊢
  exact hab.trans hbc

/-- **Of the values that are the same the first is kept.** -/
theorem mem_eraseDupsBy : ∀ {cs : List Cell} {c : Cell}, c ∈ cs.eraseDupsBy Cell.same ↔
    ∃ pre post, cs = pre ++ c :: post ∧ ∀ d ∈ pre, d.same c = false
  | [], c => by simp
  | d :: cs, c => by
    rw [List.eraseDupsBy_cons, List.mem_cons, mem_eraseDupsBy]
    constructor
    · rintro (rfl | ⟨pre, post, hcs, hpre⟩)
      · exact ⟨[], cs, rfl, nofun⟩
      · obtain ⟨front, back, rfl, rfl, hback⟩ := List.filter_eq_append_iff.1 hcs
        obtain ⟨mid, back, rfl, hmid, hc, -⟩ := List.filter_eq_cons_iff.1 hback
        have hdc : d.same c = false := by
          rw [same_comm]
          simpa using hc
        -- what is dropped is the same as the first value, which the one kept is not
        have hdropped : ∀ x : Cell, x.same d = true → x.same c = false := by
          intro x hx
          rw [Bool.eq_false_iff]
          intro hxc
          rw [same_comm] at hx
          rw [same_trans hx hxc] at hdc
          cases hdc
        refine ⟨d :: (front ++ mid), back, by simp, fun x hx => ?_⟩
        rw [List.mem_cons, List.mem_append] at hx
        rcases hx with rfl | hx | hx
        · exact hdc
        · by_cases hxd : x.same d = true
          · exact hdropped x hxd
          · exact hpre x (List.mem_filter.2 ⟨hx, by simpa using hxd⟩)
        · exact hdropped x (by simpa using hmid x hx)
    · rintro ⟨_ | ⟨e, pre⟩, post, hcs, hpre⟩
      · cases hcs
        exact .inl rfl
      · cases hcs
        have hdc := hpre d List.mem_cons_self
        rw [same_comm] at hdc
        refine .inr ⟨pre.filter fun x => decide (x.same d = false), post.filter fun x => decide (x.same d = false), ?_,
          fun x hx => ?_⟩
        · show (pre ++ c :: post).filter _ = _
          rw [List.filter_append, List.filter_cons, if_pos (decide_eq_true hdc)]
        · exact hpre x (List.mem_cons_of_mem d (List.mem_filter.1 hx).1)
termination_by cs => cs.length
decreasing_by exact Nat.lt_succ_of_le (List.length_filter_le _ _)

theorem exists_same_of_mem : ∀ {cs : List Cell} {d : Cell}, d ∈ cs → ∃ c ∈ cs.eraseDupsBy Cell.same, c.same d = true
  | c :: cs, d, h => by
    rw [List.eraseDupsBy_cons]
    by_cases hdc : d.same c = true
    · exact ⟨c, List.mem_cons_self, by rwa [same_comm]⟩
    · rcases List.mem_cons.1 h with rfl | h
      · exact absurd (same_refl d) hdc
      · have hd : d ∈ cs.filter fun b => decide (b.same c = false) := List.mem_filter.2 ⟨h, by simpa using hdc⟩
        obtain ⟨e, he, hed⟩ := exists_same_of_mem hd
        exact ⟨e, List.mem_cons_of_mem c he, hed⟩
termination_by cs => cs.length
decreasing_by exact Nat.lt_succ_of_le (List.length_filter_le _ _)

end VersionTags.Cell
