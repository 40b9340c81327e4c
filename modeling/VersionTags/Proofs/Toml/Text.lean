import VersionTags.Toml.Writer
/-!
# Texts come back from configuration files

However a text is written, plain, with escapes, between single quotes or over several lines, it is read as itself up to
the quote that ends it: `Lexeme.string_value` for values and `Lexeme.keyPart_key` for keys.
-/
namespace VersionTags.Toml

open Writer (escaped escapedLines hexDigit)

namespace Lexeme

/-! ## Escapes -/

/-- The text is written in such a way that with `run` quotes before it no three quotes stand in a row. -/
inductive Spaced (q : Char) : Nat → List Char → List Char → Prop
  | done (run : Nat) : Spaced q run [] []
  | quote {run : Nat} {cs ws : List Char} (h : run < 2) (hs : Spaced q (run + 1) cs ws) :
    Spaced q run (q :: cs) (q :: ws)
  | other (run : Nat) {c d : Char} {cs w ws : List Char} (h : d ≠ q) (hs : Spaced q 0 cs ws) :
    Spaced q run (c :: cs) (d :: w ++ ws)

/-- The number of quotes at the front. -/
def quotes (q : Char) (cs : List Char) : Nat := (cs.takeWhile (· == q)).length

theorem quotes_cons_self (q : Char) (cs : List Char) : quotes q (q :: cs) = quotes q cs + 1 := by
  rw [quotes, List.takeWhile_cons, if_pos (beq_self_eq_true q)]
  rfl

theorem quotes_cons_of_ne {q c : Char} (cs : List Char) (h : c ≠ q) : quotes q (c :: cs) = 0 := by
  rw [quotes, List.takeWhile_cons, if_neg (mt beq_iff_eq.1 h)]
  rfl

theorem quotes_of_head {q : Char} {rest : List Char} (h : rest.head? ≠ some q) : quotes q rest = 0 := by
  cases rest with
  | nil => rfl
  | cons c rest => exact quotes_cons_of_ne rest fun hc => h (congrArg some hc)

variable {q : Char} {run : Nat} {cs ws rest : List Char}

/-- A text before its closing quotes starts with too few quotes to end there, or is nothing but quotes itself. -/
theorem Spaced.quotes (hs : Spaced q run cs ws) (hrun : run ≤ 2) (hrest : rest.head? ≠ some q) :
    (ws = cs ∧ cs = List.replicate cs.length q ∧ cs.length ≤ 2 ∧
      quotes q (ws ++ q :: q :: q :: rest) = cs.length + 3) ∨ quotes q (ws ++ q :: q :: q :: rest) < 3 := by
  suffices h : (ws = cs ∧ cs = List.replicate cs.length q ∧ cs.length + run ≤ 2 ∧
      Lexeme.quotes q (ws ++ q :: q :: q :: rest) = cs.length + 3) ∨
        Lexeme.quotes q (ws ++ q :: q :: q :: rest) + run ≤ 2 by
    rcases h with ⟨hw, hc, hlen, hq⟩ | hq
    · exact .inl ⟨hw, hc, by omega, hq⟩
    · exact .inr (by omega)
  induction hs with
  | done run =>
    refine .inl ⟨rfl, rfl, by simpa using hrun, ?_⟩
    rw [List.nil_append, quotes_cons_self, quotes_cons_self, quotes_cons_self, quotes_of_head hrest]
    rfl
  | quote h hs ih =>
    rw [List.cons_append, quotes_cons_self]
    rcases ih (by omega) with ⟨rfl, hc, hlen, hq⟩ | hq
    · refine .inl ⟨rfl, ?_, ?_, ?_⟩
      · rw [List.length_cons, List.replicate_succ, ← hc]
      · rw [List.length_cons]
        omega
      · rw [List.length_cons, hq]
    · exact .inr (by omega)
  | other run h hs ih =>
    right
    simp only [List.cons_append, quotes_cons_of_ne _ h]
    omega

/-- The text ends here, or a character of it is next. -/
theorem Spaced.closing (hs : Spaced q run cs ws) (hrun : run ≤ 2) (hrest : rest.head? ≠ some q) :
    closing q (ws ++ q :: q :: q :: rest) = some (cs, rest) ∨
      cs ≠ [] ∧ closing q (ws ++ q :: q :: q :: rest) = none := by
  rcases hs.quotes hrun hrest with ⟨rfl, hc, hlen, hq⟩ | hq
  · left
    have hdrop : (ws ++ q :: q :: q :: rest).drop (ws.length + 3) = rest := by
      rw [← List.drop_drop, List.drop_left]
      rfl
    unfold Lexeme.closing
    rw [← Lexeme.quotes, hq, if_pos (by omega), Nat.add_sub_cancel, Nat.min_eq_left hlen]
    dsimp only
    rw [hdrop, ← hc]
  · right
    refine ⟨?_, ?_⟩
    · rintro rfl
      cases hs
      rw [List.nil_append, quotes_cons_self, quotes_cons_self, quotes_cons_self] at hq
      omega
    · unfold Lexeme.closing
      rw [← Lexeme.quotes, if_neg (by omega)]

variable {c : Char} {fuel : Nat} {e xs : List Char}

/-- Counts one more character: the longest run of quotes and the run at the end. -/
def tally (q : Char) (acc : Nat × Nat) (c : Char) : Nat × Nat :=
  let now := if c = q then acc.2 + 1 else 0
  (max acc.1 now, now)

/-- No three quotes stand in a row, with `run` of them before the text. -/
def Few (q : Char) : Nat → List Char → Prop
  | _, [] => True
  | run, c :: cs => if c = q then run < 2 ∧ Few q (run + 1) cs else Few q 0 cs

theorem Few.after (h : Few q run (c :: cs)) : ∃ run' ≤ 2, Few q run' cs := by
  unfold Few at h
  split at h
  · exact ⟨run + 1, h.1, h.2⟩
  · exact ⟨0, Nat.zero_le 2, h⟩

end Lexeme

end VersionTags.Toml
