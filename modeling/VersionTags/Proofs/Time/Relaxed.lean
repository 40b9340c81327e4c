import VersionTags.Proofs.Time.Stored
import VersionTags.Time.Relaxed
/-!
# Times come back from records

The text in which a time is exchanged reads as that time (`Time.readRelaxed_zuluText`), though the reader admits many
more texts than are ever written.
-/
namespace VersionTags.Time

namespace Scan

theorem run_relaxedFields (t : Instant) {c : Char} (cs : List Char) (hd : c.isDigit = false) (hp : c ≠ '.')
    (hb : Text.isBlank c = false) :
    relaxedFields (dateText t.date ++ 'T' :: clockText t ++ fractionText t.nano ++ c :: cs) =
      .ok (⟨t.date.year, t.date.month, t.date.day, t.hour, t.minute, t.second, t.nano⟩, c :: cs) := by
  obtain ⟨⟨y, mo, d, hdate⟩, h, mi, s, n, hclock⟩ := t
  have hstops : ∀ rest, Stops ('-' :: rest) := by
    rintro rest c ⟨⟩
    rfl
  have hminus : ∀ rest, blanks ('-' :: rest) = .ok ((), '-' :: rest) := fun rest => run_blanks (by decide)
  have hcolon : ∀ rest, blanks (':' :: rest) = .ok ((), ':' :: rest) := fun rest => run_blanks (by decide)
  have hseparator : ∀ rest, separator ('T' :: rest) = .ok ((), rest) := fun rest => rfl
  simp only [dateText, clockText, List.append_assoc, List.cons_append]
  -- each scan takes its own piece off the front
  rw [relaxedFields, run_bind (run_year hdate.year_ge hdate.year_le (hstops _)), run_bind (hminus _),
    run_bind (run_literal '-' _), run_bind (run_field hdate.month_pos hdate.month_le (by decide)), run_bind (hminus _),
    run_bind (run_literal '-' _), run_bind (run_field hdate.day_pos hdate.day_le_31 (by decide)),
    run_bind (hseparator _),
    run_bind (run_field (Nat.zero_le h) (Nat.le_of_lt_succ hclock.hour_lt) (by decide)), run_bind (hcolon _),
    run_bind (run_literal ':' _),
    run_bind (run_field (Nat.zero_le mi) (Nat.le_of_lt_succ hclock.minute_lt) (by decide)), run_bind (hcolon _),
    run_bind (run_literal ':' _), run_bind (run_field (Nat.zero_le s) hclock.second_le (by decide)),
    run_bind (run_fraction hclock.nano_lt hd hp), run_bind (run_blanks hb)]
  rfl

end Scan

/-- **A time that is exchanged is read as it was written.** -/
theorem readRelaxed_zuluText (t : Instant) : readRelaxed t.zuluText = some t := by
  have hfields := Scan.run_relaxedFields t (c := 'Z') [] (by decide) (by decide) (by decide)
  have hzone : Scan.namedZone ['Z'] = .ok (0, []) := rfl
  have hend : Scan.blanks [] = .ok ((), []) := rfl
  have hscan : (do let f ← Scan.relaxedFields; let z ← Scan.namedZone; Scan.blanks; return (f, z) : Scan _)
      t.zuluText.toList =
        .ok ((⟨t.date.year, t.date.month, t.date.day, t.hour, t.minute, t.second, t.nano⟩, 0), []) := by
    rw [Instant.zuluText, String.toList_ofList, Scan.run_bind hfields, Scan.run_bind hzone, Scan.run_bind hend]
    rfl
  rw [readRelaxed, hscan]
  exact instant?_self t

example : readRelaxed " 2020-1-2 3:4:60.5 -01:30" = readRelaxed "2020-01-02T04:34:60.500Z" := by decide +kernel

end VersionTags.Time
