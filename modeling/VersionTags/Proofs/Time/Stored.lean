import VersionTags.Proofs.Text.Digits
import VersionTags.Time.Stored
/-!
# Times come back from the store

The text in which the store keeps a time reads as that time, whatever the year, the fraction and the second
(`Time.readStored_storedText`).  Each piece of the text is taken off its front by the scan for that piece, and leaves
the rest as it is.
-/
namespace VersionTags.Time

theorem IsDate.day_le_31 {y : Int} {m d : Nat} (h : IsDate y m d) : d ≤ 31 := by
  have hle := h.day_le
  unfold daysIn at hle
  split at hle
  · split at hle <;> omega
  · split at hle <;> omega

namespace Scan

variable {α β : Type}

theorem run_bind {s : Scan α} {k : α → Scan β} {cs rest : List Char} {x : α} (h : s cs = .ok (x, rest)) :
    (s >>= k) cs = k x rest := by
  show s cs >>= (fun p => k p.1 p.2) = _
  rw [h]
  rfl

theorem run_get (cs : List Char) : (get : Scan (List Char)) cs = .ok (cs, cs) := rfl

theorem run_blanks {c : Char} {cs : List Char} (h : Text.isBlank c = false) : blanks (c :: cs) = .ok ((), c :: cs) := by
  show Except.ok ((), Text.trimStart (c :: cs)) = _
  rw [Text.trimStart, List.dropWhile_cons, h]
  rfl

theorem run_literal (c : Char) (rest : List Char) : literal c (c :: rest) = .ok ((), rest) := by
  show (if c = c then set rest else throw .invalid : Scan Unit) (c :: rest) = _
  rw [if_pos rfl]
  rfl

/-! ## Numbers -/

/-- The text does not go on with a digit. -/
def Stops (rest : List Char) : Prop := ∀ c ∈ rest.head?, c.isDigit = false

theorem takeWhile_of_stops {rest : List Char} (h : Stops rest) : rest.takeWhile Char.isDigit = [] := by
  cases rest with
  | nil => rfl
  | cons c cs => rw [List.takeWhile_cons, h c rfl, if_neg Bool.false_ne_true]

theorem dropWhile_of_stops {rest : List Char} (h : Stops rest) : rest.dropWhile Char.isDigit = rest := by
  cases rest with
  | nil => rfl
  | cons c cs => rw [List.dropWhile_cons, h c rfl, if_neg Bool.false_ne_true]

theorem run_digits_of {most : Option Nat} {cs ds rest : List Char} (hcs : cs = ds ++ rest)
    (ht : (match most with | some k => cs.take k | none => cs).takeWhile Char.isDigit = ds) (hne : ds ≠ [])
    (hv : (Decimal.value ds : Int) ≤ Decimal.maxInt64) : digits most cs = .ok (ds, rest) := by
  have hrun : digits most cs = (if ds = [] then throw (if cs = [] then .tooShort else .invalid)
      else if Decimal.maxInt64 < (Decimal.value ds : Int) then throw .outOfRange
      else (do set (cs.drop ds.length); return ds) : Scan (List Char)) cs := by
    rw [← ht]
    rfl
  rw [hrun, if_neg hne, if_neg (Int.not_lt.2 hv), hcs, List.drop_left]
  rfl

variable {ds rest : List Char}

/-- Digits are taken up to the width that is asked for. -/
theorem run_digits (hd : ∀ c ∈ ds, c.isDigit = true) (hne : ds ≠ [])
    (hv : (Decimal.value ds : Int) ≤ Decimal.maxInt64) : digits (some ds.length) (ds ++ rest) = .ok (ds, rest) := by
  refine run_digits_of rfl ?_ hne hv
  show ((ds ++ rest).take ds.length).takeWhile Char.isDigit = ds
  rw [List.take_left]
  have h : (ds ++ []).takeWhile Char.isDigit = ds ++ [].takeWhile Char.isDigit := List.takeWhile_append_of_pos hd
  rwa [List.append_nil, List.takeWhile_nil, List.append_nil] at h

/-- Digits are taken up to the end of them, where no more are asked for than there may be. -/
theorem run_digits_of_stops {most : Option Nat} (hd : ∀ c ∈ ds, c.isDigit = true) (hne : ds ≠ []) (hrest : Stops rest)
    (hm : ∀ k ∈ most, ds.length ≤ k) (hv : (Decimal.value ds : Int) ≤ Decimal.maxInt64) :
    digits most (ds ++ rest) = .ok (ds, rest) := by
  refine run_digits_of rfl ?_ hne hv
  cases most with
  | none =>
    show (ds ++ rest).takeWhile Char.isDigit = ds
    rw [List.takeWhile_append_of_pos hd, takeWhile_of_stops hrest, List.append_nil]
  | some k =>
    have htake : Stops (rest.take (k - ds.length)) := by
      intro c hc
      refine hrest c ?_
      rw [List.head?_take] at hc
      split at hc
      · cases hc
      · exact hc
    show ((ds ++ rest).take k).takeWhile Char.isDigit = ds
    rw [List.take_append, List.take_of_length_le (hm k rfl), List.takeWhile_append_of_pos hd,
      takeWhile_of_stops htake, List.append_nil]

variable {w n : Nat}

theorem run_digits_padded (hw : 0 < w) (hn : n < 10 ^ w) (hv : (n : Int) ≤ Decimal.maxInt64) :
    digits (some w) (Decimal.padded w n ++ rest) = .ok (Decimal.padded w n, rest) := by
  have h : digits (some (Decimal.padded w n).length) (Decimal.padded w n ++ rest) = .ok (Decimal.padded w n, rest) :=
    run_digits (Decimal.isDigit_padded w n) (Decimal.padded_ne_nil w n) (by rwa [Decimal.value_padded])
  rwa [Decimal.length_padded hw hn] at h

theorem run_blanks_padded : blanks (Decimal.padded w n ++ rest) = .ok ((), Decimal.padded w n ++ rest) := by
  obtain ⟨c, cs, hc⟩ := List.exists_cons_of_ne_nil (Decimal.padded_ne_nil w n)
  have hd := Decimal.isDigit_padded w n c (hc ▸ List.mem_cons_self)
  rw [hc]
  exact run_blanks (Text.not_isBlank_of_isDigit hd)

/-- **A field of two digits is read as the number it was written for.** -/
theorem run_field {lo hi : Nat} (hlo : lo ≤ n) (hhi : n ≤ hi) (h : hi < 100) :
    field lo hi (Decimal.padded 2 n ++ rest) = .ok (n, rest) := by
  have hv : (n : Int) ≤ Decimal.maxInt64 := by
    unfold Decimal.maxInt64
    omega
  rw [field, run_bind run_blanks_padded, run_bind (run_digits_padded (by decide) (by omega) hv), Decimal.value_padded]
  show (if lo ≤ n ∧ n ≤ hi then pure n else throw .outOfRange : Scan Nat) rest = _
  rw [if_pos ⟨hlo, hhi⟩]
  rfl

/-! ## Dates and times of day -/

def yearOf (n : Int) : Scan Int := if Decimal.minInt32 ≤ n ∧ n ≤ Decimal.maxInt32 then return n else throw .outOfRange

theorem run_yearOf {y : Int} (hlo : firstYear ≤ y) (hhi : y ≤ lastYear) : yearOf y rest = .ok (y, rest) := by
  have hrange : Decimal.minInt32 ≤ y ∧ y ≤ Decimal.maxInt32 := by
    unfold firstYear at hlo
    unfold lastYear at hhi
    unfold Decimal.minInt32 Decimal.maxInt32
    omega
  rw [yearOf, if_pos hrange]
  rfl

theorem year_of_digit {c : Char} {cs : List Char} (h : c.isDigit = true) :
    year (c :: cs) = (do yearOf (Decimal.value (← digits (some 4)) : Int)) (c :: cs) := by
  rw [year, run_bind (run_blanks (Text.not_isBlank_of_isDigit h)), run_bind (run_get _)]
  have hm : c ≠ '-' := by
    rintro rfl
    cases h
  have hp : c ≠ '+' := by
    rintro rfl
    cases h
  generalize hcs : c :: cs = all
  dsimp only
  split
  · cases hcs
    exact absurd rfl hm
  · cases hcs
    exact absurd rfl hp
  · rfl

theorem year_of_minus (cs : List Char) :
    year ('-' :: cs) = (do yearOf (-(Decimal.value (← digits none) : Int))) cs := by
  rw [year, run_bind (run_blanks (by decide))]
  rfl

theorem year_of_plus (cs : List Char) : year ('+' :: cs) = (do yearOf (Decimal.value (← digits none) : Int)) cs := by
  rw [year, run_bind (run_blanks (by decide))]
  rfl

/-- **A year is read as it was written**, with four digits or with a sign. -/
theorem run_year {y : Int} (hlo : firstYear ≤ y) (hhi : y ≤ lastYear) (hrest : Stops rest) :
    year (yearText y ++ rest) = .ok (y, rest) := by
  have habs : (y.natAbs : Int) ≤ Decimal.maxInt64 := by
    unfold firstYear at hlo
    unfold lastYear at hhi
    unfold Decimal.maxInt64
    omega
  rw [yearText]
  split
  -- four digits without a sign, or a sign and as many digits as there are
  · rename_i hy
    obtain ⟨c, cs, hc⟩ := List.exists_cons_of_ne_nil (Decimal.padded_ne_nil 4 y.toNat)
    have hd := Decimal.isDigit_padded 4 y.toNat c (hc ▸ List.mem_cons_self)
    have hfour : digits (some 4) (Decimal.padded 4 y.toNat ++ rest) = .ok (Decimal.padded 4 y.toNat, rest) :=
      run_digits_padded (by decide) (by omega) (by omega)
    have hval : ((Decimal.value (Decimal.padded 4 y.toNat) : Nat) : Int) = y := by
      rw [Decimal.value_padded]
      omega
    rw [hc] at hfour hval ⊢
    rw [List.cons_append, year_of_digit hd, ← List.cons_append, run_bind hfour, hval, run_yearOf hlo hhi]
  · have hsigned : digits none (Decimal.padded 4 y.natAbs ++ rest) = .ok (Decimal.padded 4 y.natAbs, rest) :=
      run_digits_of_stops (Decimal.isDigit_padded 4 _) (Decimal.padded_ne_nil 4 _) hrest nofun
        (by rwa [Decimal.value_padded])
    rw [List.cons_append]
    split
    · have hval : -((Decimal.value (Decimal.padded 4 y.natAbs) : Nat) : Int) = y := by
        rw [Decimal.value_padded]
        omega
      rw [year_of_minus, run_bind hsigned, hval, run_yearOf hlo hhi]
    · have hval : ((Decimal.value (Decimal.padded 4 y.natAbs) : Nat) : Int) = y := by
        rw [Decimal.value_padded]
        omega
      rw [year_of_plus, run_bind hsigned, hval, run_yearOf hlo hhi]

theorem run_fraction_none {c : Char} {cs : List Char} (h : c ≠ '.') : fraction (c :: cs) = .ok (0, c :: cs) := by
  generalize hcs : c :: cs = all
  rw [fraction, run_bind (run_get _)]
  split
  · cases hcs
    exact absurd rfl h
  · rfl

theorem run_fraction_digits (hw : 0 < w) (hle : w ≤ 9) (hn : n < 10 ^ w) (hrest : Stops rest) :
    fraction ('.' :: Decimal.padded w n ++ rest) = .ok (n * 10 ^ (9 - w), rest) := by
  have hlen := Decimal.length_padded hw hn
  have hpow : (10 : Nat) ^ w ≤ 10 ^ 9 := Nat.pow_le_pow_right (by decide) hle
  have hv : (Decimal.value (Decimal.padded w n) : Int) ≤ Decimal.maxInt64 := by
    rw [Decimal.value_padded]
    unfold Decimal.maxInt64
    omega
  have hdigits : digits (some 9) (Decimal.padded w n ++ rest) = .ok (Decimal.padded w n, rest) := by
    refine run_digits_of_stops (Decimal.isDigit_padded w n) (Decimal.padded_ne_nil w n) hrest ?_ hv
    rintro k ⟨⟩
    rwa [hlen]
  show (digits (some 9) >>= fun ds => (do
    modify (List.dropWhile Char.isDigit)
    return Decimal.value ds * Nat.pow 10 (9 - ds.length) : Scan Nat)) (Decimal.padded w n ++ rest) = _
  rw [run_bind hdigits, Decimal.value_padded, hlen]
  show Except.ok (n * 10 ^ (9 - w), rest.dropWhile Char.isDigit) = _
  rw [dropWhile_of_stops hrest]

/-- **A fraction of a second is read as it was written**, with as many digits as are needed. -/
theorem run_fraction {c : Char} {cs : List Char} (hn : n < 1000000000) (hd : c.isDigit = false) (hp : c ≠ '.') :
    fraction (fractionText n ++ c :: cs) = .ok (n, c :: cs) := by
  have hrest : Stops (c :: cs) := by
    rintro d ⟨⟩
    exact hd
  rw [fractionText]
  -- no digits, or as many groups of three as are needed
  split
  · rename_i h0
    rw [h0]
    exact run_fraction_none hp
  · split
    · rename_i h3
      rw [run_fraction_digits (by decide) (by decide) (by omega) hrest]
      congr 2
      omega
    · split
      · rename_i h6
        rw [run_fraction_digits (by decide) (by decide) (by omega) hrest]
        congr 2
        omega
      · rw [run_fraction_digits (by decide) (by decide) (by omega) hrest]
        congr 2
        omega

theorem run_blanks_space (cs : List Char) : blanks (' ' :: cs) = blanks cs := by
  show Except.ok ((), Text.trimStart (' ' :: cs)) = .ok ((), Text.trimStart cs)
  rw [Text.trimStart, List.dropWhile_cons]
  rfl

/-- **A date and a time of day are read as they were written.** -/
theorem run_storedFields (t : Instant) {c : Char} (cs : List Char) (hd : c.isDigit = false) (hp : c ≠ '.') :
    storedFields false (dateText t.date ++ ' ' :: clockText t ++ fractionText t.nano ++ c :: cs) =
      .ok (⟨t.date.year, t.date.month, t.date.day, t.hour, t.minute, t.second, t.nano⟩, c :: cs) := by
  obtain ⟨⟨y, mo, d, hdate⟩, h, mi, s, n, hclock⟩ := t
  have hstops : ∀ rest, Stops ('-' :: rest) := by
    rintro rest c ⟨⟩
    rfl
  simp only [dateText, clockText, List.append_assoc, List.cons_append]
  -- each scan takes its own piece off the front
  rw [storedFields, run_bind (run_year hdate.year_ge hdate.year_le (hstops _)), run_bind (run_literal '-' _),
    run_bind (run_field hdate.month_pos hdate.month_le (by decide)), run_bind (run_literal '-' _),
    run_bind (run_field hdate.day_pos hdate.day_le_31 (by decide)), if_neg Bool.false_ne_true,
    run_bind ((run_blanks_space _).trans run_blanks_padded)]
  dsimp only
  rw [run_bind (run_field (Nat.zero_le h) (Nat.le_of_lt_succ hclock.hour_lt) (by decide)), run_bind (run_literal ':' _),
    run_bind (run_field (Nat.zero_le mi) (Nat.le_of_lt_succ hclock.minute_lt) (by decide)),
    run_bind (run_literal ':' _), run_bind (run_field (Nat.zero_le s) hclock.second_le (by decide)),
    run_bind (run_fraction hclock.nano_lt hd hp)]
  rfl

end Scan

/-! ## The whole text -/

theorem mem_of_charAtByte {c : Char} : ∀ {n : Nat} {cs : List Char}, charAtByte n cs = some c → c ∈ cs
  | _, [], h => by
    cases h
  | 0, d :: cs, h => by
    cases h
    exact List.mem_cons_self
  | n + 1, d :: cs, h => by
    rw [charAtByte] at h
    split at h
    · exact List.mem_cons_of_mem d (mem_of_charAtByte h)
    · cases h

theorem not_mem_of_digits {c : Char} {ds : List Char} (h : ∀ d ∈ ds, d.isDigit = true) (hc : c.isDigit = false) :
    c ∉ ds := fun hm => by
    rw [h c hm] at hc
    cases hc

/-- No letter occurs in the date, the time of day or the fraction. -/
theorem not_mem_fields (t : Instant) {c : Char} (hc : c.isDigit = false) (hs : c ∉ ['-', '+', ':', '.', ' ']) :
    c ∉ dateText t.date ++ ' ' :: clockText t ++ fractionText t.nano := by
  have hpad : ∀ w n, c ∉ Decimal.padded w n := fun w n => not_mem_of_digits (Decimal.isDigit_padded w n) hc
  simp only [List.mem_cons, List.not_mem_nil, or_false, not_or] at hs
  obtain ⟨hminus, hplus, hcolon, hpoint, hspace⟩ := hs
  have hyear : c ∉ yearText t.date.year := by
    rw [yearText]
    split
    · exact hpad _ _
    · split <;> simp [hminus, hplus, hpad]
  have hfraction : c ∉ fractionText t.nano := by
    rw [fractionText]
    split
    · exact List.not_mem_nil
    · split
      · simp [hpoint, hpad]
      · split <;> simp [hpoint, hpad]
  simp [dateText, clockText, hyear, hfraction, hpad, hminus, hcolon, hspace]

/-- A clock that shows universal time shows the time itself. -/
theorem ofLocal_zero (t : Instant) : Instant.ofLocal t.date t.hour t.minute t.second t.nano 0 = some t := by
  obtain ⟨x, h, mi, s, n, hclock⟩ := t
  have hh := hclock.hour_lt
  have hm := hclock.minute_lt
  have hdays : (((h * 60 + mi : Nat) : Int) - 0).fdiv 1440 = 0 := by
    rw [Int.fdiv_eq_ediv_of_nonneg _ (by decide)]
    omega
  have hrest : ((((h * 60 + mi : Nat) : Int) - 0).fmod 1440).toNat = h * 60 + mi := by
    rw [Int.fmod_eq_emod_of_nonneg _ (by decide)]
    omega
  have hhour : (h * 60 + mi) / 60 = h := by omega
  have hminute : (h * 60 + mi) % 60 = mi := by omega
  show (x.shift _ >>= fun x' => Instant.mk? x' _ _ s n) = _
  rw [hdays, hrest, hhour, hminute]
  show Instant.mk? x h mi s n = _
  rw [Instant.mk?, dif_pos hclock]

/-- The fields of a time, as universal time, denote it. -/
theorem instant?_self (t : Instant) :
    (Scan.Fields.mk t.date.year t.date.month t.date.day t.hour t.minute t.second t.nano).instant? 0 = some t := by
  show (Date.mk? t.date.year t.date.month t.date.day >>= fun date =>
    Instant.ofLocal date t.hour t.minute t.second t.nano 0) = _
  rw [Date.mk?_self]
  exact ofLocal_zero t

/-- **A time comes back from the store as it was put in.** -/
theorem readStored_storedText (t : Instant) : readStored t.storedText = .ok t := by
  have hletter : (charAtByte 10 t.storedText.toList == some 'T') = false := by
    rw [beq_eq_false_iff_ne]
    intro h
    have hm := mem_of_charAtByte h
    rw [Instant.storedText, String.toList_ofList, List.mem_append] at hm
    rcases hm with hm | hm
    · exact not_mem_fields t (by decide) (by decide) hm
    · revert hm
      decide
  have hzone : Scan.zone true ('+' :: "00:00".toList) = .ok (0, []) := rfl
  have hfields := Scan.run_storedFields t (c := '+') "00:00".toList (by decide) (by decide)
  have hscan : (do let f ← Scan.storedFields false; Scan.blanks; let z ← Scan.zone true; return (f, z) : Scan _)
      (dateText t.date ++ ' ' :: clockText t ++ fractionText t.nano ++ '+' :: "00:00".toList) =
        .ok ((⟨t.date.year, t.date.month, t.date.day, t.hour, t.minute, t.second, t.nano⟩, 0), []) := by
    rw [Scan.run_bind hfields, Scan.run_bind (Scan.run_blanks (by decide)), Scan.run_bind hzone]
    rfl
  have hread : readZoned false t.storedText.toList = some t := by
    have hoffset : "+00:00".toList = '+' :: "00:00".toList := rfl
    rw [readZoned, Instant.storedText, String.toList_ofList, hoffset, hscan]
    exact instant?_self t
  rw [readStored, hletter, hread]

end VersionTags.Time
