import Mathlib.Data.List.Forall2
import VersionTags.Json.Printer
import VersionTags.Json.Reader
import VersionTags.Proofs.Time.Stored
/-!
# JSON comes back from its text

The text of a value reads as that value, whether it is printed over several lines or without any blank, as long as the
value has no fractions in it (`Json.read_pretty`, `Json.read_compact`).
-/
namespace VersionTags.Json

/-! ## Strings -/

theorem readText_short {c x : Char} (rest : List Char) (h : shortEscape c = some x) :
    readText ('\\' :: c :: rest) = consTo x (readText rest) := by
  have hu : c ≠ 'u' := by
    rintro rfl
    cases h
  rw [readText.eq_4 c rest fun _ _ _ _ _ hc _ => hu hc, h]

theorem readText_control {c : Char} (rest : List Char) (h : c.toNat < 0x20) :
    readText ('\\' :: 'u' :: '0' :: '0' :: (c.toNat / 16).digitChar :: (c.toNat % 16).digitChar :: rest) =
      consTo c (readText rest) := by
  have hhex : ∀ n < 0x20, hex4 '0' '0' (n / 16).digitChar (n % 16).digitChar = some n := by decide
  have hchar : charOf c.toNat = some c := by
    rw [charOf, if_pos (show c.toNat.isValidChar from c.valid), Char.ofNat_toNat]
  rw [readText.eq_3, hhex _ h]
  dsimp only
  rw [if_neg (by omega), hchar]

theorem readText_plain {c : Char} (rest : List Char) (hq : c ≠ '"') (hb : c ≠ '\\') (hc : ¬c.toNat < 0x20) :
    readText (c :: rest) = consTo c (readText rest) := by
  rw [readText.eq_5 c rest hq (fun _ _ _ _ _ h _ => hb h) fun _ _ h _ => hb h, if_neg]
  rintro (h | h)
  · exact hc h
  · exact hb h

theorem readText_escaped (c : Char) (rest : List Char) : readText (escaped c ++ rest) = consTo c (readText rest) := by
  -- the seven characters that have an escape of two letters
  by_cases hs : ∃ x, escaped c = ['\\', x] ∧ shortEscape x = some c
  · obtain ⟨x, hx, hs⟩ := hs
    rw [hx]
    exact readText_short rest hs
  · have hne : ∀ d x, escaped d = ['\\', x] → shortEscape x = some d → c ≠ d := by
      rintro d x hx hs' rfl
      exact hs ⟨x, hx, hs'⟩
    have hq := hne '"' '"' rfl rfl
    have hb := hne '\\' '\\' rfl rfl
    rw [escaped, if_neg hq, if_neg hb, if_neg (hne '\x08' 'b' rfl rfl), if_neg (hne '\x0c' 'f' rfl rfl),
      if_neg (hne '\n' 'n' rfl rfl), if_neg (hne '\r' 'r' rfl rfl), if_neg (hne '\t' 't' rfl rfl)]
    split
    · rename_i h
      exact readText_control rest h
    · rename_i h
      exact readText_plain rest hq hb h

/-- **A string is read up to the quote that ends it.** -/
theorem readText_quoted (rest : List Char) : ∀ cs : List Char,
    readText (cs.flatMap escaped ++ '"' :: rest) = some (cs, rest)
  | [] => readText_quote rest
  | c :: cs => by
    rw [List.flatMap_cons, List.append_assoc, readText_escaped, readText_quoted rest cs]
    rfl

theorem toList_quote (s : String) : (quote s).toList = '"' :: (s.toList.flatMap escaped ++ ['"']) :=
  String.toList_ofList

/-! ## Numbers -/

/-- A number that stands before these characters ends there. -/
def Ends (rest : List Char) : Prop := ∀ c ∈ rest.head?, c.isDigit = false ∧ c ≠ '.' ∧ c ≠ 'e' ∧ c ≠ 'E'

theorem ends_cons {c : Char} (rest : List Char) (h : c.isDigit = false ∧ c ≠ '.' ∧ c ≠ 'e' ∧ c ≠ 'E') :
    Ends (c :: rest) := by
  rintro d ⟨⟩
  exact h

theorem isWhole_digits (n : Nat) : isWhole (Decimal.digits n) = true := by
  rcases Nat.eq_zero_or_pos n with rfl | h
  · rw [Decimal.digits]
    rfl
  · have hhead := Decimal.head?_digits h
    obtain ⟨c, cs, hc⟩ := List.exists_cons_of_ne_nil (Decimal.digits_ne_nil n)
    rw [hc] at hhead ⊢
    unfold isWhole
    split
    · rename_i heq
      cases heq
    · rfl
    · rename_i heq
      cases heq
      exact absurd rfl hhead
    · rfl

/-- Digits are read as a whole number up to their end, after a minus sign or not. -/
theorem readNumber_of_sign (m : Nat) {negative : Bool} {cs cs' rest : List Char} (hcs : cs' = Decimal.digits m ++ rest)
    (hsign : negative = true ∧ cs = '-' :: cs' ∧ m ≠ 0 ∨ negative = false ∧ cs = cs') (h : Ends rest) :
    readNumber cs = some (.int (if negative then -m else m), rest) := by
  have hdigits := Decimal.isDigit_digits m
  have hstops : Time.Scan.Stops rest := fun c hc => (h c hc).1
  have htake : cs'.takeWhile Char.isDigit = Decimal.digits m := by
    rw [hcs, List.takeWhile_append_of_pos hdigits, Time.Scan.takeWhile_of_stops hstops, List.append_nil]
  have hdrop : cs'.dropWhile Char.isDigit = rest := by
    rw [hcs, List.dropWhile_append_of_pos hdigits, Time.Scan.dropWhile_of_stops hstops]
  have hminus : ∀ r, cs' ≠ '-' :: r := by
    rintro r rfl
    have hnil : Decimal.digits m = [] := by rw [← htake, List.takeWhile_cons, if_neg (by decide)]
    exact Decimal.digits_ne_nil m hnil
  unfold readNumber
  split
  rename_i negative' cs'' heq
  obtain ⟨rfl, rfl, hvalue⟩ : negative' = negative ∧ cs'' = cs' ∧ ¬(negative = true ∧ m = 0) := by
    rcases hsign with ⟨rfl, rfl, hm⟩ | ⟨rfl, rfl⟩
    · cases heq
      exact ⟨rfl, rfl, fun hn => hm hn.2⟩
    · split at heq
      · exact absurd rfl (hminus _)
      · cases heq
        exact ⟨rfl, rfl, nofun⟩
  simp only [htake, hdrop, isWhole_digits, Decimal.value_digits, Option.bind_eq_bind, Option.bind_some]
  rw [if_neg nofun]
  -- neither a point nor a power follows
  cases rest with
  | nil => exact if_pos ⟨trivial, trivial, hvalue⟩
  | cons c rest =>
    obtain ⟨-, hpoint, he, hE⟩ := h c rfl
    split
    · rename_i hc
      exact absurd (List.cons.inj hc).1 hpoint
    · show (if c = 'e' ∨ c = 'E' then _ else _) = _
      rw [if_neg (not_or.2 ⟨he, hE⟩)]
      exact if_pos ⟨trivial, trivial, hvalue⟩

/-- **A whole number is read up to its end.** -/
theorem readNumber_ofInt (n : Int) {rest : List Char} (h : Ends rest) :
    readNumber (Decimal.ofInt n ++ rest) = some (.int n, rest) := by
  rw [Decimal.ofInt]
  split
  · rename_i hn
    have hn' : -(n.natAbs : Int) = n := by omega
    rw [List.cons_append, readNumber_of_sign n.natAbs rfl (.inl ⟨rfl, rfl, by omega⟩) h, if_pos rfl, hn']
  · rename_i hn
    have hn' : (n.natAbs : Int) = n := by omega
    rw [readNumber_of_sign n.natAbs rfl (.inr ⟨rfl, rfl⟩) h, if_neg Bool.false_ne_true, hn']

/-! ## Values -/

/-- No number in the value is a fraction. -/
inductive Integral : Json → Prop
  | null : Integral .null
  | bool (b : Bool) : Integral (.bool b)
  | int (n : Int) : Integral (.int n)
  | string (s : String) : Integral (.string s)
  | array {js : List Json} (h : ∀ j ∈ js, Integral j) : Integral (.array js)
  | object {fs : List (String × Json)} (h : ∀ f ∈ fs, Integral f.2) : Integral (.object fs)

/-- There is nothing but blanks. -/
def Gap (g : List Char) : Prop := ∀ c ∈ g, isGap c = true

theorem gap_nil : Gap [] := fun _ h => absurd h List.not_mem_nil

theorem skip_gap {g : List Char} (h : Gap g) (cs : List Char) : skip (g ++ cs) = skip cs :=
  List.dropWhile_append_of_pos h

theorem skip_cons {c : Char} (cs : List Char) (h : isGap c = false) : skip (c :: cs) = c :: cs := by
  rw [skip, List.dropWhile_cons, h]
  rfl

theorem readValue_gap {g : List Char} (h : Gap g) : ∀ (fuel : Nat) (cs : List Char),
    readValue fuel (g ++ cs) = readValue fuel cs
  | 0, _ => by rw [readValue_zero, readValue_zero]
  | fuel + 1, cs => by rw [readValue.eq_2, readValue.eq_2, skip_gap h]

/-- The characters are read as the value, whatever stands behind them. -/
def Reads (j : Json) (cs : List Char) : Prop :=
  ∀ rest fuel, Ends rest → 2 * (cs ++ rest).length ≤ fuel → readValue fuel (cs ++ rest) = some (j, rest)

/-- The characters are read as the items of an array, up to its closing bracket. -/
def ReadsItems (js : List Json) (cs : List Char) : Prop :=
  ∀ rest fuel, 2 * (cs ++ rest).length + 1 ≤ fuel → readItems fuel (cs ++ rest) = some (js, rest)

/-- The characters are read as the fields of an object, up to its closing brace. -/
def ReadsFields (fs : List (String × Json)) (cs : List Char) : Prop :=
  ∀ rest fuel, 2 * (cs ++ rest).length + 1 ≤ fuel → readFields fuel (cs ++ rest) = some (fs, rest)

section

variable {j : Json} {js : List Json} {fs : List (String × Json)} {cs cs' g g' : List Char}

theorem Reads.of_succ (hne : cs ≠ []) (h : ∀ rest fuel, Ends rest → 2 * (cs ++ rest).length ≤ fuel + 1 →
    readValue (fuel + 1) (cs ++ rest) = some (j, rest)) : Reads j cs := by
  intro rest fuel hrest hfuel
  have hpos := List.length_pos_iff.2 hne
  rw [List.length_append] at hfuel
  obtain ⟨fuel, rfl⟩ : ∃ f, fuel = f + 1 := ⟨fuel - 1, by omega⟩
  exact h rest fuel hrest (by rwa [List.length_append])

theorem reads_int (n : Int) : Reads (.int n) (toString n).toList := by
  obtain ⟨c, cs, hc, hother⟩ := Decimal.exists_cons_ofInt n
  rw [Decimal.toList_toString, hc]
  refine .of_succ (List.cons_ne_nil c cs) fun rest fuel hrest _ => ?_
  have hread := readNumber_ofInt n hrest
  rw [hc] at hread
  have hgap : isGap c = false := by
    simp only [isGap, Bool.or_eq_false_iff, beq_eq_false_iff_ne]
    exact ⟨⟨⟨hother _ (by decide) rfl, hother _ (by decide) rfl⟩, hother _ (by decide) rfl⟩, hother _ (by decide) rfl⟩
  rw [readValue.eq_2, List.cons_append, skip_cons _ hgap]
  split
  case h_7 => exact hread
  all_goals
    rename_i heq
    exact absurd (List.cons.inj heq).1 (hother _ (by decide) rfl)

theorem ends_gap {c : Char} {rest : List Char} (hg : Gap g) (h : Ends (c :: rest)) : Ends (g ++ c :: rest) := by
  cases g with
  | nil => exact h
  | cons d g =>
    refine ends_cons _ ?_
    have hd := hg d List.mem_cons_self
    simp only [isGap, Bool.or_eq_true, beq_iff_eq] at hd
    rcases hd with ((rfl | rfl) | rfl) | rfl <;> decide

theorem reads_string (s : String) : Reads (.string s) (quote s).toList := by
  rw [toList_quote]
  refine .of_succ (List.cons_ne_nil _ _) fun rest fuel _ _ => ?_
  rw [readValue.eq_2, List.cons_append, skip_cons _ rfl, List.append_assoc]
  show (readText (s.toList.flatMap escaped ++ '"' :: rest)).map _ = _
  rw [readText_quoted, Option.map_some, String.ofList_toList]

/-! ### Arrays -/

theorem readItems_of_closed {fuel : Nat} {r : List Char} (h : skip cs = ']' :: r) : readItems fuel cs = none := by
  rcases fuel with _ | _ | fuel
  · exact readItems_zero cs
  · rw [readItems.eq_2, readValue_zero]
  · have hnone : readValue (fuel + 1) cs = none := by
      rw [readValue.eq_2, h]
      rfl
    rw [readItems.eq_2, hnone]

/-- A bracket that is not closed at once has items after it. -/
theorem readValue_bracket {fuel : Nat} (h : ∀ r, skip cs ≠ ']' :: r) :
    readValue (fuel + 1) ('[' :: cs) = (readItems fuel cs).map fun p => (.array p.1, p.2) := by
  rw [readValue.eq_2, skip_cons _ rfl]
  split
  case h_5 heq =>
    cases heq
    split
    · exact absurd ‹_› (h _)
    · rfl
  case h_7 hother _ => exact (hother cs rfl).elim
  all_goals
    rename_i heq
    exact absurd (List.cons.inj heq).1 (by decide)

theorem ReadsItems.reads (h : ReadsItems js cs) : Reads (.array js) ('[' :: cs) := by
  refine .of_succ (List.cons_ne_nil _ _) fun rest fuel _ hfuel => ?_
  rw [List.cons_append, List.length_cons] at hfuel
  have hitems := h rest fuel (by omega)
  have hopen : ∀ r, skip (cs ++ rest) ≠ ']' :: r := by
    intro r hclosed
    rw [readItems_of_closed hclosed] at hitems
    cases hitems
  rw [List.cons_append, readValue_bracket hopen, hitems]
  rfl

theorem reads_array_nil : Reads (.array []) ['[', ']'] := by
  refine .of_succ (List.cons_ne_nil _ _) fun rest fuel _ _ => ?_
  rw [readValue.eq_2, List.cons_append, skip_cons _ rfl]
  rfl

theorem ReadsItems.last (hg : Gap g) (h : Reads j cs) (hg' : Gap g') : ReadsItems [j] (g ++ cs ++ g' ++ [']']) := by
  intro rest fuel hfuel
  obtain ⟨fuel, rfl⟩ : ∃ f, fuel = f + 1 := ⟨fuel - 1, by omega⟩
  simp only [List.append_assoc, List.singleton_append, List.length_append] at hfuel ⊢
  rw [readItems.eq_2, readValue_gap hg,
    h (g' ++ ']' :: rest) fuel (ends_gap hg' (ends_cons rest (by decide))) (by simp only [List.length_append]; omega)]
  dsimp only
  rw [skip_gap hg', skip_cons _ rfl]
  rfl

theorem ReadsItems.cons (hg : Gap g) (h : Reads j cs) (hs : ReadsItems js cs') :
    ReadsItems (j :: js) (g ++ cs ++ ',' :: cs') := by
  intro rest fuel hfuel
  obtain ⟨fuel, rfl⟩ : ∃ f, fuel = f + 1 := ⟨fuel - 1, by omega⟩
  simp only [List.append_assoc, List.cons_append, List.length_append, List.length_cons] at hfuel ⊢
  rw [readItems.eq_2, readValue_gap hg, h (',' :: (cs' ++ rest)) fuel (ends_cons _ (by decide))
    (by simp only [List.length_append, List.length_cons]; omega)]
  dsimp only
  rw [skip_cons _ rfl]
  show (readItems fuel (cs' ++ rest)).map _ = _
  rw [hs rest fuel (by rw [List.length_append]; omega)]
  rfl

/-- **The texts of the items of an array, with commas between them, are read as the array.** -/
theorem reads_array (hg : Gap g) (hg' : Gap g') {ts : List (List Char)} (h : List.Forall₂ Reads (j :: js) ts) :
    Reads (.array (j :: js)) ('[' :: ([','].intercalate (ts.map (g ++ ·)) ++ g' ++ [']'])) := by
  refine ReadsItems.reads ?_
  induction js generalizing j ts with
  | nil =>
    cases h with | cons h hnil =>
    cases hnil
    rw [List.map_singleton, List.intercalate_singleton]
    exact .last hg h hg'
  | cons j' js ih =>
    cases h with | cons h hs =>
    have hrest := ReadsItems.cons hg h (ih hs)
    cases hs with | cons h' hs =>
    rw [List.map_cons, List.map_cons, List.intercalate_cons_cons, ← List.map_cons]
    simpa only [List.append_assoc, List.cons_append, List.nil_append] using hrest

/-! ### Objects -/

/-- The characters are read as the field. -/
def ReadsField (f : String × Json) (cs : List Char) : Prop :=
  ∃ g cs', Gap g ∧ Reads f.2 cs' ∧ cs = (quote f.1).toList ++ ':' :: (g ++ cs')

theorem readFields_of_closed {fuel : Nat} {r : List Char} (h : skip cs = '\x7d' :: r) : readFields fuel cs = none := by
  cases fuel with
  | zero => exact readFields_zero cs
  | succ fuel =>
    rw [readFields.eq_2, h]
    rfl

/-- A brace that is not closed at once has fields after it. -/
theorem readValue_brace {fuel : Nat} (h : ∀ r, skip cs ≠ '\x7d' :: r) :
    readValue (fuel + 1) ('\x7b' :: cs) = (readFields fuel cs).map fun p => (.object p.1, p.2) := by
  rw [readValue.eq_2, skip_cons _ rfl]
  split
  case h_6 heq =>
    cases heq
    split
    · exact absurd ‹_› (h _)
    · rfl
  case h_7 hother => exact (hother cs rfl).elim
  all_goals
    rename_i heq
    exact absurd (List.cons.inj heq).1 (by decide)

theorem ReadsFields.reads (h : ReadsFields fs cs) : Reads (.object fs) ('\x7b' :: cs) := by
  refine .of_succ (List.cons_ne_nil _ _) fun rest fuel _ hfuel => ?_
  rw [List.cons_append, List.length_cons] at hfuel
  have hfields := h rest fuel (by omega)
  have hopen : ∀ r, skip (cs ++ rest) ≠ '\x7d' :: r := by
    intro r hclosed
    rw [readFields_of_closed hclosed] at hfields
    cases hfields
  rw [List.cons_append, readValue_brace hopen, hfields]
  rfl

theorem reads_object_nil : Reads (.object []) ['\x7b', '\x7d'] := by
  refine .of_succ (List.cons_ne_nil _ _) fun rest fuel _ _ => ?_
  rw [readValue.eq_2, List.cons_append, skip_cons _ rfl]
  rfl

/-- What is read of the fields once the first of them is off: all of them, or the others after a comma. -/
theorem readFields_field {f : String × Json} {rest r : List Char} {fuel : Nat}
    {result : Option (List (String × Json) × List Char)} (hg : Gap g) (h : ReadsField f cs) (hrest : Ends rest)
    (hfuel : 2 * (g ++ cs ++ rest).length ≤ fuel)
    (hend : skip rest = '\x7d' :: r ∧ result = some ([f], r) ∨
      skip rest = ',' :: r ∧ result = (readFields fuel r).map fun p => (f :: p.1, p.2)) :
    readFields (fuel + 1) (g ++ cs ++ rest) = result := by
  obtain ⟨k, j⟩ := f
  obtain ⟨gap, cs', hgap, hvalue, rfl⟩ := h
  simp only [toList_quote, List.append_assoc, List.cons_append, List.nil_append, List.length_append,
    List.length_cons] at hfuel ⊢
  have hread : readValue fuel (gap ++ (cs' ++ rest)) = some (j, rest) := by
    rw [readValue_gap hgap]
    exact hvalue rest fuel hrest (by rw [List.length_append]; omega)
  rw [readFields.eq_2, skip_gap hg, skip_cons _ rfl]
  split
  case h_2 hother => exact (hother _ rfl).elim
  rename_i heq
  obtain rfl := (List.cons.inj heq).2
  rw [readText_quoted]
  dsimp only
  rw [skip_cons _ rfl]
  split
  case h_2 hother => exact (hother _ rfl).elim
  rename_i heq
  obtain rfl := (List.cons.inj heq).2
  rw [hread, String.ofList_toList]
  dsimp only
  rcases hend with ⟨hr, rfl⟩ | ⟨hr, rfl⟩
  · rw [hr]
    rfl
  · rw [hr]
    rfl

variable {f : String × Json}

theorem ReadsFields.last (hg : Gap g) (h : ReadsField f cs) (hg' : Gap g') :
    ReadsFields [f] (g ++ cs ++ g' ++ ['\x7d']) := by
  intro rest fuel hfuel
  obtain ⟨fuel, rfl⟩ : ∃ f, fuel = f + 1 := ⟨fuel - 1, by omega⟩
  have hends : Ends (g' ++ '\x7d' :: rest) := ends_gap hg' (ends_cons rest (by decide))
  rw [List.append_assoc, List.append_assoc, List.singleton_append] at hfuel ⊢
  refine readFields_field hg h hends (Nat.le_of_succ_le_succ hfuel) (.inl ⟨?_, rfl⟩)
  rw [skip_gap hg', skip_cons _ rfl]

theorem ReadsFields.cons (hg : Gap g) (h : ReadsField f cs) (hs : ReadsFields fs cs') :
    ReadsFields (f :: fs) (g ++ cs ++ ',' :: cs') := by
  intro rest fuel hfuel
  obtain ⟨fuel, rfl⟩ : ∃ f, fuel = f + 1 := ⟨fuel - 1, by omega⟩
  have hends : Ends (',' :: (cs' ++ rest)) := ends_cons _ (by decide)
  rw [List.append_assoc, List.cons_append] at hfuel ⊢
  refine readFields_field hg h hends (Nat.le_of_succ_le_succ hfuel) (.inr ⟨skip_cons _ rfl, ?_⟩)
  rw [List.length_append, List.length_cons] at hfuel
  rw [hs rest fuel (by omega)]
  rfl

/-- **The texts of the fields of an object, with commas between them, are read as the object.** -/
theorem reads_object (hg : Gap g) (hg' : Gap g') {ts : List (List Char)} (h : List.Forall₂ ReadsField (f :: fs) ts) :
    Reads (.object (f :: fs)) ('\x7b' :: ([','].intercalate (ts.map (g ++ ·)) ++ g' ++ ['\x7d'])) := by
  refine ReadsFields.reads ?_
  induction fs generalizing f ts with
  | nil =>
    cases h with | cons h hnil =>
    cases hnil
    rw [List.map_singleton, List.intercalate_singleton]
    exact .last hg h hg'
  | cons f' fs ih =>
    cases h with | cons h hs =>
    have hrest := ReadsFields.cons hg h (ih hs)
    cases hs with | cons h' hs =>
    rw [List.map_cons, List.map_cons, List.intercalate_cons_cons, ← List.map_cons]
    simpa only [List.append_assoc, List.cons_append, List.nil_append] using hrest

end

/-! ## Printed values -/

variable {j : Json}

theorem compactItems_eq_map : ∀ js : List Json, compactItems js = js.map compact
  | [] => rfl
  | j :: js => by rw [compactItems.eq_2, compactItems_eq_map js, List.map_cons]

theorem compactFields_eq_map : ∀ fs : List (String × Json),
    compactFields fs = fs.map fun f => quote f.1 ++ ":" ++ compact f.2
  | [] => rfl
  | (k, j) :: fs => by rw [compactFields.eq_2, compactFields_eq_map fs, List.map_cons]

theorem prettyItems_eq_map (depth : Nat) : ∀ js : List Json, prettyItems depth js = js.map (prettyAt depth)
  | [] => rfl
  | j :: js => by rw [prettyItems.eq_2, prettyItems_eq_map depth js, List.map_cons]

theorem prettyFields_eq_map (depth : Nat) : ∀ fs : List (String × Json),
    prettyFields depth fs = fs.map fun f => quote f.1 ++ ": " ++ prettyAt depth f.2
  | [] => rfl
  | (k, j) :: fs => by rw [prettyFields.eq_2, prettyFields_eq_map depth fs, List.map_cons]

theorem reads_null : Reads .null "null".toList :=
  .of_succ (by decide) fun _ _ _ _ => rfl

theorem reads_bool (b : Bool) : Reads (.bool b) (if b then "true" else "false").toList := by
  cases b
  · exact .of_succ (by decide) fun _ _ _ _ => rfl
  · exact .of_succ (by decide) fun _ _ _ _ => rfl

/-- The line break and the blanks before an item at a depth of nesting. -/
def margin (depth : Nat) : List Char := '\n' :: List.replicate (2 * depth) ' '

theorem gap_margin (depth : Nat) : Gap (margin depth) := by
  intro c hc
  rcases List.mem_cons.1 hc with rfl | hc
  · rfl
  · rw [(List.mem_replicate.1 hc).2]
    rfl

theorem block_nil (o c : String) (depth : Nat) : block o c depth [] = o ++ c := by
  unfold block
  rw [if_pos rfl]

theorem toList_block {o c : String} {a b : Char} (ho : o.toList = [a]) (hc : c.toList = [b]) (depth : Nat)
    {items : List String} (h : items ≠ []) : (block o c depth items).toList = a ::
      ([','].intercalate ((items.map String.toList).map (margin (depth + 1) ++ ·)) ++ margin depth ++ [b]) := by
  have hcomma : ",".toList = [','] := rfl
  have hbreak : "\n".toList = ['\n'] := rfl
  have hmap : (items.map fun i => "\n" ++ String.ofList (List.replicate (2 * (depth + 1)) ' ') ++ i).map String.toList =
      (items.map String.toList).map (margin (depth + 1) ++ ·) := by
    rw [List.map_map, List.map_map]
    refine List.map_congr_left fun i _ => ?_
    simp only [Function.comp_apply, String.toList_append, String.toList_ofList, hbreak]
    rfl
  unfold block
  rw [if_neg h]
  simp only [String.toList_append, String.toList_intercalate, String.toList_ofList, ho, hc, hcomma, hbreak, hmap]
  simp only [margin, List.append_assoc, List.cons_append, List.nil_append]

/-- The text of a value at any depth of nesting is read as the value. -/
theorem Integral.reads_prettyAt (h : j.Integral) : ∀ depth, Reads j (prettyAt depth j).toList := by
  induction h with
  | null => exact fun _ => reads_null
  | bool b => exact fun _ => reads_bool b
  | int n => exact fun _ => reads_int n
  | string s => exact fun _ => reads_string s
  | @array js _ ih =>
    intro depth
    show Reads (.array js) (block "[" "]" depth (prettyItems (depth + 1) js)).toList
    rw [prettyItems_eq_map]
    cases js with
    | nil =>
      rw [List.map_nil, block_nil]
      exact reads_array_nil
    | cons j js =>
      rw [toList_block (a := '[') (b := ']') rfl rfl depth (by simp)]
      refine reads_array (gap_margin _) (gap_margin _) ?_
      rw [List.map_map, List.forall₂_map_right_iff, List.forall₂_same]
      exact fun j hj => ih j hj (depth + 1)
  | @object fs _ ih =>
    intro depth
    have hblank : Gap [' '] := by
      intro c hc
      rw [List.mem_singleton.1 hc]
      rfl
    show Reads (.object fs) (block "\x7b" "\x7d" depth (prettyFields (depth + 1) fs)).toList
    rw [prettyFields_eq_map]
    cases fs with
    | nil =>
      rw [List.map_nil, block_nil]
      exact reads_object_nil
    | cons f fs =>
      rw [toList_block (a := '\x7b') (b := '\x7d') rfl rfl depth (by simp)]
      refine reads_object (gap_margin _) (gap_margin _) ?_
      rw [List.map_map, List.forall₂_map_right_iff, List.forall₂_same]
      intro f hf
      refine ⟨[' '], _, hblank, ih f hf (depth + 1), ?_⟩
      rw [Function.comp_apply, String.toList_append, String.toList_append, List.append_assoc]
      rfl

theorem toList_brackets {o c : String} {a b : Char} (ho : o.toList = [a]) (hc : c.toList = [b])
    (items : List String) : (o ++ ",".intercalate items ++ c).toList =
      a :: ([','].intercalate ((items.map String.toList).map ([] ++ ·)) ++ [] ++ [b]) := by
  have hcomma : ",".toList = [','] := rfl
  have hsame : (items.map String.toList).map (([] : List Char) ++ ·) = items.map String.toList := List.map_id' _
  rw [hsame]
  simp only [String.toList_append, String.toList_intercalate, ho, hc, hcomma, List.append_nil, List.cons_append,
    List.nil_append]

theorem Integral.reads_compact (h : j.Integral) : Reads j (compact j).toList := by
  induction h with
  | null => exact reads_null
  | bool b => exact reads_bool b
  | int n => exact reads_int n
  | string s => exact reads_string s
  | @array js _ ih =>
    show Reads (.array js) ("[" ++ ",".intercalate (compactItems js) ++ "]").toList
    rw [compactItems_eq_map]
    cases js with
    | nil => exact reads_array_nil
    | cons j js =>
      rw [toList_brackets (a := '[') (b := ']') rfl rfl]
      refine reads_array gap_nil gap_nil ?_
      rw [List.map_map, List.forall₂_map_right_iff, List.forall₂_same]
      exact ih
  | @object fs _ ih =>
    show Reads (.object fs) ("\x7b" ++ ",".intercalate (compactFields fs) ++ "\x7d").toList
    rw [compactFields_eq_map]
    cases fs with
    | nil => exact reads_object_nil
    | cons f fs =>
      rw [toList_brackets (a := '\x7b') (b := '\x7d') rfl rfl]
      refine reads_object gap_nil gap_nil ?_
      rw [List.map_map, List.forall₂_map_right_iff, List.forall₂_same]
      intro f hf
      refine ⟨[], _, gap_nil, ih f hf, ?_⟩
      rw [Function.comp_apply, String.toList_append, String.toList_append, List.append_assoc]
      rfl

theorem Reads.read {s : String} (h : Reads j s.toList) : read s = some j := by
  have hread := h [] (2 * s.toList.length + 2) nofun (by rw [List.append_nil]; omega)
  rw [List.append_nil] at hread
  rw [Json.read, hread]
  rfl

/-- **A value comes back from its text over several lines**, if it has no fractions. -/
theorem read_pretty (h : j.Integral) : read j.pretty = some j := (h.reads_prettyAt 0).read

/-- **A value comes back from its text without blanks**, if it has no fractions. -/
theorem read_compact (h : j.Integral) : read j.compact = some j := h.reads_compact.read

end VersionTags.Json
