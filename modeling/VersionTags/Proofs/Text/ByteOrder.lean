/-!
# Texts in the order of their bytes

A table compares texts byte by byte in UTF-8, and a text here is compared by its code points.  The two orders are one
(`Text.before_iff`): of two characters the greater has the greater bytes, whatever follows.
-/
namespace VersionTags.Text

/-- The bytes of a text. -/
def bytes (s : String) : List Nat := s.toUTF8.data.toList.map UInt8.toNat

/-- The text stands before the other when they are compared byte by byte. -/
def Before (a b : String) : Prop := List.Lex (fun x y : Nat => x < y) (bytes a) (bytes b)

/-! ## Characters -/

def charBytes (c : Char) : List Nat := (String.utf8EncodeChar c).map UInt8.toNat

theorem bytes_eq (s : String) : bytes s = s.toList.flatMap charBytes := by
  have hs : s.toUTF8 = (s.toList.flatMap String.utf8EncodeChar).toByteArray :=
    congrArg String.toByteArray (String.ofList_toList (s := s)).symm
  rw [bytes, hs, List.toList_data_toByteArray, List.map_flatMap]
  rfl

theorem charBytes_eq (c : Char) : charBytes c =
    if c.toNat < 0x80 then [c.toNat]
    else if c.toNat < 0x800 then [0xC0 + c.toNat / 64, 0x80 + c.toNat % 64]
    else if c.toNat < 0x10000 then [0xE0 + c.toNat / 4096, 0x80 + c.toNat / 64 % 64, 0x80 + c.toNat % 64]
    else [0xF0 + c.toNat / 262144, 0x80 + c.toNat / 4096 % 64, 0x80 + c.toNat / 64 % 64, 0x80 + c.toNat % 64] := by
  have hmax : c.toNat < 0x110000 := by
    rcases c.valid with h | ⟨-, h⟩
    · exact Nat.lt_trans h (by decide)
    · exact h
  have hval : c.val.toNat = c.toNat := rfl
  simp only [charBytes, String.utf8EncodeChar, hval]
  repeat' split
  all_goals simp only [List.map_cons, List.map_nil, UInt8.toNat_ofNat', List.cons.injEq, and_true]
  all_goals omega

theorem charBytes_ne_nil (c : Char) : charBytes c ≠ [] := by
  rw [charBytes_eq]
  repeat' split
  all_goals simp

/-- The bytes of a lesser character stand before those of a greater, whatever follows them. -/
theorem lex_charBytes {c d : Char} (h : c.toNat < d.toNat) (xs ys : List Nat) :
    List.Lex (fun x y : Nat => x < y) (charBytes c ++ xs) (charBytes d ++ ys) := by
  rw [charBytes_eq, charBytes_eq]
  -- one case for each pair of lengths: the first byte tells the longer character, and of equal lengths some byte
  -- differs
  repeat' split
  all_goals simp only [List.cons_append, List.nil_append, List.cons_lex_cons_iff]
  all_goals omega

/-! ## Texts -/

theorem lex_append_left (zs : List Nat) {xs ys : List Nat} (h : List.Lex (fun x y : Nat => x < y) xs ys) :
    List.Lex (fun x y : Nat => x < y) (zs ++ xs) (zs ++ ys) := by
  induction zs with
  | nil => exact h
  | cons z zs ih => exact .cons ih

theorem lex_flatMap {cs ds : List Char} (h : List.Lex (fun x y : Char => x < y) cs ds) :
    List.Lex (fun x y : Nat => x < y) (cs.flatMap charBytes) (ds.flatMap charBytes) := by
  induction h with
  | @nil d ds =>
    obtain ⟨x, xs, hx⟩ := List.exists_cons_of_ne_nil (charBytes_ne_nil d)
    rw [List.flatMap_cons, hx]
    exact .nil
  | rel h => exact lex_charBytes h _ _
  | cons _ ih => exact lex_append_left _ ih

theorem Before.of_lt {a b : String} (h : a < b) : Before a b := by
  rw [Before, bytes_eq, bytes_eq]
  exact lex_flatMap h

theorem Before.asymm {a b : String} (h : Before a b) : ¬Before b a :=
  List.lex_asymm (fun h => Nat.lt_asymm h) h

/-- **The order of the bytes is the order of the code points.** -/
theorem before_iff {a b : String} : Before a b ↔ a < b := by
  refine ⟨fun h => ?_, .of_lt⟩
  rcases Std.lt_trichotomy a b with hlt | rfl | hgt
  · exact hlt
  · exact absurd h h.asymm
  · exact absurd (.of_lt hgt) h.asymm

instance (a b : String) : Decidable (Before a b) := decidable_of_iff (a < b) before_iff.symm

/-- An accent stands behind every letter of ASCII. -/
example : Before "zz" "é" ∧ bytes "é" = [0xC3, 0xA9] := by decide

end VersionTags.Text
