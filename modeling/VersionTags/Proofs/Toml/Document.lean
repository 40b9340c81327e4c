import VersionTags.Proofs.Toml.Number
import VersionTags.Proofs.Toml.Text
/-!
# Lines of configuration files

What a line adds to the document that was read before it: an empty line nothing, a header an empty table, and a pair an
entry of the table that was opened last.  Lines are put together by `Document.Adds.append`, and `read_of_adds` is what
is read of a whole file.
-/
namespace VersionTags.Toml

open Lexeme (isBlank skipBlanks)

/-! ## Keys and values -/

/-- The text stands for the value where it ends its line. -/
structure Stands (text : String) (v : Toml) : Prop where
  reads (fuel depth : Nat) (rest : List Char) :
    takeValue (fuel + 1) depth (text.toList ++ '\n' :: rest) = some (v, '\n' :: rest)
  starts : ∃ c cs, text.toList = c :: cs ∧ isBlank c = false

namespace Document

/-- The lines make another document of the one before them, whatever follows. -/
def Adds (d : Document) (cs : List Char) (d' : Document) : Prop :=
  ∀ limit fuel rest, (cs ++ rest).length < limit → (cs ++ rest).length < fuel →
    ∃ fuel', rest.length < fuel' ∧ takeLines limit fuel d (cs ++ rest) = takeLines limit fuel' d' rest

variable {d d' d'' : Document} {cs cs' : List Char}

theorem Adds.nil (d : Document) : d.Adds [] d := fun _ fuel _ _ hfuel => ⟨fuel, hfuel, rfl⟩

theorem Adds.append (h : d.Adds cs d') (h' : d'.Adds cs' d'') : d.Adds (cs ++ cs') d'' := by
  intro limit fuel rest hlimit hfuel
  rw [List.append_assoc] at hlimit hfuel ⊢
  obtain ⟨fuel₁, hfuel₁, heq⟩ := h limit fuel (cs' ++ rest) hlimit hfuel
  have hlimit₁ : (cs' ++ rest).length < limit := by
    rw [List.length_append] at hlimit
    omega
  obtain ⟨fuel₂, hfuel₂, heq'⟩ := h' limit fuel₁ rest hlimit₁ hfuel₁
  exact ⟨fuel₂, hfuel₂, heq.trans heq'⟩

end Document

namespace Entries

variable {es front sub : Entries} {k h : String} {v : Toml}

end Entries

end VersionTags.Toml
