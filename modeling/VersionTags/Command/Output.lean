import VersionTags.Theme
/-!
# Output of commands

A command prints lines.  An answer is what was asked for and is always shown; a remark says what happened and is left
out when the program is told to be quiet.  Most lines start with an icon.
-/
namespace VersionTags

namespace Icon

def tag : String := "🏷️"
def search : String := "🔍"
def check : String := "✅"
def cross : String := "❌"
def warning : String := "⚠️"
def info : String := "ℹ️"
def statistics : String := "📊"
def link : String := "🔗"
def database : String := "🗄️"
def person : String := "👤"
def page : String := "📄"
def copy : String := "📋"
def removal : String := "🗑️"
def nothing : String := "∅"

end Icon

/-- One line of output, without its line break. -/
inductive Line where
  | answer (text : String)
  | remark (text : String)
  deriving DecidableEq, Repr

namespace Line

/-- The text of a line, if it is shown. -/
def shown (quiet : Bool) : Line → Option String
  | .answer s => some s
  | .remark s => if quiet then none else some s

end Line

namespace Theme

/-- The line above an answer. -/
def heading (t : Theme) (icon text : String) : Line := .remark (icon ++ " " ++ t.style .header text)

/-- A value under a label. -/
def status (t : Theme) (icon label value : String) : Line :=
  .remark (icon ++ " " ++ t.style .dim label ++ ": " ++ value)

def success (t : Theme) (text : String) : Line := .remark (Icon.check ++ " " ++ t.style .success text)

def info (t : Theme) (label value : String) : Line :=
  .remark (t.style .info Icon.info ++ " " ++ t.style .dim label ++ ": " ++ value)

/-- An empty line and the title of what follows. -/
def partTitle (t : Theme) (title : String) : List Line :=
  [.remark "", .remark ("━" ++ t.style .header title ++ "━")]

/-- A value behind a label, as an answer. -/
def summary (t : Theme) (label value : String) : Line := .answer ("  " ++ t.style .dim label ++ " " ++ value)

def errorText (t : Theme) (text : String) : String := Icon.cross ++ " " ++ t.style .error text

def warningText (t : Theme) (text : String) : String := Icon.warning ++ " " ++ t.style .warn text

end Theme

/-- How a run ended: the exit code, and the lines of both outputs. -/
structure Outcome where
  code : Nat
  out : List String
  err : List String
  deriving DecidableEq, Repr

/-- Lines as text, each with its line break. -/
def linesText (lines : List String) : String := String.join (lines.map fun l => l ++ "\n")

end VersionTags
