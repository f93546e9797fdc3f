/-
Why a file cannot be read.
-/
import ScriptLint.Text.Quoted
import ScriptLint.Text.Utf8

namespace ScriptLint

/-- Why a path cannot be opened. -/
inductive OpenFault where
  | missing
  | isDirectory
  | notDirectory
  | linkLoop
  deriving DecidableEq, Repr

/-- The system's number and words for a fault. -/
def OpenFault.words : OpenFault → Nat × String
  | .missing => (2, "No such file or directory")
  | .isDirectory => (21, "Is a directory")
  | .notDirectory => (20, "Not a directory")
  | .linkLoop => (40, "Too many levels of symbolic links")

/-- The sentence for a path that cannot be opened. -/
def OpenFault.message (f : OpenFault) (path : String) : String :=
  "[Errno " ++ toString f.words.1 ++ "] " ++ f.words.2 ++ ": " ++ Text.quoted path

/-- Why a text file cannot be read. -/
inductive ReadFault where
  | closed (fault : OpenFault) (path : String)
  | badText (fault : Utf8.Fault)
  deriving DecidableEq, Repr

/-- The sentence for a text file that cannot be read. -/
def ReadFault.message : ReadFault → String
  | .closed fault path => fault.message path
  | .badText fault => fault.message

end ScriptLint
