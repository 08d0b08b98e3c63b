/-!
The identity of Go modules: versions, what replaces them, and what a manifest requires.
-/

namespace Attribution

/-- A module path and, where one is meant, an exact version. The version is empty for the main
module and where every version of a path is meant. -/
structure ModuleVersion where
  path : String
  version : String
  deriving DecidableEq, Repr, Inhabited

namespace ModuleVersion

/-- The identity as it is printed. -/
def text (v : ModuleVersion) : String :=
  if v.version = "" then v.path else v.path ++ "@" ++ v.version

/-- The identity that stands for every version of the path. -/
def anyVersion (v : ModuleVersion) : ModuleVersion := ⟨v.path, ""⟩

end ModuleVersion

/-- What stands in for a module: a directory, read relative to the manifest that declares it, or
another published module. -/
inductive Replacement where
  | directory (path : String)
  | module (version : ModuleVersion)
  deriving DecidableEq, Repr

namespace Replacement

def text : Replacement → String
  | directory path => path
  | module version => version.text

def isDirectory : Replacement → Bool
  | directory _ => true
  | module _ => false

end Replacement

/-- A required module and the replacement that applies to it. -/
structure Requirement where
  version : ModuleVersion
  replacement : Option Replacement
  deriving DecidableEq, Repr

/-- The identity of a resolved module: its version, and what replaces it. -/
abbrev ModuleId := String

/-- The identity under which a requirement is resolved once. -/
def Requirement.id (r : Requirement) : ModuleId :=
  match r.replacement with
  | none => r.version.text
  | some replacement => r.version.text ++ "=>" ++ replacement.text

end Attribution
