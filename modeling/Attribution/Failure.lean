import Attribution.Disk
import Attribution.Manifest
import Attribution.Text.Quoted

/-!
What can go wrong. A problem names the module it arose for; a fault lies outside the problems that a
lenient build can put up with.
-/

namespace Attribution

/-- The kinds of problems. A missing license may come with the manifest that was read before. -/
inductive Problem.Kind where
  | general
  | manifestNotFound
  | manifestMalformed
  | licenseNotFound (manifest : Option PlacedManifest)
  | classification
  | fetch
  | download
  | localReplacement
  | cycle (ids : List ModuleId)
  deriving DecidableEq, Repr

namespace Problem.Kind

/-- What is said of a kind when nothing more is known. -/
def defaultMessage : Kind → String
  | general => "attribution error"
  | manifestNotFound => "module file (go.mod) not found"
  | manifestMalformed => "malformed module file (go.mod)"
  | licenseNotFound _ => "LICENSE file not found"
  | classification => "license text could not be classified"
  | fetch => "cannot fetch module content"
  | download => "module download failed"
  | localReplacement => "local replacement directory cannot be read"
  | cycle ids => "cyclic dependency: " ++ " -> ".intercalate ids

/-- Whether the content of the module could not be obtained. -/
def isFetch : Kind → Bool
  | fetch | download | localReplacement => true
  | _ => false

end Problem.Kind

/-- A problem: its kind, what is said of it, the module it arose for, and the text recorded for
whoever handles it. -/
structure Problem where
  kind : Problem.Kind
  message : String
  module : Option ModuleVersion
  recorded : String
  deriving DecidableEq, Repr

namespace Problem

/-- What is printed of a problem. -/
def textOf (message : String) : Option ModuleVersion → String
  | none => message
  | some v => v.text ++ ": " ++ message

/-- A problem; an empty message gives way to the one of its kind. Of a cycle nothing else is said
than where it leads. -/
def new (kind : Kind) (message : Option String) (module : Option ModuleVersion) : Problem :=
  let said :=
    match kind, message with
    | .cycle _, _ => kind.defaultMessage
    | _, some m => if m = "" then kind.defaultMessage else m
    | _, none => kind.defaultMessage
  ⟨kind, said, module, textOf said module⟩

def text (p : Problem) : String := textOf p.message p.module

/-- Names the module a problem arose for, unless one is named. -/
def withModule (p : Problem) (v : ModuleVersion) : Problem :=
  match p.module with
  | some _ => p
  | none => { p with module := some v, recorded := textOf p.message (some v) }

@[simp] theorem withModule_kind (p : Problem) (v : ModuleVersion) :
    (p.withModule v).kind = p.kind := by
  unfold withModule
  split <;> rfl

end Problem

/-- What no build puts up with. A collaborator refuses a value in words of its own, and may fail in a
way that only it knows. -/
inductive Fault where
  | refusedValue (message : String)
  | negativeDepth (depth : Int)
  | unreadableDelay (text : String)
  | hugePower
  | damagedEntry (name : String)
  | unnamedEntry
  | foreign (kind message : String)
  | deadEnd (e : Disk.DeadEnd)
  | refusedFile (r : Disk.Refusal) (p : Path)
  deriving DecidableEq, Repr

namespace Fault

def message : Fault → String
  | refusedValue message => message
  | negativeDepth depth => "max_depth must be >= 0, got " ++ toString depth
  | unreadableDelay text => "could not convert string to float: " ++ Text.quoteString text
  | hugePower => "int too large to convert to float"
  | damagedEntry name => "Bad CRC-32 for file " ++ Text.quoteString name
  | unnamedEntry => "string index out of range"
  | foreign _ message => message
  | deadEnd e => e.message
  | refusedFile r p => r.message p

/-- Whether a value was refused, and not a file or an expression. -/
def isBadValue : Fault → Bool
  | refusedValue _ | negativeDepth _ | unreadableDelay _ | deadEnd .unsoundName => true
  | foreign kind _ => kind == "ValueError"
  | _ => false

end Fault

/-- Why an operation failed. -/
inductive Failure where
  | problem (p : Problem)
  | fault (f : Fault)
  deriving DecidableEq, Repr

namespace Failure

def text : Failure → String
  | problem p => p.text
  | fault f => f.message

end Failure

end Attribution
