import Attribution.GoMod.Token
import Attribution.Manifest
import Attribution.Text.Utf8

/-!
Reading go.mod files: the module directive, the requirements in declared order and the table of
replacements. Other directives are accepted and passed over.
-/

namespace Attribution.GoMod

open Attribution.Text

def fileName : String := "go.mod"

/-- The directives that may start a line or a block. -/
def directives : List String :=
  ["module", "go", "toolchain", "godebug", "require", "replace", "exclude", "retract", "tool",
    "ignore"]

/-- Why a text is no manifest. Lines are counted from one. -/
inductive Fault where
  | encoding (fault : Utf8.Fault)
  | unterminatedQuote (line : Nat) (token : String)
  | unknownDirective (line : Nat) (verb : String)
  | moduleUsage (line : Nat)
  | requireUsage (line : Nat)
  | replaceUsage (line : Nat)
  | malformedReplace (line : Nat)
  | pathNeeded (line : Nat)
  | pathWithVersion (line : Nat)
  | unterminatedBlock (verb : String)
  | noModule
  deriving DecidableEq, Repr

namespace Fault

def onLine (line : Nat) (message : String) : String :=
  "line " ++ toString line ++ ": " ++ message

def message : Fault → String
  | encoding fault => "go.mod is not valid UTF-8: " ++ fault.message
  | unterminatedQuote line token => onLine line ("unterminated quoted string: " ++ token)
  | unknownDirective line verb => onLine line ("unknown directive: " ++ verb)
  | moduleUsage line => onLine line "usage: module module/path"
  | requireUsage line => onLine line "usage: require module/path v1.2.3"
  | replaceUsage line =>
    onLine line ("usage: replace module/path [v1.2.3] => other/module v1.4\n" ++
      "\t or replace module/path [v1.2.3] => ../local/directory")
  | malformedReplace line => onLine line "malformed replace directive"
  | pathNeeded line =>
    onLine line ("replacement module without version must be " ++
      "directory path (rooted or starting with ./ or ../)")
  | pathWithVersion line => onLine line "replacement directory cannot have a version"
  | unterminatedBlock verb => "unterminated " ++ verb ++ " block"
  | noModule => "no module directive found"

end Fault

def isAsciiLetter (c : Char) : Bool := ('a' ≤ c && c ≤ 'z') || ('A' ≤ c && c ≤ 'Z')

/-- Whether a replacement names a directory: rooted, or starting with one dot or two. -/
def isDirectoryPath (path : String) : Bool :=
  match path.toList with
  | ['.'] => true
  | ['.', '.'] => true
  | '/' :: _ => true
  | '.' :: '/' :: _ => true
  | '.' :: '\\' :: _ => true
  | '.' :: '.' :: '/' :: _ => true
  | '.' :: '.' :: '\\' :: _ => true
  | c :: ':' :: '/' :: _ => isAsciiLetter c
  | c :: ':' :: '\\' :: _ => isAsciiLetter c
  | _ => false

def readRequire (line : Nat) : List String → Except Fault ModuleVersion
  | [path, version] => .ok ⟨path, version⟩
  | _ => .error (.requireUsage line)

/-- The identity on the left of an arrow: a path, with or without a version. -/
def readReplaced (line : Nat) : List String → Except Fault ModuleVersion
  | [path] => .ok ⟨path, ""⟩
  | [path, version] => .ok ⟨path, version⟩
  | _ => .error (.malformedReplace line)

/-- What stands on the right of an arrow: a directory, or a path with a version. -/
def readReplacement (line : Nat) : List String → Except Fault Replacement
  | [path] => if isDirectoryPath path then .ok (.directory path) else .error (.pathNeeded line)
  | [path, version] =>
    if isDirectoryPath path then .error (.pathWithVersion line) else .ok (.module ⟨path, version⟩)
  | _ => .error (.malformedReplace line)

def readReplace (line : Nat) (args : List String) :
    Except Fault (ModuleVersion × Replacement) :=
  if args.contains "=>" then
    let left := args.takeWhile (· != "=>")
    let right := (args.dropWhile (· != "=>")).drop 1
    if right.length = 1 || right.length = 2 then
      (readReplaced line left).bind fun old =>
        (readReplacement line right).map fun new => (old, new)
    else .error (.malformedReplace line)
  else .error (.replaceUsage line)

/-- What has been read so far, and the block that is open. -/
structure Draft where
  module : Option ModuleVersion
  requires : List ModuleVersion
  replaces : Replacements
  block : Option String
  deriving DecidableEq, Repr

namespace Draft

def empty : Draft := ⟨none, [], [], none⟩

/-- Takes in one directive with its arguments. -/
def direct (d : Draft) (line : Nat) (verb : String) (args : List String) : Except Fault Draft :=
  if verb = "module" then
    match args with
    | [path] => .ok { d with module := some ⟨path, ""⟩ }
    | _ => .error (.moduleUsage line)
  else if verb = "require" then
    (readRequire line args).map fun v => { d with requires := d.requires ++ [v] }
  else if verb = "replace" then
    (readReplace line args).map fun (old, new) =>
      { d with replaces := d.replaces.declare old new }
  else .ok d

/-- Takes in the tokens of one line. -/
def take (d : Draft) (line : Nat) : List String → Except Fault Draft
  | [] => .ok d
  | verb :: args =>
    match d.block with
    | some opened =>
      if verb :: args = [")"] then .ok { d with block := none }
      else d.direct line opened (verb :: args)
    | none =>
      if directives.contains verb then
        if args = ["("] then .ok { d with block := some verb } else d.direct line verb args
      else .error (.unknownDirective line verb)

/-- Takes in lines, the first of which has the given number. -/
def takeLines (d : Draft) (line : Nat) : List (List Char) → Except Fault Draft
  | [] => .ok d
  | text :: rest =>
    match tokens text with
    | .error word => .error (.unterminatedQuote line (String.ofList word))
    | .ok words =>
      match d.take line words with
      | .error fault => .error fault
      | .ok d => d.takeLines (line + 1) rest

/-- The manifest of a file that was read to its end. -/
def finish (d : Draft) : Except Fault Manifest :=
  match d.block, d.module with
  | some verb, _ => .error (.unterminatedBlock verb)
  | none, none => .error .noModule
  | none, some module => .ok ⟨module, d.requires, d.replaces⟩

end Draft

/-- Reads the text of a go.mod file. -/
def parseText (text : List Char) : Except Fault Manifest :=
  (Draft.empty.takeLines 1 (splitLines text)).bind Draft.finish

/-- Reads the bytes of a go.mod file. -/
def parse (data : List UInt8) : Except Fault Manifest :=
  match Utf8.decode data with
  | .error fault => .error (.encoding fault)
  | .ok text => parseText text

end Attribution.GoMod
