import Attribution.Bytes
import Attribution.Failure
import Attribution.Text.LetterCase
import Attribution.Text.Split

/-!
Module archives, and what is taken out of them: the first license file and the first go.mod file at
the top of the module. No other entry is read.
-/

namespace Attribution

open Text

/-- An entry of an archive. Reading one that is not intact fails. -/
structure Entry where
  name : String
  data : Bytes
  intact : Bool
  deriving DecidableEq, Repr

/-- What a download yields: an archive with its entries in order, or bytes. -/
inductive Payload where
  | archive (entries : List Entry)
  | octets (data : Bytes)
  deriving DecidableEq, Repr

namespace Payload

/-- The bytes of an archive without entries. -/
def emptyArchive : Bytes := [0x50, 0x4b, 0x05, 0x06] ++ List.replicate 18 0

/-- The entries of an archive, none where the bytes are no archive. -/
def entries? : Payload → Option (List Entry)
  | archive entries => some entries
  | octets data => if data = emptyArchive then some [] else none

end Payload

/-- The names that hold a license, in lower case. -/
def licenseNames : List String := ["license", "license.txt", "license.md", "copying"]

/-- Whether a file at the top of a module most likely holds its license. -/
def isLicenseName (name : String) : Bool := licenseNames.contains (lowerString name)

namespace Archive

/-- What a module's entries start with: its identity, as it is or in lower case. -/
def starts (v : ModuleVersion) : List (List Char) :=
  let full := v.text.toList
  if lower full = full then [full] else [full, lower full]

/-- What follows the first start that an entry name has. -/
def rest? (starts : List (List Char)) (name : String) : Option (List Char) :=
  starts.findSome? (after? · name.toList)

/-- Whether a rest names a license file at the top of the module. -/
def isTopLicense : List Char → Bool
  | '/' :: file => !file.contains '/' && isLicenseName (String.ofList file)
  | _ => false

/-- Whether a rest names the manifest at the top of the module. -/
def isTopManifest (rest : List Char) : Bool := rest = "/go.mod".toList

/-- What was taken out of an archive. -/
structure Pick where
  license : Option Bytes
  manifest : Option Bytes
  deriving DecidableEq, Repr

def Entry.read (e : Entry) : Except Fault Bytes :=
  if e.intact then .ok e.data else .error (.damagedEntry e.name)

/-- Looks at one entry: a directory is passed over, a license or a manifest is read if none was. -/
def pickEntry (starts : List (List Char)) (p : Pick) (e : Entry) : Except Fault Pick :=
  match e.name.toList.getLast? with
  | none => .error .unnamedEntry
  | some last =>
    if last = '/' then .ok p
    else
      match rest? starts e.name with
      | none => .ok p
      | some rest =>
        if p.license.isNone && isTopLicense rest then
          (Entry.read e).map fun data => { p with license := some data }
        else if p.manifest.isNone && isTopManifest rest then
          (Entry.read e).map fun data => { p with manifest := some data }
        else .ok p

/-- Looks at the entries in order. -/
def pick (starts : List (List Char)) : Pick → List Entry → Except Fault Pick
  | p, [] => .ok p
  | p, e :: rest => (pickEntry starts p e).bind fun p => pick starts p rest

end Archive

end Attribution
