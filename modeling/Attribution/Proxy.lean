import Attribution.Module
import Attribution.Text.Blank
import Attribution.Text.LetterCase
import Attribution.Text.Split

/-!
Module proxies: the choice of one from a setting, and the addresses of archives on it. Capitals are
marked in addresses, so that two that differ in case alone stay apart.
-/

namespace Attribution.Proxy

open Text

def defaultUrl : String := "https://proxy.golang.org"

/-- Writes a capital as an exclamation mark and its small letter. -/
def escape (s : List Char) : List Char :=
  s.flatMap fun c => if isUpper c then '!' :: lower [c] else [c]

def escapeString (s : String) : String := String.ofList (escape s.toList)

/-- The entries of a setting, which commas or bars divide, without blanks around. -/
def entries (setting : String) : List (List Char) :=
  (splitBy (fun c => c == ',' || c == '|') setting.toList).map trim

/-- Whether an entry names a proxy, and is no word that asks to go without. -/
def isNamed (entry : List Char) : Bool :=
  !entry.isEmpty && entry != "direct".toList && entry != "off".toList

def withoutSlashes (s : List Char) : List Char := dropEndWhile (· == '/') s

/-- The first proxy that a setting names, else the default one. -/
def choose (setting : String) : String :=
  match (entries setting).find? isNamed with
  | some entry => String.ofList (withoutSlashes entry)
  | none => defaultUrl

/-- The address of a module version's archive on the proxy with the given address. -/
def archiveUrl (base : String) (v : ModuleVersion) : String :=
  String.ofList (withoutSlashes base.toList) ++ "/" ++ escapeString v.path ++ "/@v/" ++
    escapeString v.version ++ ".zip"

end Attribution.Proxy
