import Attribution.Bytes
import Attribution.Module

/-!
Licenses: a text and the label it was given.
-/

namespace Attribution

/-- A license text as it was found, and its label. -/
structure License where
  data : Bytes
  name : String
  deriving DecidableEq, Repr

namespace License

/-- The label of a license that nobody could tell. -/
def unknownName : String := "Unknown"

/-- What stands in for the license of a module that has none. -/
def unknown (v : ModuleVersion) : License where
  data := Bytes.ofString ("WARNING: YOU MUST OVERRIDE THIS WITH A PROPER LICENSE\n" ++
    "UNKNOWN LICENSE FOR \"" ++ v.text ++ "\"")
  name := unknownName

/-- The license text. -/
def text (l : License) : List Char := l.data.toText

end License

end Attribution
