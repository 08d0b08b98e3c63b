import Attribution.License.Symbol.Table
import Attribution.Text.LetterCase

/-!
What the names in license expressions stand for. Letter case does not count in a name.
-/

namespace Attribution.License

/-- A reference to a license without a key. -/
def reference (code : String) : String := referenceStart ++ code

/-- Every name with what it stands for. -/
def names : List (String × String) :=
  symbolKeys.map (fun key => (key, key)) ++
    referenceCodes.map (fun code => (reference code, reference code)) ++
    symbolAliases ++
    keyedCodes.map (fun (code, key) => (reference code, key)) ++
    renamedCodes.map fun (old, new) => (reference old, reference new)

/-- Every name in lower case, with what it stands for. -/
def nameTable : List (List Char × String) :=
  names.map fun (name, key) => (Text.lower name.toList, key)

/-- The key or reference that a name in lower case stands for. -/
def key? (name : List Char) : Option String := nameTable.lookup name

end Attribution.License
