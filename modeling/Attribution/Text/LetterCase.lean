import Attribution.Text.LetterCase.Table

/-!
Lower-casing of whole texts. One letter may become two, and a capital sigma has two images: the
final one where a word ends, which its neighbours decide.
-/

namespace Attribution.Text

open LetterCase

/-- Whether a character is upper case (title case does not count). -/
def isUpper (c : Char) : Bool :=
  if c.toNat < 0x80 then 'A' ≤ c && c ≤ 'Z' else upperRuns.any (·.contains c.toNat)

/-- Whether a character is passed over when the neighbours of a letter are looked at. -/
def isIgnored (c : Char) : Bool := inSpans ignoredSpans c

/-- Whether a character is a cased letter that is not passed over. -/
def isCased (c : Char) : Bool := inSpans casedSpans c

/-- The lower-case image of a character taken by itself. -/
def lowerChar (c : Char) : List Char :=
  if c.toNat < 0x80 then
    if 'A' ≤ c && c ≤ 'Z' then [Char.ofNat (c.toNat + 32)] else [c]
  else if c = '\u0130' then ['i', '\u0307']
  else match lowerRuns.find? (·.1.contains c.toNat) with
    | some (_, shift) => [Char.ofNat (Int.toNat (c.toNat + shift))]
    | none => [c]

/-- Whether the next character that counts is a cased letter. -/
def startsCased (s : List Char) : Bool :=
  match s.dropWhile isIgnored with
  | [] => false
  | c :: _ => isCased c

/-- Lower-cases a text whose left neighbour that counts is a cased letter or not. -/
def lowerAfter (cased : Bool) : List Char → List Char
  | [] => []
  | c :: rest =>
    (if c = 'Σ' then [if cased && !startsCased rest then 'ς' else 'σ'] else lowerChar c) ++
      lowerAfter (if isIgnored c then cased else isCased c) rest

/-- The text in lower case. -/
def lower (s : List Char) : List Char := lowerAfter false s

/-- The string in lower case. -/
def lowerString (s : String) : String := String.ofList (lower s.toList)

end Attribution.Text
