import Attribution.License.Expression.Fault
import Attribution.Text.Alphanumeric
import Attribution.Text.Blank

/-!
The tokens of license expressions. Words are told apart in the text in lower case, and a token shows
what the text itself has at the place of its word. Words that mean nothing make one name with their
neighbours.
-/

namespace Attribution.License.Expression

open Text

/-- A word or a parenthesis, and its place. -/
structure Lexeme where
  place : Nat
  text : List Char
  deriving DecidableEq, Repr

namespace Lexeme

/-- The place behind a lexeme. -/
def stop (l : Lexeme) : Nat := l.place + l.text.length

def isParenthesis (c : Char) : Bool := c = '(' || c = ')'

/-- Puts a character in front: it joins a word it touches. -/
def cons (place : Nat) (c : Char) (ls : List Lexeme) : List Lexeme :=
  if isBlank c then ls
  else
    match ls with
    | [] => [⟨place, [c]⟩]
    | l :: rest =>
      if l.place = place + 1 && !isParenthesis c && !l.text.any isParenthesis then
        ⟨place, c :: l.text⟩ :: rest
      else ⟨place, [c]⟩ :: l :: rest

/-- The lexemes of a text that starts at a place. -/
def ofText (place : Nat) : List Char → List Lexeme
  | [] => []
  | c :: rest => cons place c (ofText (place + 1) rest)

end Lexeme

/-- What a token is to the grammar. -/
inductive Meaning where
  | symbol (s : Symbol)
  | withWord
  | op (c : Connective)
  | left
  | right
  deriving DecidableEq, Repr

/-- What a lexeme means, if it has a meaning of its own. -/
def meaning? (word : List Char) : Option Meaning :=
  match String.ofList word with
  | "and" => some (.op .all)
  | "or" => some (.op .any)
  | "with" => some .withWord
  | "(" => some .left
  | ")" => some .right
  | _ => (key? word).map fun key => .symbol (.known key)

/-- A stretch of the text with what it means. -/
structure Stretch where
  place : Nat
  length : Nat
  meaning : Option Meaning
  deriving DecidableEq, Repr

def Stretch.ofLexeme (l : Lexeme) : Stretch := ⟨l.place, l.text.length, meaning? l.text⟩

/-- The stretch of two words that make one name. It ends with the second word and is as long as the
name with one space in it. -/
def Stretch.ofPair? (a b : Lexeme) : Option Stretch :=
  let name := a.text ++ ' ' :: b.text
  (key? name).map fun key => ⟨b.stop - name.length, name.length, some (.symbol (.known key))⟩

/-- The stretches of lexemes. The first word of a pair counts for itself where it ends before the
stretch of the pair. -/
def stretches : List Lexeme → List Stretch
  | [] => []
  | [l] => [.ofLexeme l]
  | a :: b :: rest =>
    match Stretch.ofPair? a b with
    | some pair =>
      if a.stop ≤ pair.place then .ofLexeme a :: pair :: stretches rest
      else pair :: stretches rest
    | none => .ofLexeme a :: stretches (b :: rest)

/-- A token: its meaning, its place, and what the text has there. -/
structure Token where
  place : Nat
  text : List Char
  meaning : Meaning
  deriving DecidableEq, Repr

/-- Tokens, and names that are still in pieces. -/
inductive Piece where
  | token (t : Token)
  | name (place : Nat) (words : List (List Char))
  deriving DecidableEq, Repr

/-- Puts a stretch in front; one without a meaning joins a name it comes before. A stretch is passed
over where the text has only blanks. -/
def consStretch (source : List Char) (s : Stretch) (pieces : List Piece) : List Piece :=
  let text := (source.drop s.place).take s.length
  if text.all isBlank then pieces
  else
    match s.meaning, pieces with
    | some m, _ => .token ⟨s.place, text, m⟩ :: pieces
    | none, .name _ words :: rest => .name s.place (text :: words) :: rest
    | none, _ => .name s.place [text] :: pieces

/-- Whether a character may stand in a name. -/
def isNameChar (c : Char) : Bool :=
  isAlphanumeric c || isBlank c || c = '_' || c = '-' || c = ':' || c = '.' || c = '+'

/-- The words that join names. -/
def reservedWords : List (List Char) := ["and".toList, "or".toList, "with".toList]

/-- The symbol of an unknown name. -/
def unknownSymbol (text : List Char) : Except Fault Symbol :=
  let name := trim text
  if !name.all isNameChar then .error (.keyCharacter (String.ofList name))
  else if reservedWords.contains (lower name) then .error (.reservedKey (String.ofList name))
  else .ok (.unknown (String.ofList (squeeze name)))

def Piece.token? : Piece → Except Fault Token
  | token t => .ok t
  | name place words =>
    let text := [' '].intercalate words
    (unknownSymbol text).map fun s => ⟨place, text, .symbol s⟩

/-- The tokens of a text. -/
def tokens (source : List Char) : Except Fault (List Token) :=
  ((stretches (Lexeme.ofText 0 (lower source))).foldr (consStretch source) []).mapM Piece.token?

end Attribution.License.Expression
