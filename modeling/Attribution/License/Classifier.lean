import Attribution.License
import Attribution.License.Reader
import Attribution.License.Signature
import Attribution.Number.Reading
import Attribution.Run

/-!
Labels for license texts. A header that holds a license expression is trusted; else the signature
that fits best is taken, if it fits well enough.
-/

namespace Attribution.License

open Text

/-- The least share of a signature's phrases that has to occur in a text. -/
structure Threshold where
  given : Number.Given
  value : Rat
  value_eq : given.value? = some value
  pos : 0 < value
  le_one : value ≤ 1

namespace Threshold

/-- A number above nought and at most one. -/
def of? (g : Number.Given) : Option Threshold :=
  match h : g.value? with
  | none => none
  | some q => if hq : 0 < q ∧ q ≤ 1 then some ⟨g, q, h, hq.1, hq.2⟩ else none

/-- What is said of a number that is no threshold. -/
def refusal (g : Number.Given) : String := "threshold must be in (0, 1], got " ++ g.text

/-- The binary64 number next to four fifths. -/
def default : Threshold where
  given := .real (.finite false 7205759403792794 (-53))
  value := mkRat 7205759403792794 9007199254740992
  value_eq := by decide +kernel
  pos := by decide +kernel
  le_one := by decide +kernel

end Threshold

/-- Whether a character spells a letter of the header's name. -/
def spells (letter c : Char) : Bool :=
  c.toLower == letter || (letter == 's' && c == 'ſ') || (letter == 'i' && (c == 'İ' || c == 'ı'))

/-- What follows a name in any letter case. -/
def afterName? : List Char → List Char → Option (List Char)
  | [], s => some s
  | _ :: _, [] => none
  | letter :: name, c :: s => if spells letter c then afterName? name s else none

def headerName : List Char := "spdx-license-identifier:".toList

/-- Whether a character ends the value of a header. -/
def endsValue (c : Char) : Bool := c = '\n' || c = '\r' || c = '*'

/-- The value that follows a header's name. It may start on a later line. Where only blanks follow
it is blank, if one of them can belong to a value. -/
def valueAfter? (s : List Char) : Option (List Char) :=
  match s.dropWhile isBlank with
  | [] => if (s.takeWhile isBlank).all endsValue then none else some []
  | c :: rest =>
    if endsValue c then if (s.takeWhile isBlank).all endsValue then none else some []
    else some (trim ((c :: rest).takeWhile (!endsValue ·)))

/-- The value of the first header of a text. -/
def header? : List Char → Option (List Char)
  | [] => none
  | c :: rest =>
    match (afterName? headerName (c :: rest)).bind valueAfter? with
    | some value => some value
    | none => header? rest

/-- What a header says, if it holds an expression. -/
def fromHeader (e : ExpressionReader) (text : List Char) : Except Refusal (Option String) :=
  match header? text with
  | none => .ok none
  | some value => e value

/-- A signature that fits a text, and how well it does. -/
structure Fit where
  score : Rat
  matched : Nat
  key : String
  deriving DecidableEq, Repr

/-- Whether a fit is better than another: by its share of phrases, then by their number. -/
def Fit.betters (f g : Fit) : Bool :=
  g.score < f.score || (g.score == f.score && g.matched < f.matched)

/-- Holds a signature against the best fit so far. -/
def consider (t : Threshold) (text : List Char) (best : Option Fit) (s : Signature) :
    Option Fit :=
  if s.isExcluded text then best
  else
    let fit : Fit := ⟨s.score text, s.matched text, s.key⟩
    if fit.score < t.value then best
    else
      match best with
      | none => some fit
      | some b => if fit.betters b then some fit else best

/-- The best fit of a text in normal form. -/
def bestFit (t : Threshold) (text : List Char) : Option Fit :=
  signatures.foldl (consider t text) none

/-- Why a text has no label. -/
inductive Cause where
  | emptyText
  | noMatch (t : Threshold)

def Cause.message : Cause → String
  | .emptyText => "license text is empty"
  | .noMatch t => "no license matched with confidence >= " ++ t.given.text

variable {σ : Type}

/-- The label of a text by its signature. -/
def classifyText (t : Threshold) (text : List Char) : Run σ String :=
  match bestFit t (normalize text) with
  | none => Run.fail .classification (some (Cause.noMatch t).message) none
  | some fit => do
    Run.debug ("Classified license as " ++ fit.key ++ " (confidence " ++
      Number.fixedText 2 fit.score ++ ")")
    return fit.key

/-- The label of a license text. A header that is told to hold no expression is ignored. -/
def classify (e : ExpressionReader) (t : Threshold) (data : Bytes) : Run σ String := do
  let text := data.toText
  if (trim text).isEmpty then
    Run.fail .classification (some Cause.emptyText.message) none
  else
    match fromHeader e text with
    | .ok (some label) => return label
    | .ok none => classifyText t text
    | .error (.invalid message) => do
      Run.debug ("Ignoring invalid SPDX header " ++
        quoteString (String.ofList ((header? text).getD [])) ++ ": " ++ message)
      classifyText t text
    | .error (.accident fault) => throw (.fault fault)

end Attribution.License
