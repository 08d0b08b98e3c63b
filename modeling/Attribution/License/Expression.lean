import Attribution.License.Symbol

/-!
License expressions: keys joined by AND and OR, with exceptions.
-/

namespace Attribution.License

/-- A name in an expression. -/
inductive Symbol where
  | known (key : String)
  | unknown (name : String)
  deriving DecidableEq, Repr

def Symbol.text : Symbol → String
  | .known key => key
  | .unknown name => name

/-- Whether a name is a key as it is written. -/
def Symbol.isKey : Symbol → Bool
  | .known _ => true
  | .unknown name => key? (Text.lower name.toList) == some name

/-- A license, with an exception or without. -/
structure Term where
  license : Symbol
  exception : Option Symbol
  deriving DecidableEq, Repr

inductive Connective where
  | all
  | any
  deriving DecidableEq, Repr

def Connective.word : Connective → String
  | .all => "AND"
  | .any => "OR"

inductive Expression where
  | term (t : Term)
  | compound (op : Connective) (operands : List Expression)
  deriving Repr

namespace Expression

def termText (t : Term) : String :=
  match t.exception with
  | none => t.license.text
  | some e => t.license.text ++ " WITH " ++ e.text

/-- Written operands with a connective between them. -/
def joined (op : Connective) (operands : List String) : String :=
  (" " ++ op.word ++ " ").intercalate operands

mutual

/-- The written expression; operands that are compound stand in parentheses. -/
def text : Expression → String
  | term t => termText t
  | compound op operands => joined op (operandTexts operands)

def operandTexts : List Expression → List String
  | [] => []
  | e :: rest => operandText e :: operandTexts rest

def operandText : Expression → String
  | term t => termText t
  | compound op operands => "(" ++ joined op (operandTexts operands) ++ ")"

end

def termUnknowns (t : Term) : List String :=
  ((t.license :: t.exception.toList).filter (!·.isKey)).map Symbol.text

mutual

/-- The names that are no keys, from left to right. -/
def unknowns : Expression → List String
  | term t => termUnknowns t
  | compound _ operands => operandUnknowns operands

def operandUnknowns : List Expression → List String
  | [] => []
  | e :: rest => unknowns e ++ operandUnknowns rest

end

end Expression

end Attribution.License
