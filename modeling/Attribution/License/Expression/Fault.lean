import Attribution.License.Expression
import Attribution.License.Reader
import Attribution.Text.Quoted

/-!
Why a text is no license expression.
-/

namespace Attribution.License.Expression

/-- How a token fails to fit to those before it. -/
inductive Misfit where
  | leftOver
  | symbol
  | operator
  | nesting
  | unbalanced
  deriving DecidableEq, Repr

def Misfit.message : Misfit → String
  | leftOver => "Invalid expression"
  | symbol => "Invalid symbols sequence such as (A B)"
  | operator => "Invalid operator sequence without symbols such as AND OR or OR OR"
  | nesting => "Invalid expression nesting such as (AND xx)"
  | unbalanced => "Unbalanced parenthesis"

/-- Why a text is no license expression. A pair of parentheses with nothing in it is a case of its
own, and so is a connective right behind an opening parenthesis. -/
inductive Fault where
  | keyCharacter (name : String)
  | reservedKey (name : String)
  | misfit (m : Misfit) (token : String) (place : Nat)
  | incomplete
  | fewOperands (op : Connective)
  | unknownKeys (names : List String)
  | emptyParentheses
  | strayParenthesis
  deriving DecidableEq, Repr

/-- What is said of a fault. The place of a token is left out where it is the start of the text. -/
def Fault.message : Fault → String
  | keyCharacter name =>
    "Invalid license key: the valid characters are: letters and numbers, underscore, dot, " ++
      "colon or hyphen signs and spaces: " ++ Text.quoteString name
  | reservedKey name =>
    "Invalid license key: a key cannot be a reserved keyword: \"or\", \"and\" or \"with\": " ++
      Text.quoteString name
  | misfit m token place =>
    m.message ++ " for token: \"" ++ token ++ "\"" ++
      if place = 0 then "" else " at position: " ++ toString place
  | incomplete => "Invalid expression"
  | fewOperands op =>
    op.word ++ " requires two or more licenses as in: MIT " ++ op.word ++ " BSD"
  | unknownKeys names => "Unknown license key(s): " ++ ", ".intercalate names
  | emptyParentheses => "list index out of range"
  | strayParenthesis => "Bad arguments: all arguments must be an Expression"

/-- How a reader fails at a fault. -/
def Fault.refusal (f : Fault) : Refusal :=
  match f with
  | emptyParentheses => .accident (.foreign "IndexError" f.message)
  | strayParenthesis => .accident (.foreign "AssertionError" f.message)
  | _ => .invalid f.message

end Attribution.License.Expression
