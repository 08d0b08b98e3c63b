import Attribution.Failure

/-!
The reading of license expressions, as a classifier is given it. It is left open how a text is read;
what counts is what it comes to.
-/

namespace Attribution.License

/-- Why a text has no expression: it is told to be none, or its reading fails in another way. -/
inductive Refusal where
  | invalid (message : String)
  | accident (fault : Fault)
  deriving DecidableEq, Repr

/-- Reads a license expression and writes it in its own form. A blank text has none. -/
abbrev ExpressionReader := List Char → Except Refusal (Option String)

end Attribution.License
