import Attribution.Disk
import Attribution.Report.Rendering

/-!
Templates of a user's own, as a report is given them. It is left open what they are written in; what
counts is what filling one comes to. An engine serves one command: what else it looks at, such as the
clock, does not change while it does.
-/

namespace Attribution.Report

/-- What the filling of a template comes to: a text, a text with half a character in it, which has no
bytes, or a failure, which may be told to the user. -/
inductive Filling where
  | text (s : List Char)
  | torn
  | failed (notice : Option String)
  deriving DecidableEq, Repr

/-- Loads the template at a path, none where there is none to load. -/
abbrev Engine := Disk → String → Option (Document → Filling)

end Attribution.Report
