/-!
Terminals, as a command is given one. A command sets off parts of its notices with marks in square
brackets; it is left open what else a terminal takes for a mark.
-/

namespace Attribution.CommandLine

/-- A text as a terminal shows it, none where its marks do not fit. -/
abbrev Console := String → Option (List Char)

namespace Console

/-- The marks that commands use. -/
def marks : List (List Char) :=
  ["bold", "green", "red", "yellow"].flatMap fun name =>
    [("[" ++ name ++ "]").toList, ("[/" ++ name ++ "]").toList]

/-- A text without marks, behind so many characters of a mark that is left out. -/
def dropMarks : Nat → List Char → List Char
  | _, [] => []
  | left + 1, _ :: rest => dropMarks left rest
  | 0, c :: rest =>
    match marks.find? (·.isPrefixOf (c :: rest)) with
    | some mark => dropMarks (mark.length - 1) rest
    | none => c :: dropMarks 0 rest

/-- Knows the marks that commands use, and shows everything else as it is. -/
def plain : Console := fun text => some (dropMarks 0 text.toList ++ ['\n'])

end Console

end Attribution.CommandLine
