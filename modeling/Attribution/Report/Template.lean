/-!
Templates of reports: text with places for what a report knows, loops over its modules, and parts
that depend on a test.
-/

namespace Attribution.Report

/-- What a report tells of one licensed module. -/
structure Section where
  id : List Char
  license : List Char
  name : List Char
  page : Option (List Char)
  text : List Char
  deriving DecidableEq, Repr

/-- What a template is filled with. -/
structure Document where
  header : List Char
  root : List Char
  date : List Char
  tree : List Char
  sections : List Section
  review : List Section
  deriving DecidableEq, Repr

/-- A text of the whole document. -/
inductive Place where
  | header
  | root
  | date
  | tree
  deriving DecidableEq, Repr

/-- A text of the module that the innermost loop is at. -/
inductive Field where
  | id
  | license
  | name
  | page
  | text
  deriving DecidableEq, Repr

/-- The modules that a loop goes through. -/
inductive Group where
  | sections
  | review
  deriving DecidableEq, Repr

inductive Test where
  | any (group : Group)
  | hasPage
  | hasOtherName
  deriving DecidableEq, Repr

/-- A part of a template. Of a value, blanks at both ends may be left out. -/
inductive Part where
  | text (s : List Char)
  | place (p : Place) (trimmed : Bool)
  | field (f : Field) (trimmed : Bool)
  | each (group : Group) (body : List Part)
  | choose (test : Test) (yes no : List Part)
  deriving Repr

abbrev Template := List Part

end Attribution.Report
