import Attribution.Report.Template
import Attribution.Text.Blank

/-!
Filling templates. A field has no text outside a loop.
-/

namespace Attribution.Report

def Document.place (d : Document) : Place → List Char
  | .header => d.header
  | .root => d.root
  | .date => d.date
  | .tree => d.tree

def Document.group (d : Document) : Group → List Section
  | .sections => d.sections
  | .review => d.review

def Section.field (s : Section) : Field → List Char
  | .id => s.id
  | .license => s.license
  | .name => s.name
  | .page => s.page.getD []
  | .text => s.text

def fieldOf (s : Option Section) (f : Field) : List Char :=
  match s with
  | some s => s.field f
  | none => []

def Test.holds (d : Document) (s : Option Section) : Test → Bool
  | .any group => !(d.group group).isEmpty
  | .hasPage => !(fieldOf s .page).isEmpty
  | .hasOtherName => fieldOf s .name != fieldOf s .license

def trimmedIf (trimmed : Bool) (s : List Char) : List Char := if trimmed then Text.trim s else s

mutual

/-- The text of a part, for the module that the innermost loop is at. -/
def Part.render (d : Document) (s : Option Section) : Part → List Char
  | .text t => t
  | .place p trimmed => trimmedIf trimmed (d.place p)
  | .field f trimmed => trimmedIf trimmed (fieldOf s f)
  | .each group body => (d.group group).flatMap fun s => renderParts d (some s) body
  | .choose test yes no =>
    if test.holds d s then renderParts d s yes else renderParts d s no

/-- The text of parts one after the other. -/
def renderParts (d : Document) (s : Option Section) : List Part → List Char
  | [] => []
  | p :: rest => p.render d s ++ renderParts d s rest

end

/-- The text of a template. -/
def Template.render (t : Template) (d : Document) : List Char := renderParts d none t

end Attribution.Report
