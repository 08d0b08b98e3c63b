import Attribution.License.Catalogue
import Attribution.Report.Date
import Attribution.Report.Rendering
import Attribution.Tree.Drawing

/-!
Reports: the text tree of a module's dependencies, and the license of each in a section of its own.
-/

namespace Attribution.Report

/-- The header of a report that was given none. -/
def defaultHeader : String := "# Open Source Software Attribution"

/-- The template of a report in Markdown. -/
def standard : Template := [
  .place .header false,
  .text "\n\nGenerated on ".toList,
  .place .date false,
  .text " for `".toList,
  .place .root false,
  .text "`.\n\n## Dependency tree\n\n```\n".toList,
  .place .tree false,
  .text "```\n".toList,
  .choose (.any .review) [
    .text ("\n\n## Modules requiring review\n\n" ++
      "The license of the following modules could not be determined and must be\n" ++
      "checked by hand:\n").toList,
    .each .review [.text "\n- `".toList, .field .id false, .text "`".toList],
    .text "\n".toList] [],
  .text "\n\n## Licenses\n".toList,
  .each .sections [
    .text "\n\n### ".toList,
    .field .id false,
    .text "\n\n**License:** ".toList,
    .choose .hasPage [
      .text "[".toList, .field .license false, .text "](".toList, .field .page false,
      .text ")".toList] [.field .license false],
    .choose .hasOtherName [.text " (".toList, .field .name false, .text ")".toList] [],
    .text "\n\n```\n".toList,
    .field .text true,
    .text "\n```\n".toList],
  .text "\n".toList]

/-- The section of a licensed module, none for a module without a license. -/
def section? (n : Node) : Option Section :=
  n.license.map fun l =>
    ⟨n.id.toList, l.name.toList, (License.fullName l.name).toList,
      (License.page? l.name).map String.toList, l.text⟩

/-- The sections of a tree's licensed modules, in the order of their first occurrences. -/
def sections (t : Tree) : List Section := t.modules.filterMap section?

/-- What a report on a tree says, with the header and the date it is given. -/
def document (header : String) (date : Date) (t : Tree) : Document where
  header := (if header = "" then defaultHeader else header).toList
  root := t.root.version.path.toList
  date := date.text.toList
  tree := t.render.toList
  sections := sections t
  review := (sections t).filter (·.license = License.unknownName.toList)

/-- The text of a report. -/
def render (template : Template) (header : String) (date : Date) (t : Tree) : String :=
  String.ofList (template.render (document header date t))

end Attribution.Report
