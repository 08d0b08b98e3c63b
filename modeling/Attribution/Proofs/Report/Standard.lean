import Attribution.Report

/-!
What a report in Markdown says, part by part: the header, the line on its date and its module, the
tree between its fences, a note on what has to be reviewed, and a chapter for every licensed module.
-/

namespace Attribution.Report

/-- What stands above the tree. -/
def Document.opening (d : Document) : List Char :=
  d.header ++ ("\n\nGenerated on ".toList ++ d.date ++ " for `".toList ++ d.root ++
    "`.\n\n## Dependency tree\n\n```\n".toList)

/-- The entry of a module that has to be reviewed. -/
def Section.entry (s : Section) : List Char := "\n- `".toList ++ s.id ++ "`".toList

/-- The note on what has to be reviewed, empty where there is nothing. -/
def Document.note (d : Document) : List Char :=
  if !d.review.isEmpty then
    ("\n\n## Modules requiring review\n\n" ++
      "The license of the following modules could not be determined and must be\n" ++
      "checked by hand:\n").toList ++ d.review.flatMap Section.entry ++ "\n".toList
  else []

/-- The license of a module as its chapter names it: a link where it has a page, and the full name
where that differs. -/
def Section.title (s : Section) : List Char :=
  (if !(s.page.getD []).isEmpty then
    "[".toList ++ s.license ++ "](".toList ++ s.page.getD [] ++ ")".toList
  else s.license) ++
  if s.name != s.license then " (".toList ++ s.name ++ ")".toList else []

/-- The chapter of a licensed module. -/
def Section.chapter (s : Section) : List Char :=
  "\n\n### ".toList ++ s.id ++ "\n\n**License:** ".toList ++ s.title ++ "\n\n```\n".toList ++
    Text.trim s.text ++ "\n```\n".toList

variable {d : Document}

/-- The text of a report in Markdown. -/
theorem render_standard : Template.render standard d =
    d.opening ++ (d.tree ++ ("```\n".toList ++ (d.note ++ ("\n\n## Licenses\n".toList ++
      (d.sections.flatMap Section.chapter ++ "\n".toList))))) := by
  have entries : Section.entry = fun s => "\n- `".toList ++ (s.id ++ "`".toList) :=
    funext fun s => List.append_assoc ..
  have chapters : Section.chapter = fun s => "\n\n### ".toList ++ (s.id ++
      ("\n\n**License:** ".toList ++ (s.title ++ ("\n\n```\n".toList ++ (Text.trim s.text ++
        "\n```\n".toList))))) := by
    funext s
    unfold Section.chapter
    simp only [List.append_assoc]
  simp only [Template.render, standard, renderParts, Part.render, trimmedIf, Document.place,
    Document.group, fieldOf, Section.field, Test.holds, Bool.false_eq_true, if_true, if_false,
    List.append_nil]
  unfold Document.opening Document.note
  simp only [entries, chapters, Section.title, List.append_assoc]

section Fields

variable (header : String) (date : Date) (t : Tree)

theorem document_header : (document header date t).header =
    if header = "" then defaultHeader.toList else header.toList := by
  rw [document]
  split <;> rfl

theorem document_date : (document header date t).date = date.text.toList := by rw [document]

theorem document_root : (document header date t).root = t.root.version.path.toList := by
  rw [document]

theorem document_tree : (document header date t).tree = t.render.toList := by rw [document]

theorem document_sections : (document header date t).sections = sections t := by rw [document]

theorem document_review : (document header date t).review =
    (sections t).filter (·.license = License.unknownName.toList) := by rw [document]

end Fields

/-- The tree stands behind the opening, up to the fence that ends its block. -/
theorem toList_render (header : String) (date : Date) (t : Tree) : ∃ rest,
    (render standard header date t).toList =
      (document header date t).opening ++ (t.render.toList ++ ("```\n".toList ++ rest)) := by
  rw [render, String.toList_ofList, render_standard, document_tree]
  exact ⟨_, rfl⟩

end Attribution.Report
