import Attribution.Proofs.Report.Standard
import Attribution.Proofs.Tree.Drawing
import Attribution.Proofs.Tree.Modules
import Mathlib.Algebra.GroupWithZero.Nat

/-!
Fences: three backquotes at the start of a line, which open and close a block of text as it is. A
report in Markdown puts the tree and every license text between fences of its own and copies what
stands there, so a text with a fence in it ends its block, and what follows is read as the report's.
-/

namespace Attribution.Report

open Text

/-- Characters that end lines. A line feed is one of them, and a backquote is none. -/
structure LineEnds where
  ends : Char → Bool
  feed : ends '\n' = true
  mark : ends '`' = false

/-- Whether a text has a backquote is told from its bytes, which are at hand for a literal. -/
theorem unquoted_of_bytes {s : String}
    (h : s.toByteArray.data.toList.all (· != 0x60) = true) : Of (· ≠ '`') s.toList := by
  rintro c member rfl
  have byte : (0x60 : UInt8) ∈ s.toByteArray.data.toList := by
    rw [← String.utf8Encode_toList, List.utf8Encode, List.data_toByteArray]
    exact List.mem_flatMap.mpr ⟨'`', member, by decide⟩
  cases List.all_eq_true.mp h 0x60 byte

theorem count_of_unquoted {s : List Char} (h : Of (· ≠ '`') s) : s.count '`' = 0 :=
  List.count_eq_zero.mpr fun member => h _ member rfl

namespace LineEnds

/-- Line feeds and carriage returns, as Markdown has it. -/
def markdown : LineEnds := ⟨fun c => c = '\n' || c = '\r', rfl, rfl⟩

def fence : List Char := "```".toList

/-- How many lines of a text start with a fence. -/
def fences (l : LineEnds) (s : List Char) : Nat :=
  (splitBy l.ends s).countP (fence.isPrefixOf ·)

variable {l : LineEnds} {s rest : List Char}

@[simp] theorem fences_nil : l.fences [] = 0 := rfl

theorem fences_append : l.fences (s ++ '\n' :: rest) = l.fences s + l.fences rest := by
  rw [fences, splitBy_append l.feed, List.countP_append, fences, fences]

theorem fences_feed : l.fences ('\n' :: rest) = l.fences rest := by
  have first : l.fences ([] ++ '\n' :: rest) = l.fences [] + l.fences rest := fences_append
  rwa [List.nil_append, fences_nil, Nat.zero_add] at first

/-- Lines are counted one by one. -/
theorem fences_lines {lines : List (List Char)} :
    l.fences (lines.flatMap (· ++ ['\n']) ++ rest) =
      (lines.map l.fences).sum + l.fences rest := by
  induction lines with
  | nil => simp
  | cons line lines ih =>
      rw [List.flatMap_cons, List.append_assoc, List.append_assoc, List.singleton_append,
        fences_append, ih, List.map_cons, List.sum_cons, Nat.add_assoc]

/-- Less than three backquotes make no fence. -/
theorem fences_of_few (h : s.count '`' < 3) : l.fences s = 0 := by
  refine List.countP_eq_zero.mpr fun line member starts => ?_
  have three : fence.Sublist s :=
    (List.isPrefixOf_iff_prefix.mp starts).sublist.trans (sublist_of_mem_splitBy member)
  exact absurd (three.count_le '`') (Nat.not_le.mpr h)

theorem fences_of_unquoted (h : Of (· ≠ '`') s) : l.fences s = 0 :=
  fences_of_few (by rw [count_of_unquoted h]; decide)

theorem fences_fence : l.fences fence = 1 := by
  simp [fences, fence, splitBy, l.mark, consFirst]

end LineEnds

variable {d : Document} {s : Section}

/-- The line on the date of a report and its module. -/
def Document.caption (d : Document) : List Char :=
  "Generated on ".toList ++ d.date ++ " for `".toList ++ d.root ++ "`.".toList

/-- The line of a module that has to be reviewed. -/
def Section.item (s : Section) : List Char := "- `".toList ++ s.id ++ "`".toList

def Section.heading (s : Section) : List Char := "### ".toList ++ s.id

def Section.label (s : Section) : List Char := "**License:** ".toList ++ s.title

/-- What a chapter has between the ends of lines that are the template's own and no fence. -/
def Section.insertions (s : Section) : List (List Char) := [s.heading, s.label, trim s.text]

/-- What a report has between the ends of lines that are the template's own, but for its header and
what is the same in every report. -/
def Document.insertions (d : Document) : List (List Char) :=
  [d.caption, d.tree] ++ d.review.map Section.item ++ d.sections.flatMap Section.insertions

-- The literals are made variables before lists are put together: taken apart they cost too much.

theorem Document.opening_eq : d.opening = d.header ++ '\n' :: '\n' :: (d.caption ++
    '\n' :: '\n' :: ("## Dependency tree".toList ++ '\n' :: '\n' :: (LineEnds.fence ++ ['\n']))) := by
  have start : "\n\nGenerated on ".toList = '\n' :: '\n' :: "Generated on ".toList := by simp
  have stop : "`.\n\n## Dependency tree\n\n```\n".toList = "`.".toList ++ '\n' :: '\n' ::
      ("## Dependency tree".toList ++ '\n' :: '\n' :: (LineEnds.fence ++ ['\n'])) := by
    simp [LineEnds.fence]
  unfold opening caption
  rw [start, stop]
  generalize "Generated on ".toList = generated
  generalize "## Dependency tree".toList = title
  generalize "`.".toList = ending
  simp only [List.append_assoc, List.cons_append]

theorem Section.entry_eq : s.entry = '\n' :: s.item := by
  have start : "\n- `".toList = '\n' :: "- `".toList := by simp
  unfold entry item
  rw [start]
  generalize "- `".toList = bullet
  simp only [List.cons_append]

theorem Section.chapter_eq : s.chapter = '\n' :: '\n' :: (s.heading ++ '\n' :: '\n' ::
    (s.label ++ '\n' :: '\n' :: (LineEnds.fence ++ '\n' :: (trim s.text ++
      '\n' :: (LineEnds.fence ++ ['\n']))))) := by
  have heading : "\n\n### ".toList = '\n' :: '\n' :: "### ".toList := by simp
  have label : "\n\n**License:** ".toList = '\n' :: '\n' :: "**License:** ".toList := by simp
  have start : "\n\n```\n".toList = '\n' :: '\n' :: (LineEnds.fence ++ ['\n']) := by
    simp [LineEnds.fence]
  have stop : "\n```\n".toList = '\n' :: (LineEnds.fence ++ ['\n']) := by
    simp [LineEnds.fence]
  unfold chapter Section.heading Section.label
  rw [heading, label, start, stop]
  generalize "### ".toList = hashes
  generalize "**License:** ".toList = stars
  generalize LineEnds.fence = mark
  simp only [List.append_assoc, List.cons_append, List.nil_append]

namespace LineEnds

variable {l : LineEnds} {rest : List Char}

theorem fences_chapter : l.fences (s.chapter ++ rest) =
    2 + (s.insertions.map l.fences).sum + l.fences rest := by
  have text : s.chapter ++ rest = '\n' :: '\n' :: (s.heading ++ '\n' :: '\n' ::
      (s.label ++ '\n' :: '\n' :: (fence ++ '\n' :: (trim s.text ++
        '\n' :: (fence ++ '\n' :: rest))))) := by
    simp only [Section.chapter_eq, List.append_assoc, List.cons_append, List.nil_append]
  simp only [text, fences_feed, fences_append, fences_fence, Section.insertions, List.map_cons,
    List.map_nil, List.sum_cons, List.sum_nil]
  omega

theorem fences_chapters {sections : List Section} :
    l.fences (sections.flatMap Section.chapter) =
      2 * sections.length + ((sections.flatMap Section.insertions).map l.fences).sum := by
  induction sections with
  | nil => rfl
  | cons s sections ih =>
      rw [List.flatMap_cons, fences_chapter, ih, List.flatMap_cons, List.map_append,
        List.sum_append, List.length_cons]
      omega

theorem fences_entries {line : List Char} {review : List Section} :
    l.fences (line ++ (review.flatMap Section.entry ++ ['\n'])) =
      l.fences line + ((review.map Section.item).map l.fences).sum := by
  induction review generalizing line with
  | nil => simp [fences_append]
  | cons s review ih =>
      rw [List.flatMap_cons, Section.entry_eq, List.cons_append, List.cons_append, List.append_assoc,
        fences_append, ih, List.map_cons, List.map_cons, List.sum_cons]

theorem fences_note : l.fences d.note = ((d.review.map Section.item).map l.fences).sum := by
  have plain : Of (· ≠ '`') ("\n\n## Modules requiring review\n\n" ++
      "The license of the following modules could not be determined and must be\n" ++
      "checked by hand:\n").toList := unquoted_of_bytes (by decide +kernel)
  have feed : "\n".toList = ['\n'] := by simp
  by_cases none : d.review = []
  · rw [Document.note, none]
    rfl
  · have some : (!d.review.isEmpty) = true := by simpa using none
    rw [Document.note, if_pos some, feed, List.append_assoc, fences_entries, fences_of_unquoted plain,
      Nat.zero_add]

/-- The fences of a report are those of its header, the template's own, and those of what is put
in. -/
theorem fences_standard {lines : List (List Char)} (drawn : d.tree = lines.flatMap (· ++ ['\n'])) :
    l.fences (Template.render standard d) =
      l.fences d.header + (2 + 2 * d.sections.length) + (d.insertions.map l.fences).sum := by
  have tree (rest : List Char) : l.fences (d.tree ++ rest) = l.fences d.tree + l.fences rest := by
    have alone : l.fences (d.tree ++ []) = (lines.map l.fences).sum + l.fences [] :=
      drawn ▸ fences_lines
    rw [List.append_nil, fences_nil, Nat.add_zero] at alone
    rw [alone, drawn, fences_lines]
  have fenced : "```\n".toList = fence ++ ['\n'] := by simp [fence]
  have licenses : "\n\n## Licenses\n".toList = '\n' :: '\n' :: ("## Licenses".toList ++ ['\n']) := by
    simp
  have feed : "\n".toList = ['\n'] := by simp
  have above : l.fences "## Dependency tree".toList = 0 := fences_of_unquoted (by simp [Of])
  have below : l.fences "## Licenses".toList = 0 := fences_of_unquoted (by simp [Of])
  rw [render_standard, Document.opening_eq, fenced, licenses, feed]
  generalize "## Dependency tree".toList = aboveTree at above
  generalize "## Licenses".toList = aboveLicenses at below
  simp only [List.append_assoc, List.cons_append, List.nil_append, fences_append, fences_feed, tree,
    fences_fence, fences_nil, fences_note, fences_chapters, above, below]
  simp only [Document.insertions, List.map_append, List.map_cons, List.map_nil, List.sum_append,
    List.sum_cons, List.sum_nil]
  omega

end LineEnds

/-- No name in a tree has a backquote. -/
structure Unquoted (t : Tree) : Prop where
  root : Of (· ≠ '`') t.root.version.path.toList
  ids : ∀ n ∈ Node.nodes t.root.dependencies, Of (· ≠ '`') n.id.toList
  licenses : ∀ n ∈ Node.nodes t.root.dependencies, ∀ name ∈ n.licenseName,
    Of (· ≠ '`') name.toList

variable {t : Tree}

theorem unquoted_version {n : Node} (h : Of (· ≠ '`') n.id.toList) :
    Of (· ≠ '`') n.version.text.toList := by
  cases replaced : n.replacement with
  | none =>
      have id : n.id = n.version.text := by
        simp only [Node.id, Node.requirement, Requirement.id, replaced]
      exact id ▸ h
  | some r =>
      have id : n.id = n.version.text ++ "=>" ++ r.text := by
        simp only [Node.id, Node.requirement, Requirement.id, replaced]
      rw [id, String.toList_append, String.toList_append, List.append_assoc] at h
      exact h.subset (List.subset_append_left _ _)

theorem Unquoted.label (h : Unquoted t) {n : Node} (member : n ∈ Node.nodes t.root.dependencies) :
    Of (· ≠ '`') n.label.toList := by
  have told : Of (· ≠ '`') ("(" ++ n.resolution.text ++ ")").toList := by
    cases n.resolution <;> simp [Of, Resolution.text]
  have mark : Of (· ≠ '`') n.mark.toList := by
    unfold Node.mark
    split
    next name named =>
      split
      · exact told
      · exact h.licenses n member name named
    next => exact told
  rw [Node.label, String.toList_append, String.toList_append]
  exact of_append (of_append (unquoted_version (h.ids n member)) (by simp [Of])) mark

theorem Unquoted.render (h : Unquoted t) : Of (· ≠ '`') t.render.toList := by
  have guides : Of (· ≠ '`') Tree.guides := by simp [Of, Tree.guides]
  have lines := Tree.of_lines guides h.root fun n => h.label
  rw [Tree.toList_render]
  intro c member
  obtain ⟨line, drawn, within⟩ := List.mem_flatMap.mp member
  exact of_append (lines line drawn) (of_singleton (by decide)) c within

theorem Date.unquoted (date : Date) : Of (· ≠ '`') date.text.toList := by
  have digits (n : Nat) : Of (· ≠ '`') (toString n).toList := by
    rw [Nat.toString_eq_repr, Nat.repr, String.toList_ofList]
    rintro c digit rfl
    cases Nat.isDigit_of_mem_toDigits (by decide) (by decide) digit
  have places (n : Nat) : Of (· ≠ '`') (twoPlaces n).toList := by
    unfold twoPlaces
    split
    · rw [String.toList_append]
      exact of_append (by simp [Of]) (digits n)
    · exact digits n
  simp only [text, String.toList_append]
  exact of_append (of_append (of_append (of_append (digits _) (by simp [Of])) (places _)) (by simp [Of]))
    (places _)

/-- A section tells of a module of the tree and of its license. -/
theorem exists_of_mem_sections {s : Section} (h : s ∈ sections t) :
    ∃ n ∈ t.modules, ∃ license, n.license = some license ∧ s =
      ⟨n.id.toList, license.name.toList, (License.fullName license.name).toList,
        (License.page? license.name).map String.toList, license.text⟩ := by
  obtain ⟨n, member, made⟩ := List.mem_filterMap.mp h
  obtain ⟨license, licensed, rfl⟩ := Option.map_eq_some_iff.mp made
  exact ⟨n, member, license, licensed, rfl⟩

theorem unquoted_fullName {key : String} (h : Of (· ≠ '`') key.toList) :
    Of (· ≠ '`') (License.fullName key).toList := by
  have known : License.fullNames.all
      (·.2.toByteArray.data.toList.all (· != 0x60)) = true := by decide +kernel
  unfold License.fullName
  cases found : License.fullNames.lookup key with
  | none => exact h
  | some name =>
      obtain ⟨before, after, listed, -⟩ := List.lookup_eq_some_iff.mp found
      exact unquoted_of_bytes (List.all_eq_true.mp known (key, name)
        (listed ▸ List.mem_append_right _ List.mem_cons_self))

theorem unquoted_page {key : String} (h : Of (· ≠ '`') key.toList) :
    Of (· ≠ '`') (((License.page? key).map String.toList).getD []) := by
  unfold License.page?
  split
  · exact of_nil
  · simp only [Option.map_some, Option.getD_some, String.toList_append]
    exact of_append (of_append (by simp [Of]) h) (by simp [Of])

theorem unquoted_title {id text : List Char} {key : String} (h : Of (· ≠ '`') key.toList) :
    Of (· ≠ '`') (Section.title ⟨id, key.toList, (License.fullName key).toList,
      (License.page? key).map String.toList, text⟩) := by
  unfold Section.title
  refine of_append ?_ ?_
  · split
    · exact of_append (of_append (of_append (of_append (by simp [Of]) h) (by simp [Of]))
        (unquoted_page h)) (by simp [Of])
    · exact h
  · split
    · exact of_append (of_append (by simp [Of]) (unquoted_fullName h)) (by simp [Of])
    · exact of_nil

theorem fences_caption (l : LineEnds) (h : Unquoted t) (header : String) (date : Date) :
    l.fences (document header date t).caption = 0 := by
  have start : "Generated on ".toList.count '`' = 0 := count_of_unquoted (by simp [Of])
  have middle : " for `".toList.count '`' = 1 := by simp
  have stop : "`.".toList.count '`' = 1 := by simp
  refine l.fences_of_few ?_
  unfold Document.caption
  rw [document_date, document_root]
  generalize "Generated on ".toList = generated at start
  generalize " for `".toList = around at middle
  generalize "`.".toList = behind at stop
  simp only [List.count_append, start, middle, stop, count_of_unquoted date.unquoted,
    count_of_unquoted h.root]
  decide

theorem fences_item (l : LineEnds) {s : Section} (h : Of (· ≠ '`') s.id) : l.fences s.item = 0 := by
  have start : "- `".toList.count '`' = 1 := by simp
  have stop : "`".toList.count '`' = 1 := by simp
  refine l.fences_of_few ?_
  unfold Section.item
  generalize "- `".toList = bullet at start
  generalize "`".toList = behind at stop
  simp only [List.count_append, start, stop, count_of_unquoted h]
  decide

theorem fences_heading (l : LineEnds) {s : Section} (h : Of (· ≠ '`') s.id) :
    l.fences s.heading = 0 :=
  l.fences_of_unquoted (of_append (by simp [Of]) h)

theorem fences_label (l : LineEnds) {s : Section} (h : Of (· ≠ '`') s.title) :
    l.fences s.label = 0 :=
  l.fences_of_unquoted (of_append (by simp [Of]) h)

/-- Where no name has a backquote, the only fences that are put in are those of license texts. -/
theorem fences_insertions (l : LineEnds) (h : Unquoted t) (header : String) (date : Date) :
    (∀ x ∈ (document header date t).insertions, l.fences x = 0) ↔
      ∀ n ∈ t.modules, ∀ license ∈ n.license, l.fences (trim license.text) = 0 := by
  constructor
  · intro quiet n member license licensed
    obtain ⟨s, made⟩ : ∃ s, section? n = some s := by
      rw [section?, licensed]
      exact ⟨_, rfl⟩
    have text : s.text = license.text := by
      rw [section?, licensed] at made
      cases made
      rfl
    have shown : s ∈ (document header date t).sections := by
      rw [document_sections]
      exact List.mem_filterMap.mpr ⟨n, member, made⟩
    rw [← text]
    refine quiet _ (List.mem_append_right _ (List.mem_flatMap.mpr ⟨s, shown, ?_⟩))
    exact List.mem_cons_of_mem _ (List.mem_cons_of_mem _ List.mem_cons_self)
  · intro texts x hx
    have id {s : Section} (hs : s ∈ sections t) : Of (· ≠ '`') s.id := by
      obtain ⟨n, member, license, -, rfl⟩ := exists_of_mem_sections hs
      exact h.ids n (Tree.mem_nodes_of_mem_modules member)
    obtain hx | hx := List.mem_append.mp hx
    · obtain hx | hx := List.mem_append.mp hx
      · obtain rfl | hx := List.mem_cons.mp hx
        · exact fences_caption l h header date
        · rw [List.mem_singleton.mp hx, document_tree]
          exact l.fences_of_unquoted h.render
      · obtain ⟨s, hs, rfl⟩ := List.mem_map.mp hx
        rw [document_review] at hs
        exact fences_item l (id (List.mem_filter.mp hs).1)
    · obtain ⟨s, hs, hx⟩ := List.mem_flatMap.mp hx
      rw [document_sections] at hs
      have named := id hs
      obtain ⟨n, member, license, licensed, rfl⟩ := exists_of_mem_sections hs
      obtain rfl | hx := List.mem_cons.mp hx
      · exact fences_heading l named
      obtain rfl | hx := List.mem_cons.mp hx
      · refine fences_label l (unquoted_title (h.licenses n (Tree.mem_nodes_of_mem_modules member) _ ?_))
        rw [Node.licenseName, licensed]
        rfl
      · obtain rfl := List.mem_singleton.mp hx
        exact texts n member license licensed

/-- The fences of a report are the template's own just when nothing that is put in has one. -/
theorem fences_eq_iff (l : LineEnds) (header : String) (date : Date) (t : Tree)
    (clean : l.fences header.toList = 0) :
    l.fences (render standard header date t).toList = 2 + 2 * t.attributed.length ↔
      ∀ x ∈ (document header date t).insertions, l.fences x = 0 := by
  have headed : l.fences (document header date t).header = 0 := by
    rw [document_header]
    split
    · exact l.fences_of_unquoted (by simp [Of, defaultHeader])
    · exact clean
  have drawn : (document header date t).tree = t.lines.flatMap (· ++ ['\n']) :=
    (document_tree header date t).trans t.toList_render
  have sections : (document header date t).sections.length = t.attributed.length := by
    have same := congrArg List.length t.sections_id
    rwa [List.length_map, List.length_map, ← document_sections header date] at same
  rw [render, String.toList_ofList, l.fences_standard drawn, headed, sections, Nat.zero_add,
    Nat.add_eq_left, List.sum_eq_zero_iff_forall_eq_nat, List.forall_mem_map]

/-- The lines that start with a fence are the template's own, two for the tree and two for each
licensed module, exactly when nothing that is put in has one. Where no name has a backquote, this is so
exactly when no license text has one after the blanks around it are gone. -/
theorem fences_of_report (l : LineEnds) (header : String) (date : Date) (t : Tree)
    (clean : l.fences header.toList = 0) :
    (l.fences (render standard header date t).toList = 2 + 2 * t.attributed.length ↔
      ∀ x ∈ (document header date t).insertions, l.fences x = 0) ∧
    (Unquoted t →
      (l.fences (render standard header date t).toList = 2 + 2 * t.attributed.length ↔
        ∀ n ∈ t.modules, ∀ license ∈ n.license, l.fences (trim license.text) = 0)) :=
  ⟨fences_eq_iff l header date t clean, fun h =>
    (fences_eq_iff l header date t clean).trans (fences_insertions l h header date)⟩

/-- A module with one dependency that has a license text. -/
def licensedBy (text : String) : Tree :=
  ⟨⟨⟨"m", ""⟩, none, none,
    [⟨⟨"a", "v1"⟩, none, some ⟨Bytes.ofString text, "MIT"⟩, [], .leaf⟩], .root⟩⟩

theorem licensedBy_unquoted (text : String) : Unquoted (licensedBy text) := by
  have alone : Node.nodes (licensedBy text).root.dependencies =
      (licensedBy text).root.dependencies := by
    simp [licensedBy, Node.nodes, Node.preorders, Node.preorder]
  refine ⟨by simp [Of, licensedBy], ?_, ?_⟩
  · rw [alone]
    simp [Of, licensedBy, Node.id, Node.requirement, Requirement.id, ModuleVersion.text]
  · rw [alone]
    simp [Of, licensedBy, Node.licenseName]

theorem fences_of_report_plain :
    LineEnds.markdown.fences "# A".toList = 0 ∧
      LineEnds.markdown.fences
        (render standard "# A" ⟨2024, 1, 1⟩ (licensedBy "a ``` b\n")).toList =
          2 + 2 * (licensedBy "a ``` b\n").attributed.length := by
  have clean : LineEnds.markdown.fences "# A".toList = 0 := by decide +kernel
  have texts : ∀ n ∈ (licensedBy "a ``` b\n").modules, ∀ license ∈ n.license,
      LineEnds.markdown.fences (trim license.text) = 0 := by
    decide +kernel
  exact ⟨clean, ((fences_of_report LineEnds.markdown "# A" ⟨2024, 1, 1⟩ (licensedBy "a ``` b\n")
    clean).2 (licensedBy_unquoted _)).mpr texts⟩

/-- A license text that closes its block, below a header without a fence. -/
theorem fences_intruding :
    LineEnds.markdown.fences "# A".toList = 0 ∧
      LineEnds.markdown.fences
        (render standard "# A" ⟨2024, 1, 1⟩ (licensedBy "a\n```\nb")).toList ≠
          2 + 2 * (licensedBy "a\n```\nb").attributed.length := by
  have clean : LineEnds.markdown.fences "# A".toList = 0 := by decide +kernel
  have texts : ¬ ∀ n ∈ (licensedBy "a\n```\nb").modules, ∀ license ∈ n.license,
      LineEnds.markdown.fences (trim license.text) = 0 := by
    decide +kernel
  refine ⟨clean, fun own => texts ?_⟩
  exact (fences_insertions LineEnds.markdown (licensedBy_unquoted _) "# A" ⟨2024, 1, 1⟩).mp
    ((fences_eq_iff LineEnds.markdown "# A" ⟨2024, 1, 1⟩ _ clean).mp own)

end Attribution.Report
