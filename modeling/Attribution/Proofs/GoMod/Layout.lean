import Attribution.GoMod.Parser
import Attribution.Proofs.GoMod.Token
import Attribution.Proofs.Text.Lines

/-!
go.mod files as they may be laid out: which directives there are, and on which lines, between which
blanks, quotes and comments, and in which blocks they stand.
-/

namespace Attribution.GoMod

open Attribution.Text

/-! ### Directives -/

/-- What may stand between two blanks of a line. -/
structure Token where
  text : String
  sound : IsToken text.toList

namespace Token

def opening : Token := ⟨"(", by decide⟩

def closing : Token := ⟨")", by decide⟩

def arrow : Token := ⟨"=>", by decide⟩

end Token

/-- A token that means nothing but itself. -/
structure Word extends Token where
  plain : text ∉ ["(", ")", "=>"]

/-- What a directive starts with. -/
structure Verb where
  text : String
  known : text ∈ directives

theorem isToken_of_mem_directives : ∀ verb ∈ directives, IsToken verb.toList := by decide

def Verb.token (v : Verb) : Token := ⟨v.text, isToken_of_mem_directives v.text v.known⟩

/-- A verb whose directives are passed over. -/
structure PassedVerb extends Verb where
  passed : text ∉ ["module", "require", "replace"]

/-- What stands on the right of an arrow. -/
inductive Target where
  | directory (path : Word) (inside : isDirectoryPath path.text = true)
  | module (path version : Word) (outside : isDirectoryPath path.text = false)

namespace Target

def words : Target → List Word
  | directory path _ => [path]
  | module path version _ => [path, version]

def replacement : Target → Replacement
  | directory path _ => .directory path.text
  | module path version _ => .module ⟨path.text, version.text⟩

end Target

inductive Directive where
  | module (path : Word)
  | require (path version : Word)
  | replace (path : Word) (version : Option Word) (target : Target)
  | passed (verb : PassedVerb) (args : List Word)

namespace Directive

def verb : Directive → Verb
  | module _ => ⟨"module", by decide⟩
  | require .. => ⟨"require", by decide⟩
  | replace .. => ⟨"replace", by decide⟩
  | passed verb _ => verb.toVerb

def args : Directive → List Token
  | module path => [path.toToken]
  | require path version => [path.toToken, version.toToken]
  | replace path version target =>
    (path :: version.toList).map Word.toToken ++ .arrow :: target.words.map Word.toToken
  | passed _ args => args.map Word.toToken

/-- The path that a module directive gives. -/
def path? : Directive → Option Word
  | module path => some path
  | _ => none

/-- What a require directive requires. -/
def required? : Directive → Option ModuleVersion
  | require path version => some ⟨path.text, version.text⟩
  | _ => none

/-- What a replace directive declares; without a version, for every version of the path. -/
def declared? : Directive → Option (ModuleVersion × Replacement)
  | replace path version target =>
    some (⟨path.text, (version.map (·.text)).getD ""⟩, target.replacement)
  | _ => none

end Directive

/-! ### Lines -/

/-- White space that ends no line. -/
structure Spacing where
  text : List Char
  blank : ∀ c ∈ text, isBlank c = true
  inLine : OnOneLine text

/-- White space that sets words apart. -/
structure Gap extends Spacing where
  nonempty : text ≠ []

/-- How a token is written. -/
inductive Wrap where
  | bare
  | double
  | back

def Wrap.write : Wrap → List Char → List Char
  | bare, s => s
  | double, s => '"' :: (s ++ ['"'])
  | back, s => '`' :: (s ++ ['`'])

/-- What follows the two slashes of a comment. -/
structure Comment where
  text : List Char
  inLine : OnOneLine text

def Comment.write (c : Comment) : List Char := '/' :: '/' :: c.text

/-- What follows the last token of a line. -/
inductive Trailer where
  | blank (trailing : Spacing)
  | comment (gap : Gap) (comment : Comment)

def Trailer.write : Trailer → List Char
  | blank trailing => trailing.text
  | comment gap c => gap.text ++ c.write

/-- How the tokens of a line are laid out. The gap of a number stands before the token of that
number. -/
structure Style where
  lead : Spacing
  gap : Nat → Gap
  wrap : Nat → Wrap
  trailer : Trailer
  ending : LineEnd

namespace Style

variable (s : Style)

/-- What follows the tokens before the one of the given number. -/
def writeFrom : Nat → List Token → List Char
  | _, [] => s.trailer.write
  | i, t :: ts => (s.gap i).text ++ ((s.wrap i).write t.text.toList ++ writeFrom (i + 1) ts)

def write : List Token → List Char
  | [] => s.lead.text ++ s.trailer.write
  | t :: ts => s.lead.text ++ ((s.wrap 0).write t.text.toList ++ s.writeFrom 1 ts)

end Style

/-- A line and what ends it. -/
structure Line where
  text : List Char
  whole : OnOneLine text
  ending : LineEnd

/-- The text of lines. The last one may go without its end. -/
def page (closed : Bool) : List Line → List Char
  | [] => []
  | [line] => line.text ++ if closed then line.ending.text else []
  | line :: next :: rest => line.text ++ (line.ending.text ++ page closed (next :: rest))

theorem isBlank_of_isLineBreak {c : Char} (ends : isLineBreak c = true) : isBlank c = true := by
  simp only [isLineBreak, isBlank, Bool.or_eq_true, Bool.and_eq_true, decide_eq_true_eq,
    beq_iff_eq] at ends ⊢
  omega

theorem Token.inLine (t : Token) : OnOneLine t.text.toList := fun c hc => by
  have solid := (t.sound.plain c hc).1
  rw [Bool.eq_false_iff] at solid ⊢
  exact fun ends => solid (isBlank_of_isLineBreak ends)

theorem Wrap.write_inLine (w : Wrap) {s : List Char} (inside : OnOneLine s) :
    OnOneLine (w.write s) := by
  cases w with
  | bare => exact inside
  | double => exact .cons (by decide) (inside.append (.cons (by decide) .nil))
  | back => exact .cons (by decide) (inside.append (.cons (by decide) .nil))

theorem Comment.write_inLine (c : Comment) : OnOneLine c.write :=
  .cons (by decide) (.cons (by decide) c.inLine)

theorem Trailer.write_inLine (t : Trailer) : OnOneLine t.write := by
  cases t with
  | blank trailing => exact trailing.inLine
  | comment gap c => exact gap.inLine.append c.write_inLine

namespace Style

variable (s : Style)

theorem writeFrom_inLine (i : Nat) (ts : List Token) : OnOneLine (s.writeFrom i ts) := by
  induction ts generalizing i with
  | nil => exact s.trailer.write_inLine
  | cons t ts ih =>
      exact (s.gap i).inLine.append (((s.wrap i).write_inLine t.inLine).append (ih (i + 1)))

theorem write_inLine (ts : List Token) : OnOneLine (s.write ts) := by
  cases ts with
  | nil => exact s.lead.inLine.append s.trailer.write_inLine
  | cons t ts =>
      exact s.lead.inLine.append (((s.wrap 0).write_inLine t.inLine).append (s.writeFrom_inLine 1 ts))

def line (ts : List Token) : Line := ⟨s.write ts, s.write_inLine ts, s.ending⟩

end Style

/-! ### Files -/

/-- A line outside or inside a block: nothing but a comment, if that, or a directive. -/
inductive Row where
  | filler (lead : Spacing) (comment : Option Comment) (ending : LineEnd)
  | directive (style : Style) (directive : Directive)

namespace Row

def filling (lead : Spacing) : Option Comment → List Char
  | none => lead.text
  | some comment => lead.text ++ comment.write

theorem filling_inLine (lead : Spacing) (comment : Option Comment) :
    OnOneLine (filling lead comment) := by
  cases comment with
  | none => exact lead.inLine
  | some comment => exact lead.inLine.append comment.write_inLine

def directives : Row → List Directive
  | filler .. => []
  | directive _ d => [d]

/-- The line of a row. In a block, directives go without their verb. -/
def line (inBlock : Bool) : Row → Line
  | filler lead comment ending => ⟨filling lead comment, filling_inLine lead comment, ending⟩
  | directive style d => style.line (if inBlock then d.args else d.verb.token :: d.args)

end Row

/-- Directives of one verb between brackets. -/
structure Block where
  verb : Verb
  opening : Style
  rows : List Row
  closing : Style
  uniform : ∀ d ∈ rows.flatMap Row.directives, d.verb = verb

inductive Piece where
  | row (row : Row)
  | block (block : Block)

namespace Piece

def directives : Piece → List Directive
  | row r => r.directives
  | block b => b.rows.flatMap Row.directives

def lines : Piece → List Line
  | row r => [r.line false]
  | block b =>
    b.opening.line [b.verb.token, .opening] ::
      (b.rows.map (Row.line true) ++ [b.closing.line [.closing]])

end Piece

/-- A file with one module directive. -/
structure File where
  path : Word
  pieces : List Piece
  closed : Bool
  once : (pieces.flatMap Piece.directives).filterMap Directive.path? = [path]

namespace File

variable (f : File)

def directives : List Directive := f.pieces.flatMap Piece.directives

def text : List Char := page f.closed (f.pieces.flatMap Piece.lines)

end File

/-- One space between two tokens, and a line feed at the end. -/
def Style.plain : Style where
  lead := ⟨[], nofun, .nil⟩
  gap _ := ⟨⟨[' '], List.forall_mem_cons.2 ⟨rfl, nofun⟩, by decide⟩, List.cons_ne_nil _ _⟩
  wrap _ := .bare
  trailer := .blank ⟨[], nofun, .nil⟩
  ending := .single '\n' rfl

/-- Directives, of which one gives the path, make a file in any order. -/
theorem exists_file {path : Word} {xs : List Directive}
    (once : xs.filterMap Directive.path? = [path]) :
    ∃ f : File, f.path = path ∧ f.directives = xs := by
  let piece (x : Directive) : Piece := .row (.directive .plain x)
  have same : (xs.map piece).flatMap Piece.directives = xs := by
    rw [List.flatMap_map]
    exact List.flatMap_singleton' xs
  exact ⟨⟨path, xs.map piece, true, by rw [same, once]⟩, rfl, same⟩

end Attribution.GoMod
