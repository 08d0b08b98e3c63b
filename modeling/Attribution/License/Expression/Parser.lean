import Attribution.License.Expression.Token

/-!
Reading license expressions. Keys may be spelled in any letter case; unknown keys are found out once
the whole expression has been read. This is the reader that a program gives its classifier; nothing
that is said of classifiers depends on it.
-/

namespace Attribution.License.Expression

open Text

/-- What the grammar of expressions is about, exceptions joined to their licenses. -/
inductive Part where
  | term (t : Term)
  | op (c : Connective)
  | left
  | right
  deriving DecidableEq, Repr

/-- A part, its place, and how it is spelled. -/
structure Item where
  place : Nat
  text : List Char
  part : Part
  deriving DecidableEq, Repr

/-- The fault of an item that does not fit. -/
def Item.misfit (i : Item) (m : Misfit) : Fault := .misfit m (String.ofList i.text) i.place

/-- A license and its exception, as they are spelled. -/
def withException (a w b : Token) (license exception : Symbol) : Item :=
  ⟨a.place, a.text ++ ' ' :: trim w.text ++ ' ' :: b.text, .term ⟨license, some exception⟩⟩

/-- Joins exceptions to licenses from left to right; a WITH that is left over is refused. -/
def items : List Token → Except Fault (List Item)
  | [] => .ok []
  | a :: rest =>
    match a.meaning, rest with
    | .symbol license, w :: b :: after =>
      match w.meaning, b.meaning with
      | .withWord, .symbol exception =>
        (items after).map (withException a w b license exception :: ·)
      | _, _ => (items (w :: b :: after)).map (⟨a.place, a.text, .term ⟨license, none⟩⟩ :: ·)
    | .symbol license, rest =>
      (items rest).map (⟨a.place, a.text, .term ⟨license, none⟩⟩ :: ·)
    | .withWord, _ => .error (.misfit .leftOver (String.ofList a.text) a.place)
    | .op c, rest => (items rest).map (⟨a.place, a.text, .op c⟩ :: ·)
    | .left, rest => (items rest).map (⟨a.place, a.text, .left⟩ :: ·)
    | .right, rest => (items rest).map (⟨a.place, a.text, .right⟩ :: ·)

/-- What the operands read so far belong to: nothing yet, a connective, or a parenthesis. A connective
right behind a parenthesis takes that for its first operand, and is spoilt. -/
inductive Frame.Role where
  | free
  | joined (op : Connective) (spoilt : Bool)
  | group
  deriving DecidableEq, Repr

/-- An expression that is being read. -/
structure Frame where
  role : Frame.Role
  operands : List Expression

/-- The innermost expression that is being read, and those around it from the inside out. -/
structure Reader where
  inner : Frame
  outer : List Frame

def Frame.add (f : Frame) (e : Expression) : Frame := { f with operands := f.operands ++ [e] }

/-- The finished expression of a connective; it joins two operands at least. -/
def Frame.close (f : Frame) : Except Fault Expression :=
  match f.role with
  | .joined op spoilt =>
    if f.operands.length + spoilt.toNat < 2 then .error (.fewOperands op)
    else if spoilt then .error .strayParenthesis
    else .ok (.compound op f.operands)
  | _ => .error .incomplete

/-- Starts a connective with the last operand of a frame that binds less. -/
def steal (op : Connective) (f : Frame) (outer : List Frame) : Reader :=
  ⟨⟨.joined op f.operands.isEmpty, f.operands.getLast?.toList⟩,
    { f with operands := f.operands.dropLast } :: outer⟩

/-- Takes in a connective. AND binds more than OR. -/
def connect (op : Connective) (f : Frame) (outer : List Frame) : Except Fault Reader :=
  match f.role with
  | .free => .ok ⟨{ f with role := .joined op false }, outer⟩
  | .group => .ok (steal op f outer)
  | .joined held _ =>
    if held = op then .ok ⟨f, outer⟩
    else if held = .any then .ok (steal op f outer)
    else
      match f.close with
      | .error fault => .error fault
      | .ok e =>
        match outer with
        | [] => .ok ⟨⟨.joined op false, [e]⟩, []⟩
        | parent :: rest => connect op (parent.add e) rest

/-- Takes in a closing parenthesis: the first operand of the group is what it stands for. Where no
group is open, the fault is the given one. -/
def closeGroup (unopened : Fault) (f : Frame) : List Frame → Except Fault Reader
  | [] => .error unopened
  | parent :: rest =>
    match f.role with
    | .group =>
      match f.operands with
      | [] => .error .emptyParentheses
      | e :: _ => .ok ⟨parent.add e, rest⟩
    | _ =>
      match f.close with
      | .error fault => .error fault
      | .ok e => closeGroup unopened (parent.add e) rest

/-- The whole expression at the end of the text. -/
def finish (f : Frame) : List Frame → Except Fault Expression
  | [] =>
    match f.role, f.operands with
    | .free, [e] => .ok e
    | .free, _ => .error .incomplete
    | _, _ => f.close
  | parent :: rest =>
    match f.close with
    | .error fault => .error fault
    | .ok e => finish (parent.add e) rest

/-- Why a part may not follow another, or may not come first. -/
def misfit? : Option Part → Part → Option Misfit
  | none, .op _ => some .operator
  | some (.term _), .term _ => some .symbol
  | some (.op _), .op _ => some .operator
  | some (.op _), .right => some .operator
  | some (.term _), .left => some .nesting
  | some .right, .left => some .nesting
  | _, _ => none

/-- Takes in one item. -/
def Reader.take (r : Reader) (i : Item) : Except Fault Reader :=
  match i.part with
  | .term t => .ok { r with inner := r.inner.add (.term t) }
  | .left => .ok ⟨⟨.group, []⟩, r.inner :: r.outer⟩
  | .op c => connect c r.inner r.outer
  | .right => closeGroup (i.misfit .unbalanced) r.inner r.outer

/-- Reads items to the end of the text. -/
def readItems (previous : Option Part) (r : Reader) : List Item → Except Fault Expression
  | [] => finish r.inner r.outer
  | i :: rest =>
    match misfit? previous i.part with
    | some m => .error (i.misfit m)
    | none =>
      match r.take i with
      | .error fault => .error fault
      | .ok r => readItems (some i.part) r rest

/-- Reads an expression; every name in it has to be a key. A blank text is none. -/
def parse (s : List Char) : Except Fault (Option Expression) :=
  if (trim s).isEmpty then .ok none
  else
    match ((tokens s).bind items).bind (readItems none ⟨⟨.free, []⟩, []⟩) with
    | .error fault => .error fault
    | .ok e =>
      match e.unknowns with
      | [] => .ok (some e)
      | names => .error (.unknownKeys names.eraseDups)

/-- Reads the expressions of licenses that are known by name. -/
def reader : ExpressionReader := fun s =>
  match parse s with
  | .ok e => .ok (e.map text)
  | .error fault => .error fault.refusal

end Attribution.License.Expression
