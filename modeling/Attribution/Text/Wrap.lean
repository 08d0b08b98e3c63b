import Attribution.Text.Blank
import Attribution.Text.Cluster
import Attribution.Text.Split

/-!
Laying out a text in a given number of columns: controls go, tabs are set out, lines break between
words, and a word wider than a line is cut.
-/

namespace Attribution.Text

/-- Controls that a terminal would act on. -/
def isDroppedControl (c : Char) : Bool :=
  c = '\x07' || c = '\x08' || c = '\x0b' || c = '\x0c' || c = '\r'

/-- The paragraphs of a text, which line feeds divide. -/
def paragraphs (s : List Char) : List (List Char) := splitBy (· == '\n') s

/-- The distance of tab stops in columns. -/
def tabStop : Nat := 8

/-- Puts spaces up to the next tab stop between stretches of text, one space at least. -/
def joinAtStops : List (List Char) → List Char
  | [] => []
  | [last] => last
  | part :: rest =>
    let beyond := width (part ++ [' ']) % tabStop
    let fill := if beyond = 0 then 0 else tabStop - beyond
    part ++ ' ' :: List.replicate fill ' ' ++ joinAtStops rest

/-- Sets out the tabs of a text. -/
def expandTabs (s : List Char) : List Char := joinAtStops (splitBy (· == '\t') s)

/-- Words with the blanks around them: those before the first word belong to it, all others to the
word they follow. Blanks alone are no word. -/
def wordsOf (s : List Char) : List (List Char) :=
  let lead := s.takeWhile isBlank
  match go (s.dropWhile isBlank) with
  | [] => []
  | w :: ws => (lead ++ w) :: ws
where
  /-- The words of a text that starts with a word. -/
  go : List Char → List (List Char)
    | [] => []
    | [c] => [[c]]
    | c :: d :: rest =>
      match go (d :: rest) with
      | [] => [[c]]
      | w :: ws => if isBlank c && !isBlank d then [c] :: w :: ws else (c :: w) :: ws

/-- Cuts the places of a text into pieces of at most the given width. -/
def chop (room : Nat) (used : Nat) : List Cluster → List (List Char)
  | [] => [[]]
  | k :: rest =>
    if room < used + k.width then [] :: putFirst k.text (chop room k.width rest)
    else putFirst k.text (chop room (used + k.width) rest)
where
  putFirst (s : List Char) : List (List Char) → List (List Char)
    | [] => [s]
    | piece :: pieces => (s ++ piece) :: pieces

/-- Lines that are being filled: those done, newest first, the last one, and its width. -/
structure Filling where
  done : List (List Char)
  line : List Char
  used : Nat

/-- Puts a word on the last line if it fits there, else on a line of its own; one that fits on no
line is cut. -/
def Filling.add (room : Nat) (f : Filling) (word : List Char) : Filling :=
  let needed := width (dropEndWhile isBlank word)
  let startsText := f.done.isEmpty && f.line.isEmpty
  if needed + f.used ≤ room then { f with line := f.line ++ word, used := f.used + width word }
  else if room < needed then
    let pieces := chop room 0 (clusters word)
    let last := pieces.getLast?.getD []
    let before := pieces.dropLast.reverse
    { done := before ++ if startsText then f.done else f.line :: f.done
      line := last
      used := width last }
  else if f.used ≠ 0 && !startsText then
    { done := f.line :: f.done, line := word, used := width word }
  else { f with line := f.line ++ word }

/-- The start of a text that is as wide as wanted; a space makes up for half a wide place. -/
def cutToWidth : Nat → List Cluster → List Char
  | _, [] => []
  | 0, _ :: _ => []
  | room, k :: rest => if k.width ≤ room then k.text ++ cutToWidth (room - k.width) rest else [' ']

/-- A line brought into its room: blanks at its end go as far as it has too many characters, and what
is still too wide is cut. -/
def fitLine (room : Nat) (line : List Char) : List Char :=
  let excess := line.length - room
  let blanks := (line.reverse.takeWhile isBlank).length
  let line := line.take (line.length - min excess blanks)
  if width line ≤ room then line else cutToWidth room (clusters line)

/-- The lines of one paragraph. -/
def wrapParagraph (room : Nat) (s : List Char) : List (List Char) :=
  let s := expandTabs s
  match wordsOf s with
  | [] => [fitLine room s]
  | ws =>
    let f := ws.foldl (Filling.add room) ⟨[], [], 0⟩
    (f.line :: f.done).reverse.map (fitLine room)

/-- The lines of a text in the given number of columns. -/
def wrap (room : Nat) (s : List Char) : List (List Char) :=
  (paragraphs (s.filter (!isDroppedControl ·))).flatMap (wrapParagraph room)

end Attribution.Text
