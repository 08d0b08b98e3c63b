/-!
White space: which characters are blank, and the operations that trim and squeeze blanks.
-/

namespace Attribution.Text

/-- White space of every script, the four information separators among it. -/
def isBlank (c : Char) : Bool :=
  let n := c.toNat
  (0x9 ≤ n && n ≤ 0xd) || (0x1c ≤ n && n ≤ 0x20) || n == 0x85 || n == 0xa0 || n == 0x1680 ||
    (0x2000 ≤ n && n ≤ 0x200a) || n == 0x2028 || n == 0x2029 || n == 0x202f || n == 0x205f ||
    n == 0x3000

/-- Drops what satisfies a test from the end of a text. -/
def dropEndWhile (p : Char → Bool) (s : List Char) : List Char :=
  (s.reverse.dropWhile p).reverse

/-- Drops the blanks at both ends. -/
def trim (s : List Char) : List Char := dropEndWhile isBlank (s.dropWhile isBlank)

/-- Makes one space of every run of blanks. -/
def squeeze : List Char → List Char
  | [] => []
  | [c] => if isBlank c then [' '] else [c]
  | c :: d :: rest =>
    if isBlank c then
      if isBlank d then squeeze (d :: rest) else ' ' :: squeeze (d :: rest)
    else c :: squeeze (d :: rest)

end Attribution.Text
