import Attribution.Text.Printable

/-!
A text in quotes on one line: controls and characters without a visible form are spelled by their
code, and the quote is chosen so that few marks have to be escaped.
-/

namespace Attribution.Text.Quoted

/-- The quote around a text: single, unless the text has single quotes and no double ones. -/
def mark (s : List Char) : Char :=
  if s.contains '\'' && !s.contains '"' then '"' else '\''

/-- A number in lower-case hexadecimal with at least the given number of digits. -/
def hex (places n : Nat) : List Char :=
  let digits := Nat.toDigits 16 n
  List.replicate (places - digits.length) '0' ++ digits

/-- One character as it is written between the given quotes. -/
def encodeChar (quote c : Char) : List Char :=
  if c = quote || c = '\\' then ['\\', c]
  else if c = '\n' then ['\\', 'n']
  else if c = '\r' then ['\\', 'r']
  else if c = '\t' then ['\\', 't']
  else if isPrintable c then [c]
  else if c.toNat ≤ 0xff then '\\' :: 'x' :: hex 2 c.toNat
  else if c.toNat ≤ 0xffff then '\\' :: 'u' :: hex 4 c.toNat
  else '\\' :: 'U' :: hex 8 c.toNat

/-- The text in quotes. -/
def encode (s : List Char) : List Char :=
  mark s :: s.flatMap (encodeChar (mark s)) ++ [mark s]

end Attribution.Text.Quoted

namespace Attribution.Text

/-- The string in quotes. -/
def quoteString (s : String) : String := String.ofList (Quoted.encode s.toList)

end Attribution.Text
