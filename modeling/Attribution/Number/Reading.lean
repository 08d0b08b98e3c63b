import Attribution.Number.Decimal
import Attribution.Text.Blank
import Attribution.Text.Digit
import Attribution.Text.Split

/-!
Numbers as a user writes them, with a sign and with white space around. Single underscores may divide
a number, noughts may stand in front of it, and a whole number may have places that are all nought.
-/

namespace Attribution.Number

open Attribution.Text

/-- White space around a number. The four information separators are none. -/
def isSpace (c : Char) : Bool := isBlank c && !('\x1c' ≤ c && c ≤ '\x1f')

/-- Drops the white space at both ends. -/
def dropSpace (s : List Char) : List Char := dropEndWhile isSpace (s.dropWhile isSpace)

/-- The text without underscores. They may not stand at an end or side by side. -/
def dropUnderscores? : List Char → Option (List Char)
  | [] => some []
  | '_' :: _ => none
  | [c] => some [c]
  | c :: '_' :: rest => if rest.isEmpty then none else (dropUnderscores? rest).map (c :: ·)
  | c :: rest => (dropUnderscores? rest).map (c :: ·)

/-- The number that a row of digits writes. -/
def ofDigits (digits : List Char) : Nat :=
  digits.foldl (fun n c => n * 10 + (c.toNat - '0'.toNat)) 0

/-- Takes a sign; true for a minus. -/
def takeSign : List Char → Bool × List Char
  | '-' :: rest => (true, rest)
  | '+' :: rest => (false, rest)
  | rest => (false, rest)

/-- A whole number is written in at most this many digits, noughts in front of it apart. -/
def digitLimit : Nat := 4300

/-- Drops the noughts in front of a number, which underscores may divide, but for the last one where
nothing else stands in front of a point or at all. A minus may follow them. -/
def dropNoughts? (s : List Char) : Option (List Char) :=
  let noughts := if s.head? = some '0' then s.takeWhile (fun c => c = '0' || c = '_') else []
  match noughts.getLast?, s.drop noughts.length with
  | some last, [] => some [last]
  | some last, '.' :: places => some (last :: '.' :: places)
  | none, [] => none
  | _, c :: rest => if ('1' ≤ c && c ≤ '9') || c = '-' then some (c :: rest) else none

/-- Drops places that are all nought. -/
def dropPlaces (s : List Char) : List Char :=
  let whole := s.takeWhile (· != '.')
  let places := s.drop (whole.length + 1)
  if !places.isEmpty && places.all (· == '0') then whole else s

/-- Reads digits. A nought comes first only alone. -/
def readDigits? (s : List Char) : Option Nat :=
  if !s.isEmpty && s.all Char.isDigit && (s.head? != some '0' || s.length = 1) &&
      s.length ≤ digitLimit then
    some (ofDigits s)
  else none

/-- Reads a whole number without a plus or white space. -/
def readSigned? : List Char → Option Int
  | '-' :: digits => (readDigits? digits).map fun n => -n
  | digits => (readDigits? digits).map fun n => n

/-- Reads a whole number. -/
def readInt? (s : List Char) : Option Int :=
  let s := dropSpace s
  let (negative, rest) := takeSign s
  if rest.head? = some '-' then none
  else
    ((dropNoughts? rest).map dropPlaces).bind fun rest =>
      (dropUnderscores? rest).bind fun rest =>
        readSigned? (if negative then '-' :: rest else rest)

/-- Takes the exponent of a decimal number, nought when there is none. -/
def takeExponent? : List Char → Option Int
  | [] => some 0
  | e :: rest =>
    if e = 'e' || e = 'E' then
      let (negative, digits) := takeSign rest
      if !digits.isEmpty && digits.all Char.isDigit then
        let n : Int := ofDigits digits
        some (if negative then -n else n)
      else none
    else none

/-- The number nearest to `digits * 10 ^ exponent`; what is far beyond the range is not computed. -/
def ofScientific (negative : Bool) (digits : Nat) (exponent : Int) : Binary64 :=
  let size : Int := (Nat.toDigits 10 digits).length
  if digits = 0 || size + exponent < -400 then .finite negative 0 Binary64.leastExponent
  else if 400 < size + exponent then .infinite negative
  else (Decimal.mk digits exponent).toBinary64 negative

/-- Reads a decimal number, an infinity or the text for no number, without white space or
underscores. -/
def readDecimal? (s : List Char) : Option Binary64 :=
  let (negative, rest) := takeSign s
  let word := String.ofList (rest.map Char.toLower)
  if word = "inf" || word = "infinity" then some (.infinite negative)
  else if word = "nan" then some .nan
  else
    let whole := rest.takeWhile Char.isDigit
    let rest := rest.drop whole.length
    let (places, rest) :=
      match rest with
      | '.' :: rest => (rest.takeWhile Char.isDigit, rest.dropWhile Char.isDigit)
      | rest => ([], rest)
    if whole.isEmpty && places.isEmpty then none
    else (takeExponent? rest).map fun e =>
      ofScientific negative (ofDigits (whole ++ places)) (e - places.length)

/-- Reads a decimal number. It has white space around it or underscores in it, but not both. -/
def readBinary64? (s : List Char) : Option Binary64 :=
  match readDecimal? (dropSpace s) with
  | some x => some x
  | none => (dropUnderscores? s).bind readDecimal?

/-- A number as it was given: a whole one, or a binary64 one. -/
inductive Given where
  | whole (n : Int)
  | real (x : Binary64)
  deriving DecidableEq, Repr

namespace Given

/-- A whole number is written without a point. -/
def text : Given → String
  | .whole n => toString n
  | .real x => x.text

/-- The exact value, none for infinities and for no number. -/
def value? : Given → Option Rat
  | .whole n => some n
  | .real x => x.toRat?

end Given

end Attribution.Number
