import Attribution.Number.Binary64

/-!
Decimal texts of numbers: the shortest digits that read back as the same binary64 number, and a
fixed count of places.
-/

namespace Attribution.Number

/-- A power of ten. -/
def tenPow (n : Nat) : Nat := Nat.pow 10 n

/-- A positive decimal number `digits * 10 ^ exponent`. -/
structure Decimal where
  digits : Nat
  exponent : Int
  deriving DecidableEq, Repr

namespace Decimal

def numerator (d : Decimal) : Nat := d.digits * tenPow d.exponent.toNat

def denominator (d : Decimal) : Nat := tenPow (-d.exponent).toNat

/-- The binary64 number nearest to a decimal one. -/
def toBinary64 (d : Decimal) (negative : Bool) : Binary64 :=
  .ofFraction negative d.numerator d.denominator

/-- The exponent of the first digit of a positive fraction. -/
def leadingExponent (num den : Nat) : Int :=
  if den ≤ num then ((Nat.toDigits 10 (num / den)).length : Int) - 1
  else -((Nat.toDigits 10 ((den - 1) / num)).length : Int)

/-- The decimal with the given count of digits next below a fraction. -/
def below (num den count : Nat) : Decimal :=
  let e := leadingExponent num den - ((count : Int) - 1)
  ⟨num * tenPow (-e).toNat / (den * tenPow e.toNat), e⟩

/-- Twice the distance of a decimal from a fraction, in units of the decimal's last place over the
denominator of both. -/
def distance (num den : Nat) (d : Decimal) : Nat :=
  let x := num * tenPow (-d.exponent).toNat
  let y := d.digits * (den * tenPow d.exponent.toNat)
  (x - y) + (y - x)

/-- Of the two neighbours with the given count of digits, the nearer one that reads back. -/
def neighbour? (num den count : Nat) (target : Binary64) : Option Decimal :=
  let low := below num den count
  let high : Decimal := ⟨low.digits + 1, low.exponent⟩
  let reads (d : Decimal) := d.toBinary64 false == target
  match reads low, reads high with
  | true, true =>
    let dl := distance num den low
    let dh := distance num den high
    some (if dl < dh || (dl == dh && low.digits % 2 == 0) then low else high)
  | true, false => some low
  | false, true => some high
  | false, false => none

/-- The shortest decimal that reads back as the positive number `significand * 2 ^ exponent`. -/
def shortest (significand : Nat) (exponent : Int) : Decimal :=
  let num := significand <<< exponent.toNat
  let den := 1 <<< (-exponent).toNat
  let target := Binary64.ofFraction false num den
  ((List.range 17).findSome? fun k => neighbour? num den (k + 1) target).getD
    (below num den 17)

/-- The digits without trailing zeros, and the place of the point among them. -/
def written (d : Decimal) : List Char × Int :=
  let digits := Nat.toDigits 10 d.digits
  let kept := (digits.reverse.dropWhile (· == '0')).reverse
  (kept, digits.length + d.exponent)

/-- The text of a positive number. The point is placed among the digits from `0.0001` up to sixteen
places before it; beyond, an exponent of at least two digits follows. -/
def text (d : Decimal) : List Char :=
  let (digits, point) := d.written
  if -4 < point && point ≤ 16 then
    if point ≤ 0 then '0' :: '.' :: List.replicate (-point).toNat '0' ++ digits
    else if digits.length ≤ point.toNat then
      digits ++ List.replicate (point.toNat - digits.length) '0' ++ ['.', '0']
    else digits.take point.toNat ++ '.' :: digits.drop point.toNat
  else
    let e := point - 1
    let places := Nat.toDigits 10 e.natAbs
    digits.take 1 ++ (if digits.length ≤ 1 then [] else '.' :: digits.drop 1) ++
      ['e', if e < 0 then '-' else '+'] ++ (if places.length < 2 then '0' :: places else places)

end Decimal

namespace Binary64

/-- The text that reads back as the number. -/
def text : Binary64 → String
  | .finite negative m e =>
    let sign := if negative then "-" else ""
    sign ++ if m = 0 then "0.0" else String.ofList (Decimal.shortest m e).text
  | .infinite negative => if negative then "-inf" else "inf"
  | .nan => "nan"

end Binary64

/-- A rational with a fixed count of places, at least one; a half goes to the even neighbour. -/
def fixedText (places : Nat) (q : Rat) : String :=
  let scaled := roundDiv (q.num.natAbs * tenPow places) q.den
  let digits := Nat.toDigits 10 scaled
  let digits := List.replicate (places + 1 - digits.length) '0' ++ digits
  let whole := digits.length - places
  (if q < 0 then "-" else "") ++
    String.ofList (digits.take whole ++ '.' :: digits.drop whole)

end Attribution.Number
