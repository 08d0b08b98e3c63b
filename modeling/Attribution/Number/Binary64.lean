/-!
The numbers of the binary64 format, and the rounding of a quotient to the nearest of them. A half
goes to the even neighbour.
-/

namespace Attribution.Number

/-- The quotient of two naturals rounded to the nearest natural, a half to the even one. -/
def roundDiv (num den : Nat) : Nat :=
  let q := num / den
  let r := num % den
  if den < 2 * r || (2 * r == den && q % 2 == 1) then q + 1 else q

/-- A binary64 number: `significand * 2 ^ exponent` with a sign, an infinity, or no number. -/
inductive Binary64 where
  | finite (negative : Bool) (significand : Nat) (exponent : Int)
  | infinite (negative : Bool)
  | nan
  deriving DecidableEq, Repr

namespace Binary64

/-- Every finite number has a significand below this bound. -/
def bound : Nat := 1 <<< 53

def leastExponent : Int := -1074

def greatestExponent : Int := 971

/-- The quotient of a fraction by a power of two, as a fraction. -/
def scale (num den : Nat) (exponent : Int) : Nat × Nat :=
  if 0 ≤ exponent then (num, den <<< exponent.toNat) else (num <<< (-exponent).toNat, den)

/-- The exponent at which a positive fraction has a significand of full length. -/
def exponentOf (num den : Nat) : Int :=
  let guess : Int := (num.log2 : Int) - den.log2 - 52
  let s := scale num den guess
  max leastExponent (if s.1 / s.2 < bound / 2 then guess - 1 else guess)

/-- The number nearest to a fraction. -/
def ofFraction (negative : Bool) (num den : Nat) : Binary64 :=
  if num = 0 then .finite negative 0 leastExponent
  else
    let e := exponentOf num den
    let s := scale num den e
    let m := roundDiv s.1 s.2
    let (m, e) := if m = bound then (bound / 2, e + 1) else (m, e)
    if greatestExponent < e then .infinite negative else .finite negative m e

/-- The number nearest to a rational. -/
def ofRat (q : Rat) : Binary64 := ofFraction (decide (q < 0)) q.num.natAbs q.den

/-- The exact value of a finite number. -/
def toRat? : Binary64 → Option Rat
  | .finite negative m e =>
    let magnitude : Rat := if 0 ≤ e then m * 2 ^ e.toNat else m / 2 ^ (-e).toNat
    some (if negative then -magnitude else magnitude)
  | _ => none

end Binary64

end Attribution.Number
