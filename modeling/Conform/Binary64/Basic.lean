import Conform.Number

/-
  Floating-point numbers of 64 bits as exact data: a sign, a whole significand below 2^53 and a
  power of two. Rounding goes to the nearest number and, halfway, to the even significand.
-/

namespace Conform

/-- A floating-point number of 64 bits. A finite one has significand below 2^53 and exponent from
-1074 to 971, and the significand is at least 2^52 unless the exponent is the least one. -/
inductive Binary64 where
  | nan
  | infinite (negative : Bool)
  | finite (negative : Bool) (significand : Nat) (exponent : Int)
deriving DecidableEq, Repr, Inhabited

namespace Binary64

def minExponent : Int := -1074

def maxExponent : Int := 971

/-- The first whole number that is too large for a significand. -/
def significandBound : Nat := Nat.pow 2 53

/-- Zero with the given sign. -/
def zero (negative : Bool) : Binary64 := .finite negative 0 minExponent

def toNumber : Binary64 → Number
  | .nan => .nan
  | .infinite negative => .infinite negative
  | .finite negative m e => .dyadic (if negative then -m else m) e

/-- The quotient rounded to a whole number, a half to the even neighbour. -/
def roundQuotient (num den : Nat) : Nat :=
  let q := num / den
  let r := num % den
  if den < 2 * r ∨ (2 * r = den ∧ q % 2 = 1) then q + 1 else q

/-- The quotient divided by a power of two, again as a quotient. -/
def scaleDown (num den : Nat) (e : Int) : Nat × Nat :=
  if 0 ≤ e then (num, den * Nat.pow 2 e.toNat)
  else (num * Nat.pow 2 (-e).toNat, den)

/-- The number with the given significand and exponent, where rounding may just have reached the
bound. -/
def assemble (negative : Bool) (m : Nat) (e : Int) : Binary64 :=
  let (m, e) := if m = significandBound then (m / 2, e + 1) else (m, e)
  if maxExponent < e then .infinite negative else .finite negative m e

/-- The number nearest to a quotient. -/
def ofRatio (negative : Bool) (num den : Nat) : Binary64 :=
  if num = 0 then zero negative
  else
    let low := max ((num.log2 : Int) - den.log2 - 53) minExponent
    let tight := scaleDown num den low
    let e := if significandBound ≤ tight.1 / tight.2 then low + 1 else low
    let exact := scaleDown num den e
    assemble negative (roundQuotient exact.1 exact.2) e

/-- The number nearest to an integer; none if it is too large. -/
def ofInt? (n : Int) : Option Binary64 :=
  match ofRatio (n < 0) n.natAbs 1 with
  | .infinite _ => none
  | x => some x

/-- The number nearest to a decimal: a whole number times a power of ten. Exponents far out of
range are not computed. -/
def ofDecimal (negative : Bool) (coefficient : Nat) (exponent : Int) : Binary64 :=
  if coefficient = 0 then zero negative
  else
    let size := (coefficient.log2 : Int) * 30103 / 100000 + exponent
    if 400 < size then .infinite negative
    else if size < -400 then zero negative
    else if 0 ≤ exponent then ofRatio negative (coefficient * Nat.pow 10 exponent.toNat) 1
    else ofRatio negative coefficient (Nat.pow 10 (-exponent).toNat)

/-- The whole part of a finite number, towards zero. -/
def truncate? : Binary64 → Option Int
  | .finite negative m e =>
    let n : Nat := if 0 ≤ e then m * Nat.pow 2 e.toNat else m / Nat.pow 2 (-e).toNat
    some (if negative then -n else n)
  | _ => none

/-- The number nearest to a whole number times a power of two. -/
def ofDyadic (negative : Bool) (m : Nat) (e : Int) : Binary64 :=
  if 0 ≤ e then ofRatio negative (m * Nat.pow 2 e.toNat) 1
  else ofRatio negative m (Nat.pow 2 (-e).toNat)

/-- Twice the number. -/
def double : Binary64 → Binary64
  | .finite negative m e => ofDyadic negative (2 * m) e
  | x => x

/-- The number with the other sign. -/
def negate : Binary64 → Binary64
  | .nan => .nan
  | .infinite negative => .infinite !negative
  | .finite negative m e => .finite (!negative) m e

/-- The sum. Two zeros have the negative zero as their sum if both are negative. -/
def add : Binary64 → Binary64 → Binary64
  | .finite s m e, .finite t n f =>
    let low := min e f
    let signed (negative : Bool) (k : Nat) : Int := if negative then -k else k
    let sum := signed s m * Int.pow 2 (e - low).toNat + signed t n * Int.pow 2 (f - low).toNat
    if sum = 0 then zero (s && t) else ofDyadic (sum < 0) sum.natAbs low
  | .infinite s, .infinite t => if s == t then .infinite s else .nan
  | .infinite s, .finite _ _ _ => .infinite s
  | .finite _ _ _, .infinite t => .infinite t
  | _, _ => .nan

/-- Whether the sign of the number is negative. -/
def isNegative : Binary64 → Bool
  | .nan => false
  | .infinite negative => negative
  | .finite negative _ _ => negative

def isZero : Binary64 → Bool
  | .finite _ m _ => m == 0
  | _ => false

/-- The product. -/
def mul : Binary64 → Binary64 → Binary64
  | .finite s m e, .finite t n f => ofDyadic (s != t) (m * n) (e + f)
  | .nan, _ => .nan
  | _, .nan => .nan
  | x, y => if x.isZero || y.isZero then .nan else .infinite (x.isNegative != y.isNegative)

example : ofRatio false 1 10 = .finite false 7205759403792794 (-56) := by decide
example : ofInt? (2 ^ 53 + 1) = some (.finite false (2 ^ 52) 1) := by decide
example : ofDecimal false 5 (-324) = .finite false 1 minExponent := by decide +kernel
example : (ofRatio false 1 10).add (ofRatio false 2 10)
    = .finite false 5404319552844596 (-54) := by decide

end Binary64
end Conform
