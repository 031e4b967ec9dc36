import Conform.Binary64.Basic
import Conform.Text.Decimal

/-
  The shortest decimal text of a floating-point number: the fewest digits that read back as the
  number and, of those, the nearest ones. A number stands for the reals that round to it; for one
  digit, two digits and so on, the two points of that decimal grid around the number are tried.
-/

namespace Conform.Binary64

/-- A number d · 10^p with d given by its decimal digits. -/
structure Decimal where
  digits : Nat
  exponent : Int

/-- A positive number m · 2^e as a quotient in quarters, with the quarters below and above it that
still round to it, and whether these ends do. -/
structure Interval where
  value : Nat
  below : Nat
  above : Nat
  scaleNum : Nat
  scaleDen : Nat
  closed : Bool

/-- The reals that round to m · 2^e. Below a power of two the grid is twice as fine. -/
def interval (m : Nat) (e : Int) : Interval where
  value := 4 * m
  below := if 2 * m = significandBound ∧ minExponent < e then 1 else 2
  above := 2
  scaleNum := Nat.pow 2 (e - 2).toNat
  scaleDen := Nat.pow 2 (2 - e).toNat
  closed := m % 2 == 0

/-- The exponent of the first decimal digit. -/
def Interval.leadingExponent (i : Interval) : Int :=
  let num := i.value * i.scaleNum
  let guess : Int := ((num.log2 : Int) - i.scaleDen.log2) * 30103 / 100000 - 1
  let reaches (k : Int) : Bool :=
    i.scaleDen * Nat.pow 10 k.toNat ≤ num * Nat.pow 10 (-k).toNat
  if reaches (guess + 3) then guess + 3
  else if reaches (guess + 2) then guess + 2
  else if reaches (guess + 1) then guess + 1
  else guess

def Interval.holds (i : Interval) (d : Nat) (p : Int) : Bool :=
  let point := d * Nat.pow 10 p.toNat * i.scaleDen
  let unit := i.scaleNum * Nat.pow 10 (-p).toNat
  let low := (i.value - i.below) * unit
  let high := (i.value + i.above) * unit
  if i.closed then low ≤ point && point ≤ high else low < point && point < high

/-- The decimal d · 10^p with at most the given number of digits; a power of ten that has one more
is written with one less. -/
def Decimal.ofPoint (count d : Nat) (p : Int) : Decimal :=
  if d = Nat.pow 10 count then ⟨Nat.pow 10 (count - 1), p + 1⟩ else ⟨d, p⟩

/-- The nearest decimal with the given number of digits that lies in the interval. -/
def Interval.pointWith? (i : Interval) (leading : Int) (count : Nat) : Option Decimal :=
  let p := leading - count + 1
  let num := i.value * i.scaleNum * Nat.pow 10 (-p).toNat
  let den := i.scaleDen * Nat.pow 10 p.toNat
  let d := num / den
  let rest := num % den
  match i.holds d p, i.holds (d + 1) p with
  | true, true =>
    some (.ofPoint count (if den < 2 * rest ∨ (2 * rest = den ∧ d % 2 = 1) then d + 1 else d) p)
  | true, false => some (.ofPoint count d p)
  | false, true => some (.ofPoint count (d + 1) p)
  | false, false => none

/-- The shortest decimal that reads back as m · 2^e, for a positive m. -/
def shortest (m : Nat) (e : Int) : Decimal :=
  let i := interval m e
  let leading := i.leadingExponent
  ((List.range 17).findSome? fun count => i.pointWith? leading (count + 1)).getD
    ⟨m, 0⟩

/-- The text of a positive decimal: positional if the first digit stands for 10^-4 up to 10^15,
else one digit before the point and an exponent of at least two digits. -/
def Decimal.text (d : Decimal) : String :=
  let digits := Nat.toDigits 10 d.digits
  let point : Int := digits.length + d.exponent
  if -4 < point ∧ point ≤ 16 then
    if point ≤ 0 then
      String.ofList ('0' :: '.' :: List.replicate (-point).toNat '0' ++ digits)
    else if digits.length ≤ point.toNat then
      String.ofList (digits ++ List.replicate (point.toNat - digits.length) '0' ++ ['.', '0'])
    else
      String.ofList (digits.take point.toNat ++ '.' :: digits.drop point.toNat)
  else
    let sign := if point - 1 < 0 then '-' else '+'
    let fraction := digits.drop 1
    String.ofList (digits.take 1 ++ (if fraction.isEmpty then [] else '.' :: fraction)
      ++ ['e', sign]) ++ Text.paddedDecimal 2 (point - 1).natAbs

/-- The shortest text that reads back as the number. -/
def text : Binary64 → String
  | .nan => "nan"
  | .infinite negative => if negative then "-inf" else "inf"
  | .finite negative m e =>
    (if negative then "-" else "") ++ if m = 0 then "0.0" else (shortest m e).text

end Conform.Binary64
