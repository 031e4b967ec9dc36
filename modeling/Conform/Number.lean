/-
  The numbers that values are compared as: an integer times a power of two, an infinity, or no
  number at all. Integers, truth values and binary floats all have such a number, so that mixed
  comparisons are exact.
-/

namespace Conform

/-- A number with an exact binary expansion, an infinity, or the value that is no number. -/
inductive Number where
  | nan
  | infinite (negative : Bool)
  | dyadic (coefficient exponent : Int)
deriving DecidableEq, Repr, Inhabited

namespace Number

def ofInt (n : Int) : Number := .dyadic n 0

/-- The order of two integers that are scaled by powers of two. -/
def compareScaled (a e b f : Int) : Ordering :=
  let low := min e f
  compare (a * Int.pow 2 (e - low).toNat) (b * Int.pow 2 (f - low).toNat)

/-- The order of two numbers; none if one of them is no number. -/
def compare? : Number → Number → Option Ordering
  | .nan, _ => none
  | _, .nan => none
  | .infinite s, .infinite t => some (if s == t then .eq else if s then .lt else .gt)
  | .infinite s, .dyadic _ _ => some (if s then .lt else .gt)
  | .dyadic _ _, .infinite t => some (if t then .gt else .lt)
  | .dyadic a e, .dyadic b f => some (compareScaled a e b f)

def equals (x y : Number) : Bool := x.compare? y == some .eq

theorem compare?_ofInt (m n : Int) : (ofInt m).compare? (ofInt n) = some (compare m n) := by
  simp [ofInt, compare?, compareScaled, Int.pow]

theorem compareScaled_swap (a e b f : Int) :
    (compareScaled a e b f).swap = compareScaled b f a e := by
  simp only [compareScaled, Int.min_comm f e]
  exact Std.OrientedCmp.eq_swap.symm

theorem compare?_swap (x y : Number) : (x.compare? y).map Ordering.swap = y.compare? x := by
  cases x <;> cases y <;> simp only [compare?, Option.map, compareScaled_swap]
  · rename_i s t; cases s <;> cases t <;> rfl
  · rename_i s _ _; cases s <;> rfl
  · rename_i _ _ t; cases t <;> rfl

end Number
end Conform
