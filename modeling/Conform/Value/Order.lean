import Conform.Value.Equality

/-
  The order of values. Numbers, texts, bytes, days and times are ordered among themselves, lists
  and tuples by their first items that differ, and sets by inclusion. Other pairs of values have
  no order, not even a false one.
-/

namespace Conform

/-- The four order relations. -/
inductive Relation where
  | lt
  | le
  | gt
  | ge
deriving DecidableEq, Repr, Inhabited

namespace Relation

/-- Whether a relation holds between values in the given order. -/
def holdsFor : Relation → Ordering → Bool
  | .lt, o => o == .lt
  | .le, o => o != .gt
  | .gt, o => o == .gt
  | .ge, o => o != .lt

/-- The relation between the same values the other way round. -/
def swap : Relation → Relation
  | .lt => .gt
  | .le => .ge
  | .gt => .lt
  | .ge => .le

theorem holdsFor_swap (r : Relation) (o : Ordering) : r.swap.holdsFor o.swap = r.holdsFor o := by
  cases r <;> cases o <;> rfl

end Relation

namespace Value

/-- The order of two sequences by the first items that differ, a beginning coming before the
whole. -/
def compareSequences {α : Type} [Ord α] : List α → List α → Ordering
  | [], [] => .eq
  | [], _ :: _ => .lt
  | _ :: _, [] => .gt
  | a :: as, b :: bs =>
    match compare a b with
    | .eq => compareSequences as bs
    | o => o

/-- Whether a relation by inclusion holds between two sets. -/
def includes (r : Relation) (xs ys : List Value) : Bool :=
  match r with
  | .lt => xs.length < ys.length && allAmong xs ys
  | .le => xs.length ≤ ys.length && allAmong xs ys
  | .gt => ys.length < xs.length && allAmong ys xs
  | .ge => ys.length ≤ xs.length && allAmong ys xs

/-- Whether a relation holds between the orders of two numbers; none holds for what is no
number. -/
def relatedNumbers (r : Relation) (m n : Number) : Bool :=
  match m.compare? n with
  | some o => r.holdsFor o
  | none => false

mutual

/-- Whether a relation holds between two values; none if they have no order. -/
def related (r : Relation) : Value → Value → Option Bool
  | .bool b, y => y.number?.map (relatedNumbers r (.ofInt b.toInt))
  | .int n, y => y.number?.map (relatedNumbers r (.ofInt n))
  | .float x, y => y.number?.map (relatedNumbers r x.toNumber)
  | .str s, y => match y with
    | .str t => some (r.holdsFor (compareSequences s.toList t.toList))
    | _ => none
  | .bytes b, y => match y with
    | .bytes c => some (r.holdsFor (compareSequences b c))
    | _ => none
  | .list xs, y => match y with
    | .list ys => relatedItems r xs ys
    | _ => none
  | .tuple xs, y => match y with
    | .tuple ys => relatedItems r xs ys
    | _ => none
  | .set xs, y => y.members?.map (includes r xs)
  | .frozenset xs, y => y.members?.map (includes r xs)
  | .datetime s, y => match y with
    | .datetime t => (s.compare? t).map r.holdsFor
    | _ => none
  | .date d, y => match y with
    | .date e => some (r.holdsFor (compare d.ordinal e.ordinal))
    | _ => none
  | .null, _ => none
  | .map _, _ => none

/-- Whether a relation holds between two sequences: between the first items that differ or, if
one is a beginning of the other, between the lengths. -/
def relatedItems (r : Relation) : List Value → List Value → Option Bool
  | [], ys => some (r.holdsFor (if ys.isEmpty then .eq else .lt))
  | x :: xs, ys => match ys with
    | [] => some (r.holdsFor .gt)
    | y :: ys => if equals x y then relatedItems r xs ys else related r x y

end

end Value
end Conform
