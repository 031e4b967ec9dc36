import Conform.Text.Split
import Conform.Value.Entries

/-
  Whether a value contains another one: a piece of a text, a byte or a run of bytes, an item, a
  member or a key.
-/

namespace Conform.Value

/-- Why a value cannot be asked whether it contains another one. -/
inductive MembershipProblem where
  /-- The two kinds do not go together. -/
  | unsuited
  /-- A whole number that is no byte was looked for among bytes. -/
  | byteOutOfRange
deriving DecidableEq, Repr

def bytesOccurIn (run : List UInt8) : List UInt8 → Bool
  | [] => run.isEmpty
  | b :: rest => run.isPrefixOf (b :: rest) || bytesOccurIn run rest

/-- Whether the value contains the item. A set that is looked for in a set counts as frozen. -/
def contains (container item : Value) : Except MembershipProblem Bool :=
  match container with
  | .str s => match item with
    | .str piece => .ok (Text.occursIn piece.toList s.toList)
    | _ => .error .unsuited
  | .bytes b => match item with
    | .bytes run => .ok (bytesOccurIn run b)
    | item => match item.int? with
      | some n =>
        if 0 ≤ n ∧ n < 256 then .ok (b.contains (UInt8.ofNat n.toNat)) else .error .byteOutOfRange
      | none => .error .unsuited
  | .list xs => .ok (item.isAmong xs)
  | .tuple xs => .ok (item.isAmong xs)
  | .set xs => among xs
  | .frozenset xs => among xs
  | .map entries => if item.isHashable then .ok (Entries.hasKey entries item) else .error .unsuited
  | _ => .error .unsuited
where
  /-- Membership in a set. -/
  among (xs : List Value) : Except MembershipProblem Bool :=
    match item with
    | .set _ => .ok (item.isAmong xs)
    | item => if item.isHashable then .ok (item.isAmong xs) else .error .unsuited

end Conform.Value
