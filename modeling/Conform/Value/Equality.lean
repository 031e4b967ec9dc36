import Conform.Value.Basic

/-
  When two values are equal. Numbers of all kinds are compared exactly and no number is not equal
  to itself; lists and tuples are compared item by item and never to each other; sets by their
  members whatever their kind; maps by their entries in any order; times with and without an
  offset are never equal.
-/

namespace Conform.Value

mutual

def equals : Value → Value → Bool
  | .null, y => y.isNull
  | .bool b, y => match y.number? with
    | some n => (Number.ofInt b.toInt).equals n
    | none => false
  | .int m, y => match y.number? with
    | some n => (Number.ofInt m).equals n
    | none => false
  | .float x, y => match y.number? with
    | some n => x.toNumber.equals n
    | none => false
  | .str s, y => match y with
    | .str t => s == t
    | _ => false
  | .bytes b, y => match y with
    | .bytes c => b == c
    | _ => false
  | .list xs, y => match y with
    | .list ys => equalItems xs ys
    | _ => false
  | .tuple xs, y => match y with
    | .tuple ys => equalItems xs ys
    | _ => false
  | .set xs, y => match y.members? with
    | some ys => xs.length == ys.length && allAmong xs ys
    | none => false
  | .frozenset xs, y => match y.members? with
    | some ys => xs.length == ys.length && allAmong xs ys
    | none => false
  | .map entries, y => match y with
    | .map entries' => entries.length == entries'.length && allEntriesAmong entries entries'
    | _ => false
  | .datetime s, y => match y with
    | .datetime t => s.equals t
    | _ => false
  | .date d, y => match y with
    | .date e => d == e
    | _ => false

def equalItems : List Value → List Value → Bool
  | [], ys => ys.isEmpty
  | x :: xs, ys => match ys with
    | y :: ys => equals x y && equalItems xs ys
    | [] => false

/-- Whether every value of the first list is equal to one of the second. -/
def allAmong : List Value → List Value → Bool
  | [], _ => true
  | x :: xs, ys => ys.any (equals x) && allAmong xs ys

/-- Whether every entry of the first map is an entry of the second. -/
def allEntriesAmong : List (Value × Value) → List (Value × Value) → Bool
  | [], _ => true
  | (key, x) :: rest, entries =>
    entries.any (fun entry => equals key entry.1 && equals x entry.2)
      && allEntriesAmong rest entries

end

mutual

/-- Whether the value can be a key of a map or a member of a set: it holds no list, set or map,
except inside a frozen set. -/
def isHashable : Value → Bool
  | .list _ => false
  | .set _ => false
  | .map _ => false
  | .tuple xs => allHashable xs
  | _ => true

/-- Whether every value can be a key. -/
def allHashable : List Value → Bool
  | [] => true
  | x :: xs => isHashable x && allHashable xs

end

def isAmong (x : Value) (values : List Value) : Bool := values.any (equals x)

end Conform.Value
