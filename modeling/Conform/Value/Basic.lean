import Conform.Binary64.Basic
import Conform.Calendar.DateTime

/-
  The values that are validated: loosely typed data as it arrives from documents and programs.
  Maps keep their entries in the order in which the keys were first set.
-/

namespace Conform

inductive Value where
  | null
  | bool (b : Bool)
  | int (n : Int)
  | float (x : Binary64)
  | str (s : String)
  | bytes (bytes : List UInt8)
  | list (items : List Value)
  | tuple (items : List Value)
  | set (members : List Value)
  | frozenset (members : List Value)
  | map (entries : List (Value × Value))
  | datetime (t : DateTime)
  | date (d : Date)
deriving Inhabited, Repr

inductive Kind where
  | null
  | bool
  | int
  | float
  | str
  | bytes
  | list
  | tuple
  | set
  | frozenset
  | map
  | datetime
  | date
deriving DecidableEq, Repr, Inhabited

def Kind.name : Kind → String
  | .null => "NoneType"
  | .bool => "bool"
  | .int => "int"
  | .float => "float"
  | .str => "str"
  | .bytes => "bytes"
  | .list => "list"
  | .tuple => "tuple"
  | .set => "set"
  | .frozenset => "frozenset"
  | .map => "dict"
  | .datetime => "datetime"
  | .date => "date"

def Kind.all : List Kind := [
  .null, .bool, .int, .float, .str, .bytes, .list, .tuple, .set, .frozenset, .map, .datetime, .date]

theorem Kind.mem_all (k : Kind) : k ∈ Kind.all := by cases k <;> decide

/-- The name of a kind with the module that it belongs to. -/
def Kind.fullName : Kind → String
  | .datetime => "datetime.datetime"
  | .date => "datetime.date"
  | k => k.name

/-- Whether every value of the first kind counts as one of the second: truth values count as
integers and times as dates. -/
def Kind.countsAs (k target : Kind) : Bool :=
  k == target || (k == .bool && target == .int) || (k == .datetime && target == .date)

namespace Value

def kind : Value → Kind
  | .null => .null
  | .bool _ => .bool
  | .int _ => .int
  | .float _ => .float
  | .str _ => .str
  | .bytes _ => .bytes
  | .list _ => .list
  | .tuple _ => .tuple
  | .set _ => .set
  | .frozenset _ => .frozenset
  | .map _ => .map
  | .datetime _ => .datetime
  | .date _ => .date

def kindName (x : Value) : String := x.kind.name

/-- Whether the value is the absent one. -/
def isNull : Value → Bool
  | .null => true
  | _ => false

/-- The whole number of an integer or a truth value. -/
def int? : Value → Option Int
  | .int n => some n
  | .bool b => some b.toInt
  | _ => none

def number? : Value → Option Number
  | .int n => some (.ofInt n)
  | .bool b => some (.ofInt b.toInt)
  | .float x => some x.toNumber
  | _ => none

/-- The members of a set of either kind. -/
def members? : Value → Option (List Value)
  | .set members => some members
  | .frozenset members => some members
  | _ => none

/-- The number of characters, bytes, items or entries. -/
def size? : Value → Option Nat
  | .str s => some s.length
  | .bytes b => some b.length
  | .list xs => some xs.length
  | .tuple xs => some xs.length
  | .set xs => some xs.length
  | .frozenset xs => some xs.length
  | .map entries => some entries.length
  | _ => none

/-- Whether the value counts as true: all but the absent value, false, zero and empty text or
collections. -/
def isTruthy (x : Value) : Bool :=
  match x with
  | .null => false
  | .bool b => b
  | .int n => n != 0
  | .float x => !x.isZero
  | .datetime _ => true
  | .date _ => true
  | x => x.size? != some 0

theorem isNull_iff {x : Value} : x.isNull = true ↔ x = .null := by
  cases x <;> simp [isNull]

end Value
end Conform
