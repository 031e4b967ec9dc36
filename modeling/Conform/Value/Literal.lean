import Conform.Binary64.Shortest
import Conform.Text.Quoted
import Conform.Text.Split
import Conform.Value.Basic

/-
  Values as text. The literal of a value shows how it could be written in a program; its display
  is the literal, except that text is shown as it is and days and times in their standard form.
  Not every value can be shown: whole numbers may have too many digits.
-/

namespace Conform.Value

/-- A length of time as days, seconds and microseconds, the last two never negative. -/
def durationLiteral (microseconds : Int) : String :=
  let days := microseconds.fdiv DateTime.dayLength
  let rest := microseconds.fmod DateTime.dayLength
  let parts := [("days", days), ("seconds", rest / 1000000), ("microseconds", rest % 1000000)]
  let shown := (parts.filter fun part => part.2 != 0).map fun part =>
    part.1 ++ "=" ++ Text.signedDecimal part.2
  "datetime.timedelta(" ++ (if shown.isEmpty then "0" else Text.joinWith ", " shown) ++ ")"

def offsetLiteral (microseconds : Int) : String :=
  if microseconds = 0 then "datetime.timezone.utc"
  else "datetime.timezone(" ++ durationLiteral microseconds ++ ")"

/-- What the literal of a time says of where it is taken. -/
def zoneLiterals : TimeZone → List String
  | .fixed offset => ["tzinfo=" ++ offsetLiteral offset]
  | .ruled zone later => (if later then ["fold=1"] else []) ++ ["tzinfo=" ++ zone.name]

/-- The literal of a time; seconds and microseconds are left out from the end if they are zero. -/
def timeLiteral (t : DateTime) : String :=
  let seconds := if t.second = 0 ∧ t.microsecond = 0 then [] else [t.second]
  let fraction := if t.microsecond = 0 then [] else [t.microsecond]
  let numbers := [t.date.year, t.date.month, t.date.day, t.hour, t.minute] ++ seconds ++ fraction
  "datetime.datetime("
    ++ Text.joinWith ", " (numbers.map Text.decimal ++ (t.zone.map zoneLiterals).getD []) ++ ")"

def dayLiteral (d : Date) : String :=
  "datetime.date(" ++ Text.joinWith ", " ([d.year, d.month, d.day].map Text.decimal) ++ ")"

mutual

def literal : Value → String
  | .null => "None"
  | .bool b => if b then "True" else "False"
  | .int n => Text.signedDecimal n
  | .float x => x.text
  | .str s => Text.quoted s
  | .bytes b => Text.quotedBytes b
  | .list xs => "[" ++ Text.joinWith ", " (literals xs) ++ "]"
  | .tuple xs => match literals xs with
    | [one] => "(" ++ one ++ ",)"
    | texts => "(" ++ Text.joinWith ", " texts ++ ")"
  | .set xs => if xs.isEmpty then "set()" else "\x7b" ++ Text.joinWith ", " (literals xs) ++ "\x7d"
  | .frozenset xs =>
    if xs.isEmpty then "frozenset()"
    else "frozenset(\x7b" ++ Text.joinWith ", " (literals xs) ++ "\x7d)"
  | .map entries => "\x7b" ++ Text.joinWith ", " (entryLiterals entries) ++ "\x7d"
  | .datetime t => timeLiteral t
  | .date d => dayLiteral d

def literals : List Value → List String
  | [] => []
  | x :: xs => literal x :: literals xs

def entryLiterals : List (Value × Value) → List String
  | [] => []
  | (key, x) :: rest => (literal key ++ ": " ++ literal x) :: entryLiterals rest

end

mutual

/-- Whether the value can be shown: no whole number in it has too many digits. -/
def isShowable : Value → Bool
  | .int n => n.natAbs < Text.tooLong
  | .list xs => areShowable xs
  | .tuple xs => areShowable xs
  | .set xs => areShowable xs
  | .frozenset xs => areShowable xs
  | .map entries => areShowableEntries entries
  | _ => true

def areShowable : List Value → Bool
  | [] => true
  | x :: xs => isShowable x && areShowable xs

def areShowableEntries : List (Value × Value) → Bool
  | [] => true
  | (key, x) :: rest => isShowable key && isShowable x && areShowableEntries rest

end

/-- The value as it is shown within text. -/
def display : Value → String
  | .str s => s
  | .datetime t => t.textWith " "
  | .date d => d.text
  | x => x.literal

theorem display_str (s : String) : (Value.str s).display = s := rfl

theorem areShowable_eq_all (xs : List Value) : areShowable xs = xs.all isShowable := by
  induction xs with
  | nil => rfl
  | cons x xs ih => simp [areShowable, ih]

theorem areShowableEntries_eq_all (entries : List (Value × Value)) :
    areShowableEntries entries =
      entries.all fun entry => entry.1.isShowable && entry.2.isShowable := by
  induction entries with
  | nil => rfl
  | cons entry rest ih => simp [areShowableEntries, ih]

end Conform.Value
