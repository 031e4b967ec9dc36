import Conform.Calendar.DateTime
import Conform.Text.Blank
import Conform.Text.DecimalDigit

/-
  Days and times read by a layout: a sequence of numbered fields, marks and runs of blanks. Fields
  take as many digits as they can hold, a first digit that could not start a two-digit number
  standing alone, and give digits back if what follows needs them. Letters match in either case.
-/

namespace Conform.Layout

open Conform.Text

/-- A part of a layout. -/
inductive Item where
  | year
  | month
  | day
  | hour
  | minute
  | second
  | fraction
  | blanks
  | mark (c : Char)
deriving DecidableEq, Repr

/-- The numbers read so far. -/
structure Fields where
  year : Nat := 1900
  month : Nat := 1
  day : Nat := 1
  hour : Nat := 0
  minute : Nat := 0
  second : Nat := 0
  microsecond : Nat := 0
deriving Repr, Inhabited

/-- The number of two digits, the first one an ASCII digit in the range and the second one of any
script, and what follows. -/
def pair (low high : Char) : List Char → List (Nat × List Char)
  | c :: d :: rest =>
    match digitValue? d with
    | some n => if low ≤ c ∧ c ≤ high then [((c.toNat - 0x30) * 10 + n, rest)] else []
    | none => []
  | _ => []

/-- The number of two ASCII digits within bounds, and what follows. -/
def asciiPair (low high : Nat) : List Char → List (Nat × List Char)
  | c :: d :: rest =>
    let n := (c.toNat - 0x30) * 10 + (d.toNat - 0x30)
    if c.isDigit && d.isDigit && low ≤ n && n ≤ high then [(n, rest)] else []
  | _ => []

/-- The number of one ASCII digit from the given one on, and what follows. -/
def single (low : Char) : List Char → List (Nat × List Char)
  | c :: rest => if low ≤ c ∧ c ≤ '9' then [(c.toNat - 0x30, rest)] else []
  | [] => []

/-- The number of one digit of any script, and what follows. -/
def anySingle : List Char → List (Nat × List Char)
  | c :: rest => match digitValue? c with
    | some n => [(n, rest)]
    | none => []
  | [] => []

/-- The number of four digits of any script, and what follows. -/
def fourDigits : List Char → List (Nat × List Char)
  | a :: b :: c :: d :: rest =>
    match digitValue? a, digitValue? b, digitValue? c, digitValue? d with
    | some k, some l, some m, some n => [(k * 1000 + l * 100 + m * 10 + n, rest)]
    | _, _, _, _ => []
  | _ => []

/-- The microseconds of a fraction of one to six ASCII digits, longest first, and what follows. -/
def fractions (text : List Char) : List (Nat × List Char) :=
  let available := (text.takeWhile Char.isDigit).length
  ((List.range (min available 6)).reverse.map fun i =>
    let digits := (text.take (i + 1)).map fun c => c.toNat - 0x30
    (digits.foldl (fun n d => n * 10 + d) 0 * Nat.pow 10 (5 - i), text.drop (i + 1)))

/-- What can follow a run of one or more blanks, longest run first. -/
def afterBlanks (text : List Char) : List (List Char) :=
  let available := (text.takeWhile isBlank).length
  (List.range available).reverse.map fun i => text.drop (i + 1)

/-- Whether the character is the mark, in either case. -/
def matchesMark (mark c : Char) : Bool := c == mark || c.toLower == mark.toLower

/-- The ways to read one item at the start of the text, the preferred one first. -/
def Item.read (item : Item) (fields : Fields) (text : List Char) : List (Fields × List Char) :=
  match item with
  | .year => (fourDigits text).map fun (n, rest) => ({ fields with year := n }, rest)
  | .month => (asciiPair 10 12 text ++ asciiPair 1 9 text ++ single '1' text).map
      fun (n, rest) => ({ fields with month := n }, rest)
  | .day =>
    let afterSpace := match text with
      | ' ' :: rest => single '1' rest
      | _ => []
    (asciiPair 30 31 text ++ pair '1' '2' text ++ asciiPair 1 9 text ++ single '1' text
      ++ afterSpace).map fun (n, rest) => ({ fields with day := n }, rest)
  | .hour => (asciiPair 20 23 text ++ pair '0' '1' text ++ anySingle text).map
      fun (n, rest) => ({ fields with hour := n }, rest)
  | .minute => (pair '0' '5' text ++ anySingle text).map
      fun (n, rest) => ({ fields with minute := n }, rest)
  | .second => (asciiPair 60 61 text ++ pair '0' '5' text ++ anySingle text).map
      fun (n, rest) => ({ fields with second := n }, rest)
  | .fraction => (fractions text).map fun (n, rest) => ({ fields with microsecond := n }, rest)
  | .blanks => (afterBlanks text).map fun rest => (fields, rest)
  | .mark m => match text with
    | c :: rest => if matchesMark m c then [(fields, rest)] else []
    | [] => []

/-- The ways to read all items, the preferred one first. -/
def readItems : List Item → Fields → List Char → List (Fields × List Char)
  | [], fields, text => [(fields, text)]
  | item :: items, fields, text =>
    (item.read fields text).flatMap fun (fields', rest) => readItems items fields' rest

/-- The time that the text spells: the preferred way to read the layout must use up the text and
give numbers in range. -/
def read? (layout : List Item) (text : List Char) : Option DateTime :=
  match readItems layout {} text with
  | (f, []) :: _ =>
    (DateTime.make (Date.make f.year f.month f.day) f.hour f.minute f.second f.microsecond
      none).toOption
  | _ => none

end Conform.Layout
