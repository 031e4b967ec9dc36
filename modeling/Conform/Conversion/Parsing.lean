import Conform.Calendar.Iso
import Conform.Calendar.Layout
import Conform.Json.Reader
import Conform.Predicate.Format
import Conform.Text.Quoted
import Conform.Text.Utf8
import Conform.Value.Literal
import Conform.Json.Printer

/-
  Values converted to another type, with the message about what could not be converted. Each
  conversion is used behind a guard that refuses unsuitable values; the messages for those are
  given all the same, so that every conversion is defined for every value.
-/

namespace Conform.Conversion

open Text

/-- The message about a value that a conversion is not made for. -/
def unsuitable (target : String) (x : Value) : String :=
  "cannot convert " ++ x.kindName ++ " to " ++ target

/-- The text of a text value without blanks around it. -/
def bareText (s : String) : List Char := trim s.toList

/-! ## Numbers -/

def intOfText (s : String) : Except String Value :=
  match Numeral.wholeNumber? (bareText s) with
  | some (negative, digits) =>
    if maxDigits < digits.length then .error (tooManyDigitsMessage (some digits.length))
    else
      let n : Int := numberOf 10 digits
      .ok (.int (if negative then -n else n))
  | none =>
    .error ("invalid literal for int() with base 10: " ++ quoted (String.ofList (bareText s)))

/-- The value as a whole number; fractions are cut off. -/
def toInt : Value → Except String Value
  | .str s => intOfText s
  | .int n => .ok (.int n)
  | .bool b => .ok (.int b.toInt)
  | .float .nan => .error "cannot convert float NaN to integer"
  | .float (.infinite _) => .error "cannot convert float infinity to integer"
  | .float x => match x.truncate? with
    | some n => .ok (.int n)
    | none => .error (unsuitable "int" (.float x))
  | x => .error (unsuitable "int" x)

/-- The floating-point number that a text spells. -/
def floatOfText (s : String) : Except String Value :=
  match Numeral.float? (bareText s) with
  | some x => .ok (.float x)
  | none => .error ("could not convert string to float: " ++ quoted (String.ofList (bareText s)))

/-- The floating-point number nearest to a whole number. -/
def floatOfInt (n : Int) : Except String Value :=
  match Binary64.ofInt? n with
  | some x => .ok (.float x)
  | none => .error "int too large to convert to float"

/-- The value as a floating-point number. -/
def toFloat : Value → Except String Value
  | .str s => floatOfText s
  | .int n => floatOfInt n
  | .bool b => floatOfInt b.toInt
  | .float x => .ok (.float x)
  | x => .error (unsuitable "float" x)

/-- A text as the number it spells, a whole one if it has that form; other values stay. -/
def toNumber : Value → Except String Value
  | .str s =>
    if Format.isIntText (bareText s) then intOfText s else floatOfText s
  | x => .ok x

/-! ## Truth values -/

/-- A text as whether it is "true", and other values as whether they count as true. -/
def toBool : Value → Except String Value
  | .str s => .ok (.bool (Format.plain s.toList == "true"))
  | x => .ok (.bool x.isTruthy)

/-- A text as the truth value it stands for, and other values as whether they count as true. -/
def toLooseBool : Value → Except String Value
  | .str s =>
    let text := Format.plain s.toList
    if Format.trueTexts.contains text then .ok (.bool true)
    else if Format.falseTexts.contains text then .ok (.bool false)
    else .error ("String '" ++ s ++ "' is not a valid boolean")
  | x => .ok (.bool x.isTruthy)

/-! ## Text and documents -/

/-- The value as text: lists and maps as JSON, bytes as the text they spell. -/
def toText : Value → Except String Value
  | .str s => .ok (.str s)
  | .bytes b => .ok (.str (String.ofList (decodeUtf8 b)))
  | .datetime t => .ok (.str t.text)
  | .bool b => .ok (.str (if b then "true" else "false"))
  | .list xs => json (.list xs)
  | .map entries => json (.map entries)
  | x => if x.isShowable then .ok (.str x.display) else .error (tooManyDigitsMessage none)
where
  /-- The value as JSON. -/
  json (x : Value) : Except String Value :=
    match Json.write Json.strict x with
    | .ok text => .ok (.str text)
    | .error problem => .error problem.message

/-- A text as the document it spells; other values stay. -/
def ofJson : Value → Except String Value
  | .str s => match Json.read s with
    | .ok x => .ok x
    | .error problem => .error (problem.message s.toList)
  | x => .ok x

def mapText (f : List Char → List Char) : Value → Except String Value
  | .str s => .ok (.str (String.ofList (f s.toList)))
  | x => .error (unsuitable "str" x)

/-- The pieces of a text between separators, or between blanks if the separator is absent. -/
def piecesOf (separator : Value) (text : List Char) : Except String (List (List Char)) :=
  match separator with
  | .null => .ok (words text)
  | .str "" => .error "empty separator"
  | .str s => .ok (splitOn s.toList text)
  | x => .error ("must be str or None, not " ++ x.kindName)

/-- The pieces of a text between separators. -/
def toPieces (separator : Value) : Value → Except String Value
  | .str s => (piecesOf separator s.toList).map fun pieces =>
    .list (pieces.map fun piece => .str (String.ofList piece))
  | x => .error (unsuitable "list" x)

/-! ## Times -/

def hyphenDate : List Layout.Item := [.year, .mark '-', .month, .mark '-', .day]

def slashDate : List Layout.Item := [.year, .mark '/', .month, .mark '/', .day]

/-- The hour, minute and second with colons between them. -/
def clock : List Layout.Item := [.hour, .mark ':', .minute, .mark ':', .second]

/-- The layouts of times that are tried before the standard form, in order. -/
def layouts : List (List Layout.Item) := [
  hyphenDate ++ [.blanks] ++ clock,
  hyphenDate ++ [.mark 'T'] ++ clock,
  hyphenDate ++ [.mark 'T'] ++ clock ++ [.mark 'Z'],
  hyphenDate ++ [.mark 'T'] ++ clock ++ [.mark '.', .fraction],
  hyphenDate ++ [.mark 'T'] ++ clock ++ [.mark '.', .fraction, .mark 'Z'],
  slashDate ++ [.blanks] ++ clock,
  slashDate,
  hyphenDate]

/-- The message about a number that is out of range. -/
def calendarMessage : CalendarError → String
  | .year year => "year " ++ decimal year ++ " is out of range"
  | .month => "month must be in 1..12"
  | .day => "day is out of range for month"
  | .hour => "hour must be in 0..23"
  | .minute => "minute must be in 0..59"
  | .second => "second must be in 0..59"
  | .offset microseconds =>
    "offset must be a timedelta strictly between -timedelta(hours=24) and timedelta(hours=24), not "
      ++ Value.durationLiteral microseconds ++ "."

/-- The time that a text spells, by the first layout that fits or in the standard form. -/
def timeOfText (s : String) : Except String DateTime :=
  let text := bareText s
  match layouts.findSome? fun layout => Layout.read? layout text with
  | some t => .ok t
  | none =>
    let standard := String.ofList (Format.withUniversalOffset text)
    match Iso.readDateTime standard with
    | .ok t => .ok t
    | .error .malformed => .error ("Invalid isoformat string: " ++ quoted standard)
    | .error (.outOfRange error) => .error (calendarMessage error)

/-- The value as a time; a day is its midnight. -/
def timeOf : Value → Except String DateTime
  | .datetime t => .ok t
  | .date d => .ok (.ofDate d)
  | .str s => timeOfText s
  | x => .error (unsuitable "datetime" x)

def toTime (x : Value) : Except String Value := (timeOf x).map .datetime

def toMidnight (x : Value) : Except String Value := (timeOf x).map fun t => .datetime t.atMidnight

end Conform.Conversion
