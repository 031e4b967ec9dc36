import Conform.Binary64.Reading
import Conform.Json.Reader
import Conform.Yaml.Problem

/-
  What a scalar without quotes stands for: the absent value, a truth value, a whole number in one
  of five forms, a floating-point number, a day or a time, or else its text.
-/

namespace Conform.Yaml

open Text

/-- The spellings of the absent value. -/
def nullSpellings : List String := ["", "~", "null", "Null", "NULL"]

def trueSpellings : List String :=
  ["yes", "Yes", "YES", "true", "True", "TRUE", "on", "On", "ON"]

def falseSpellings : List String :=
  ["no", "No", "NO", "false", "False", "FALSE", "off", "Off", "OFF"]

def withoutLowLines (text : List Char) : List Char := text.filter (· != '_')

/-- Whether all characters are digits or low lines and the first is a digit. -/
def isDigitRun (text : List Char) : Bool :=
  (text.head?.any Char.isDigit) && text.all fun c => c.isDigit || c == '_'

/-- The values of decimal digits. -/
def digitsOf (text : List Char) : List Nat := text.map fun c => c.toNat - 0x30

/-- Whether the text is a part of a number to base 60 after the first one. -/
def isSixtieth (text : List Char) : Bool :=
  match text with
  | [c] => c.isDigit
  | [c, d] => '0' ≤ c && c ≤ '5' && d.isDigit
  | _ => false

/-- The whole number of a text with digits of a base after a mark. Low lines alone are no digits. -/
def markedNumber? (isDigit : Char → Bool) (base : Nat) (text : List Char) :
    Option (Except Problem Nat) :=
  if text.isEmpty || !text.all fun c => isDigit c || c == '_' then none
  else match withoutLowLines text with
    | [] => some (.error (.noDigits base))
    | digits => (digits.mapM hexValue?).map fun values => .ok (numberOf base values)

/-- The whole number that decimal digits spell. Their number is limited. -/
def decimalNumber (text : List Char) : Except Problem Nat :=
  let digits := withoutLowLines text
  if maxDigits < digits.length then .error (.tooManyDigits digits.length)
  else .ok (numberOf 10 (digitsOf digits))

/-- The size of a whole number without its sign: binary, octal, hexadecimal, to base 60 or
decimal. -/
def wholeNumber? (text : List Char) : Option (Except Problem Nat) :=
  match text with
  | '0' :: 'b' :: rest => markedNumber? (fun c => c == '0' || c == '1') 2 rest
  | '0' :: 'x' :: rest => markedNumber? (fun c => (hexValue? c).isSome) 16 rest
  | ['0'] => some (.ok 0)
  | '0' :: rest =>
    if rest.all fun c => c == '_' then some (.ok 0)
    else markedNumber? (fun c => '0' ≤ c && c ≤ '7') 8 rest
  | text =>
    match splitOn [':'] text with
    | [digits] => if isDigitRun digits then some (decimalNumber digits) else none
    | first :: rest =>
      if isDigitRun first && rest.all isSixtieth then
        some (((first :: rest).mapM decimalNumber).map (numberOf 60))
      else none
    | [] => none

def int? (text : List Char) : Option (Except Problem Value) :=
  let (negative, unsigned) := Numeral.takeSign text
  (wholeNumber? unsigned).map fun result => result.map fun n =>
    .int (if negative then -(n : Int) else n)

/-- The exponent of a floating-point number: absent, or a letter, a sign and digits. -/
def isExponent (text : List Char) : Bool :=
  match text with
  | [] => true
  | e :: sign :: digits =>
    (e == 'e' || e == 'E') && (sign == '-' || sign == '+') && !digits.isEmpty
      && digits.all Char.isDigit
  | _ => false

/-- Whether the unsigned text is a decimal with a point. -/
def isDecimal (signed : Bool) (text : List Char) : Bool :=
  let whole := text.takeWhile (· != '.')
  match text.drop whole.length with
  | '.' :: rest =>
    let fraction := rest.takeWhile fun c => c.isDigit || c == '_'
    let exponent := rest.drop fraction.length
    isExponent exponent &&
      (isDigitRun whole || (whole.isEmpty && !signed && isDigitRun fraction))
  | _ => false

/-- The parts of a number to base 60 whose last part may have a fraction. -/
def sixtieths? (text : List Char) : Option (List (List Char)) :=
  let whole := text.takeWhile (· != '.')
  match splitOn [':'] whole, text.drop whole.length with
  | first :: second :: rest, '.' :: fraction =>
    if isDigitRun first && (second :: rest).all isSixtieth
        && fraction.all fun c => c.isDigit || c == '_' then
      some (splitOn [':'] (withoutLowLines text))
    else none
  | _, _ => none

/-- The sum of parts of a number to base 60, the last part first, each of which counts as often as
the given place and the sixties before it. Each step is rounded. -/
def sumOfSixtieths (place : Nat) (sum : Binary64) : List Binary64 → Except Problem Binary64
  | [] => .ok sum
  | part :: rest =>
    match Binary64.ofInt? place with
    | none => .error .numberTooLarge
    | some size => sumOfSixtieths (place * 60) (sum.add (part.mul size)) rest

/-- A floating-point number, which needs a point. -/
def float? (text : List Char) : Option (Except Problem Binary64) :=
  let signed := text.head? == some '-' || text.head? == some '+'
  let (negative, unsigned) := Numeral.takeSign text
  let name := String.ofList unsigned
  if name == ".inf" || name == ".Inf" || name == ".INF" then some (.ok (.infinite negative))
  else if !signed && (name == ".nan" || name == ".NaN" || name == ".NAN") then some (.ok .nan)
  else if isDecimal signed unsigned then
    (Numeral.unsignedDecimal? negative (withoutLowLines unsigned)).map .ok
  else do
    let parts ← sixtieths? unsigned
    let numbers ← parts.mapM (Numeral.unsignedDecimal? false)
    pure ((sumOfSixtieths 1 (.zero false) numbers.reverse).map fun x =>
      if negative then x.negate else x)

/-- The number of exactly the given number of digits, and the rest. -/
def exactDigits? (count : Nat) (text : List Char) : Option (Nat × List Char) :=
  let digits := text.take count
  if digits.length == count && digits.all Char.isDigit then
    some (numberOf 10 (digitsOf digits), text.drop count)
  else none

/-- The number of one or two digits, and the rest. -/
def shortNumber? (text : List Char) : Option (Nat × List Char) :=
  match exactDigits? 2 text with
  | some read => some read
  | none => exactDigits? 1 text

def skipMark? (mark : Char) : List Char → Option (List Char)
  | c :: rest => if c == mark then some rest else none
  | [] => none

/-- Whether the character is a space or a tab. -/
def isGap (c : Char) : Bool := c == ' ' || c == '\t'

def skipDayEnd? (text : List Char) : Option (List Char) :=
  match text with
  | 'T' :: rest => some rest
  | 't' :: rest => some rest
  | c :: rest => if isGap c then some (rest.dropWhile isGap) else none
  | [] => none

/-- The offset at the end of a time in microseconds, if there is one. -/
def offset? (text : List Char) : Option (Option Int) :=
  match text.dropWhile isGap with
  | [] => if text.isEmpty then some none else none
  | ['Z'] => some (some 0)
  | sign :: rest =>
    if sign == '-' || sign == '+' then do
      let (hours, rest) ← shortNumber? rest
      let minutes ← match rest with
        | [] => some 0
        | ':' :: rest => match exactDigits? 2 rest with
          | some (minutes, []) => some minutes
          | _ => none
        | _ => none
      let size : Int := (hours * 60 + minutes) * 60000000
      pure (some (if sign == '-' then -size else size))
    else none

def timeAfter? (year month day : Nat) (text : List Char) :
    Option (Except CalendarError DateTime) := do
  let (hour, rest) ← shortNumber? (← skipDayEnd? text)
  let (minute, rest) ← exactDigits? 2 (← skipMark? ':' rest)
  let (second, rest) ← exactDigits? 2 (← skipMark? ':' rest)
  let (fraction, rest) := match rest with
    | '.' :: rest => (rest.takeWhile Char.isDigit, rest.dropWhile Char.isDigit)
    | rest => ([], rest)
  let offset ← offset? rest
  let digits := fraction.take 6
  let microsecond := numberOf 10 (digitsOf digits) * Nat.pow 10 (6 - digits.length)
  pure (DateTime.make (Date.make year month day) hour minute second microsecond offset)

def timestamp? (text : List Char) : Option (Except CalendarError Value) := do
  let (year, rest) ← exactDigits? 4 text
  let rest ← skipMark? '-' rest
  let (month, afterMonth) ← shortNumber? rest
  let (day, rest) ← shortNumber? (← skipMark? '-' afterMonth)
  if rest.isEmpty then
    if text.length = 10 then pure ((Date.make year month day).map .date) else none
  else
    let time ← timeAfter? year month day rest
    pure (time.map .datetime)

/-- The value of a scalar without quotes. The marks for merging and for a default value stand for
nothing. -/
def scalarValue (s : String) : Except Problem Value :=
  let text := s.toList
  if trueSpellings.contains s then .ok (.bool true)
  else if falseSpellings.contains s then .ok (.bool false)
  else match float? text with
    | some result => result.map .float
    | none => match int? text with
      | some result => result
      | none =>
        if s == "<<" || s == "=" then .error .malformed
        else if nullSpellings.contains s then .ok .null
        else match timestamp? text with
          | some (.ok x) => .ok x
          | some (.error error) => .error (.calendar error)
          | none => .ok (.str s)

end Conform.Yaml
