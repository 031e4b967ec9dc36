import Conform.Calendar.DateTime

/-
  Days and times read from the standard form. A day is a month and a day of the month, or a week
  and a day of the week, with hyphens in all places or in none; one character of any kind
  separates it from a time of day, which may end early and may be followed by an offset.

  Texts are taken as bytes, because the length in bytes tells the forms apart.
-/

namespace Conform.Iso

/-- Why a text is no day or time: it has not the form, or a number is out of range. -/
inductive Problem where
  | malformed
  | outOfRange (error : CalendarError)
deriving DecidableEq, Repr

/-- The value of an ASCII digit. -/
def digit? (b : Nat) : Option Nat := if 0x30 ≤ b ∧ b ≤ 0x39 then some (b - 0x30) else none

/-- The number that the first `count` digits spell, and what follows them. -/
def digits? : Nat → List Nat → Option (Nat × List Nat)
  | 0, bytes => some (0, bytes)
  | _ + 1, [] => none
  | count + 1, b :: rest =>
    match digit? b, digits? count rest with
    | some n, some (m, rest') => some (n * Nat.pow 10 count + m, rest')
    | _, _ => none

def bytesOf (text : String) : List Nat := text.toUTF8.toList.map UInt8.toNat

def hyphen : Nat := 0x2D

def weekMark : Nat := 0x57

/-- The day of a week, from the numbers of the year, the week and the day. The week of a year
before the first has no month. -/
def ofWeek (year week weekday : Nat) : Except Problem (Except CalendarError Date) :=
  if week < 1 ∨ 53 < week ∨ (week = 53 ∧ (year = 0 ∨ !Date.hasLongYear year)) then
    .error .malformed
  else if weekday < 1 ∨ 7 < weekday then .error .malformed
  else if year = 0 then .ok (.error .month)
  else
    let d := Date.ofOrdinal (Date.firstMonday year + (week - 1) * 7 + weekday - 1)
    .ok (Date.make d.year d.month d.day)

/-- The rest after a hyphen, or the text itself where no hyphens are used. -/
def skipHyphen? (hyphens : Bool) : List Nat → Option (List Nat)
  | b :: rest => if hyphens then (if b = hyphen then some rest else none) else some (b :: rest)
  | [] => if hyphens then none else some []

/-- The day that the bytes start with. What comes after its last digit is not looked at. -/
def readDate (bytes : List Nat) : Except Problem (Except CalendarError Date) := do
  let some (year, rest) := digits? 4 bytes | throw .malformed
  let hyphens := rest.head? == some hyphen
  let rest := if hyphens then rest.tail else rest
  if rest.head? = some weekMark then
    let some (week, rest) := digits? 2 rest.tail | throw .malformed
    if rest.isEmpty then ofWeek year week 1
    else
      let some rest := skipHyphen? hyphens rest | throw .malformed
      let some (weekday, _) := digits? 1 rest | throw .malformed
      ofWeek year week weekday
  else
    let some (month, rest) := digits? 2 rest | throw .malformed
    let some rest := skipHyphen? hyphens rest | throw .malformed
    let some (day, _) := digits? 2 rest | throw .malformed
    pure (Date.make year month day)

/-- A time of day, or the size of an offset, as it is written. -/
structure Clock where
  hour : Nat
  minute : Nat
  second : Nat
  microsecond : Nat
  /-- Whether something follows that was not read. -/
  unread : Bool

/-- The fraction of a second: at most six digits count and further ones are passed over. -/
def readFraction (followed : Bool) (rest : List Nat) : Option (Nat × Bool) :=
  let count := min rest.length 6
  (digits? count rest).map fun (n, rest) =>
    (n * Nat.pow 10 (6 - count), followed || !(rest.dropWhile fun b => (digit? b).isSome).isEmpty)

/-- The next two-digit parts of a clock and the fraction after them. Between the parts stands a
colon, or nothing if `colons` says so; a point or a comma starts the fraction at once. -/
def readParts (followed : Bool) : Nat → Option Bool → List Nat → Option (List Nat × Nat × Bool)
  | 0, _, rest => (readFraction followed rest).map fun (fraction, unread) => ([], fraction, unread)
  | count + 1, colons?, bytes =>
    match digits? 2 bytes with
    | none => none
    | some (n, []) => some ([n], 0, followed)
    | some (n, [_]) => some ([n], 0, true)
    | some (n, c :: rest) =>
      let colons := colons?.getD (c == 0x3A)
      if colons && c == 0x3A then
        (readParts followed count (some colons) rest).map fun (parts, tail) => (n :: parts, tail)
      else if c == 0x2E || c == 0x2C then
        (readFraction followed rest).map fun (fraction, unread) => ([n], fraction, unread)
      else if !colons then
        (readParts followed count (some colons) (c :: rest)).map fun (parts, tail) =>
          (n :: parts, tail)
      else none

/-- The clock that the bytes spell; `followed` says whether more bytes come after them. -/
def readClock (followed : Bool) (bytes : List Nat) : Option Clock :=
  (readParts followed 3 none bytes).map fun (parts, fraction, unread) =>
    ⟨parts.getD 0 0, parts.getD 1 0, parts.getD 2 0, fraction, unread⟩

/-- The microseconds of a clock, any numbers being allowed. -/
def Clock.length (c : Clock) : Nat :=
  ((c.hour * 60 + c.minute) * 60 + c.second) * 1000000 + c.microsecond

def startsOffset (b : Nat) : Bool := b == 0x2B || b == hyphen || b == 0x5A

/-- The clock and the offset that the bytes spell. An offset of no whole second is universal
time. -/
def readTime (bytes : List Nat) : Option (Clock × Option Int) :=
  let (first, more) := (bytes.take 1, bytes.drop 1)
  let (before, from?) :=
    if first.any startsOffset then ([], bytes)
    else (first ++ more.takeWhile (!startsOffset ·), more.dropWhile (!startsOffset ·))
  match readClock (!from?.isEmpty) before, from? with
  | none, _ => none
  | some clock, [] => if clock.unread then none else some (clock, none)
  | some clock, sign :: rest =>
    if sign = 0x5A then if rest.isEmpty then some (clock, some 0) else none
    else match readClock false rest with
      | some size =>
        let length : Int := size.length
        if size.unread then none
        else if length < 1000000 then some (clock, some 0)
        else some (clock, some (if sign = hyphen then -length else length))
      | none => none

/-- Where the day ends in a text with a time of day. -/
def dateLength (bytes : List Nat) : Nat :=
  let isDigitAt (i : Nat) : Bool := (bytes[i]?.bind digit?).isSome
  if bytes.length = 7 then 7
  else if bytes[4]? = some hyphen then
    if bytes[5]? = some weekMark then
      if bytes[8]? = some hyphen then
        if isDigitAt 10 then 8 else 10
      else 8
    else 10
  else if bytes[4]? = some weekMark then
    let after := 7 + ((bytes.drop 7).takeWhile fun b => (digit? b).isSome).length
    if after < 9 then after else if after % 2 = 0 then 7 else 8
  else 8

/-- The number of bytes of the character that starts with this byte. -/
def characterLength (b : Nat) : Nat :=
  if b < 0x80 then 1 else if b < 0xE0 then 2 else if b < 0xF0 then 3 else 4

def readDateTime (text : String) : Except Problem DateTime := do
  let bytes := bytesOf text
  if bytes.length < 7 then throw .malformed
  let size := dateLength bytes
  let date ← readDate (bytes.take size)
  let rest := bytes.drop size
  let build (clock : Clock) (offset : Option Int) : Except Problem DateTime :=
    (DateTime.make date clock.hour clock.minute clock.second clock.microsecond offset).mapError
      .outOfRange
  match rest with
  | [] => build ⟨0, 0, 0, 0, false⟩ none
  | separator :: _ =>
    match readTime (rest.drop (characterLength separator)) with
    | none => throw .malformed
    | some (clock, offset) => build clock offset

/-- Whether the text has the length of a day and starts with one. -/
def isDate (text : String) : Bool :=
  let bytes := bytesOf text
  if bytes.length = 7 ∨ bytes.length = 8 ∨ bytes.length = 10 then
    match readDate bytes with
    | .ok (.ok _) => true
    | _ => false
  else false

end Conform.Iso
