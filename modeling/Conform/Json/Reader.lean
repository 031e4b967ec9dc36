import Conform.Binary64.Reading
import Conform.Text.Split
import Conform.Value.Entries

/-
  Values read from JSON. The names of the numbers that are not finite are accepted, a repeated key
  keeps its first place and its last value, and half of a surrogate pair is read as a replacement
  character. A problem says how much of the text was left when it was noticed.
-/

namespace Conform.Json

open Conform.Text

/-- What is wrong with a text. -/
inductive Complaint where
  | value
  | propertyName
  | colon
  | comma
  | unterminated
  | control
  | escape
  | unicodeEscape
  | extra
  | byteOrderMark
deriving DecidableEq, Repr

def Complaint.words : Complaint → String
  | .value => "Expecting value"
  | .propertyName => "Expecting property name enclosed in double quotes"
  | .colon => "Expecting ':' delimiter"
  | .comma => "Expecting ',' delimiter"
  | .unterminated => "Unterminated string starting at"
  | .control => "Invalid control character at"
  | .escape => "Invalid \\escape"
  | .unicodeEscape => "Invalid \\uXXXX escape"
  | .extra => "Extra data"
  | .byteOrderMark => "Unexpected UTF-8 BOM (decode using utf-8-sig)"

/-- Why a text is no JSON: a complaint at the place where the given number of characters is left,
or a whole number with too many digits. -/
inductive Problem where
  | malformed (complaint : Complaint) (remaining : Nat)
  | tooManyDigits (count : Nat)
deriving DecidableEq, Repr

/-- The message of a problem with the given text: lines and columns are counted from one. -/
def Problem.message (text : List Char) : Problem → String
  | .tooManyDigits count => tooManyDigitsMessage (some count)
  | .malformed complaint remaining =>
    let position := text.length - remaining
    let before := text.take position
    let line := before.count '\n' + 1
    let column := (before.reverse.takeWhile (· != '\n')).length + 1
    complaint.words ++ ": line " ++ decimal line ++ " column " ++ decimal column ++ " (char "
      ++ decimal position ++ ")"

/-- A complaint at the start of the given rest of the text. -/
def complain {α : Type} (complaint : Complaint) (rest : List Char) : Except Problem α :=
  .error (.malformed complaint rest.length)

/-- The characters that may stand between the parts. -/
def isSpace (c : Char) : Bool := c == ' ' || c == '\t' || c == '\n' || c == '\r'

def skipSpace (text : List Char) : List Char := text.dropWhile isSpace

/-- The character that a letter after a backslash stands for. -/
def simpleEscape? (c : Char) : Option Char :=
  match c with
  | '"' => some '"'
  | '\\' => some '\\'
  | '/' => some '/'
  | 'b' => some '\x08'
  | 'f' => some '\x0c'
  | 'n' => some '\n'
  | 'r' => some '\r'
  | 't' => some '\t'
  | _ => none

/-- The code unit of four hexadecimal digits. -/
def hexUnit? (a b c d : Char) : Option Nat := do
  let i ← hexValue? a
  let j ← hexValue? b
  let k ← hexValue? c
  let l ← hexValue? d
  pure (numberOf 16 [i, j, k, l])

/-- The codes of a string up to its closing quote, and what follows; `opening` is the text from
the opening quote on. -/
def readUnits (opening : List Char) : List Char → Except Problem (List Nat × List Char)
  | [] => complain .unterminated opening
  | '"' :: rest => .ok ([], rest)
  | ['\\'] => complain .unterminated opening
  | '\\' :: 'u' :: a :: b :: c :: d :: rest =>
    match hexUnit? a b c d, rest with
    | some unit, _ :: _ => do
      let (units, after) ← readUnits opening rest
      pure (unit :: units, after)
    | _, _ => complain .unicodeEscape ('u' :: a :: b :: c :: d :: rest)
  | '\\' :: 'u' :: rest => complain .unicodeEscape ('u' :: rest)
  | '\\' :: c :: rest =>
    match simpleEscape? c with
    | some x => do
      let (units, after) ← readUnits opening rest
      pure (x.toNat :: units, after)
    | none => complain .escape ('\\' :: c :: rest)
  | c :: rest =>
    if c.toNat ≤ 0x1F then complain .control (c :: rest)
    else do
      let (units, after) ← readUnits opening rest
      pure (c.toNat :: units, after)

/-- The first half of a pair. -/
def isHighSurrogate (n : Nat) : Bool := 0xD800 ≤ n && n ≤ 0xDBFF

/-- The second half of a pair. -/
def isLowSurrogate (n : Nat) : Bool := 0xDC00 ≤ n && n ≤ 0xDFFF

/-- The characters of codes, surrogate pairs being put together. -/
def charactersOf : List Nat → List Char
  | [] => []
  | [n] => [if isHighSurrogate n || isLowSurrogate n then '\uFFFD' else Char.ofNat n]
  | m :: n :: rest =>
    if isHighSurrogate m && isLowSurrogate n then
      Char.ofNat (0x10000 + (m - 0xD800) * 0x400 + (n - 0xDC00)) :: charactersOf rest
    else if isHighSurrogate m || isLowSurrogate m then '\uFFFD' :: charactersOf (n :: rest)
    else Char.ofNat m :: charactersOf (n :: rest)

/-- A string, its opening quote having been read. -/
def readString (afterQuote : List Char) : Except Problem (String × List Char) := do
  let (units, rest) ← readUnits ('"' :: afterQuote) afterQuote
  pure (String.ofList (charactersOf units), rest)

def isDigit (c : Char) : Bool := '0' ≤ c && c ≤ '9'

def digitValues (digits : List Char) : List Nat := digits.map fun c => c.toNat - 0x30

/-- The digits of the whole part at the start, without leading zeros. -/
def wholeDigits (text : List Char) : List Char :=
  match text with
  | '0' :: _ => ['0']
  | text => text.takeWhile isDigit

/-- The digits after a point, if there are some, and the rest. -/
def takeFraction (text : List Char) : List Char × List Char :=
  match text with
  | '.' :: rest =>
    match rest.takeWhile isDigit with
    | [] => ([], text)
    | digits => (digits, rest.dropWhile isDigit)
  | text => ([], text)

/-- The exponent, if there is one with digits, and the rest. -/
def takeExponent (text : List Char) : Option Int × List Char :=
  match text with
  | e :: rest =>
    if e == 'e' || e == 'E' then
      let (negative, unsigned) := Numeral.takeSign rest
      match unsigned.takeWhile isDigit with
      | [] => (none, text)
      | digits =>
        let n : Int := numberOf 10 (digitValues digits)
        (some (if negative then -n else n), unsigned.dropWhile isDigit)
    else (none, text)
  | [] => (none, [])

/-- A number: whole if it has neither fraction nor exponent. -/
def readNumber (text : List Char) : Except Problem (Value × List Char) :=
  let negative := text.head? == some '-'
  let unsigned := if negative then text.tail else text
  match wholeDigits unsigned with
  | [] => complain .value text
  | whole =>
    let (fraction, afterFraction) := takeFraction (unsigned.drop whole.length)
    let (exponent?, rest) := takeExponent afterFraction
    if fraction.isEmpty && exponent?.isNone then
      if maxDigits < whole.length then .error (.tooManyDigits whole.length)
      else
        let n : Int := numberOf 10 (digitValues whole)
        .ok (.int (if negative then -n else n), rest)
    else
      .ok (.float (Binary64.ofDecimal negative (numberOf 10 (digitValues (whole ++ fraction)))
        (exponent?.getD 0 - fraction.length)), rest)

def names : List (List Char × Value) := [
  ("null".toList, .null), ("true".toList, .bool true), ("false".toList, .bool false),
  ("NaN".toList, .float .nan), ("Infinity".toList, .float (.infinite false)),
  ("-Infinity".toList, .float (.infinite true))]

/-- A name or a number. -/
def readScalar (text : List Char) : Except Problem (Value × List Char) :=
  match names.findSome? fun (name, x) => (afterStart? name text).map fun rest => (x, rest) with
  | some read => .ok read
  | none => readNumber text

mutual

/-- The value at the start of the text and what follows. Of any two steps in a row one uses up a
character, so twice the length of the text is fuel enough. -/
def readValue : Nat → List Char → Except Problem (Value × List Char)
  | 0, text => complain .value text
  | fuel + 1, text =>
    match text with
    | '"' :: rest => do
      let (s, after) ← readString rest
      pure (.str s, after)
    | '[' :: rest =>
      match skipSpace rest with
      | ']' :: after => .ok (.list [], after)
      | items => do
        let (xs, after) ← readItems fuel items
        pure (.list xs, after)
    | '\x7b' :: rest =>
      match skipSpace rest with
      | '\x7d' :: after => .ok (.map [], after)
      | members => do
        let (pairs, after) ← readMembers fuel members
        pure (.map (Entries.ofPairs pairs), after)
    | text => readScalar text

/-- The items up to the closing bracket. -/
def readItems : Nat → List Char → Except Problem (List Value × List Char)
  | 0, text => complain .value text
  | fuel + 1, text => do
    let (x, rest) ← readValue fuel text
    match skipSpace rest with
    | ']' :: after => pure ([x], after)
    | ',' :: more => do
      let (xs, after) ← readItems fuel (skipSpace more)
      pure (x :: xs, after)
    | rest => complain .comma rest

/-- The members up to the closing brace. -/
def readMembers : Nat → List Char → Except Problem (List (Value × Value) × List Char)
  | 0, text => complain .propertyName text
  | fuel + 1, text =>
    match text with
    | '"' :: rest => do
      let (key, rest) ← readString rest
      match skipSpace rest with
      | ':' :: rest => do
        let (x, rest) ← readValue fuel (skipSpace rest)
        match skipSpace rest with
        | '\x7d' :: after => pure ([(.str key, x)], after)
        | ',' :: more => do
          let (pairs, after) ← readMembers fuel (skipSpace more)
          pure ((.str key, x) :: pairs, after)
        | rest => complain .comma rest
      | rest => complain .colon rest
    | text => complain .propertyName text

end

def readChars (text : List Char) : Except Problem Value :=
  if text.head? = some '\uFEFF' then complain .byteOrderMark text
  else do
    let (x, rest) ← readValue (2 * text.length + 2) (skipSpace text)
    match skipSpace rest with
    | [] => pure x
    | rest => complain .extra rest

/-- The value that the text spells, or the message about what is wrong with it. -/
def read (text : String) : Except Problem Value := readChars text.toList

end Conform.Json
