import Conform.Binary64.Basic
import Conform.Text.Blank
import Conform.Text.Decimal
import Conform.Text.DecimalDigit

/-
  Numbers read from text. Blanks around the number are passed over, digits of every script count,
  and single low lines may stand between digits. Text of ASCII characters alone has a smaller
  class of blanks: the tab, the line breaks and the space.
-/

namespace Conform.Numeral

open Conform.Text

/-- The text with blanks and digits from beyond ASCII replaced by the space and the ASCII digits;
any other character from there can be part of no number. -/
def normalize (text : List Char) : List Char :=
  text.map fun c =>
    if c.toNat < 0x80 then c
    else if isBlank c then ' '
    else match digitValue? c with
      | some n => Nat.digitChar n
      | none => '?'

/-- Whether the character may surround a number. -/
def isPadding (c : Char) : Bool := c == ' ' || (0x09 ≤ c.toNat && c.toNat ≤ 0x0D)

/-- The normalized text without the padding at its ends. -/
def bare (text : List Char) : List Char :=
  (((normalize text).dropWhile isPadding).reverse.dropWhile isPadding).reverse

def takeSign : List Char → Bool × List Char
  | '-' :: rest => (true, rest)
  | '+' :: rest => (false, rest)
  | text => (false, text)

def asciiDigit? (c : Char) : Option Nat :=
  if '0' ≤ c ∧ c ≤ '9' then some (c.toNat - 0x30) else none

/-- The digits at the start, with single low lines between them, and the rest. -/
def takeDigits : List Char → List Nat × List Char
  | [] => ([], [])
  | '_' :: c :: rest => ([], '_' :: c :: rest)
  | c :: '_' :: d :: rest =>
    match asciiDigit? c, asciiDigit? d with
    | some n, some _ =>
      let (digits, rest') := takeDigits (d :: rest)
      (n :: digits, rest')
    | some n, none => ([n], '_' :: d :: rest)
    | none, _ => ([], c :: '_' :: d :: rest)
  | c :: rest =>
    match asciiDigit? c with
    | some n =>
      let (digits, rest') := takeDigits rest
      (n :: digits, rest')
    | none => ([], c :: rest)

/-- A whole number with an optional sign; the digits are given with it. -/
def wholeNumber? (text : List Char) : Option (Bool × List Nat) :=
  let (negative, unsigned) := takeSign (bare text)
  match takeDigits unsigned with
  | ([], _) => none
  | (digits, []) => some (negative, digits)
  | _ => none

/-- The exponent after a number; zero if there is none. -/
def exponent? : List Char → Option Int
  | [] => some 0
  | e :: rest =>
    if e == 'e' || e == 'E' then
      let (negative, unsigned) := takeSign rest
      match takeDigits unsigned with
      | ([], _) => none
      | (digits, []) =>
        let n : Int := numberOf 10 digits
        some (if negative then -n else n)
      | _ => none
    else none

def unsignedDecimal? (negative : Bool) (text : List Char) : Option Binary64 := do
  let (whole, afterWhole) := takeDigits text
  let (fraction, afterFraction) := match afterWhole with
    | '.' :: rest => takeDigits rest
    | rest => ([], rest)
  if whole.isEmpty && fraction.isEmpty then none
  else
    let exponent ← exponent? afterFraction
    pure (Binary64.ofDecimal negative (numberOf 10 (whole ++ fraction))
      (exponent - fraction.length))

/-- A floating-point number: a decimal, an infinity or no number by name, in either case. -/
def float? (text : List Char) : Option Binary64 :=
  let (negative, unsigned) := takeSign (bare text)
  let name := String.ofList (unsigned.map Char.toLower)
  if name == "inf" || name == "infinity" then some (.infinite negative)
  else if name == "nan" then some .nan
  else unsignedDecimal? negative unsigned

end Conform.Numeral
