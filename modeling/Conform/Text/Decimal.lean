/-
  Whole numbers in decimal and hexadecimal digits. Text with the decimal digits of a whole number
  is limited in length, in reading as well as in showing values.
-/

namespace Conform.Text

/-- The number in decimal digits, without leading zeros. -/
def decimal (n : Nat) : String := String.ofList (Nat.toDigits 10 n)

/-- The number in decimal digits after a minus sign if it is negative. -/
def signedDecimal : Int → String
  | .ofNat n => decimal n
  | .negSucc n => "-" ++ decimal (n + 1)

/-- The number in decimal digits, with zeros in front up to the given width. -/
def paddedDecimal (width n : Nat) : String :=
  let digits := Nat.toDigits 10 n
  String.ofList (List.replicate (width - digits.length) '0' ++ digits)

/-- The number in small hexadecimal digits, with zeros in front up to the given width. -/
def paddedHex (width n : Nat) : List Char :=
  let digits := Nat.toDigits 16 n
  List.replicate (width - digits.length) '0' ++ digits

/-- The greatest number of decimal digits of a whole number in text. -/
def maxDigits : Nat := 4300

/-- The least size of a whole number that has too many digits to be shown. -/
def tooLong : Nat := Nat.pow 10 maxDigits

/-- The message about a whole number with too many digits, whose number is given if it is known. -/
def tooManyDigitsMessage (count : Option Nat) : String :=
  "Exceeds the limit (4300 digits) for integer string conversion"
    ++ (match count with
      | some n => ": value has " ++ decimal n ++ " digits"
      | none => "")
    ++ "; use sys.set_int_max_str_digits() to increase the limit"

/-- The value of a hexadecimal digit in either case. -/
def hexValue? (c : Char) : Option Nat :=
  if '0' ≤ c ∧ c ≤ '9' then some (c.toNat - 0x30)
  else if 'a' ≤ c ∧ c ≤ 'f' then some (c.toNat - 0x61 + 10)
  else if 'A' ≤ c ∧ c ≤ 'F' then some (c.toNat - 0x41 + 10)
  else none

/-- The number that digits of the given base spell, the most significant first. -/
def numberOf (base : Nat) (digits : List Nat) : Nat :=
  digits.foldl (fun n digit => n * base + digit) 0

end Conform.Text
