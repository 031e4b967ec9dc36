import Conform.Value.Literal

/-
  Values written as JSON. A style says whether characters beyond ASCII are escaped and whether a
  value that JSON has no form for is written as its display in quotes or refused.
-/

namespace Conform.Json

open Conform.Text

/-- How values are written. -/
structure Style where
  asciiOnly : Bool
  displayOthers : Bool

/-- ASCII only, and only values that JSON has a form for. -/
def strict : Style := ⟨true, false⟩

/-- All characters as they are, and the display of values that JSON has no form for. -/
def readable : Style := ⟨false, true⟩

/-- Why a value cannot be written: a key or a value of a kind that has no form, or a whole number
with too many digits. -/
inductive PrintProblem where
  | key (kind : Kind)
  | value (kind : Kind)
  | tooManyDigits
deriving DecidableEq, Repr

def PrintProblem.message : PrintProblem → String
  | .key kind => "keys must be str, int, float, bool or None, not " ++ kind.fullName
  | .value kind => "Object of type " ++ kind.name ++ " is not JSON serializable"
  | .tooManyDigits => tooManyDigitsMessage none

def escapeUnit (n : Nat) : List Char := '\\' :: 'u' :: paddedHex 4 n

/-- The escapes of a character, two for one beyond the first plane. -/
def escapeCode (c : Char) : List Char :=
  if c.toNat < 0x10000 then escapeUnit c.toNat
  else
    let n := c.toNat - 0x10000
    escapeUnit (0xD800 + n / 0x400) ++ escapeUnit (0xDC00 + n % 0x400)

def writeChar (style : Style) (c : Char) : List Char :=
  if c == '"' then ['\\', '"']
  else if c == '\\' then ['\\', '\\']
  else if c == '\n' then ['\\', 'n']
  else if c == '\r' then ['\\', 'r']
  else if c == '\t' then ['\\', 't']
  else if c == '\x08' then ['\\', 'b']
  else if c == '\x0c' then ['\\', 'f']
  else if c.toNat < 0x20 ∨ (style.asciiOnly ∧ 0x7F ≤ c.toNat) then escapeCode c
  else [c]

def writeString (style : Style) (s : String) : String :=
  String.ofList ('"' :: s.toList.flatMap (writeChar style) ++ ['"'])

/-- A floating-point number; those that are not finite have names. -/
def writeFloat : Binary64 → String
  | .nan => "NaN"
  | .infinite negative => if negative then "-Infinity" else "Infinity"
  | x => x.text

/-- A truth value. -/
def writeBool (b : Bool) : String := if b then "true" else "false"

/-- A whole number. -/
def writeInt (n : Int) : Except PrintProblem String :=
  if n.natAbs < tooLong then .ok (signedDecimal n) else .error .tooManyDigits

/-- A key: text as it is, and numbers, truth values and the absent value by the text of their
form. -/
def writeKey (style : Style) : Value → Except PrintProblem String
  | .str s => .ok (writeString style s)
  | .int n => (writeInt n).map (writeString style)
  | .float x => .ok (writeString style (writeFloat x))
  | .bool b => .ok (writeString style (writeBool b))
  | .null => .ok (writeString style "null")
  | key => .error (.key key.kind)

/-- A value that JSON has no form for. -/
def writeOther (style : Style) (x : Value) : Except PrintProblem String :=
  if style.displayOthers then .ok (writeString style x.display) else .error (.value x.kind)

mutual

/-- A value in its form, or the first problem found in it. -/
def write (style : Style) : Value → Except PrintProblem String
  | .null => .ok "null"
  | .bool b => .ok (writeBool b)
  | .int n => writeInt n
  | .float x => .ok (writeFloat x)
  | .str s => .ok (writeString style s)
  | .list xs => do
    let texts ← writeItems style xs
    pure ("[" ++ joinWith ", " texts ++ "]")
  | .tuple xs => do
    let texts ← writeItems style xs
    pure ("[" ++ joinWith ", " texts ++ "]")
  | .map entries => do
    let texts ← writeEntries style entries
    pure ("\x7b" ++ joinWith ", " texts ++ "\x7d")
  | .bytes b => writeOther style (.bytes b)
  | .set xs => writeOther style (.set xs)
  | .frozenset xs => writeOther style (.frozenset xs)
  | .datetime t => writeOther style (.datetime t)
  | .date d => writeOther style (.date d)

def writeItems (style : Style) : List Value → Except PrintProblem (List String)
  | [] => .ok []
  | x :: xs => do
    let text ← write style x
    let texts ← writeItems style xs
    pure (text :: texts)

def writeEntries (style : Style) : List (Value × Value) → Except PrintProblem (List String)
  | [] => .ok []
  | (key, x) :: rest => do
    let keyText ← writeKey style key
    let text ← write style x
    let texts ← writeEntries style rest
    pure ((keyText ++ ": " ++ text) :: texts)

end

end Conform.Json
