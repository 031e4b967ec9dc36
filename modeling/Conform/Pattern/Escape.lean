import Conform.Pattern.Basic
import Conform.Text.Decimal

/-
  Single characters and classes in the written form of patterns: escapes for characters, for kinds
  of characters and for places, and classes in brackets. Characters that no text can hold, halves
  of a pair of code units, may be written as well. Characters cannot be given by their names.
-/

namespace Conform.Pattern

open Text

/-- The flags that hold where a part of a pattern is read. -/
structure Mode where
  ignoreCase : Bool := false
  everyLine : Bool := false
  breaks : Bool := false
  ascii : Bool := false
  /-- Spaces and comments may stand between the parts. -/
  spaced : Bool := false

def Mode.casing (mode : Mode) : Casing :=
  if !mode.ignoreCase then .exact else if mode.ascii then .ascii else .letters

/-- What a quantifier may follow: it repeats a piece, but neither a place nor another
repetition. -/
inductive TermKind where
  | piece
  | place
  | repetition
deriving DecidableEq

/-- A part of a sequence that is being read. -/
structure Term where
  pattern : Pattern
  kind : TermKind := .piece

/-- The code that is spelled by exactly the given number of hexadecimal digits, and the rest. -/
def hexCode? (count : Nat) (text : List Char) : Option (Nat × List Char) := do
  let digits ← (text.take count).mapM hexValue?
  if digits.length = count then pure (numberOf 16 digits, text.drop count) else none

def octalValue? (c : Char) : Option Nat :=
  if '0' ≤ c ∧ c ≤ '7' then some (c.toNat - 0x30) else none

/-- The octal digits at the start, at most the given number, and the rest. -/
def takeOctal : Nat → List Char → List Nat × List Char
  | 0, text => ([], text)
  | _ + 1, [] => ([], [])
  | count + 1, c :: rest =>
    match octalValue? c with
    | some n =>
      let (digits, rest') := takeOctal count rest
      (n :: digits, rest')
    | none => ([], c :: rest)

/-- The code of an escape that means the same inside and outside of classes, and the rest. -/
def sharedEscape? (c : Char) (rest : List Char) : Option (Nat × List Char) :=
  match c with
  | 'a' => some (0x07, rest)
  | 'f' => some (0x0C, rest)
  | 'n' => some (0x0A, rest)
  | 'r' => some (0x0D, rest)
  | 't' => some (0x09, rest)
  | 'v' => some (0x0B, rest)
  | 'x' => hexCode? 2 rest
  | 'u' => hexCode? 4 rest
  | 'U' => (hexCode? 8 rest).filter (·.1 < 0x110000)
  | c => if c.isAlphanum then none else some (c.toNat, rest)

def kindEscape? (ascii : Bool) (c : Char) : Option ClassItem :=
  match c with
  | 'd' => some (.kind .digit ascii false)
  | 'D' => some (.kind .digit ascii true)
  | 's' => some (.kind .blank ascii false)
  | 'S' => some (.kind .blank ascii true)
  | 'w' => some (.kind .word ascii false)
  | 'W' => some (.kind .word ascii true)
  | _ => none

def placeEscape? (ascii : Bool) (c : Char) : Option Pattern :=
  match c with
  | 'A' => some .textStart
  | 'Z' => some .textEnd
  | 'b' => some (.wordEdge ascii false)
  | 'B' => some (.wordEdge ascii true)
  | _ => none

/-- The range between two codes, without the halves of pairs. -/
def rangeOf (first last : Nat) : ClassItem :=
  let isHalf (code : Nat) := 0xD800 ≤ code && code < 0xE000
  .range (Char.ofNat (if isHalf first then 0xE000 else first))
    (Char.ofNat (if isHalf last then 0xD7FF else last))

/-- The pattern of the character with the code, which describes nothing if there is none. -/
def literal (casing : Casing) (code : Nat) : Pattern :=
  if code.isValidChar then .char casing (.ofNat code)
  else .oneOf casing false [rangeOf code code]

/-- The code of three octal digits at the start, of which the first is not zero, and the rest. -/
def octalEscape? (text : List Char) : Option (Nat × List Char) :=
  match takeOctal 3 text with
  | ([i, j, k], rest) => if i = 0 then none else some (numberOf 8 [i, j, k], rest)
  | _ => none

/-- The number of a group in one or two decimal digits, the first of which is not zero. -/
def groupEscape? (text : List Char) : Option (Nat × List Char) :=
  let digits := (text.take 2).takeWhile Char.isDigit
  if digits.isEmpty || digits.head? == some '0' then none
  else some (numberOf 10 (digits.map fun c => c.toNat - 0x30), text.drop digits.length)

/-- An escape outside of classes. -/
inductive Escape where
  | term (t : Term)
  /-- A reference to the group with a number. -/
  | again (number : Nat)

/-- The escape behind a backslash outside of classes, and the rest. Three octal digits are a
character, others a character only behind a zero, and else a group. -/
def readEscape (mode : Mode) (text : List Char) : Option (Escape × List Char) :=
  let character := fun (code, rest) => (Escape.term ⟨literal mode.casing code, .piece⟩, rest)
  match text with
  | [] => none
  | '0' :: rest =>
    let (digits, rest) := takeOctal 2 rest
    some (character (numberOf 8 digits, rest))
  | c :: rest =>
    match kindEscape? mode.ascii c, placeEscape? mode.ascii c with
    | some item, _ => some (.term ⟨.oneOf mode.casing false [item], .piece⟩, rest)
    | none, some place => some (.term ⟨place, .place⟩, rest)
    | none, none =>
      match octalEscape? (c :: rest), groupEscape? (c :: rest) with
      | some (code, rest), _ => if code ≤ 0xFF then some (character (code, rest)) else none
      | none, some (number, rest) => some (.again number, rest)
      | none, none => (sharedEscape? c rest).map character

/-- An item of a class, which is a single code or a kind of characters. -/
inductive ClassPart where
  | code (n : Nat)
  | item (i : ClassItem)

def ClassPart.toItem : ClassPart → ClassItem
  | .code n => rangeOf n n
  | .item i => i

def readClassEscape (ascii : Bool) (text : List Char) : Option (ClassPart × List Char) :=
  match text with
  | [] => none
  | 'b' :: rest => some (.code 0x08, rest)
  | c :: rest =>
    match kindEscape? ascii c with
    | some item => some (.item item, rest)
    | none =>
      match takeOctal 3 (c :: rest) with
      | ([], _) => (sharedEscape? c rest).map fun (code, rest) => (.code code, rest)
      | (digits, rest) =>
        let code := numberOf 8 digits
        if code ≤ 0xFF then some (.code code, rest) else none

/-- One item of a class, which may be the start of a range, and the rest. -/
def readClassPart (ascii : Bool) (text : List Char) : Option (ClassPart × List Char) :=
  match text with
  | [] => none
  | '\\' :: rest => readClassEscape ascii rest
  | c :: rest => some (.code c.toNat, rest)

/-- The range between two single characters. -/
def rangeBetween? : ClassPart → ClassPart → Option ClassItem
  | .code first, .code last => if first ≤ last then some (rangeOf first last) else none
  | _, _ => none

/-- The items of a class up to its closing bracket, and the rest. A bracket in the first place is
an item, and so is a hyphen before the closing bracket. -/
def readClassItems (ascii : Bool) : Nat → Bool → List Char → Option (List ClassItem × List Char)
  | 0, _, _ => none
  | fuel + 1, isFirst, text =>
    match isFirst, text with
    | false, ']' :: rest => some ([], rest)
    | _, text => do
      let (part, rest) ← readClassPart ascii text
      match rest with
      | '-' :: ']' :: rest => pure ([part.toItem, .range '-' '-'], rest)
      | '-' :: rest => do
        let (last, rest) ← readClassPart ascii rest
        let range ← rangeBetween? part last
        let (items, rest) ← readClassItems ascii fuel false rest
        pure (range :: items, rest)
      | rest => do
        let (items, rest) ← readClassItems ascii fuel false rest
        pure (part.toItem :: items, rest)

/-- A class after its opening bracket, and the rest. -/
def readClass (mode : Mode) (text : List Char) : Option (Term × List Char) := do
  let (negated, body) := match text with
    | '^' :: rest => (true, rest)
    | text => (false, text)
  let (items, rest) ← readClassItems mode.ascii (body.length + 1) true body
  pure (⟨.oneOf mode.casing negated items, .piece⟩, rest)

end Conform.Pattern
