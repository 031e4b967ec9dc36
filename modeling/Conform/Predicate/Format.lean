import Conform.Binary64.Reading
import Conform.Calendar.Iso
import Conform.Pattern.Matching
import Conform.Text.Case
import Conform.Text.Split
import Conform.Url

/-
  Formats of text: numbers, truth values, days and times as text, addresses of mail and of the web,
  and text in small or capital letters.
-/

namespace Conform.Format

open Conform.Text

/-- Whether the text is a whole number with an optional sign: digits of any script, and blanks
only around it. -/
def isIntText (text : List Char) : Bool :=
  match trim text with
  | [] => false
  | c :: rest =>
    let digits := if c == '+' || c == '-' then rest else c :: rest
    !digits.isEmpty && digits.all isDecimalDigit

def isFloatText (text : List Char) : Bool := (Numeral.float? text).isSome

/-- The text without blanks around it, in small letters. -/
def plain (text : List Char) : String := String.ofList (lower (trim text))

/-- Whether the text is true or false, in any letters. -/
def isBoolText (text : List Char) : Bool := ["true", "false"].contains (plain text)

def trueTexts : List String := ["true", "1", "yes", "y", "on"]

def falseTexts : List String := ["false", "0", "no", "n", "off"]

/-- Whether the text stands for true or false. -/
def isLooseBoolText (text : List Char) : Bool :=
  (trueTexts ++ falseTexts).contains (plain text)

/-- The text with the sign for universal time written as an offset. -/
def withUniversalOffset (text : List Char) : List Char :=
  replaceChar 'Z' "+00:00".toList text

theorem withUniversalOffset_append (cs ds : List Char) :
    withUniversalOffset (cs ++ ds) = withUniversalOffset cs ++ withUniversalOffset ds :=
  List.flatMap_append

theorem withUniversalOffset_letter (cs : List Char) :
    withUniversalOffset ('Z' :: cs) = "+00:00".toList ++ withUniversalOffset cs :=
  rfl

theorem withUniversalOffset_cons {c : Char} (h : c ≠ 'Z') (cs : List Char) :
    withUniversalOffset (c :: cs) = c :: withUniversalOffset cs := by
  rw [withUniversalOffset, replaceChar, List.flatMap_cons, beq_false_of_ne h]
  rfl

/-- Where the letter for universal time does not occur, there is none to replace. -/
theorem withUniversalOffset_of_not_mem {cs : List Char} (h : 'Z' ∉ cs) :
    withUniversalOffset cs = cs := by
  induction cs with
  | nil => rfl
  | cons c cs ih =>
    rw [List.mem_cons, not_or] at h
    rw [withUniversalOffset_cons fun heq => h.1 heq.symm, ih h.2]

/-- Whether the text is a day or a time in the standard form. -/
def isDateText (text : List Char) : Bool :=
  let bare := trim text
  match Iso.readDateTime (String.ofList (withUniversalOffset bare)) with
  | .ok _ => true
  | .error _ => Iso.isDate (String.ofList bare)

/-- One or more characters of the first part of a mail address. -/
def mailName : Pattern :=
  .repeated (.oneOf .exact false
    ([.range 'A' 'Z', .range 'a' 'z', .range '0' '9'] ++
      ".!#$%&'*+/=?^_\x60\x7b|\x7d~-".toList.map fun c => .range c c)) 1 none false

def domainLabel : Pattern :=
  .repeated (.oneOf .exact false
    [.range 'A' 'Z', .range 'a' 'z', .range '0' '9', .range '-' '-']) 1 none false

/-- Two or more letters. -/
def topLabel : Pattern :=
  .repeated (.oneOf .exact false [.range 'A' 'Z', .range 'a' 'z']) 2 none false

/-- The pattern of mail addresses: a name, and a domain of labels with dots between them. -/
def mailAddress : Pattern :=
  .sequence (.lineStart false) <| .sequence mailName <| .sequence (.char .exact '@') <|
    .sequence domainLabel <|
      .sequence (.repeated (.group 1 (.sequence (.char .exact '.') domainLabel)) 0 none false) <|
        .sequence (.char .exact '.') <| .sequence topLabel (.lineEnd false)

/-- Whether the text starts with a mail address that goes up to its end, or up to the line break
at its end. -/
def isEmail (text : List Char) : Bool := mailAddress.matchesStart text

/-- Whether the text has no letter that has another small form. -/
def isLowerCase (text : List Char) : Bool := text == lower text

/-- Whether the text has no letter that has another capital form. -/
def isUpperCase (text : List Char) : Bool := text == upper text

end Conform.Format
