import Conform.Result
import Conform.Text.Decimal
import Conform.Value.Pretty

/-
  Reports on results: the report of several lines that names the value and lists what is wrong
  with it, and a summary in one line.
-/

namespace Conform

/-- The first items up to a limit; a negative limit leaves that many items out at the end. -/
def takeUpTo {α : Type} (limit : Int) (items : List α) : List α :=
  items.take (if limit < 0 then items.length - limit.natAbs else limit.toNat)

def Details.toValue (details : Details) : Value := .map (details.map fun (key, x) => (.str key, x))

def texts? (values : List Value) : Option (List String) :=
  values.mapM fun x => match x with
    | .str s => some s
    | _ => none

namespace Result

/-- The value in a report, cut off after a number of characters. -/
def shownValue (limit : Int) (x : Value) : String :=
  let text := x.pretty.toList
  if limit < text.length then String.ofList (takeUpTo limit text) ++ "…" else String.ofList text

def reportLine (number : Nat) (e : Expectation) : String :=
  "  " ++ Text.decimal number ++ ") " ++ e.description.display
    ++ (match e.code with
      | some code => " [code=" ++ code ++ "]"
      | none => "")
    ++ (match e.data with
      | some (detail :: details) =>
        " \x7bdata=" ++ (Details.toValue (detail :: details)).literal ++ "\x7d"
      | _ => "")

/-- The lines of a report for expectations numbered from the given number on. -/
def reportLines : Nat → List Expectation → List String
  | _, [] => []
  | number, e :: rest => reportLine number e :: reportLines (number + 1) rest

/-- The report on an invalid result. The value is cut off after `maxValueLength` characters and
only the first `maxErrors` expectations are listed. -/
def report (r : Result) (maxValueLength maxErrors : Int) : String :=
  let count := r.expectations.length
  let shown := takeUpTo maxErrors r.expectations
  let hidden := count - shown.length
  Text.joinWith "\n" (
    ("Validation failed (errors: " ++ Text.decimal count ++ ") for value ("
      ++ r.value.kindName ++ "): " ++ shownValue maxValueLength r.value)
    :: reportLines 1 shown
    ++ (if hidden = 0 then [] else ["  … (" ++ Text.decimal hidden ++ " more not shown)"]))

/-- Whether the value and what is listed of the expectations can be shown. -/
def isReportable (r : Result) (maxErrors : Int) : Bool :=
  r.value.isShowable && (takeUpTo maxErrors r.expectations).all fun e =>
    e.message.isShowable && ((e.data.getD []).map (·.2)).all Value.isShowable

def usualMaxValueLength : Int := 120

/-- The usual limit on the number of expectations. -/
def usualMaxErrors : Int := 20

def standardReport (r : Result) : String := r.report usualMaxValueLength usualMaxErrors

/-- How many expectations were not met by a value of which kind. -/
def summary (r : Result) : String :=
  "ValidatorFailed(errors=" ++ Text.decimal r.expectations.length ++ ", type="
    ++ r.value.kindName ++ ")"

def codes (r : Result) : List String := r.expectations.filterMap fun e => nonEmpty? e.code

end Result
end Conform
