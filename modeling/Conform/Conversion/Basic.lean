import Conform.Conversion.Parsing
import Conform.Structure

/-
  The catalogue of conversions: each has a target, a guard that the value must pass, and a
  function that converts it. The child of a conversion sees the converted value.
-/

namespace Conform

/-- A conversion of a value to another type or form. -/
inductive Conversion where
  | int
  | intStrict
  | intSafe
  | float
  | number
  | bool
  | boolStrict
  | boolLenient
  | str
  | datetime
  | dateOnly
  | json
  | trimmed
  | lowerCase
  | upperCase
  | collapsed
  /-- The pieces of a text between separators, or between blanks if the separator is absent. -/
  | pieces (separator : Value)
deriving Repr

namespace Conversion

open Validator

/-- What the conversion makes of a value, in messages and names. -/
def target : Conversion → String
  | .int | .intStrict | .intSafe => "int"
  | .float => "float"
  | .number => "number"
  | .bool | .boolStrict | .boolLenient => "bool"
  | .str => "str"
  | .datetime => "datetime"
  | .dateOnly => "date"
  | .json => "json"
  | .trimmed => "trimmed string"
  | .lowerCase => "lowercase string"
  | .upperCase => "uppercase string"
  | .collapsed => "collapsed string"
  | .pieces _ => "list"

/-- What a value must be to be converted. -/
def guard : Conversion → Validator
  | .int => anyOf [isKind .int none, isNumber none, hasFormat .int none] none
  | .intStrict | .intSafe => anyOf [isKind .int none, hasFormat .int none] none
  | .float => anyOf [isKind .float none, isNumber none, hasFormat .float none] none
  | .number => anyOf [isNumber none, isNumberString none] none
  | .bool => anyOf [isKind .bool none, isOneOf [.int 0, .int 1] none, hasFormat .bool none] none
  | .boolStrict => anyOf [isKind .bool none, isOneOf [.str "true", .str "false"] none] none
  | .boolLenient =>
    anyOf [isKind .bool none, isOneOf [.int 0, .int 1] none, hasFormat .looseBool none] none
  | .str => ofPredicate .notNull none
  | .datetime | .dateOnly => anyOf [isDay none, isString none] none
  | .json => anyOf [isString none, isMap none, isList none] none
  | .trimmed | .lowerCase | .upperCase | .collapsed | .pieces _ => isString none

/-- The value converted, or the message about why it cannot be. -/
def convert : Conversion → Value → Except String Value
  | .int | .intStrict | .intSafe => toInt
  | .float => toFloat
  | .number => toNumber
  | .bool | .boolStrict => toBool
  | .boolLenient => toLooseBool
  | .str => toText
  | .datetime => toTime
  | .dateOnly => toMidnight
  | .json => ofJson
  | .trimmed => mapText Text.trim
  | .lowerCase => mapText Text.lower
  | .upperCase => mapText Text.upper
  | .collapsed => mapText Text.collapse
  | .pieces separator => toPieces separator

/-- The validator that the converted value must pass, for the given child. -/
def inner : Conversion → Validator → Validator
  | .intSafe, child => and (ofPredicate .safeInt none) child
  | _, child => child

/-- The child on the converted value, with the given message for all failures. -/
def apply (c : Conversion) (child : Validator) (message : Option Value) : Validator :=
  withMessage? message (.coercion c.target c.guard c.convert (c.inner child) {})

end Conversion
end Conform
