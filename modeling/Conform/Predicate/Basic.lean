import Conform.Environment
import Conform.Predicate.Date
import Conform.Predicate.Format
import Conform.Validator.Basic
import Conform.Value.Membership
import Conform.Value.Pretty

/-
  The catalogue of predicates: checks of one value that know what they expect of it. A predicate
  is data; `accepts` decides, and `message`, `code` and `details` say what a value that was
  rejected should have been.
-/

namespace Conform

inductive TypeName where
  | kind (k : Kind)
  /-- Every value has this type. -/
  | object
deriving DecidableEq, Repr

namespace TypeName

def name : TypeName → String
  | .kind k => k.name
  | .object => "object"

def ofName? (name : String) : Option TypeName :=
  if name == "object" then some .object
  else (Kind.all.find? fun k => k.name == name).map .kind

def holds (t : TypeName) (x : Value) : Bool :=
  match t with
  | .kind k => x.kind.countsAs k
  | .object => true

end TypeName

inductive TextFormat where
  | int
  | float
  | bool
  | looseBool
  | date
  | email
  | url (strict : Bool)
  | lowerCase
  | upperCase
deriving DecidableEq, Repr

namespace TextFormat

def holds (format : TextFormat) (text : List Char) : Bool :=
  match format with
  | .int => Format.isIntText text
  | .float => Format.isFloatText text
  | .bool => Format.isBoolText text
  | .looseBool => Format.isLooseBoolText text
  | .date => Format.isDateText text
  | .email => Format.isEmail text
  | .url strict => if strict then Url.isWebUrl text else Url.isUrl text
  | .lowerCase => Format.isLowerCase text
  | .upperCase => Format.isUpperCase text

/-- What the format expects. -/
def message : TextFormat → String
  | .int => "a valid formatted int string"
  | .float => "a valid formatted float string"
  | .bool => "a valid formatted bool string"
  | .looseBool => "a boolean-like string"
  | .date => "a valid ISO 8601 date string"
  | .email => "a valid email address"
  | .url _ => "a valid URL"
  | .lowerCase => "a lowercase string"
  | .upperCase => "an uppercase string"

def name : TextFormat → String
  | .int => "int"
  | .float => "float"
  | .bool => "bool"
  | .looseBool => "bool"
  | .date => "datetime"
  | .email => "email"
  | .url _ => "url"
  | .lowerCase => "lowercase"
  | .upperCase => "uppercase"

end TextFormat

/-- A check of one value. -/
inductive Predicate where
  /-- The value has one of the types, which go by a name; truth values may be left out. -/
  | isType (types : List TypeName) (name : String) (excludeBool : Bool)
  | equal (expected : Value)
  | related (r : Relation) (limit : Value)
  | between (low high : Value)
  | oneOf (options : List Value)
  | contains (item : Value)
  | hasKey (key : Value)
  | matching (e : Expression)
  /-- Something was given for an expression that is none: it cannot be used, but only its use is a
  fault. -/
  | brokenPattern
  | formatted (format : TextFormat)
  | dated (check : DateCheck)
  | safeInt
  | notNull

namespace Predicate

/-- The greatest whole number below which every whole number is a floating-point number. -/
def maxSafeInt : Int := Int.pow 2 53 - 1

/-- Whether a relation holds between two values; false if they have no order. -/
def relatedOrFalse (r : Relation) (x y : Value) : Bool := (x.related r y).getD false

/-- Whether the value passes the check. -/
def accepts (p : Predicate) (x : Value) : Except Fault Bool :=
  match p with
  | .isType types _ excludeBool =>
    .ok (!(excludeBool && x.kind == .bool) && types.any (·.holds x))
  | .equal expected => .ok (x.equals expected)
  | .related r limit => .ok (relatedOrFalse r x limit)
  | .between low high => .ok (relatedOrFalse .le low x && relatedOrFalse .le x high)
  | .oneOf options => .ok (x.isAmong options)
  | .contains item => match x.contains item with
    | .ok b => .ok b
    | .error .unsuited => .ok false
    | .error .byteOutOfRange => .error .byteOutOfRange
  | .hasKey key => match x with
    | .map entries => if key.isHashable then .ok (Entries.hasKey entries key) else .error .wrongType
    | _ => .ok false
  | .matching e => match x with
    | .str s => e.occursIn s
    | _ => .ok false
  | .brokenPattern => match x with
    | .str _ => .error .noSuchMember
    | _ => .ok false
  | .formatted f => match x with
    | .str s => .ok (f.holds s.toList)
    | _ => .ok false
  | .dated check => match x with
    | .datetime t => .ok (check.accepts t)
    | _ => .ok false
  | .safeInt =>
    .ok (relatedOrFalse .le (.int (-maxSafeInt)) x && relatedOrFalse .le x (.int maxSafeInt))
  | .notNull => .ok (!x.isNull)

def relationWords : Relation → String
  | .lt => "less than "
  | .le => "less than or equal to "
  | .gt => "greater than "
  | .ge => "greater than or equal to "

/-- What the check expects. -/
def message : Predicate → String
  | .isType _ name _ => name
  | .equal expected => "equal to " ++ expected.pretty
  | .related r limit => relationWords r ++ limit.pretty
  | .between low high => "between " ++ low.pretty ++ " and " ++ high.pretty ++ " (inclusive)"
  | .oneOf options => "one of: " ++ (Value.list options).pretty
  | .contains item => "contains " ++ item.pretty
  | .hasKey key => "contains key \"" ++ key.display ++ "\""
  | .matching e => "matches pattern " ++ e.source.display
  | .brokenPattern => ""
  | .formatted f => f.message
  | .dated check => check.message
  | .safeInt => "an int within the safe 53-bit range"
  | .notNull => "a non-null value"

/-- The code of the check's failures. -/
def code : Predicate → Code
  | .isType _ _ _ => .typeMismatch
  | .equal _ => .equalMismatch
  | .related _ _ => .rangeOutOfBounds
  | .between _ _ => .rangeOutOfBounds
  | .oneOf _ => .membershipMismatch
  | .contains _ => .containsMissing
  | .hasKey _ => .containsMissing
  | .matching _ => .patternMismatch
  | .brokenPattern => .patternMismatch
  | .formatted _ => .formatInvalid
  | .dated _ => .dateOutOfRange
  | .safeInt => .rangeOutOfBounds
  | .notNull => .typeMismatch

/-- The named values of a failure on a value. -/
def details (p : Predicate) (x : Value) : Details :=
  match p with
  | .isType _ name _ => [("expected", .str name), ("found", .str x.kindName)]
  | .equal expected => [("expected", expected)]
  | .related .lt limit => [("max", limit), ("inclusive", .bool false)]
  | .related .le limit => [("max", limit), ("inclusive", .bool true)]
  | .related .gt limit => [("min", limit), ("inclusive", .bool false)]
  | .related .ge limit => [("min", limit), ("inclusive", .bool true)]
  | .between low high => [("min", low), ("max", high), ("inclusive", .bool true)]
  | .oneOf options => [("options", .list options)]
  | .contains item => [("needle", item)]
  | .hasKey key => [("key", key)]
  | .matching e => [("pattern", e.source)]
  | .brokenPattern => []
  | .formatted f => [("format", .str f.name)]
  | .dated check => check.details
  | .safeInt => [("min", .int (-maxSafeInt)), ("max", .int maxSafeInt)]
  | .notNull => [("expected", .str "not None"), ("found", .str "NoneType")]

def leafName : Predicate → String
  | .isType _ name _ => "is_type(" ++ name ++ ")"
  | .equal _ => "predicate"
  | .related _ _ => "predicate"
  | .between _ _ => "predicate"
  | .contains _ => "predicate"
  | .dated _ => "check"
  | _ => "<lambda>"

/-- The values that are shown in the message. -/
def shown : Predicate → List Value
  | .equal expected => [expected]
  | .related _ limit => [limit]
  | .between low high => [low, high]
  | .oneOf options => options
  | .contains item => [item]
  | .hasKey key => [key]
  | _ => []

/-- Whether the message that says what the check expects can be written. -/
def hasMessage (p : Predicate) : Bool := p.shown.all Value.isShowable

/-- The expectation of a value, with the given message in place of the usual one. -/
def expectation (p : Predicate) (message : Option Value) (x : Value) : Except Fault Expectation :=
  match p with
  | .brokenPattern => .error .noSuchMember
  | p =>
    if (replacing? message).isNone && !p.hasMessage then .error .tooManyDigits
    else .ok
      { message := messageOr message (.str p.message), value := x, code := some p.code.text,
        data := some (p.details x) }

end Predicate

namespace Validator

/-- A leaf from a test and the expectation of the values that it rejects. -/
def leaf (name : String) (accepts : Value → Except Fault Bool)
    (expectation : Value → Except Fault Expectation) : Validator :=
  .function name (fun x => do
    let ok ← Run.ofExcept (accepts x)
    if ok then .done (.success x)
    else do
      let e ← Run.ofExcept (expectation x)
      .done (.refusal x e)) (some expectation) {}

/-- A leaf whose test has to be awaited. -/
def asyncLeaf (name : String) (accepts : Value → Except Fault Bool)
    (expectation : Value → Except Fault Expectation) : Validator :=
  .function name (fun x => .await (Run.awaited do
    let ok ← Run.ofExcept (accepts x)
    if ok then .done (.success x)
    else do
      let e ← Run.ofExcept (expectation x)
      .done (.refusal x e))) (some expectation) {}

/-- The leaf of a predicate, with the given message in place of the usual one. -/
def ofPredicate (p : Predicate) (message : Option Value) : Validator :=
  leaf p.leafName p.accepts (p.expectation message)

/-- The validator that accepts every value as it is. -/
def valid : Validator := .function "valid" (fun x => .done (.success x)) none {}

end Validator
end Conform
