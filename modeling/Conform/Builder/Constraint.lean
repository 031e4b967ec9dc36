import Conform.Builder.Basic

/-
  The constraints that builders offer, and the validators that they stand for. Making one can
  fail: bounds must be in order and expressions must compile.
-/

namespace Conform.Builder

/-- A constraint that can be added to a chain. -/
inductive Constraint where
  | validator (v : Validator)
  | oneOf (options : List Value)
  | equal (expected : Value)
  | length (bounds : List Validator)
  | minLength (low : Value)
  | maxLength (high : Value)
  | lengthBetween (low high : Value)
  | empty
  | contains (item : Value)
  | isTrue
  | isFalse
  | related (r : Relation) (limit : Value)
  | between (low high : Value)
  /-- A text in which an expression occurs, by the check that compiling it has made. -/
  | matching (check : Except Fault Predicate)
  | formatted (format : TextFormat)
  | numberString
  | schema (fields : Schema)
  | strictSchema (fields : Schema)
  | containsKey (key : Value)
  | dated (check : DateCheck)
  | datedBetween (start finish : Value) (inclusiveStart inclusiveEnd : Bool)
  | jsonContainer
  | jsonObject
  | jsonArray
  | jsonKeys (keys : List Value)
  | jsonLength (low high : Option Value)
  | jsonEach (item : Validator)
  | each (item : Validator)

namespace Constraint

/-- The group of steps that the constraint belongs to. -/
def feature : Constraint → Feature
  | .validator _ | .oneOf _ | .equal _ => .basic
  | .length _ | .minLength _ | .maxLength _ | .lengthBetween _ _ => .lengths
  | .empty => .emptiness
  | .contains _ => .contents
  | .isTrue | .isFalse => .truth
  | .related _ _ | .between _ _ => .order
  | .matching _ | .formatted _ | .numberString => .text
  | .schema _ | .strictSchema _ | .containsKey _ => .map
  | .dated _ | .datedBetween _ _ _ _ => .time
  | .jsonContainer | .jsonObject | .jsonArray | .jsonKeys _ | .jsonLength _ _ | .jsonEach _ =>
    .json
  | .each _ => .items

/-- The message of a constraint if none is given. Only truth values have one of their own. -/
def usualMessage : Constraint → Option Value
  | .isTrue => some (.str "true")
  | .isFalse => some (.str "false")
  | _ => none

def bounds (low high : Option Value) : List Validator :=
  (low.map fun x => .isRelated .ge x none).toList
    ++ (high.map fun x => .isRelated .le x none).toList

def validator? : Constraint → Except Fault Validator
  | .validator v => .ok v
  | .oneOf options => .ok (.isOneOf options none)
  | .equal expected => .ok (.isEqual expected none)
  | .length bounds => .ok (.length bounds none)
  | .minLength low => .ok (.length [.isRelated .ge low none] none)
  | .maxLength high => .ok (.length [.isRelated .le high none] none)
  | .lengthBetween low high => do
    let range ← Validator.isInRange low high none
    pure (.length [range] none)
  | .empty => .ok (.isEmpty none)
  | .contains item => .ok (.contains item none)
  | .isTrue => .ok (.isEqual (.bool true) none)
  | .isFalse => .ok (.isEqual (.bool false) none)
  | .related r limit => .ok (.isRelated r limit none)
  | .between low high => Validator.isInRange low high none
  | .matching check => check.map fun p => .ofPredicate p none
  | .formatted format => .ok (.hasFormat format none)
  | .numberString => .ok (.isNumberString none)
  | .schema fields => .ok (.mapOf fields none)
  | .strictSchema fields => .ok (.strictMapOf fields none)
  | .containsKey key => .ok (.containsKey key none)
  | .dated check => .ok (.isDate check none)
  | .datedBetween start finish inclusiveStart inclusiveEnd =>
    Validator.isDateBetween start finish inclusiveStart inclusiveEnd none
  | .jsonContainer => .ok (.anyOf [.isMap none, .isList none] none)
  | .jsonObject => .ok (.isMap none)
  | .jsonArray => .ok (.isList none)
  | .jsonKeys keys =>
    .ok (.allOf (.isMap none :: keys.map fun key => .containsKey key none) none true)
  | .jsonLength low high => .ok (.and (.isList none) (.length (bounds low high) none))
  | .jsonEach item => .ok (.listEach item none)
  | .each item => .ok (.listEach item none)

end Constraint
end Conform.Builder
