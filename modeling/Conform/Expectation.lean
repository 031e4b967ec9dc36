import Conform.Value.Literal

/-
  Expectations: what a value was expected to be and is not. An expectation has a message for
  readers, a code for programs, the value, its place inside the value that was validated and the
  data that the message was made from.
-/

namespace Conform

/-- Named values that go with a message, in a fixed order. -/
abbrev Details := List (String × Value)

/-- What is wrong with a value. The message is nearly always text, but a definition may put any
value in its place. -/
structure Expectation where
  message : Value
  value : Value := .null
  path : Option String := none
  code : Option String := none
  data : Option Details := none
deriving Inhabited, Repr

inductive Code where
  | typeMismatch
  | equalMismatch
  | membershipMismatch
  | rangeOutOfBounds
  | lengthOutOfRange
  | containsMissing
  | patternMismatch
  | formatInvalid
  | dateOutOfRange
  | coercionFailed
  | mapFieldFailed
  | unknownKey
  | listItemFailed
  | missingKey
  | notExpected
  | noneMatched
  | whenOutsideSchema
  | predicateFailed
deriving DecidableEq, Repr

namespace Code

/-- The text of a code: its domain and the issue. -/
def text : Code → String
  | .typeMismatch => "type.mismatch"
  | .equalMismatch => "value.equal_mismatch"
  | .membershipMismatch => "value.membership_mismatch"
  | .rangeOutOfBounds => "value.range_out_of_bounds"
  | .lengthOutOfRange => "value.length_out_of_range"
  | .containsMissing => "value.contains_missing"
  | .patternMismatch => "value.pattern_mismatch"
  | .formatInvalid => "value.format_invalid"
  | .dateOutOfRange => "value.date_out_of_range"
  | .coercionFailed => "value.coercion_failed"
  | .mapFieldFailed => "structure.map_field_failed"
  | .unknownKey => "structure.unknown_key"
  | .listItemFailed => "structure.list_item_failed"
  | .missingKey => "structure.missing_key"
  | .notExpected => "logic.not_expected"
  | .noneMatched => "logic.none_matched"
  | .whenOutsideSchema => "logic.when_outside_schema"
  | .predicateFailed => "logic.predicate_failed"

/-- Every code. -/
def all : List Code := [
  .typeMismatch, .equalMismatch, .membershipMismatch, .rangeOutOfBounds, .lengthOutOfRange,
  .containsMissing, .patternMismatch, .formatInvalid, .dateOutOfRange, .coercionFailed,
  .mapFieldFailed, .unknownKey, .listItemFailed, .missingKey, .notExpected, .noneMatched,
  .whenOutsideSchema, .predicateFailed]

theorem mem_all (code : Code) : code ∈ all := by cases code <;> decide

theorem text_ne_empty (code : Code) : code.text ≠ "" := by cases code <;> decide

end Code

def nonEmpty? (text : Option String) : Option String := text.filter (· != "")

def firstNonEmpty (text fallback : Option String) : Option String :=
  match nonEmpty? text with
  | some t => some t
  | none => fallback

/-- A message that replaces others, unless it counts as false. -/
def replacing? (message : Option Value) : Option Value := message.filter Value.isTruthy

/-- The message given, or the other one if none is given or the one given counts as false. -/
def messageOr (message : Option Value) (fallback : Value) : Value :=
  (replacing? message).getD fallback

namespace Expectation

/-- The same expectation one level further out: its place now starts with the segment. -/
def under (segment : String) (e : Expectation) : Expectation :=
  { e with path := some (segment ++ e.path.getD "") }

/-- The message, with the place in front if there is one. -/
def description (e : Expectation) : Value :=
  match nonEmpty? e.path with
  | some path => .str (path ++ ": " ++ e.message.display)
  | none => e.message

/-- Whether the message can be shown behind a place, if there is one. -/
def isDescribable (e : Expectation) : Bool :=
  (nonEmpty? e.path).isNone || e.message.isShowable

/-- The expectation as a map, without the parts that are not there. -/
def toMap (e : Expectation) : Value :=
  let optionalText (key : String) : Option String → List (Value × Value)
    | some s => [(.str key, .str s)]
    | none => []
  .map ([(.str "message", e.message)]
    ++ optionalText "code" e.code ++ optionalText "path" e.path
    ++ (if e.value.isNull then [] else [(.str "value", e.value)])
    ++ (match e.data with
      | some (detail :: details) =>
        [(.str "data", .map ((detail :: details).map fun (key, x) => (.str key, x)))]
      | _ => []))

theorem under_under (s t : String) (e : Expectation) :
    (e.under t).under s = e.under (s ++ t) := by
  simp [under, String.append_assoc]

end Expectation
end Conform
