import Conform.Predicate.Basic
import Conform.Validator.Compose

/-
  The validators of the catalogue: one for each predicate, with the checks that a predicate needs
  when it is made. Bounds must be in order, a period must not end before it starts, and a written
  expression must compile.
-/

namespace Conform.Validator

open Predicate

/-! ## Types -/

/-- The value has one of the types. The check goes by the given name or by the names of the
types. -/
def isType (types : List TypeName) (name : Option String) (message : Option Value)
    (excludeBool : Bool) : Validator :=
  ofPredicate (.isType types (name.getD (Text.joinWith " | " (types.map TypeName.name)))
    excludeBool) message

/-- The value has a type, truth values not counting as integers. -/
def isKind (k : Kind) (message : Option Value) : Validator :=
  isType [.kind k] none message (k == .int)

/-- The value is absent. -/
def isNull (message : Option Value) : Validator :=
  isType [.kind .null] (some "None") message false

/-- The value is a number, truth values not counting as one. -/
def isNumber (message : Option Value) : Validator :=
  isType [.kind .int, .kind .float] (some "number") message true

/-- The value is a day or a time. -/
def isDay (message : Option Value) : Validator :=
  isType [.kind .date] (some "date") message false

/-- The value is a list, a tuple or a set. -/
def isIterable (message : Option Value) : Validator :=
  isType [.kind .list, .kind .tuple, .kind .set, .kind .frozenset] (some "iterable") message false

/-- The value is text. -/
def isString (message : Option Value) : Validator := isKind .str message

def isMap (message : Option Value) : Validator := isKind .map message

def isList (message : Option Value) : Validator := isKind .list message

/-! ## Comparisons -/

def isEqual (expected : Value) (message : Option Value) : Validator :=
  ofPredicate (.equal expected) message

def isRelated (r : Relation) (limit : Value) (message : Option Value) : Validator :=
  ofPredicate (.related r limit) message

/-- The value lies between two others, which must have an order and be in it. -/
def isInRange (low high : Value) (message : Option Value) : Except Fault Validator :=
  match low.related .gt high with
  | none => .error .wrongType
  | some true =>
    if low.isShowable && high.isShowable then .error (.boundsReversed low high)
    else .error .tooManyDigits
  | some false => .ok (ofPredicate (.between low high) message)

theorem eq_of_isInRange_eq_ok {low high : Value} {message : Option Value} {v : Validator}
    (h : isInRange low high message = .ok v) : v = ofPredicate (.between low high) message := by
  unfold isInRange at h
  split at h
  · cases h
  · split at h <;> cases h
  · exact (Except.ok.inj h).symm

def isOneOf (options : List Value) (message : Option Value) : Validator :=
  ofPredicate (.oneOf options) message

/-! ## Contents -/

/-- The value has no items. -/
def isEmpty (message : Option Value) : Validator :=
  length [isEqual (.int 0) none] (some (messageOr message (.str "empty")))

def contains (item : Value) (message : Option Value) : Validator :=
  ofPredicate (.contains item) message

def containsKey (key : Value) (message : Option Value) : Validator :=
  ofPredicate (.hasKey key) message

/-! ## Text -/

/-- The value is a text in which an expression occurs. -/
def matchesPattern [Environment] (pattern : GivenExpression) (message : Option Value) :
    Except Fault Validator :=
  pattern.compile.map fun e => ofPredicate (.matching e) message

/-- The check for a pattern that is given as a value. One that is no text can be given, but not be
used. -/
def patternCheck [Environment] (pattern : Value) : Except Fault Predicate :=
  match pattern with
  | .str source => (GivenExpression.written source).compile.map .matching
  | _ => .ok .brokenPattern

/-- What a pattern makes that is given as a value: the check for a compiled expression, or a check
that cannot be used if the pattern is no text. -/
theorem eq_of_patternCheck_eq_ok [Environment] {pattern : Value} {p : Predicate}
    (h : patternCheck pattern = .ok p) :
    (∃ source occursIn, pattern = .str source ∧ Environment.compile source = .ok occursIn ∧
      p = .matching (.text source occursIn)) ∨
    ((∀ source, pattern ≠ .str source) ∧ p = .brokenPattern) := by
  cases pattern with
  | str source =>
    obtain ⟨e, he, rfl⟩ := exists_of_map_eq_ok h
    obtain ⟨occursIn, hcompiled, rfl⟩ := exists_of_map_eq_ok he
    exact .inl ⟨source, occursIn, rfl, hcompiled, rfl⟩
  | _ => exact .inr ⟨fun _ hsame => Value.noConfusion hsame, (Except.ok.inj h).symm⟩

def hasFormat (format : TextFormat) (message : Option Value) : Validator :=
  ofPredicate (.formatted format) message

/-- The value is a text with a number, whole or not. -/
def isNumberString (message : Option Value) : Validator :=
  anyOf [hasFormat .int none, hasFormat .float none] message

/-! ## Times -/

/-- The value is a time that passes a check. -/
def isDate (check : DateCheck) (message : Option Value) : Validator :=
  ofPredicate (.dated check) message

/-- The moment that a value is, which must be a time or a day. -/
def momentOf (x : Value) : Except Fault Moment :=
  match Moment.ofValue? x with
  | some moment => .ok moment
  | none => .error .noSuchMember

/-- The value is a time in a period, whose ends must have an order, be times or days, and be in
order. -/
def isDateBetween (start finish : Value) (inclusiveStart inclusiveEnd : Bool)
    (message : Option Value) : Except Fault Validator :=
  match finish.related .lt start with
  | none => .error .wrongType
  | some reversed => do
    let first ← momentOf start
    let last ← momentOf finish
    if reversed then .error (.periodReversed first.text last.text)
    else pure (isDate (.between first last inclusiveStart inclusiveEnd) message)

theorem exists_of_isDateBetween_eq_ok {start finish : Value} {inclusiveStart inclusiveEnd : Bool}
    {message : Option Value} {v : Validator}
    (h : isDateBetween start finish inclusiveStart inclusiveEnd message = .ok v) :
    ∃ first last, v = isDate (.between first last inclusiveStart inclusiveEnd) message := by
  unfold isDateBetween at h
  split at h
  · cases h
  · next reversed _ =>
    obtain ⟨first, -, h⟩ := exists_of_bind_eq_ok h
    obtain ⟨last, -, h⟩ := exists_of_bind_eq_ok h
    cases reversed with
    | true => cases h
    | false => exact ⟨first, last, (Except.ok.inj h).symm⟩

/-! ## Presence -/

/-- The value is not absent and passes the validator. -/
def required (v : Validator) : Validator :=
  and (not (isNull none) (some (.str "is required"))) v

/-- The field is required if the enclosing map meets a condition, else optional. -/
def requiredWhen (condition v : Validator) (message : Option Value) : Validator :=
  when condition v.required v.optional message

end Conform.Validator
