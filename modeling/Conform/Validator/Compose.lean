import Conform.Validator.Basic

/-
  Putting validators together: conjunctions, choices, negations and messages. The operators for
  "and" and "or" take the children of a plain group of their kind in its place.
-/

namespace Conform.Validator

/-- Every validator accepts: in order, each on what the one before it made of the value, or, when
collecting, all on the value itself and with all failures reported. -/
def allOf (vs : List Validator) (message : Option Value) (collecting : Bool) : Validator :=
  .conjunction vs message collecting {}

def anyOf (vs : List Validator) (message : Option Value) : Validator := .disjunction vs message {}

def noneOf (vs : List Validator) (message : Option Value) : Validator := .exclusion vs message {}

/-- The validator does not accept. -/
def not (v : Validator) (message : Option Value) : Validator := .negation v message {}

def withExpectation (v : Validator) (e : Expectation) : Validator := .replacement v e {}

/-- The validator, with one fixed message for its failures. -/
def withMessage (v : Validator) (message : Value) : Validator :=
  v.withExpectation { message := message }

/-- The validator with the message for its failures, unless there is none or it counts as false. -/
def withMessage? (message : Option Value) (v : Validator) : Validator :=
  match replacing? message with
  | some text => v.withMessage text
  | none => v

/-- The validator, whose failures are thrown. It keeps its flags. -/
def throwInstead (v : Validator) : Validator := .throwing v v.flags

/-- The parts of a conjunction that can be taken into another one, or the validator itself. -/
def conjuncts : Validator → List Validator
  | .conjunction vs none false ⟨false, false⟩ => vs
  | v => [v]

/-- The parts of a choice that can be taken into another one, or the validator itself. -/
def disjuncts : Validator → List Validator
  | .disjunction vs none ⟨false, false⟩ => vs
  | v => [v]

/-- Both validators accept. -/
def and (v w : Validator) : Validator := allOf (v.conjuncts ++ w.conjuncts) none false

/-- One of the validators accepts. -/
def or (v w : Validator) : Validator := anyOf (v.disjuncts ++ w.disjuncts) none

/-- One of two validators for a field, chosen by whether the enclosing map meets a condition. -/
def when (condition thenBranch otherwise : Validator) (message : Option Value) : Validator :=
  .conditional condition thenBranch otherwise message {}

/-- A validator for a field, chosen from the enclosing map. -/
def resolve (choose : Entries → Validator) : Validator := .resolved choose {}

def length (bounds : List Validator) (message : Option Value) : Validator :=
  .sized bounds message {}

/-- The validator on what a function makes of the value. -/
def transform (fn : Value → Except Fault Value) (child : Validator) : Validator :=
  .mapped fn child {}

/-- The validator, with a value in place of an absent one. -/
def defaultTo (substitute : Value) (child : Validator) : Validator :=
  .defaulted substitute child {}

end Conform.Validator
